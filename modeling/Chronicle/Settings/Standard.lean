import Chronicle.Json.Tree
import Chronicle.Settings.Document
import Chronicle.Settings.Formats

/-! # Formats to run with

Files of keys and tables, and of interchange text. A key may go on after its member with names and numbers of
items. -/
namespace Chronicle

namespace Setting

mutual

/-- The value of interchange text with at most so many levels of arrays and objects. Every number must
be in range and every text must be one. -/
def ofJson? : Nat → Json → Option Setting
  | _, .null => some nothing
  | _, .bool b => some (boolean b)
  | _, .number n =>
    match n.toInt64? with
    | some i => some (integer i.toInt)
    | none => n.toBinary64?.map float
  | _, .text l => l.toText?.map text
  | 0, _ => none
  | levels + 1, .array items => if areReadable levels items then some compound else none
  | levels + 1, .object members => (membersOf? levels members).map fun _ => compound

def areReadable : Nat → List Json → Bool
  | _, [] => true
  | levels, j :: rest => (ofJson? levels j).isSome && areReadable levels rest

def membersOf? : Nat → List (Json.Literal × Json) → Option (List (String × Setting))
  | _, [] => some []
  | levels, (k, j) :: rest => do
    let key ← k.toText?
    let s ← ofJson? levels j
    let more ← membersOf? levels rest
    some ((key, s) :: more)

end

end Setting

namespace Settings

/-- Levels of arrays and objects inside the outermost one. -/
def innerLevels : Nat := 126

def ofInterchange? (text : String) : Option (List (String × Setting)) :=
  match Json.parse? (Text.Utf8.encode text.toList) with
  | some (.object members) => Setting.membersOf? innerLevels members
  | _ => none

/-- A mark of the order of bytes at the start is no part of the text. -/
def withoutMark (text : String) : String :=
  match text.toList with
  | '\ufeff' :: rest => String.ofList rest
  | _ => text

/-- What stands at the top of a file, by its format. -/
def Source.read? (s : Source) : Option (List (String × Setting)) :=
  s.content.bind fun text =>
    match s.format with
    | "toml" => Document.read? (withoutMark text)
    | "json" => ofInterchange? (withoutMark text)
    | _ => none

/-! ## Paths -/

/-- How far a path has been read. -/
inductive PathPhase
  /-- A name must follow. -/
  | point
  | name
  /-- The number of an item must follow. -/
  | bracket
  | sign
  | number
  | closed

def PathPhase.step : PathPhase → Char → Option PathPhase
  | point, c => if Document.isBareKey c then some name else none
  | name, c => if Document.isBareKey c then some name else ofMark? c
  | bracket, c => if c = '-' then some sign else if c.isDigit then some number else none
  | sign, c => if c.isDigit then some number else none
  | number, c => if c.isDigit then some number else if c = ']' then some closed else none
  | closed, c => ofMark? c
where
  ofMark? (c : Char) : Option PathPhase :=
    if c = '.' then some point else if c = '[' then some bracket else none

/-- Whether a text is a path from the start. -/
def isPath (cs : List Char) : Bool :=
  match cs.foldlM PathPhase.step .point with
  | some .name | some .closed => true
  | _ => false

/-- The name that a path starts with, if it goes on after it. -/
def pathStart? (key : String) : Option String :=
  if !isPlainKey key && isPath key.toList then some (String.ofList (key.toList.takeWhile Document.isBareKey))
  else none

instance formats : Formats where
  members? file := file.read?.map fun settings => settings.map fun (key, s) =>
    match pathStart? key with
    | some member => (member, .compound)
    | none => (key, s)
  into? := pathStart?
  into?_of_isPlainKey h := by simp [pathStart?, h]

end Settings

end Chronicle
