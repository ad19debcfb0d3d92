import Chronicle.Error
import Chronicle.SortedMap

/-! # Stored attributes

An attribute is kept with the tag of its kind and one slot for every kind of value, of which only its own
is filled. Reading trusts nothing: every slot must hold a cell of its class, and the slot that the tag
names must hold a value. -/
namespace Chronicle

/-- The open attributes of an entity by key. -/
abbrev Attributes := SortedMap String Value

/-- The cell that a value becomes. -/
def Value.cell : Value → Cell
  | integer i => .integer i
  | string s => .text s
  | boolean b => .integer (if b then 1 else 0)
  | timestamp t => .text t.storedText
  | float x => .real x

structure AttributeRow where
  tag : StoredText
  integer : Cell
  string : Cell
  boolean : Cell
  timestamp : Cell
  float : Cell
deriving DecidableEq

abbrev AttributeTable := SortedMap StoredText AttributeRow

/-- The affinity of the column for values of a kind. -/
def Value.Kind.affinity : Value.Kind → Affinity
  | .integer | .boolean => .integer
  | .string | .timestamp => .text
  | .float => .real

namespace AttributeRow

def slot (r : AttributeRow) : Value.Kind → Cell
  | .integer => r.integer
  | .string => r.string
  | .boolean => r.boolean
  | .timestamp => r.timestamp
  | .float => r.float

/-- The row of a value. -/
def ofValue (v : Value) : AttributeRow :=
  let slot (k : Value.Kind) : Cell := if v.kind = k then k.affinity.adapt v.cell else .null
  ⟨.text v.kind.tag, slot .integer, slot .string, slot .boolean, slot .timestamp, slot .float⟩

theorem slot_ofValue (v : Value) (k : Value.Kind) :
    (ofValue v).slot k = if v.kind = k then k.affinity.adapt v.cell else .null := by
  cases k <;> rfl

end AttributeRow

namespace Cell

/-- Reads a cell that may be null; `index` and `column` say where it stands. -/
def optional {α : Type} (read : Cell → Option α) (index : Nat) (column : String) (c : Cell) :
    Except StoreFault (Option α) :=
  match c with
  | null => .ok none
  | c => match read c with
    | some a => .ok (some a)
    | none => .error (.wrongClass c.cls index column)

/-- Reads a cell that must not be null. -/
def required {α : Type} (read : Cell → Option α) (index : Nat) (column : String) (c : Cell) :
    Except StoreFault α :=
  match read c with
  | some a => .ok a
  | none => .error (.wrongClass c.cls index column)

def integer? : Cell → Option Int64
  | integer i => some i
  | _ => none

def text? : Cell → Option String
  | text s => some s
  | _ => none

/-- Every integer but zero is true. -/
def boolean? : Cell → Option Bool
  | integer i => some (i != 0)
  | _ => none

def float? : Cell → Option Binary64
  | real x => some x
  | integer i => some (.ofInt i.toInt)
  | _ => none

def blob? : Cell → Option Text.Utf8.Bytes
  | blob b => some b
  | _ => none

end Cell

/-- The contents of the slots, before the tag is looked at. -/
structure Slots where
  integer : Option Int64
  string : Option String
  boolean : Option Bool
  timestamp : Option String
  float : Option Binary64

namespace Slots

def ofRow (r : AttributeRow) : Except StoreFault Slots := do
  let integer ← r.integer.optional Cell.integer? 2 Value.Kind.integer.column
  let string ← r.string.optional Cell.text? 3 Value.Kind.string.column
  let boolean ← r.boolean.optional Cell.boolean? 4 Value.Kind.boolean.column
  let timestamp ← r.timestamp.optional Cell.text? 5 Value.Kind.timestamp.column
  let float ← r.float.optional Cell.float? 6 Value.Kind.float.column
  .ok ⟨integer, string, boolean, timestamp, float⟩

/-- The value in the slot of a kind. -/
def value? (s : Slots) (key : String) : Value.Kind → Except Corruption (Option Value)
  | .integer => .ok (s.integer.map .integer)
  | .string => .ok (s.string.map .string)
  | .boolean => .ok (s.boolean.map .boolean)
  | .timestamp =>
    match s.timestamp with
    | none => .ok none
    | some text =>
      match Timestamp.ofStoredText? text with
      | some t => .ok (some (.timestamp t))
      | none => .error (.unreadableTimestamp key text)
  | .float => .ok (s.float.map .float)

/-- The value that the tag points at. -/
def project (s : Slots) (key tag : String) : Except Corruption Value :=
  match Value.Kind.ofTag? tag with
  | none => .error (.unknownTag key tag)
  | some kind => do
    match ← s.value? key kind with
    | some v => .ok v
    | none => .error (.emptySlot key kind)

end Slots

namespace Error

def ofStore {α : Type} : Except StoreFault α → Except Error α := Except.mapError .store

def ofRow {α : Type} : Except Corruption α → Except Error α := Except.mapError .corruptRow

end Error

namespace AttributeRow

def read (key : StoredText) (r : AttributeRow) : Except Error (String × Value) := do
  let key ← Error.ofStore (key.cell.required Cell.text? 0 "key")
  let tag ← Error.ofStore (r.tag.cell.required Cell.text? 1 "value_type")
  let slots ← Error.ofStore (Slots.ofRow r)
  let v ← Error.ofRow (slots.project key tag)
  .ok (key, v)

end AttributeRow

def readEntries : List (StoredText × AttributeRow) → Except Error (List (String × Value))
  | [] => .ok []
  | (key, r) :: rest => do
    let e ← r.read key
    let es ← readEntries rest
    .ok (e :: es)

/-- Reads all attributes, in the order of their keys. -/
def AttributeTable.read (t : AttributeTable) : Except Error Attributes :=
  (readEntries t.entries).map SortedMap.ofList

end Chronicle
