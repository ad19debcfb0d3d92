import Chronicle.Regex.Bracket

/-! # Reading patterns

A machine over the characters with a stack of the groups that are still open. Every step takes at least
one character, and flags hold until the end of the group they are set in. There is no look-around. -/
namespace Chronicle.Regex
open Unicode Text

/-- A part of a sequence; what only sets flags cannot be repeated. -/
structure Item where
  part : Part
  repeatable : Bool

/-- What is kept of the surroundings while a group is read. -/
structure Level where
  flags : Flags
  captures : Bool
  items : List Item
  branches : List Part

/-- The items since the last bar and the branches before it, both in reverse. -/
structure Reader where
  flags : Flags
  items : List Item
  branches : List Part
  names : List String
  levels : List Level

namespace Reader

def initial : Reader := ⟨.initial, [], [], [], []⟩

def push (r : Reader) (part : Part) (repeatable : Bool) : Reader :=
  { r with items := ⟨part, repeatable⟩ :: r.items }

/-- The last branch. -/
def branch (r : Reader) : Part := .inSequence (r.items.reverse.map Item.part)

/-- All branches. -/
def body (r : Reader) : Part := .inChoice (r.branch :: r.branches).reverse

def bar (r : Reader) : Reader := { r with items := [], branches := r.branch :: r.branches }

/-- Opens a group, inside which other flags may hold. -/
def opens (r : Reader) (captures : Bool) (flags : Flags) : Reader :=
  { r with flags, items := [], branches := [], levels := ⟨r.flags, captures, r.items, r.branches⟩ :: r.levels }

def closes? (r : Reader) : Option Reader :=
  match r.levels with
  | [] => none
  | level :: rest =>
    let inner := r.body
    let part : Part :=
      ⟨if level.captures then .group inner.pattern else inner.pattern, inner.depth + 1⟩
    some { r with
      flags := level.flags, items := ⟨part, true⟩ :: level.items, branches := level.branches,
      levels := rest }

/-- Repeats the last item. -/
def repeats? (r : Reader) (least : Nat) (most : Option Nat) : Option Reader :=
  match r.items with
  | ⟨part, true⟩ :: rest =>
    some { r with items := ⟨⟨part.pattern.repeated least most, part.depth + 1⟩, true⟩ :: rest }
  | _ => none

end Reader

def alphabeticSet : CharSet := property "alphabetic"

def numericSet : CharSet := ofCategories ["Nd", "Nl", "No"]

def startsName (c : Char) : Bool := c = '_' || alphabeticSet.contains c.toNat

def continuesName (c : Char) : Bool :=
  startsName c || ['.', '[', ']'].contains c || numericSet.contains c.toNat

def isGroupName : List Char → Bool
  | [] => false
  | c :: rest => startsName c && rest.all continuesName

namespace Reader

/-- Opens a group whose name ends with an angle bracket; no two groups share a name. -/
def opensNamed? (r : Reader) (cs : List Char) : Option (Reader × List Char) := do
  let (name, rest) ← splitAt? ['>'] cs
  let text := String.ofList name
  if isGroupName name && !r.names.contains text then
    some ({ r with names := text :: r.names }.opens true r.flags, rest)
  else none

/-- Flags for the rest of the group, or for a group of their own. -/
def opensFlagged? (r : Reader) (cs : List Char) : Option (Reader × List Char) :=
  let letters := cs.takeWhile fun c => c != ':' && c != ')'
  match cs.dropWhile fun c => c != ':' && c != ')' with
  | ':' :: rest => (r.flags.read? [] true letters).map fun f => (r.opens false f, rest)
  | ')' :: rest =>
    if letters.isEmpty then none
    else (r.flags.read? [] true letters).map fun f =>
      ({ r with flags := f }.push (.leaf .empty) false, rest)
  | _ => none

/-- What follows an opening parenthesis. -/
def open? (r : Reader) (cs : List Char) : Option (Reader × List Char) :=
  match r.flags.skip cs with
  | '?' :: '=' :: _ | '?' :: '!' :: _ | '?' :: '<' :: '=' :: _ | '?' :: '<' :: '!' :: _ => none
  | '?' :: 'P' :: '<' :: rest => r.opensNamed? rest
  | '?' :: '<' :: rest => r.opensNamed? rest
  | '?' :: rest => r.opensFlagged? rest
  | rest => some (r.opens true r.flags, rest)

end Reader

/-- Digits, between which white space and comments may be ignored. -/
def readDigits (f : Flags) : Nat → List Char → List Char × List Char
  | 0, cs => ([], cs)
  | fuel + 1, cs =>
    match cs with
    | c :: rest =>
      if c.isDigit then
        let (ds, rest) := readDigits f fuel (f.skip rest)
        (c :: ds, rest)
      else ([], cs)
    | [] => ([], [])

/-- The greatest number that a count may have. -/
def lastCount : Nat := 0xffffffff

/-- A count with white space around it. -/
def readCount? (f : Flags) (cs : List Char) : Option (Nat × List Char) :=
  let cs := cs.dropWhile isBlank
  let (ds, rest) := readDigits f cs.length cs
  let n := natOfDigits ds
  if ds.isEmpty || decide (lastCount < n) then none else some (n, f.skip (rest.dropWhile isBlank))

/-- The counts of a repetition, after the opening brace. -/
def readCounts? (f : Flags) (cs : List Char) : Option (Nat × Option Nat × List Char) := do
  let (least, rest) ← readCount? f (f.skip cs)
  match rest with
  | '\x7d' :: rest => some (least, some least, rest)
  | ',' :: rest =>
    match f.skip rest with
    | '\x7d' :: rest => some (least, none, rest)
    | rest => do
      let (most, rest) ← readCount? f rest
      match rest with
      | '\x7d' :: rest => if least ≤ most then some (least, some most, rest) else none
      | _ => none
  | _ => none

/-- A question mark after a repetition changes only which match is preferred. -/
def skipGreed : List Char → List Char
  | '?' :: rest => rest
  | cs => cs

/-- The pattern of an atom outside brackets. -/
def Atom.pattern? (f : Flags) (a : Atom) : Option Pattern :=
  match a with
  | .char c _ => if a.allowed f then some (.set (f.charSet c)) else none
  | .set s => some (.set s)
  | .look l => some (.look l)

namespace Reader

def lineStart (f : Flags) : Look :=
  if f.multiLine then if f.anyLineBreak then .anyLineStart else .lineStart else .textStart

def lineEnd (f : Flags) : Look :=
  if f.multiLine then if f.anyLineBreak then .anyLineEnd else .lineEnd else .textEnd

/-- One step from the given character on. -/
def step? (r : Reader) (c : Char) (cs : List Char) : Option (Reader × List Char) :=
  let f := r.flags
  let counted (least : Nat) (most : Option Nat) : Option (Reader × List Char) :=
    (r.repeats? least most).map fun r' => (r', skipGreed cs)
  let leaf (p : Option Pattern) : Option (Reader × List Char) :=
    p.map fun p => (r.push (.leaf p) true, cs)
  match c with
  | '(' => r.open? cs
  | ')' => r.closes?.map fun r' => (r', cs)
  | '|' => some (r.bar, cs)
  | '[' => (Bracket.read? f cs).map fun (o, rest) => (r.push ⟨.set o.set, o.depth⟩ true, rest)
  | '?' => counted 0 (some 1)
  | '*' => counted 0 none
  | '+' => counted 1 none
  | '\x7b' => do
    let (least, most, rest) ← readCounts? f cs
    let r' ← r.repeats? least most
    some (r', skipGreed (f.skip rest))
  | '.' => leaf (f.dot?.map .set)
  | '^' => leaf (some (.look (lineStart f)))
  | '$' => leaf (some (.look (lineEnd f)))
  | '\\' => do
    let (a, rest) ← readEscape? f cs
    let p ← a.pattern? f
    some (r.push (.leaf p) true, rest)
  | c => leaf (some (.set (f.charSet c)))

def run? : Nat → Reader → List Char → Option Reader
  | 0, _, _ => none
  | fuel + 1, r, cs =>
    match r.flags.skip cs with
    | [] => some r
    | c :: rest => (r.step? c rest).bind fun (r', rest') => run? fuel r' rest'

end Reader

/-- The greatest depth that patterns may be nested to. -/
def depthLimit : Nat := 250

/-- The pattern that a text writes. -/
def Pattern.read? (text : List Char) : Option Pattern :=
  match Reader.initial.run? (text.length + 1) text with
  | none => none
  | some r =>
    let whole := r.body
    if r.levels.isEmpty && decide (whole.depth ≤ depthLimit) then some whole.pattern else none

end Chronicle.Regex
