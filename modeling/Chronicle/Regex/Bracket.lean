import Chronicle.Regex.Escape

/-! # Bracketed classes

Classes nest, and the operators for intersection, difference and symmetric difference bind alike, from
the left. The reader is a machine over the characters with a stack of what is still open. -/
namespace Chronicle.Regex.Bracket
open Unicode Text

/-- A set and how deeply its class is nested. -/
structure Operand where
  set : CharSet
  depth : Nat

inductive Operation
  | intersection
  | difference
  | symmetricDifference

/-- An open bracket with the items before it, or an operator with its left side. -/
inductive Frame
  | bracket (negated : Bool) (before : List Operand)
  | operation (op : Operation) (left : Operand)

def joined : List Operand → Operand
  | [] => ⟨.empty, 0⟩
  | [o] => o
  | os => ⟨.ofRanges (os.flatMap fun o => o.set.ranges), os.foldl (fun n o => max n o.depth) 0 + 1⟩

def foldCase (f : Flags) (s : CharSet) : CharSet :=
  if f.ignoreCase then if f.unicode then s.closeCase else s.closeAsciiCase else s

def Operation.apply (f : Flags) (op : Operation) (left right : Operand) : Operand :=
  let l := foldCase f left.set
  let r := foldCase f right.set
  ⟨match op with
    | .intersection => l.inter r
    | .difference => l.diff r
    | .symmetricDifference => l.symmDiff r,
    max left.depth right.depth + 1⟩

/-- Ends the items before a bracket or operator. -/
def settle (f : Flags) (stack : List Frame) (items : List Operand) : Operand × List Frame :=
  match stack with
  | .operation op left :: rest => (op.apply f left (joined items), rest)
  | _ => (joined items, stack)

/-- The POSIX classes by name. -/
def posixRanges? : String → Option (List Range)
  | "alnum" => some [⟨48, 57⟩, ⟨65, 90⟩, ⟨97, 122⟩]
  | "alpha" => some [⟨65, 90⟩, ⟨97, 122⟩]
  | "ascii" => some [⟨0, 127⟩]
  | "blank" => some [⟨9, 9⟩, ⟨32, 32⟩]
  | "cntrl" => some [⟨0, 31⟩, ⟨127, 127⟩]
  | "digit" => some [⟨48, 57⟩]
  | "graph" => some [⟨33, 126⟩]
  | "lower" => some [⟨97, 122⟩]
  | "print" => some [⟨32, 126⟩]
  | "punct" => some [⟨33, 47⟩, ⟨58, 64⟩, ⟨91, 96⟩, ⟨123, 126⟩]
  | "space" => some [⟨9, 13⟩, ⟨32, 32⟩]
  | "upper" => some [⟨65, 90⟩]
  | "word" => some [⟨48, 57⟩, ⟨65, 90⟩, ⟨95, 95⟩, ⟨97, 122⟩]
  | "xdigit" => some [⟨48, 57⟩, ⟨65, 70⟩, ⟨97, 102⟩]
  | _ => none

/-- A POSIX class, after its opening bracket and colon; anything else is no such class. -/
def posix? (cs : List Char) : Option (Bool × CharSet × List Char) :=
  let (negated, cs) := match cs with
    | '^' :: rest => (true, rest)
    | _ => (false, cs)
  let name := cs.takeWhile (· != ':')
  match cs.dropWhile (· != ':') with
  | ':' :: ']' :: rest => (posixRanges? (String.ofList name)).map fun rs => (negated, .ofRanges rs, rest)
  | _ => none

/-- One item: an escape or the character itself. -/
def readItem? (f : Flags) (cs : List Char) : Option (Atom × List Char) :=
  match cs with
  | [] => none
  | '\\' :: rest => readEscape? f rest
  | c :: rest => some (.char c false, rest)

/-- The character of an end of a range, or of a class without Unicode. -/
def endpoint? (f : Flags) : Atom → Option Char
  | .char c _ => if f.unicode || decide (c.toNat < 128) then some c else none
  | _ => none

def itemSet? (f : Flags) (a : Atom) : Option CharSet :=
  match a with
  | .char _ _ => (endpoint? f a).map .singleton
  | .set s => some s
  | .look _ => none

/-- A range, or a single item when no range follows. -/
def readRange? (f : Flags) (cs : List Char) : Option (CharSet × List Char) := do
  let (low, rest) ← readItem? f cs
  match f.skip rest with
  | [] => none
  | '-' :: after =>
    match f.skip after with
    | [] => none
    | c :: more =>
      if c = ']' ∨ c = '-' then (itemSet? f low).map (·, '-' :: after)
      else do
        let (high, rest) ← readItem? f (c :: more)
        let a ← endpoint? f low
        let b ← endpoint? f high
        if a ≤ b then some (.range a.toNat b.toNat, rest) else none
  | rest => (itemSet? f low).map (·, rest)

/-- Hyphens at the very start stand for themselves. -/
def leadingHyphens (f : Flags) (fuel : Nat) (items : List Operand) (cs : List Char) :
    List Operand × List Char :=
  match fuel, cs with
  | fuel + 1, '-' :: rest => leadingHyphens f fuel (⟨.singleton '-', 0⟩ :: items) (f.skip rest)
  | _, _ => (items, cs)

/-- After an opening bracket: negation, then hyphens, or a closing bracket that stands for itself. -/
def begin? (f : Flags) (cs : List Char) : Option (Bool × List Operand × List Char) :=
  let (negated, cs) := match f.skip cs with
    | '^' :: rest => (true, f.skip rest)
    | cs => (false, cs)
  let (items, cs) := leadingHyphens f cs.length [] cs
  match items, cs with
  | _, [] => none
  | [], ']' :: rest =>
    match f.skip rest with
    | [] => none
    | cs => some (negated, [⟨.singleton ']', 0⟩], cs)
  | _, cs => some (negated, items, cs)

/-- The stack, the items since its top in reverse, and the text still to be read; or the finished class. -/
inductive State
  | reading (stack : List Frame) (items : List Operand) (cs : List Char)
  | finished (o : Operand) (cs : List Char)

def applyOperation (f : Flags) (op : Operation) (stack : List Frame) (items : List Operand)
    (cs : List Char) : State :=
  let (left, stack) := settle f stack items
  .reading (.operation op left :: stack) [] cs

def openBracket? (f : Flags) (stack : List Frame) (items : List Operand) (cs : List Char) :
    Option State :=
  (begin? f cs).map fun (negated, first, cs) => .reading (.bracket negated items :: stack) first cs

def closeBracket? (f : Flags) (stack : List Frame) (items : List Operand) (cs : List Char) :
    Option State := do
  let (inner, stack) := settle f stack items
  match stack with
  | .bracket negated before :: rest =>
    let s ← f.finish? negated inner.set
    let o : Operand := ⟨s, inner.depth + 1⟩
    if rest.isEmpty then some (.finished o cs) else some (.reading rest (o :: before) cs)
  | _ => none

def step? (f : Flags) (stack : List Frame) (items : List Operand) (cs : List Char) : Option State :=
  match f.skip cs with
  | [] => none
  | '[' :: ':' :: rest =>
    match posix? rest with
    | some (negated, s, rest) =>
      (f.finish? negated s).map fun s => .reading stack (⟨s, 0⟩ :: items) rest
    | none => openBracket? f stack items (':' :: rest)
  | '[' :: rest => openBracket? f stack items rest
  | ']' :: rest => closeBracket? f stack items rest
  | '&' :: '&' :: rest => some (applyOperation f .intersection stack items rest)
  | '-' :: '-' :: rest => some (applyOperation f .difference stack items rest)
  | '~' :: '~' :: rest => some (applyOperation f .symmetricDifference stack items rest)
  | cs => (readRange? f cs).map fun (s, rest) => .reading stack (⟨s, 0⟩ :: items) rest

/-- Every step takes at least one character. -/
def run? (f : Flags) : Nat → State → Option (Operand × List Char)
  | _, .finished o cs => some (o, cs)
  | 0, .reading _ _ _ => none
  | fuel + 1, .reading stack items cs => (step? f stack items cs).bind (run? f fuel)

/-- Reads a class after its opening bracket. -/
def read? (f : Flags) (cs : List Char) : Option (Operand × List Char) :=
  (openBracket? f [] [] cs).bind (run? f (cs.length + 1))

end Chronicle.Regex.Bracket
