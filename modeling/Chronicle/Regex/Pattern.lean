import Chronicle.Unicode.CharSet

/-! # Patterns of regular expressions

A pattern whose classes, cases and flags are resolved: what is left are sets of characters, conditions
on a position, and the ways to combine them. Preferences between matches do not matter here, only
whether there is one. -/
namespace Chronicle.Regex
open Unicode

/-- Conditions on what is before and after a position. -/
inductive Look
  | textStart
  | textEnd
  | lineStart
  | lineEnd
  /-- Lines that end with a line feed, a carriage return or both. -/
  | anyLineStart
  | anyLineEnd
  | wordBoundary (ascii : Bool)
  | noWordBoundary (ascii : Bool)
  | wordStart (ascii : Bool)
  | wordEnd (ascii : Bool)
  | wordStartHalf (ascii : Bool)
  | wordEndHalf (ascii : Bool)
deriving DecidableEq

inductive Pattern
  | empty
  | set (s : CharSet)
  | look (l : Look)
  | sequence (ps : List Pattern)
  | choice (ps : List Pattern)
  /-- A group that is counted. -/
  | group (p : Pattern)
  /-- Without a greatest count there is no limit. -/
  | repetition (p : Pattern) (least : Nat) (most : Option Nat)
deriving Inhabited

namespace Pattern

mutual

/-- Whether no match has any characters. -/
def isEmptyOnly : Pattern → Bool
  | empty => true
  | set _ => false
  | look _ => true
  | sequence ps => allEmptyOnly ps
  | choice ps => allEmptyOnly ps
  | group p => p.isEmptyOnly
  | repetition p _ _ => p.isEmptyOnly

def allEmptyOnly : List Pattern → Bool
  | [] => true
  | p :: ps => p.isEmptyOnly && allEmptyOnly ps

end

/-- Repeats a pattern. What takes no characters need not come more than once. -/
def repeated (p : Pattern) (least : Nat) (most : Option Nat) : Pattern :=
  let counts : Nat × Option Nat :=
    if p.isEmptyOnly then (min least 1, some ((most.map (min · 1)).getD 1)) else (least, most)
  match counts with
  | (0, some 0) => empty
  | (1, some 1) => p
  | (least, most) => repetition p least most

end Pattern

/-- A pattern and how deeply it is nested. -/
structure Part where
  pattern : Pattern
  depth : Nat

namespace Part

def leaf (p : Pattern) : Part := ⟨p, 0⟩

def deepest (ps : List Part) : Nat := ps.foldl (fun n p => max n p.depth) 0

/-- One part alone is not wrapped. -/
def inSequence : List Part → Part
  | [] => leaf .empty
  | [p] => p
  | ps => ⟨.sequence (ps.map Part.pattern), deepest ps + 1⟩

def inChoice : List Part → Part
  | [] => leaf .empty
  | [p] => p
  | ps => ⟨.choice (ps.map Part.pattern), deepest ps + 1⟩

end Part

end Chronicle.Regex
