/-! # Sets of code points

A set is a list of ranges, each with its first and last code point, in ascending order and neither
touching nor overlapping. -/
namespace Chronicle.Unicode

structure Range where
  first : Nat
  last : Nat
deriving DecidableEq

/-- The greatest code point. -/
def lastCodePoint : Nat := 0x10ffff

structure CharSet where
  ranges : List Range
deriving DecidableEq

namespace CharSet

def empty : CharSet := ⟨[]⟩

def all : CharSet := ⟨[⟨0, lastCodePoint⟩]⟩

def contains (s : CharSet) (n : Nat) : Bool :=
  s.ranges.any fun r => decide (r.first ≤ n) && decide (n ≤ r.last)

/-- Adds a range that starts no earlier than the last one of a list in descending order. -/
def extend (descending : List Range) (r : Range) : List Range :=
  match descending with
  | [] => [r]
  | top :: rest =>
    if r.first ≤ top.last + 1 then ⟨top.first, max top.last r.last⟩ :: rest
    else r :: top :: rest

/-- Ranges in any order, some of them overlapping. -/
def ofRanges (rs : List Range) : CharSet :=
  ⟨((rs.mergeSort fun a b => decide (a.first ≤ b.first)).foldl extend []).reverse⟩

def range (first last : Nat) : CharSet := ⟨[⟨first, last⟩]⟩

def singleton (c : Char) : CharSet := range c.toNat c.toNat

def union (s t : CharSet) : CharSet := ofRanges (s.ranges ++ t.ranges)

/-- The gaps between ranges, from code point `next` upwards. -/
def gaps (next : Nat) : List Range → List Range
  | [] => if next ≤ lastCodePoint then [⟨next, lastCodePoint⟩] else []
  | r :: rest =>
    if next < r.first then ⟨next, r.first - 1⟩ :: gaps (r.last + 1) rest
    else gaps (r.last + 1) rest

def complement (s : CharSet) : CharSet := ⟨gaps 0 s.ranges⟩

def inter (s t : CharSet) : CharSet := (s.complement.union t.complement).complement

def diff (s t : CharSet) : CharSet := s.inter t.complement

def symmDiff (s t : CharSet) : CharSet := (s.diff t).union (t.diff s)

def isEmpty (s : CharSet) : Bool := s.ranges.isEmpty

/-- Whether every code point of the set is below 128. -/
def isAscii (s : CharSet) : Bool := s.ranges.all fun r => decide (r.last < 128)

/-- Reads gaps and lengths in alternation, from code point `next` upwards. -/
def ofGapNumbers (next : Nat) : List Nat → List Range
  | gap :: length :: rest =>
    ⟨next + gap, next + gap + length - 1⟩ :: ofGapNumbers (next + gap + length) rest
  | _ => []

/-- Reads the text of a table of gaps and lengths. -/
def ofGaps (table : String) : CharSet :=
  ⟨ofGapNumbers 0 ((table.splitOn " ").filterMap String.toNat?)⟩

end CharSet

end Chronicle.Unicode
