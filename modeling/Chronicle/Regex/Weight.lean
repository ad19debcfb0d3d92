import Chronicle.Regex.Pattern

/-! # Weight of patterns

What a pattern would take up with all its repetitions written out, in bytes. Patterns over the limit are
refused, so a short text cannot ask for an unbounded amount of work. -/
namespace Chronicle.Regex
open Unicode

/-- One place of a pattern that is written out. -/
def placeWeight : Nat := 32

/-- A way on from a place for a range of characters. -/
def rangeWeight : Nat := 8

/-- A range of characters of several bytes takes about two places. -/
def wideRangeWeight : Nat := 2 * placeWeight

def charWeight (n : Nat) : Nat :=
  placeWeight * (if n < 0x80 then 1 else if n < 0x800 then 2 else if n < 0x10000 then 3 else 4)

def setWeight (s : CharSet) : Nat :=
  match s.ranges with
  | [⟨first, last⟩] => if first = last then charWeight first else 2 * placeWeight + wideRangeWeight
  | ranges =>
    2 * placeWeight + ranges.length * (if s.isAscii then rangeWeight else wideRangeWeight)

namespace Pattern

mutual

def weight : Pattern → Nat
  | empty => placeWeight
  | set s => setWeight s
  | look _ => placeWeight
  | sequence ps => totalWeight ps
  | choice ps => 2 * placeWeight + totalWeight ps
  | group p => 2 * placeWeight + p.weight
  | repetition p least none => max least 1 * p.weight + 2 * placeWeight
  | repetition p least (some most) =>
    least * p.weight + placeWeight + (most - least) * (p.weight + placeWeight)

def totalWeight : List Pattern → Nat
  | [] => 0
  | p :: ps => p.weight + totalWeight ps

end

def weightLimit : Nat := 10485760

end Pattern

end Chronicle.Regex
