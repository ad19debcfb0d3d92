import Chronicle.Unicode.CharSet
import Chronicle.Unicode.FoldingTable

/-! # Simple case folding

Two characters that fold to one are the same letter in different cases. A set is closed under case by
adding to each member all characters with the same folding. -/
namespace Chronicle.Unicode

/-- `count` code points from `first` on at the given step, folded from `target` on at the same step. -/
structure FoldingRun where
  first : Nat
  count : Nat
  step : Nat
  target : Nat

def FoldingRun.pairs (r : FoldingRun) : List (Nat × Nat) :=
  (List.range r.count).map fun i => (r.first + i * r.step, r.target + i * r.step)

def foldingRunsFrom : List Nat → List FoldingRun
  | first :: count :: step :: target :: rest => ⟨first, count, step, target⟩ :: foldingRunsFrom rest
  | _ => []

/-- Each code point that folds to another one, with what it folds to. -/
def foldings : List (Nat × Nat) :=
  (foldingRunsFrom ((foldingTable.splitOn " ").filterMap String.toNat?)).flatMap FoldingRun.pairs

/-- Adds the other cases of every member. -/
def CharSet.closeCase (s : CharSet) : CharSet :=
  let targets := foldings.filterMap fun (c, t) =>
    if s.contains c || s.contains t then some t else none
  let sources := foldings.filterMap fun (c, t) => if targets.contains t then some c else none
  .ofRanges (s.ranges ++ (targets ++ sources).map fun n => ⟨n, n⟩)

/-- The case variants of the ASCII letters alone. -/
def CharSet.closeAsciiCase (s : CharSet) : CharSet :=
  .ofRanges (s.ranges ++ (List.range 26).flatMap fun i =>
    if s.contains (65 + i) || s.contains (97 + i) then [⟨65 + i, 65 + i⟩, ⟨97 + i, 97 + i⟩] else [])

end Chronicle.Unicode
