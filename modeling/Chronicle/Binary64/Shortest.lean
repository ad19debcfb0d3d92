import Chronicle.Binary64.Basic

/-! # The shortest decimal numeral of a binary number

A decimal numeral names a number when it lies among the reals that round to it. The shortest such
numeral lies on the coarsest decimal grid that has a point there; of two points the nearer is taken. -/
namespace Chronicle

/-- The numeral `coefficient · 10^exponent`. -/
structure Decimal where
  coefficient : Nat
  exponent : Int
deriving DecidableEq

/-- Which of two equally near numerals is taken. -/
inductive TieRule
  | up
  | even
deriving DecidableEq

namespace Binary64

/-- The reals that round to a number, in quarters of a unit. The bounds belong to it when the
significand is even. -/
structure Neighbourhood where
  low : Nat
  centre : Nat
  high : Nat
  closed : Bool

/-- Below a power of two the next number is only half as far away as above it. -/
def neighbourhood (x : Binary64) : Neighbourhood :=
  let field := x.pattern / fieldUnit
  let fraction := x.pattern % fieldUnit
  let step := 2 <<< (field - 1)
  let centre := 4 * x.units
  { low := centre - (if fraction = 0 ∧ 1 < field then step / 2 else step)
    centre
    high := centre + step
    closed := fraction % 2 == 0 }

def Neighbourhood.holds (n : Neighbourhood) (q : Nat) : Bool :=
  if n.closed then decide (n.low ≤ q ∧ q ≤ n.high) else decide (n.low < q ∧ q < n.high)

def Neighbourhood.scale (n : Neighbourhood) (k : Nat) : Neighbourhood :=
  { n with low := n.low * k, centre := n.centre * k, high := n.high * k }

/-- The multiple of `cell` nearest to the centre, if one lies in the neighbourhood. -/
def Neighbourhood.nearest? (n : Neighbourhood) (tie : TieRule) (cell : Nat) : Option Nat :=
  let below := n.centre / cell
  let twice := 2 * (n.centre % cell)
  match n.holds (below * cell), n.holds ((below + 1) * cell) with
  | false, false => none
  | true, false => some below
  | false, true => some (below + 1)
  | true, true =>
    if twice < cell then some below
    else if cell < twice then some (below + 1)
    else match tie with
      | .up => some (below + 1)
      | .even => some (if below % 2 = 0 then below else below + 1)

/-- The point nearest to the centre on the grid of the multiples of `10^exponent`. -/
def Neighbourhood.onGrid? (n : Neighbourhood) (tie : TieRule) (exponent : Int) : Option Nat :=
  let one := 4 * unitsPerOne
  match exponent with
  | .ofNat k => n.nearest? tie (one * Nat.pow 10 k)
  | .negSucc k => (n.scale (Nat.pow 10 (k + 1))).nearest? tie one

/-- Tries the grids `10^(steps - 324)`, …, `10^-324`; the last is finer than one unit. -/
def Neighbourhood.coarsest (n : Neighbourhood) (tie : TieRule) : Nat → Decimal
  | 0 => ⟨(n.onGrid? tie (-324)).getD 0, -324⟩
  | steps + 1 =>
    match n.onGrid? tie ((steps : Int) + 1 - 324) with
    | some c => ⟨c, (steps : Int) + 1 - 324⟩
    | none => n.coarsest tie steps

/-- Shortest numeral of the size of a finite number; no finite number reaches `10^309`. -/
def shortest (tie : TieRule) (x : Binary64) : Decimal :=
  if x.pattern = 0 then ⟨0, 0⟩ else x.neighbourhood.coarsest tie (324 + 309)

end Binary64

end Chronicle
