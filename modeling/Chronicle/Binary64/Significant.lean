import Chronicle.Binary64.Shortest
import Chronicle.Text.Digits

/-! # Text with a limited number of digits

The first fifteen significant digits of a number, a half going up, without zeros at the end. The text
always has a point, so it reads as a number with a fraction. -/
namespace Chronicle.Binary64
open Text

def significantCount : Nat := 15

/-- The size of a finite number in units of `10^exponent`, rounded. -/
def roundedTo (x : Binary64) (exponent : Int) : Nat :=
  let (num, den) := match exponent with
    | .ofNat k => (x.units, unitsPerOne * Nat.pow 10 k)
    | .negSucc k => (x.units * Nat.pow 10 (k + 1), unitsPerOne)
  (2 * num + den) / (2 * den)

/-- Digits without zeros at the end, and the power of ten of the first one. -/
def significant (x : Binary64) : List Char × Int :=
  let d := x.shortest .even
  let first := (digits d.coefficient).length + d.exponent - 1
  let ds := digits (x.roundedTo (first - (significantCount - 1 : Nat)))
  let first := first + ds.length - significantCount
  ((ds.reverse.dropWhile (· == '0')).reverse, first)

/-- The part after the point has at least one digit. -/
def fractionDigits (ds : List Char) : List Char := if ds.isEmpty then ['0'] else ds

/-- An exponent is used below `10^-4` and from `10^15` on; it has a sign and at least two digits. -/
def significantChars (x : Binary64) : List Char :=
  let (ds, first) := x.significant
  if first < -4 ∨ (significantCount : Int) ≤ first then
    ds.take 1 ++ '.' :: fractionDigits (ds.drop 1) ++
      'e' :: (if first < 0 then '-' else '+') :: padded 2 first.natAbs
  else match first with
    | .ofNat k =>
      let whole := ds ++ List.replicate (k + 1 - ds.length) '0'
      whole.take (k + 1) ++ '.' :: fractionDigits (whole.drop (k + 1))
    | .negSucc k => '0' :: '.' :: List.replicate k '0' ++ ds

/-- Zero has no sign. -/
def significantText (x : Binary64) : String :=
  if x.pattern = 0 then "0.0"
  else
    let size := if x.isInfinite then ['I', 'n', 'f'] else x.significantChars
    String.ofList (if x.negative then '-' :: size else size)

end Chronicle.Binary64
