import Chronicle.Binary64.Shortest
import Chronicle.Text.Digits

/-! # Decimal text of binary numbers

The shortest digits that name a number, written without an exponent at any size. -/
namespace Chronicle

/-- Digits with the decimal point among or next to them, and zeros where they do not reach it. -/
def Decimal.positional (d : Decimal) : List Char :=
  let ds := Text.digits d.coefficient
  match (ds.length : Int) + d.exponent with
  | .ofNat 0 => '0' :: '.' :: ds
  | .ofNat point =>
    if ds.length ≤ point then ds ++ List.replicate (point - ds.length) '0'
    else ds.take point ++ '.' :: ds.drop point
  | .negSucc zeros => '0' :: '.' :: List.replicate (zeros + 1) '0' ++ ds

/-- An equal distance goes up. What is not a number has no sign. -/
def Binary64.text (x : Binary64) : String :=
  if x.isNaN then "NaN"
  else
    let size := if x.isInfinite then ['i', 'n', 'f'] else (x.shortest .up).positional
    String.ofList (if x.negative then '-' :: size else size)

end Chronicle
