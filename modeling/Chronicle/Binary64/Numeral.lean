import Chronicle.Binary64.Basic
import Chronicle.Text.Digits

/-! # Decimal numerals of binary numbers

Sign, digits with or without a point, exponent. At least one digit is needed, before or after the point. -/
namespace Chronicle.Binary64
open Text

/-- The number `± digits · 10^exponent`; `whole` when neither a point nor an exponent is written. -/
structure Numeral where
  negative : Bool
  digits : List Char
  exponent : Int
  whole : Bool
deriving DecidableEq

def readSign : List Char → Bool × List Char
  | '-' :: rest => (true, rest)
  | '+' :: rest => (false, rest)
  | cs => (false, cs)

/-- An exponent; without a mark there is none, and it needs a digit. -/
def readExponent? : List Char → Option (Option Int × List Char)
  | c :: rest =>
    if c = 'e' ∨ c = 'E' then
      let (negative, rest) := readSign rest
      let ds := rest.takeWhile Char.isDigit
      let n : Int := natOfDigits ds
      if ds.isEmpty then none
      else some (some (if negative then -n else n), rest.dropWhile Char.isDigit)
    else some (none, c :: rest)
  | [] => some (none, [])

/-- Reads a numeral from the front. -/
def Numeral.read? (cs : List Char) : Option (Numeral × List Char) := do
  let (negative, cs) := readSign cs
  let whole := cs.takeWhile Char.isDigit
  let cs := cs.dropWhile Char.isDigit
  let (fraction, point, cs) := match cs with
    | '.' :: rest => (rest.takeWhile Char.isDigit, true, rest.dropWhile Char.isDigit)
    | _ => ([], false, cs)
  let (exponent, cs) ← readExponent? cs
  if (whole ++ fraction).isEmpty then none
  else some (⟨negative, whole ++ fraction, exponent.getD 0 - fraction.length,
    !point && exponent.isNone⟩, cs)

/-- Beyond this exponent a numeral is zero or infinite at once. -/
def exponentBound : Int := 20000

def Numeral.toBinary64 (n : Numeral) : Binary64 :=
  let size := natOfDigits n.digits
  let reach := exponentBound + n.digits.length
  match max (-reach) (min n.exponent reach) with
  | .ofNat k => .ofQuotient n.negative (size * Nat.pow 10 k) 1
  | .negSucc k => .ofQuotient n.negative size (Nat.pow 10 (k + 1))

/-- The integer that a numeral without a point and an exponent writes. -/
def Numeral.toInt? (n : Numeral) : Option Int :=
  let size : Int := natOfDigits n.digits
  if n.whole then some (if n.negative then -size else size) else none

def infinite (negative : Bool) : Binary64 := ofPattern negative infinityPattern

/-- The not-a-number that texts stand for. -/
def quietNaN : Binary64 := ofPattern false (infinityPattern + fieldUnit / 2)

/-- Reads a whole text: a numeral, or a name of infinity or of what is not a number, in any case. -/
def ofText? (cs : List Char) : Option Binary64 :=
  let (negative, name) := readSign cs
  match String.ofList (name.map Char.toLower) with
  | "inf" | "infinity" => some (infinite negative)
  | "nan" => some (if negative then quietNaN.neg else quietNaN)
  | _ =>
    match Numeral.read? cs with
    | some (n, []) => some n.toBinary64
    | _ => none

end Chronicle.Binary64
