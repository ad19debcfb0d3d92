import Chronicle.Binary64.Shortest
import Chronicle.Text.Digits

/-! # Numerals of interchange text

A numeral keeps its digits. Read as an integer it must have neither a fraction nor an exponent; read as
a binary number its first digits, as many as 64 bits hold, are scaled by a power of ten in steps that
round each on its own. -/
namespace Chronicle.Json

structure Numeral where
  negative : Bool
  /-- Digits before the point, the first not zero unless it stands alone. -/
  whole : List Char
  /-- Digits after the point; none when there is no point. -/
  fraction : List Char
  exponent : Option Int
deriving DecidableEq

namespace Numeral
open Text

def ofInt (i : Int) : Numeral := ⟨decide (i < 0), digits i.natAbs, [], none⟩

/-- The digits of a decimal with the point among or next to them when at most 16 digits stand before it
or at most 4 zeros follow it, and an exponent otherwise. -/
def ofDecimal (negative : Bool) (d : Decimal) : Numeral :=
  let ds := digits d.coefficient
  match (ds.length : Int) + d.exponent with
  | .ofNat 0 => ⟨negative, ['0'], ds, none⟩
  | .ofNat point =>
    if 16 < point then scientific ds (point - 1)
    else if ds.length ≤ point then
      ⟨negative, ds ++ List.replicate (point - ds.length) '0', ['0'], none⟩
    else ⟨negative, ds.take point, ds.drop point, none⟩
  | .negSucc zeros =>
    if zeros < 4 then ⟨negative, ['0'], List.replicate (zeros + 1) '0' ++ ds, none⟩
    else scientific ds (.negSucc zeros - 1)
where
  scientific (ds : List Char) (exponent : Int) : Numeral :=
    ⟨negative, ds.take 1, ds.drop 1, some exponent⟩

/-- The shortest numeral of a finite number, always with a fraction or an exponent. -/
def ofBinary64 (x : Binary64) : Numeral := ofDecimal x.negative (x.shortest .even)

def chars (n : Numeral) : List Char :=
  (if n.negative then ['-'] else []) ++ n.whole ++
    (if n.fraction.isEmpty then [] else '.' :: n.fraction) ++
    match n.exponent with
    | none => []
    | some e => 'e' :: (if e < 0 then '-' else '+') :: digits e.natAbs

/-- The greatest significand that is kept. -/
def significandLimit : Nat := 0xffffffffffffffff

/-- Adds digits to a significand up to the first that would lead beyond the limit; also gives the
number of digits left out. -/
def accumulate : Nat → List Char → Nat × Nat
  | significand, [] => (significand, 0)
  | significand, d :: ds =>
    let next := 10 * significand + digitValue d
    if significandLimit < next then (significand, ds.length + 1) else accumulate next ds

/-- The power of ten, rounded. -/
def powerOfTen (n : Nat) : Binary64 := .ofNat (Nat.pow 10 n)

/-- Scales by a power of ten, going below `10^-308` in several divisions. No result means that the
number is too large. -/
def scale? (x : Binary64) (exponent : Int) : Option Binary64 :=
  if exponent.natAbs ≤ 308 then
    if 0 ≤ exponent then
      let y := x.mul (powerOfTen exponent.natAbs)
      if y.isInfinite then none else some y
    else some (x.div (powerOfTen exponent.natAbs))
  else if x.pattern = 0 then some x
  else if 0 ≤ exponent then none
  else scale? (x.div (powerOfTen 308)) (exponent + 308)
termination_by exponent.natAbs

/-- Significand and power of ten that the digits amount to. -/
def parts (n : Numeral) : Nat × Int :=
  let (significand, wholeLeft) := accumulate 0 n.whole
  let (significand, fractionLeft) := accumulate significand n.fraction
  (significand, (wholeLeft : Int) - (n.fraction.length - fractionLeft : Nat) + n.exponent.getD 0)

/-- The greatest exponent that is added up; beyond it a number is zero or too large at once. -/
def exponentLimit : Nat := 2147483647

def toBinary64? (n : Numeral) : Option Binary64 :=
  let (significand, power) := n.parts
  let withSign (x : Binary64) := if n.negative then x.neg else x
  let written := n.exponent.getD 0
  if exponentLimit < written.natAbs then
    if significand ≠ 0 ∧ 0 < written then none else some (withSign .zero)
  else (scale? (.ofNat significand) power).map withSign

/-- Minus zero is no integer. -/
def toInt64? (n : Numeral) : Option Int64 :=
  if n.fraction.isEmpty && n.exponent.isNone then
    let size := natOfDigits n.whole
    if n.negative then
      if 0 < size ∧ size ≤ 0x8000000000000000 then some (.ofInt (-(size : Int))) else none
    else if size < 0x8000000000000000 then some (.ofInt size) else none
  else none

end Numeral

end Chronicle.Json
