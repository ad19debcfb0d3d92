/-! # Binary floating point numbers of 64 bits

A number is its bit pattern, so the two zeros and every not-a-number stay apart. A finite number is
a whole number of units of `2^-1074`, and the exact quotient of two naturals is rounded to it in
natural arithmetic, halves going to the even neighbour. -/
namespace Chronicle

structure Binary64 where
  bits : UInt64
deriving DecidableEq

namespace Binary64

/-- The bit that carries the sign. -/
def signBit : Nat := 0x8000000000000000

/-- The pattern of infinity without its sign; greater patterns are not numbers. -/
def infinityPattern : Nat := 0x7ff0000000000000

/-- The weight of the exponent field, `2^52`. -/
def fieldUnit : Nat := 0x10000000000000

/-- How many units of a finite number make one. -/
def unitsPerOne : Nat := 1 <<< 1074

def negative (x : Binary64) : Bool := decide (signBit ≤ x.bits.toNat)

/-- The bit pattern without the sign. -/
def pattern (x : Binary64) : Nat := x.bits.toNat % signBit

def isFinite (x : Binary64) : Bool := decide (x.pattern < infinityPattern)

def isInfinite (x : Binary64) : Bool := decide (x.pattern = infinityPattern)

def isNaN (x : Binary64) : Bool := decide (infinityPattern < x.pattern)

def ofPattern (negative : Bool) (pattern : Nat) : Binary64 :=
  ⟨UInt64.ofNat (if negative then signBit + pattern else pattern)⟩

def zero : Binary64 := ofPattern false 0

/-- Size of a finite number in units of `2^-1074`. -/
def units (x : Binary64) : Nat :=
  let field := x.pattern / fieldUnit
  let fraction := x.pattern % fieldUnit
  if field = 0 then fraction else (fieldUnit + fraction) <<< (field - 1)

def signedUnits (x : Binary64) : Int :=
  if x.negative then -(x.units : Int) else x.units

/-- A number's place in the order of all numbers, infinities included; both zeros have place 0. -/
def place (x : Binary64) : Int :=
  if x.negative then -(x.pattern : Int) else x.pattern

/-- Numerical equality: the zeros are equal, and what is not a number equals nothing. -/
def equals (x y : Binary64) : Bool :=
  !x.isNaN && !y.isNaN && decide (x.place = y.place)

def less (x y : Binary64) : Bool :=
  !x.isNaN && !y.isNaN && decide (x.place < y.place)

/-- The quotient rounded to a whole number, halves to even. -/
def roundQuotient (num den : Nat) : Nat :=
  let q := num / den
  let twice := 2 * (num % den)
  if twice < den then q
  else if den < twice then q + 1
  else if q % 2 = 0 then q else q + 1

/-- The number nearest to `num / den`. With `s` the exponent field's excess and `r` the rounded
significand the pattern is `s * 2^52 + r`, also when `r` carries into the field; from the pattern of
infinity on the result is infinite. -/
def ofQuotient (negative : Bool) (num den : Nat) : Binary64 :=
  let scaled := num * unitsPerOne
  let s := (scaled / den).log2 - 52
  ofPattern negative (min infinityPattern (s * fieldUnit + roundQuotient scaled (den <<< s)))

def ofNat (n : Nat) : Binary64 := ofQuotient false n 1

def ofInt (i : Int) : Binary64 := ofQuotient (decide (i < 0)) i.natAbs 1

/-- Product of two finite numbers. -/
def mul (x y : Binary64) : Binary64 :=
  ofQuotient (x.negative != y.negative) (x.units * y.units) (unitsPerOne * unitsPerOne)

/-- Quotient of two finite numbers, the second not zero. -/
def div (x y : Binary64) : Binary64 :=
  ofQuotient (x.negative != y.negative) x.units y.units

def neg (x : Binary64) : Binary64 := ofPattern (!x.negative) x.pattern

/-- The integer that a finite number is, if it is one. -/
def toInt? (x : Binary64) : Option Int :=
  if x.isFinite && x.units % unitsPerOne == 0 then some (x.signedUnits / unitsPerOne) else none

/-- Order of an integer and a number that is not NaN, taken exactly. -/
def compareInt (i : Int) (x : Binary64) : Ordering :=
  if x.isInfinite then (if x.negative then .gt else .lt)
  else compare (i * unitsPerOne) x.signedUnits

theorem pattern_lt (x : Binary64) : x.pattern < signBit :=
  Nat.mod_lt _ (by decide)

theorem pattern_ofPattern {n : Nat} (s : Bool) (h : n < signBit) : (ofPattern s n).pattern = n := by
  simp only [signBit] at h
  cases s <;> simp [pattern, ofPattern, signBit] <;> omega

theorem negative_ofPattern {n : Nat} (s : Bool) (h : n < signBit) : (ofPattern s n).negative = s := by
  simp only [signBit] at h
  cases s <;> simp [negative, ofPattern, signBit] <;> omega

theorem ofPattern_eta (x : Binary64) : ofPattern x.negative x.pattern = x := by
  have hlt := x.bits.toNat_lt
  apply Binary64.mk.injEq _ _ |>.mpr
  apply UInt64.toNat_inj.mp
  unfold negative pattern signBit at *
  by_cases h : 0x8000000000000000 ≤ x.bits.toNat <;> simp [h] <;> omega

end Binary64

end Chronicle
