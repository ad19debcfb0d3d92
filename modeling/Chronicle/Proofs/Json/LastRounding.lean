import Chronicle.Proofs.Json.Range

/-!
# The rounding that decides

No digit of a shortest numeral is left out. What is read of it is one rounded quotient, of a significand and
a power of ten that were rounded before.
-/
namespace Chronicle

namespace Text

theorem natOfDigits_zeros_append (n : Nat) (ds : List Char) :
    natOfDigits (List.replicate n '0' ++ ds) = natOfDigits ds := by
  change Nat.ofDigitChars 10 (_ ++ ds) 0 = _
  rw [Nat.ofDigitChars_append, Nat.ofDigitChars_replicate_zero, Nat.mul_zero]
  rfl

theorem natOfDigits_append_zeros (ds : List Char) (n : Nat) :
    natOfDigits (ds ++ List.replicate n '0') = natOfDigits ds * 10 ^ n := by
  change Nat.ofDigitChars 10 (ds ++ _) 0 = _
  rw [Nat.ofDigitChars_append, Nat.ofDigitChars_replicate_zero, Nat.mul_comm]
  rfl

end Text

namespace Json.Numeral
open Text

/-! ## Significand and power -/

theorem parts_eq_of_value {n : Numeral} {significand : Nat} {power : Int}
    (hvalue : natOfDigits (n.whole ++ n.fraction) = significand) (h : significand ≤ significandLimit)
    (hpower : n.exponent.getD 0 - n.fraction.length = power) : n.parts = (significand, power) := by
  have happend : Nat.ofDigitChars 10 n.fraction (natOfDigits n.whole) = significand :=
    (Nat.ofDigitChars_append 0).symm.trans hvalue
  have hwhole : natOfDigits n.whole ≤ significandLimit :=
    Nat.le_trans (happend ▸ le_ofDigitChars _ _) h
  rw [parts_eq hwhole, accumulate_of_le (by rwa [happend]), happend, ← hpower]
  simp

theorem parts_of_scientific (negative : Bool) {c : Nat} (h : c ≤ significandLimit) (power : Int) :
    (ofDecimal.scientific negative (digits c) power).parts = (c, power + 1 - (digits c).length) := by
  have hpos := length_digits_pos c
  refine parts_eq_of_value ?_ h ?_
  · rw [ofDecimal.scientific, List.take_append_drop, natOfDigits_digits]
  · rw [ofDecimal.scientific, List.length_drop]
    change power - _ = _
    omega

theorem parts_of_leading (negative : Bool) {c : Nat} (h : c ≤ significandLimit) (zeros : Nat) :
    parts ⟨negative, ['0'], List.replicate zeros '0' ++ digits c, none⟩ =
      (c, -((zeros + (digits c).length : Nat) : Int)) := by
  have hvalue := natOfDigits_zeros_append (zeros + 1) (digits c)
  refine parts_eq_of_value (hvalue.trans (natOfDigits_digits c)) h ?_
  dsimp only [Option.getD_none]
  rw [List.length_append, List.length_replicate, Int.zero_sub]

theorem parts_of_split (negative : Bool) {c : Nat} (h : c ≤ significandLimit) (point : Nat) :
    parts ⟨negative, (digits c).take point, (digits c).drop point, none⟩ =
      (c, -(((digits c).length - point : Nat) : Int)) := by
  refine parts_eq_of_value ?_ h ?_
  · rw [List.take_append_drop, natOfDigits_digits]
  · dsimp only [Option.getD_none]
    rw [List.length_drop, Int.zero_sub]

/-- The digit after the point of a whole number belongs to its significand. -/
theorem parts_of_trailing (negative : Bool) {c zeros : Nat} (h : (digits c).length + zeros ≤ 16) :
    parts ⟨negative, digits c ++ List.replicate zeros '0', ['0'], none⟩ = (c * 10 ^ (zeros + 1), -1) := by
  have hwritten : digits c ++ List.replicate zeros '0' ++ ['0'] =
      digits c ++ List.replicate (zeros + 1) '0' := by
    rw [List.append_assoc, List.replicate_succ']
  have hvalue := natOfDigits_append_zeros (digits c) (zeros + 1)
  rw [natOfDigits_digits] at hvalue
  have hdigits (d : Char) (hd : d ∈ digits c ++ List.replicate (zeros + 1) '0') : d.isDigit = true := by
    rcases List.mem_append.1 hd with hd | hd
    · exact isDigit_of_mem_digits hd
    · rw [List.eq_of_mem_replicate hd]
      rfl
  have hlength : (digits c ++ List.replicate (zeros + 1) '0').length ≤ 17 := by
    rw [List.length_append, List.length_replicate]
    omega
  refine parts_eq_of_value ((congrArg natOfDigits hwritten).trans hvalue) ?_ rfl
  calc c * 10 ^ (zeros + 1)
      = natOfDigits (digits c ++ List.replicate (zeros + 1) '0') := hvalue.symm
    _ ≤ 10 ^ (digits c ++ List.replicate (zeros + 1) '0').length := Nat.le_of_lt (natOfDigits_lt hdigits)
    _ ≤ 10 ^ 17 := Nat.pow_le_pow_right (by decide) hlength
    _ ≤ significandLimit := by decide

/-- Behind the digits of a coefficient stand zeros at most, and then one digit after the point. -/
theorem parts_ofDecimal (negative : Bool) {d : Decimal} (h : d.coefficient ≤ significandLimit) :
    ∃ zeros : Nat, (zeros = 0 ∨ d.exponent - zeros = -1) ∧
      (ofDecimal negative d).parts = (d.coefficient * 10 ^ zeros, d.exponent - zeros) := by
  have hpos := length_digits_pos d.coefficient
  have hexact {n : Numeral} {power : Int} (hn : n.parts = (d.coefficient, power))
      (hpower : power = d.exponent) : ∃ zeros : Nat, (zeros = 0 ∨ d.exponent - zeros = -1) ∧
        n.parts = (d.coefficient * 10 ^ zeros, d.exponent - zeros) :=
    ⟨0, .inl rfl, by simp [hn, hpower]⟩
  unfold ofDecimal
  dsimp only
  split
  case h_1 hpoint =>
    have hpoint : ((digits d.coefficient).length : Int) + d.exponent = 0 := hpoint
    exact hexact (parts_of_leading negative h 0) (by omega)
  case h_2 point hne hpoint =>
    have hpoint : ((digits d.coefficient).length : Int) + d.exponent = point := hpoint
    split
    · exact hexact (parts_of_scientific negative h _) (by omega)
    case isFalse hshort =>
      split
      case isTrue hlength =>
        have hparts := parts_of_trailing negative (c := d.coefficient)
          (show _ + (point - (digits d.coefficient).length) ≤ 16 by omega)
        have hpower : d.exponent - (point - (digits d.coefficient).length + 1 : Nat) = -1 := by omega
        exact ⟨_, .inr hpower, hparts.trans (by rw [hpower])⟩
      case isFalse hlength => exact hexact (parts_of_split negative h point) (by omega)
  case h_3 zeros hzeros =>
    have hzeros : ((digits d.coefficient).length : Int) + d.exponent = -(zeros + 1) := hzeros
    split
    · exact hexact (parts_of_leading negative h (zeros + 1)) (by omega)
    · exact hexact (parts_of_scientific negative h _) (by omega)

theorem negative_ofDecimal (negative : Bool) (d : Decimal) : (ofDecimal negative d).negative = negative := by
  unfold ofDecimal
  dsimp only
  split
  · rfl
  · split
    · rfl
    · split <;> rfl
  · split <;> rfl

/-! ## The last quotient -/

/-- The quotient that is rounded last when a significand is scaled by a power of ten. -/
def lastQuotient : Nat × Int → Nat × Nat
  | (significand, power) =>
    let start := Binary64.ofNat significand
    if 0 ≤ power then
      (start.units * (powerOfTen power.natAbs).units, Binary64.unitsPerOne * Binary64.unitsPerOne)
    else if power.natAbs ≤ 308 then (start.units, (powerOfTen power.natAbs).units)
    else ((start.div (powerOfTen 308)).units, (powerOfTen (power.natAbs - 308)).units)

end Json.Numeral

/-- What is read of the numeral of a finite number. -/
def Binary64.reread (x : Binary64) : Binary64 :=
  ofQuotient x.negative (Json.Numeral.lastQuotient (Json.Numeral.ofBinary64 x).parts).1
    (Json.Numeral.lastQuotient (Json.Numeral.ofBinary64 x).parts).2

namespace Json.Numeral
open Text

theorem negative_ofNat (n : Nat) : (Binary64.ofNat n).negative = false :=
  Binary64.negative_ofQuotient false n 1

theorem div_eq {x y : Binary64} (hx : x.negative = false) (hy : y.negative = false) :
    x.div y = .ofQuotient false x.units y.units := by
  rw [Binary64.div, hx, hy]
  rfl

theorem mul_eq {x y : Binary64} (hx : x.negative = false) (hy : y.negative = false) :
    x.mul y = .ofQuotient false (x.units * y.units) (Binary64.unitsPerOne * Binary64.unitsPerOne) := by
  rw [Binary64.mul, hx, hy]
  rfl

theorem pattern_ofNat_ne_zero {n : Nat} (hpos : 0 < n) (h : n ≤ significandLimit) :
    (Binary64.ofNat n).pattern ≠ 0 := by
  intro hzero
  have hunits := Binary64.unitsPerOne_le_units_ofNat hpos (Nat.lt_of_le_of_lt h (by decide +kernel))
  have hnone : (Binary64.ofNat n).units = 0 := by
    unfold Binary64.units
    rw [hzero]
    rfl
  rw [hnone] at hunits
  exact absurd Binary64.unitsPerOne_pos (Nat.not_lt.2 hunits)

variable {significand : Nat} {power : Int}

/-- Beyond the greatest power only zero is scaled up. -/
theorem le_of_isSome_scale? (hpos : 0 < significand) (hlimit : significand ≤ significandLimit)
    (h : (scale? (.ofNat significand) power).isSome = true) : power ≤ 308 := by
  refine Int.not_lt.1 fun hlt => ?_
  rw [scale?, if_neg (by omega), if_neg (pattern_ofNat_ne_zero hpos hlimit), if_pos (by omega)] at h
  cases h

theorem scale?_eq (hlimit : significand ≤ significandLimit) (hpower : -616 ≤ power)
    (hpos : 0 < significand ∨ -308 ≤ power ∧ power ≤ 0)
    (h : (scale? (.ofNat significand) power).isSome = true) :
    scale? (.ofNat significand) power = some (.ofQuotient false (lastQuotient (significand, power)).1
      (lastQuotient (significand, power)).2) := by
  have hstart := negative_ofNat significand
  have hten (n : Nat) : (powerOfTen n).negative = false := negative_ofNat _
  unfold lastQuotient
  dsimp only
  rw [scale?] at h ⊢
  by_cases hsmall : power.natAbs ≤ 308
  · rw [if_pos hsmall] at h ⊢
    by_cases hup : 0 ≤ power
    · rw [if_pos hup] at h ⊢
      dsimp only at h ⊢
      split at h
      · cases h
      case isFalse hfinite => rw [if_neg hfinite, if_pos hup, mul_eq hstart (hten _)]
    · rw [if_neg hup, if_neg hup, if_pos hsmall, div_eq hstart (hten _)]
  · have hzero := pattern_ofNat_ne_zero (hpos.resolve_right (by omega)) hlimit
    rw [if_neg hsmall, if_neg hzero] at h ⊢
    split at h
    · cases h
    case isFalse hup =>
      have hnext : (power + 308).natAbs = power.natAbs - 308 := by omega
      have hquotient : ((Binary64.ofNat significand).div (powerOfTen 308)).negative = false := by
        rw [div_eq hstart (hten _), Binary64.negative_ofQuotient]
      rw [if_neg hup, if_neg hup, if_neg hsmall, scale?, if_pos (by omega), if_neg (by omega), hnext,
        div_eq hquotient (hten _)]

variable {x : Binary64}

theorem parts_ofBinary64 (hx : x.isFinite = true) :
    ∃ zeros : Nat, (zeros = 0 ∨ (x.shortest .even).exponent - zeros = -1) ∧ (ofBinary64 x).parts =
      ((x.shortest .even).coefficient * 10 ^ zeros, (x.shortest .even).exponent - zeros) :=
  parts_ofDecimal x.negative (Nat.le_trans (x.coefficient_shortest_le .even hx) (by decide))

/-- Written exponents are far from the greatest that is read. -/
theorem natAbs_exponent_le (hx : x.isFinite = true) :
    ((ofBinary64 x).exponent.getD 0).natAbs ≤ exponentLimit := by
  rcases ofDecimal_eq x.negative (x.shortest .even) with ⟨hnone, -⟩ | hscientific
  · rw [ofBinary64, hnone]
    decide
  · have hcoefficient := x.coefficient_shortest_le .even hx
    have hexponent := x.exponent_shortest .even
    have hlength : (digits (x.shortest .even).coefficient).length ≤ 20 :=
      (Nat.length_toDigits_le_iff (by decide) (by decide)).2 (by omega)
    rw [ofBinary64, hscientific]
    unfold ofDecimal.scientific exponentLimit
    dsimp only [Option.getD_some]
    omega

theorem toBinary64?_eq (hx : x.isFinite = true) : (ofBinary64 x).toBinary64? =
    (scale? (.ofNat (ofBinary64 x).parts.1) (ofBinary64 x).parts.2).map fun y =>
      if x.negative then y.neg else y := by
  have hnegative : (ofBinary64 x).negative = x.negative := negative_ofDecimal _ _
  unfold toBinary64?
  dsimp only
  rw [if_neg (Nat.not_lt.2 (natAbs_exponent_le hx)), hnegative]

theorem isSome_scale?_parts (hx : x.isFinite = true) :
    (scale? (.ofNat (ofBinary64 x).parts.1) (ofBinary64 x).parts.2).isSome = true := by
  have hsome := isSome_toBinary64?_ofBinary64 hx
  rwa [toBinary64?_eq hx, Option.isSome_map] at hsome

/-- A finite number is read back as its last quotient, rounded. -/
theorem toBinary64?_ofBinary64 (hx : x.isFinite = true) :
    (ofBinary64 x).toBinary64? = some x.reread := by
  have hsome := isSome_scale?_parts hx
  have hexponent := x.exponent_shortest .even
  have hlimit := (ofBinary64 x).parts_fst_le
  obtain ⟨zeros, hzeros, hparts⟩ := parts_ofBinary64 hx
  rw [toBinary64?_eq hx, Binary64.reread]
  rw [hparts] at hlimit hsome ⊢
  rw [scale?_eq hlimit (by omega) ?_ hsome, Option.map_some]
  · cases x.negative with
    | false => rfl
    | true => exact congrArg some (Binary64.neg_ofQuotient false _ _)
  · rcases x.shortest_bound .even with hpos | hnone
    · exact .inl (Nat.mul_pos hpos (Nat.pow_pos (by decide)))
    · exact .inr (by omega)

end Json.Numeral

end Chronicle
