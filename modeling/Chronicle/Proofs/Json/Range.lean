import Chronicle.Proofs.Json.Numeral

/-!
# Numerals within the range of binary numbers

The numeral of a finite number is read as some finite number. The reader rounds three times on its way, so
near the greatest number this takes a bound on what the roundings add up to.
-/
namespace Chronicle

namespace Json.Numeral
open Text

/-! ## Digits that are kept -/

theorem accumulate_mul_le (significand : Nat) (ds : List Char) :
    (accumulate significand ds).1 * 10 ^ (accumulate significand ds).2 ≤
      Nat.ofDigitChars 10 ds significand := by
  induction ds generalizing significand with
  | nil => simp [accumulate]
  | cons d ds ih =>
    rw [accumulate]
    split
    · rw [Nat.ofDigitChars_eq_ofDigitChars_zero, List.length_cons, Nat.mul_comm]
      exact Nat.le_add_right _ _
    · rw [Nat.ofDigitChars_cons]
      exact ih _

theorem le_ofDigitChars (significand : Nat) (ds : List Char) :
    significand ≤ Nat.ofDigitChars 10 ds significand := by
  rw [Nat.ofDigitChars_eq_ofDigitChars_zero]
  have hpow : 1 * significand ≤ 10 ^ ds.length * significand :=
    Nat.mul_le_mul_right _ (Nat.pow_pos (by decide))
  omega

theorem accumulate_of_le {significand : Nat} {ds : List Char}
    (h : Nat.ofDigitChars 10 ds significand ≤ significandLimit) :
    accumulate significand ds = (Nat.ofDigitChars 10 ds significand, 0) := by
  induction ds generalizing significand with
  | nil => simp [accumulate]
  | cons d ds ih =>
    rw [Nat.ofDigitChars_cons] at h ⊢
    have hnext : 10 * significand + digitValue d ≤ significandLimit :=
      Nat.le_trans (le_ofDigitChars _ ds) h
    rw [accumulate]
    rw [if_neg (Nat.not_lt.2 hnext)]
    exact ih h

theorem accumulate_fst_le {significand : Nat} (h : significand ≤ significandLimit) (ds : List Char) :
    (accumulate significand ds).1 ≤ significandLimit := by
  induction ds generalizing significand with
  | nil => exact h
  | cons d ds ih =>
    rw [accumulate]
    split
    · exact h
    case isFalse hnext => exact ih (Nat.not_lt.1 hnext)

theorem accumulate_snd_le (significand : Nat) (ds : List Char) :
    (accumulate significand ds).2 ≤ ds.length := by
  induction ds generalizing significand with
  | nil => exact Nat.le_refl _
  | cons d ds ih =>
    rw [accumulate]
    split
    · exact Nat.le_refl _
    · exact Nat.le_succ_of_le (ih _)

/-! ## Scaling -/

theorem pow_lt_of_le {p : Nat} (hp : p ≤ 308) : 10 ^ p < (2 ^ 54 - 1) * 2 ^ 970 :=
  Nat.lt_of_le_of_lt (Nat.pow_le_pow_right (by decide) hp) (by decide +kernel)

theorem isSome_scale?_of_neg (x : Binary64) {exponent : Int} (h : exponent < 0) :
    (scale? x exponent).isSome = true := by
  induction hn : exponent.natAbs using Nat.strongRecOn generalizing x exponent with
  | ind n ih =>
    rw [scale?]
    split
    · rw [if_neg (Int.not_le.2 h)]
      rfl
    split
    · rfl
    rw [if_neg (Int.not_le.2 h)]
    exact ih (exponent + 308).natAbs (by omega) _ (by omega) rfl

/-- Scaling up succeeds well below the power of two above the greatest number. -/
theorem isSome_scale?_ofNat {m p : Nat} (hm : m ≤ significandLimit)
    (h : m * 10 ^ p ≤ (2 ^ 54 - 5) * 2 ^ 970) : (scale? (.ofNat m) p).isSome = true := by
  rw [scale?, Int.natAbs_natCast, if_pos (Int.natCast_nonneg p), if_pos (Int.natCast_nonneg p)]
  by_cases hp : p ≤ 308
  · have hlimit : m < (2 ^ 54 - 1) * 2 ^ 970 := Nat.lt_of_le_of_lt hm (by decide +kernel)
    have hfinite := of_decide_eq_true (Binary64.isFinite_mul_ofNat hlimit (pow_lt_of_le hp) h)
    have hinfinite : ((Binary64.ofNat m).mul (powerOfTen p)).isInfinite = false :=
      decide_eq_false (Nat.ne_of_lt hfinite)
    rw [if_pos hp]
    dsimp only
    rw [hinfinite]
    rfl
  · have hzero : m = 0 := by
      refine Nat.eq_zero_of_not_pos fun hpos => ?_
      have hpow : 10 ^ 309 ≤ m * 10 ^ p :=
        Nat.le_trans (Nat.pow_le_pow_right (by decide) (by omega)) (Nat.le_mul_of_pos_left _ hpos)
      exact absurd (Nat.le_trans hpow h) (by decide +kernel)
    have hpattern : (Binary64.ofNat 0).pattern = 0 := by decide +kernel
    subst hzero
    rw [if_neg hp, if_pos hpattern]
    rfl

/-! ## Numerals -/

theorem parts_eq {n : Numeral} (h : natOfDigits n.whole ≤ significandLimit) : n.parts =
    ((accumulate (natOfDigits n.whole) n.fraction).1,
      n.exponent.getD 0 + (accumulate (natOfDigits n.whole) n.fraction).2 - n.fraction.length) := by
  have hwhole : accumulate 0 n.whole = (natOfDigits n.whole, 0) := accumulate_of_le h
  have hleft := accumulate_snd_le (natOfDigits n.whole) n.fraction
  unfold parts
  rw [hwhole]
  dsimp only
  congr 1
  omega

theorem isSome_toBinary64? {n : Numeral} (hexponent : n.exponent.getD 0 ≤ exponentLimit)
    (h : (scale? (.ofNat n.parts.1) n.parts.2).isSome = true) : n.toBinary64?.isSome = true := by
  unfold toBinary64?
  dsimp only
  split
  · rw [if_neg (by omega)]
    rfl
  · rw [Option.isSome_map]
    exact h

/-- Without an exponent a numeral is never too large to be read. -/
theorem isSome_toBinary64?_of_exponent_eq_none {n : Numeral} (hn : n.exponent = none)
    (h : natOfDigits n.whole ≤ significandLimit) : n.toBinary64?.isSome = true := by
  have hleft := accumulate_snd_le (natOfDigits n.whole) n.fraction
  have hfirst := accumulate_fst_le h n.fraction
  refine isSome_toBinary64? (by rw [hn]; decide) ?_
  rw [parts_eq h, hn]
  rcases Nat.lt_or_eq_of_le hleft with hlt | heq
  · exact isSome_scale?_of_neg _ (by simp only [Option.getD_none]; omega)
  · have hzero : (0 : Int) + n.fraction.length - n.fraction.length = (0 : Nat) := by omega
    rw [heq, Option.getD_none, hzero]
    refine isSome_scale?_ofNat hfirst ?_
    rw [Nat.pow_zero, Nat.mul_one]
    exact Nat.le_trans hfirst (by decide +kernel)

theorem natOfDigits_le {ds : List Char} (hds : ∀ c ∈ ds, c.isDigit = true) (h : ds.length ≤ 16) :
    natOfDigits ds ≤ significandLimit := by
  have hlt := natOfDigits_lt hds
  have hpow : 10 ^ ds.length ≤ 10 ^ 16 := Nat.pow_le_pow_right (by decide) h
  have hlimit : 10 ^ 16 ≤ significandLimit := by decide
  omega

/-- At most 16 digits stand before the point. -/
theorem ofDecimal_eq (negative : Bool) (d : Decimal) :
    ((ofDecimal negative d).exponent = none ∧
      natOfDigits (ofDecimal negative d).whole ≤ significandLimit) ∨
    ofDecimal negative d = ofDecimal.scientific negative (digits d.coefficient)
      ((digits d.coefficient).length + d.exponent - 1) := by
  have hdigit {c : Char} (hc : c ∈ digits d.coefficient) : c.isDigit = true :=
    isDigit_of_mem_digits hc
  unfold ofDecimal
  dsimp only
  split
  · exact .inl ⟨rfl, Nat.zero_le _⟩
  case h_2 point hne hpoint =>
    split
    · right
      rw [hpoint]
      rfl
    case isFalse hshort =>
      split
      · refine .inl ⟨rfl, natOfDigits_le (fun c hc => ?_) ?_⟩
        · rcases List.mem_append.1 hc with hc | hc
          · exact hdigit hc
          · rw [List.eq_of_mem_replicate hc]
            rfl
        · rw [List.length_append, List.length_replicate]
          omega
      · refine .inl ⟨rfl, natOfDigits_le (fun c hc => hdigit (List.mem_of_mem_take hc)) ?_⟩
        rw [List.length_take]
        omega
  case h_3 zeros hzeros =>
    split
    · exact .inl ⟨rfl, Nat.zero_le _⟩
    · right
      rw [hzeros]

/-- With an exponent the number that is read is at most the number that was written. -/
theorem parts_scientific (negative : Bool) (d : Decimal) {n : Numeral}
    (hn : n = ofDecimal.scientific negative (digits d.coefficient)
      ((digits d.coefficient).length + d.exponent - 1)) :
    ∃ left : Nat, n.parts.2 = d.exponent + left ∧ n.parts.1 ≤ significandLimit ∧
      n.parts.1 * 10 ^ left ≤ d.coefficient := by
  have hpos := length_digits_pos d.coefficient
  have hsplit : n.whole ++ n.fraction = digits d.coefficient := by
    rw [hn]
    exact List.take_append_drop 1 _
  have hwhole : natOfDigits n.whole ≤ significandLimit := by
    refine natOfDigits_le (fun c hc => ?_) ?_
    · exact isDigit_of_mem_digits (hsplit ▸ List.mem_append_left _ hc)
    · rw [hn]
      exact Nat.le_trans (List.length_take_le 1 _) (by decide)
  have hvalue : Nat.ofDigitChars 10 n.fraction (natOfDigits n.whole) = d.coefficient := by
    have happend := Nat.ofDigitChars_append (b := 10) (l := n.whole) (m := n.fraction) 0
    rw [hsplit] at happend
    exact happend.symm.trans (natOfDigits_digits _)
  have hlength : n.fraction.length = (digits d.coefficient).length - 1 := by
    rw [hn]
    exact List.length_drop
  have hexponent : n.exponent.getD 0 = (digits d.coefficient).length + d.exponent - 1 := by rw [hn]; rfl
  refine ⟨(accumulate (natOfDigits n.whole) n.fraction).2, ?_, ?_, ?_⟩
  · rw [parts_eq hwhole, hexponent]
    dsimp only
    omega
  · rw [parts_eq hwhole]
    exact accumulate_fst_le hwhole _
  · rw [parts_eq hwhole, ← hvalue]
    exact accumulate_mul_le _ _

end Json.Numeral

/-! ## The size of shortest numerals -/

namespace Decimal

/-- A decimal that is not beyond a bound, which is in quarters of a unit. -/
def AtMost (d : Decimal) (high : Nat) : Prop :=
  d.coefficient * (4 * Binary64.unitsPerOne * 10 ^ d.exponent.toNat) ≤ high * 10 ^ (-d.exponent).toNat

theorem AtMost.mono {d : Decimal} {low high : Nat} (h : d.AtMost low) (hle : low ≤ high) :
    d.AtMost high :=
  Nat.le_trans h (Nat.mul_le_mul_right _ hle)

/-- Leading digits of a decimal are within its bound too. -/
theorem AtMost.mul_pow_le {d : Decimal} {bound m a b : Nat}
    (h : d.AtMost (4 * Binary64.unitsPerOne * bound)) (hm : m * 10 ^ b ≤ d.coefficient)
    (hab : d.exponent + b = a) : m * 10 ^ a ≤ bound := by
  have hunits := Binary64.unitsPerOne_pos
  have hpow : a + (-d.exponent).toNat = b + d.exponent.toNat := by omega
  unfold AtMost at h
  generalize Binary64.unitsPerOne = units at *
  generalize d.exponent.toNat = p at *
  generalize (-d.exponent).toNat = q at *
  have hpos : 0 < 4 * units * 10 ^ q :=
    Nat.mul_pos (Nat.mul_pos (by decide) hunits) (Nat.pow_pos (by decide))
  refine Nat.le_of_mul_le_mul_right ?_ hpos
  calc m * 10 ^ a * (4 * units * 10 ^ q) = m * (4 * units) * 10 ^ (a + q) := by rw [Nat.pow_add]; ring
    _ = m * 10 ^ b * (4 * units * 10 ^ p) := by rw [hpow, Nat.pow_add]; ring
    _ ≤ d.coefficient * (4 * units * 10 ^ p) := Nat.mul_le_mul_right _ hm
    _ ≤ 4 * units * bound * 10 ^ q := h
    _ = bound * (4 * units * 10 ^ q) := by ring

end Decimal

namespace Binary64

theorem atMost_shortest (tie : TieRule) (x : Binary64) : (x.shortest tie).AtMost x.neighbourhood.high :=
  (Neighbourhood.holds_iff.1 (x.covers_shortest tie)).2.1

/-- But for the two greatest numbers, all that rounds to a finite number is well below the next power of
two. -/
theorem high_le {x : Binary64} (h : x.pattern + 3 ≤ infinityPattern) :
    x.neighbourhood.high ≤ 4 * unitsPerOne * ((2 ^ 54 - 5) * 2 ^ 970) := by
  have hbound : 4 * unitsPerOne * ((2 ^ 54 - 5) * 2 ^ 970) = (2 ^ 56 - 20) * 2 ^ 2044 := by
    rw [unitsPerOne_eq, show 2 ^ 56 - 20 = 4 * (2 ^ 54 - 5) from rfl, show 2044 = 1074 + 970 from rfl,
      Nat.pow_add]
    ring
  have hpos : 0 < 2 ^ 2044 := Nat.pow_pos (by decide)
  rw [hbound]
  unfold neighbourhood units
  dsimp only
  by_cases hzero : x.pattern / fieldUnit = 0
  · have hfraction : x.pattern % fieldUnit < fieldUnit := Nat.mod_lt _ (by decide)
    have hstep : (2 : Nat) <<< (x.pattern / fieldUnit - 1) = 2 := by rw [hzero]; rfl
    rw [if_pos hzero, hstep]
    unfold fieldUnit at *
    generalize 2 ^ 2044 = step at *
    omega
  obtain ⟨k, hk⟩ := Nat.exists_eq_succ_of_ne_zero hzero
  rw [if_neg hzero, hk, Nat.succ_sub_one, Nat.shiftLeft_eq, Nat.shiftLeft_eq]
  have hhigh : 4 * ((fieldUnit + x.pattern % fieldUnit) * 2 ^ k) + 2 * 2 ^ k =
      (4 * (fieldUnit + x.pattern % fieldUnit) + 2) * 2 ^ k := by ring
  rw [hhigh]
  unfold fieldUnit infinityPattern at *
  rcases Nat.lt_or_ge k 2045 with hlt | hge
  · exact Nat.mul_le_mul (by omega) (Nat.pow_le_pow_right (by decide) (by omega))
  · obtain rfl : k = 2044 + 1 := by omega
    rw [Nat.pow_succ]
    have hfraction : x.pattern % 0x10000000000000 ≤ 2 ^ 52 - 3 := by omega
    generalize 2 ^ 2044 = step at *
    rw [Nat.mul_comm step 2, ← Nat.mul_assoc]
    exact Nat.mul_le_mul_right _ (by omega)

end Binary64

namespace Json.Numeral
open Text

theorem exponent_scientific_le {d : Decimal} (hbound : 0 < d.coefficient ∨ d.exponent ≤ 0)
    (h : d.AtMost (4 * Binary64.unitsPerOne * ((2 ^ 54 - 5) * 2 ^ 970))) :
    ((digits d.coefficient).length : Int) + d.exponent - 1 ≤ 308 := by
  have hlength := length_digits_pos d.coefficient
  rcases Nat.eq_zero_or_pos d.coefficient with hzero | hpos
  · have hexponent : d.exponent ≤ 0 := hbound.resolve_left (by omega)
    have hone : (digits 0).length = 1 := rfl
    rw [hzero, hone]
    omega
  · refine Int.not_lt.1 fun hlt => ?_
    have hdigits := pow_length_digits_le hpos
    obtain ⟨a, ha⟩ := Int.eq_ofNat_of_zero_le (Int.le_trans (by decide) (Int.le_of_lt hlt))
    have hle : 1 * 10 ^ a ≤ (2 ^ 54 - 5) * 2 ^ 970 :=
      h.mul_pow_le (b := (digits d.coefficient).length - 1) (by omega) (by omega)
    have hpow : 1 * 10 ^ 309 ≤ 1 * 10 ^ a := Nat.mul_le_mul_left _ (Nat.pow_le_pow_right (by decide) (by omega))
    exact absurd (Nat.le_trans hpow hle) (by decide +kernel)

/-- But for the two greatest numbers the roundings stay in range whatever they do. -/
theorem isSome_toBinary64?_of_le {x : Binary64} (h : x.pattern + 3 ≤ Binary64.infinityPattern) :
    (ofBinary64 x).toBinary64?.isSome = true := by
  rcases ofDecimal_eq x.negative (x.shortest .even) with ⟨hexponent, hwhole⟩ | hscientific
  · exact isSome_toBinary64?_of_exponent_eq_none hexponent hwhole
  have hatMost := (x.atMost_shortest .even).mono (Binary64.high_le h)
  obtain ⟨left, hpower, hlimit, hvalue⟩ := parts_scientific x.negative (x.shortest .even) hscientific
  refine isSome_toBinary64? ?_ ?_
  · have hle := exponent_scientific_le ((x.shortest_bound .even).imp_right Int.le_of_eq) hatMost
    unfold ofBinary64
    rw [hscientific]
    exact Int.le_trans hle (by decide)
  · change (scale? (.ofNat (ofDecimal x.negative (x.shortest .even)).parts.1)
      (ofDecimal x.negative (x.shortest .even)).parts.2).isSome = true
    rcases Int.lt_or_le (ofDecimal x.negative (x.shortest .even)).parts.2 0 with hneg | hnonneg
    · exact isSome_scale?_of_neg _ hneg
    · obtain ⟨p, hp⟩ := Int.eq_ofNat_of_zero_le hnonneg
      rw [hp]
      exact isSome_scale?_ofNat hlimit (hatMost.mul_pow_le hvalue (hpower.symm.trans hp))

theorem isSome_toBinary64?_of_parts {n : Numeral} (significand : Nat)
    (hexponent : n.exponent.getD 0 ≤ exponentLimit) (hparts : n.parts = (significand, 292))
    (h : ((Binary64.ofNat significand).mul (powerOfTen 292)).isInfinite = false) :
    n.toBinary64?.isSome = true := by
  have hnatAbs : (292 : Int).natAbs = 292 := rfl
  have hpower : (0 : Int) ≤ 292 := by decide
  refine isSome_toBinary64? hexponent ?_
  rw [hparts]
  dsimp only
  rw [scale?, hnatAbs, if_pos (by decide), if_pos hpower]
  dsimp only
  rw [h]
  rfl

/-- The numeral of a finite number can be read. -/
theorem isSome_toBinary64?_ofBinary64 {x : Binary64} (hx : x.isFinite = true) :
    (ofBinary64 x).toBinary64?.isSome = true := by
  have hpattern : x.pattern < Binary64.infinityPattern := of_decide_eq_true hx
  by_cases hle : x.pattern + 3 ≤ Binary64.infinityPattern
  · exact isSome_toBinary64?_of_le hle
  have hgreatest : x.pattern = Binary64.infinityPattern - 1 ∨ x.pattern = Binary64.infinityPattern - 2 := by
    omega
  rw [← Binary64.ofPattern_eta x]
  rcases hgreatest with hlast | hlast
  · rw [hlast]
    cases x.negative with
    | false =>
      exact isSome_toBinary64?_of_parts 17976931348623157 (by decide +kernel)
        (by decide +kernel) (by decide +kernel)
    | true =>
      exact isSome_toBinary64?_of_parts 17976931348623157 (by decide +kernel)
        (by decide +kernel) (by decide +kernel)
  · rw [hlast]
    cases x.negative with
    | false =>
      exact isSome_toBinary64?_of_parts 17976931348623155 (by decide +kernel)
        (by decide +kernel) (by decide +kernel)
    | true =>
      exact isSome_toBinary64?_of_parts 17976931348623155 (by decide +kernel)
        (by decide +kernel) (by decide +kernel)

/-! ## What is read is finite -/

theorem isFinite_div_powerOfTen {x : Binary64} (hx : x.isFinite = true) {n : Nat} (hn : n ≤ 308) :
    (x.div (powerOfTen n)).isFinite = true :=
  Binary64.isFinite_div hx
    (Binary64.unitsPerOne_le_units_ofNat (Nat.pow_pos (by decide)) (pow_lt_of_le hn))

theorem isFinite_of_scale? {x y : Binary64} {exponent : Int} (hx : x.isFinite = true)
    (h : scale? x exponent = some y) : y.isFinite = true := by
  induction hn : exponent.natAbs using Nat.strongRecOn generalizing x exponent with
  | ind n ih =>
    rw [scale?] at h
    split at h
    case isTrue hsmall =>
      split at h
      · dsimp only at h
        split at h
        · cases h
        case isFalse hinfinite =>
          cases h
          exact Binary64.isFinite_of_not_isInfinite (Bool.eq_false_iff.2 hinfinite)
      · cases h
        exact isFinite_div_powerOfTen hx hsmall
    split at h
    · cases h
      exact hx
    split at h
    · cases h
    · exact ih (exponent + 308).natAbs (by omega) (isFinite_div_powerOfTen hx (Nat.le_refl 308)) h rfl

theorem parts_fst_le (n : Numeral) : n.parts.1 ≤ significandLimit :=
  accumulate_fst_le (accumulate_fst_le (Nat.zero_le _) n.whole) n.fraction

/-- The reader gives no number that is not finite. -/
theorem isFinite_of_toBinary64? {n : Numeral} {x : Binary64} (h : n.toBinary64? = some x) :
    x.isFinite = true := by
  have hsign {y : Binary64} (hy : y.isFinite = true) :
      (if n.negative then y.neg else y).isFinite = true := by
    split
    · exact Binary64.isFinite_neg.trans hy
    · exact hy
  have hbegin : (Binary64.ofNat n.parts.1).isFinite = true := by
    refine Binary64.isFinite_ofQuotient false Nat.one_pos ?_
    rw [Nat.mul_one]
    exact Nat.lt_of_le_of_lt n.parts_fst_le (by decide +kernel)
  unfold toBinary64? at h
  dsimp only at h
  split at h
  · split at h
    · cases h
    · cases h
      exact hsign (by decide)
  · obtain ⟨y, hy, rfl⟩ := Option.map_eq_some_iff.1 h
    exact hsign (isFinite_of_scale? hbegin hy)

end Json.Numeral

end Chronicle
