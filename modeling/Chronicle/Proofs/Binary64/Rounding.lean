import Chronicle.Binary64.Basic
import Mathlib.Tactic.Ring

/-!
# How far rounding goes

A rounded quotient is at most half a step greater than the quotient. So it is finite below the middle
between the greatest number and the next power of two, and it exceeds the quotient by at most one part in
`2^53`. Quotients by one or more are finite too.
-/
namespace Chronicle.Binary64

theorem unitsPerOne_eq : unitsPerOne = 2 ^ 1074 := by
  unfold unitsPerOne
  rw [Nat.shiftLeft_eq, Nat.one_mul]

theorem unitsPerOne_pos : 0 < unitsPerOne := by
  rw [unitsPerOne_eq]
  exact Nat.pow_pos (by decide)

/-- A whole number that is nearest to a quotient, and even if another one is as near. -/
structure IsNearest (num den r : Nat) : Prop where
  le : 2 * (r * den) ≤ 2 * num + den
  ge : 2 * num ≤ 2 * (r * den) + den
  even : 2 * (r * den) = 2 * num + den ∨ 2 * num = 2 * (r * den) + den → r % 2 = 0

theorem isNearest_roundQuotient {num den : Nat} (hden : 0 < den) :
    IsNearest num den (roundQuotient num den) := by
  have hdiv := Nat.div_add_mod num den
  have hmod := Nat.mod_lt num hden
  have hcomm : num / den * den = den * (num / den) := Nat.mul_comm _ _
  have hsucc : (num / den + 1) * den = den * (num / den) + den := by rw [Nat.succ_mul, hcomm]
  have hbelow (h : 2 * (num % den) ≤ den) (heven : 2 * (num % den) = den → num / den % 2 = 0) :
      IsNearest num den (num / den) := by
    constructor <;> rw [hcomm] <;> omega
  have habove (h : den ≤ 2 * (num % den)) (heven : 2 * (num % den) = den → (num / den + 1) % 2 = 0) :
      IsNearest num den (num / den + 1) := by
    constructor <;> rw [hsucc] <;> omega
  unfold roundQuotient
  dsimp only
  split
  · exact hbelow (by omega) (by omega)
  split
  · exact habove (by omega) (by omega)
  split
  · exact hbelow (by omega) fun _ => by assumption
  · exact habove (by omega) fun _ => by omega

theorem roundQuotient_le {num den : Nat} (hden : 0 < den) :
    2 * (roundQuotient num den * den) ≤ 2 * num + den := (isNearest_roundQuotient hden).le

theorem div_le_roundQuotient (num den : Nat) : num / den ≤ roundQuotient num den := by
  unfold roundQuotient
  dsimp only
  split
  · exact Nat.le_refl _
  split
  · exact Nat.le_succ _
  split
  · exact Nat.le_refl _
  · exact Nat.le_succ _

/-- How many binary digits of a quotient are rounded away. -/
def excess (num den : Nat) : Nat := (num * unitsPerOne / den).log2 - 52

def significand (num den : Nat) : Nat :=
  roundQuotient (num * unitsPerOne) (den * 2 ^ excess num den)

theorem ofQuotient_eq (negative : Bool) (num den : Nat) : ofQuotient negative num den =
    ofPattern negative (min infinityPattern (excess num den * fieldUnit + significand num den)) := by
  unfold ofQuotient significand
  rw [← Nat.shiftLeft_eq]
  rfl

theorem ofQuotient_lt (num den : Nat) :
    min infinityPattern (excess num den * fieldUnit + significand num den) < signBit :=
  Nat.lt_of_le_of_lt (Nat.min_le_left _ _) (by decide)

theorem negative_ofQuotient (negative : Bool) (num den : Nat) :
    (ofQuotient negative num den).negative = negative := by
  rw [ofQuotient_eq, negative_ofPattern _ (ofQuotient_lt num den)]

theorem neg_ofQuotient (negative : Bool) (num den : Nat) :
    (ofQuotient negative num den).neg = ofQuotient (!negative) num den := by
  rw [neg, negative_ofQuotient, ofQuotient_eq, ofQuotient_eq, pattern_ofPattern _ (ofQuotient_lt num den)]

variable {num den : Nat}

theorem step_pos (hden : 0 < den) (s : Nat) : 0 < den * 2 ^ s := Nat.mul_pos hden (Nat.pow_pos (by decide))

/-- The quotient in steps has at most 53 binary digits. -/
theorem scaled_lt (hden : 0 < den) : num * unitsPerOne < 2 ^ 53 * (den * 2 ^ excess num den) := by
  have hlog : num * unitsPerOne / den < 2 ^ ((num * unitsPerOne / den).log2 + 1) := Nat.lt_log2_self
  have hle : (num * unitsPerOne / den).log2 + 1 ≤ excess num den + 53 := by
    unfold excess
    omega
  have hpow : 2 ^ ((num * unitsPerOne / den).log2 + 1) ≤ 2 ^ (excess num den + 53) :=
    Nat.pow_le_pow_right (by decide) hle
  calc num * unitsPerOne < 2 ^ (excess num den + 53) * den :=
        (Nat.div_lt_iff_lt_mul hden).1 (Nat.lt_of_lt_of_le hlog hpow)
    _ = 2 ^ 53 * (den * 2 ^ excess num den) := by rw [Nat.pow_add]; ring

/-- When digits are rounded away, the quotient in steps has 53 of them. -/
theorem le_scaled (hden : 0 < den) (h : 0 < excess num den) :
    2 ^ 52 * (den * 2 ^ excess num den) ≤ num * unitsPerOne := by
  have hlog : 2 ^ (num * unitsPerOne / den).log2 ≤ num * unitsPerOne / den := by
    refine Nat.log2_self_le fun hzero => ?_
    unfold excess at h
    rw [hzero] at h
    exact absurd h (by decide)
  have hexcess : (num * unitsPerOne / den).log2 = excess num den + 52 := by
    unfold excess at *
    omega
  rw [hexcess] at hlog
  calc 2 ^ 52 * (den * 2 ^ excess num den) = 2 ^ (excess num den + 52) * den := by rw [Nat.pow_add]; ring
    _ ≤ num * unitsPerOne := (Nat.le_div_iff_mul_le hden).1 hlog

/-- A bound of the quotient in steps is one of the significand. -/
theorem significand_lt (hden : 0 < den) {k : Nat}
    (h : 2 * (num * unitsPerOne) + den * 2 ^ excess num den < 2 * k * (den * 2 ^ excess num den)) :
    significand num den < k := by
  have hround : 2 * (significand num den * (den * 2 ^ excess num den)) ≤
    2 * (num * unitsPerOne) + den * 2 ^ excess num den := roundQuotient_le (step_pos hden _)
  refine Nat.lt_of_mul_lt_mul_right (a := den * 2 ^ excess num den) ?_
  rw [Nat.mul_assoc] at h
  omega

theorem significand_le (hden : 0 < den) : significand num den ≤ 2 ^ 53 := by
  have hscaled : num * unitsPerOne < 2 ^ 53 * (den * 2 ^ excess num den) := scaled_lt hden
  have hstep := step_pos hden (excess num den)
  refine Nat.le_of_lt_succ (significand_lt hden ?_)
  omega

theorem le_significand (hden : 0 < den) (h : 0 < excess num den) : 2 ^ 52 ≤ significand num den :=
  Nat.le_trans ((Nat.le_div_iff_mul_le (step_pos hden _)).2 (le_scaled hden h))
    (div_le_roundQuotient _ _)

/-- A quotient is rounded to a finite number when it is less than halfway from the greatest number to the
power of two above it. -/
theorem pattern_lt_of_lt (hden : 0 < den) (h : num < (2 ^ 54 - 1) * 2 ^ 970 * den) :
    excess num den * fieldUnit + significand num den < infinityPattern := by
  have hscaled : num * unitsPerOne < (2 ^ 54 - 1) * (den * 2 ^ 2044) := by
    rw [unitsPerOne_eq]
    calc num * 2 ^ 1074 < (2 ^ 54 - 1) * 2 ^ 970 * den * 2 ^ 1074 :=
          Nat.mul_lt_mul_of_pos_right h (Nat.pow_pos (by decide))
      _ = (2 ^ 54 - 1) * (den * 2 ^ (970 + 1074)) := by rw [Nat.pow_add]; ring
  have hexcess : excess num den ≤ 2045 := by
    have hlt : num * unitsPerOne / den < 2 ^ 2098 := by
      refine (Nat.div_lt_iff_lt_mul hden).2 (Nat.lt_trans hscaled ?_)
      rw [show 2098 = 54 + 2044 from rfl, Nat.pow_add, Nat.mul_assoc, Nat.mul_comm den]
      exact Nat.mul_lt_mul_of_pos_right (by decide) (Nat.mul_pos (Nat.pow_pos (by decide)) hden)
    have hlog : (num * unitsPerOne / den).log2 < 2098 := by
      by_cases hzero : num * unitsPerOne / den = 0
      · rw [hzero]
        decide
      · exact (Nat.log2_lt hzero).2 hlt
    unfold excess
    omega
  unfold fieldUnit infinityPattern
  rcases Nat.lt_or_ge (excess num den) 2045 with hlt | hge
  · have hle : significand num den ≤ 2 ^ 53 := significand_le hden
    omega
  · have hlast : excess num den = 2044 + 1 := Nat.le_antisymm hexcess hge
    have hbelow : significand num den < 2 ^ 53 := by
      refine significand_lt hden ?_
      have hstep := step_pos hden 2044
      rw [hlast, Nat.pow_succ, ← Nat.mul_assoc den]
      generalize den * 2 ^ 2044 = step at *
      omega
    omega

theorem isFinite_ofQuotient (negative : Bool) (hden : 0 < den) (h : num < (2 ^ 54 - 1) * 2 ^ 970 * den) :
    (ofQuotient negative num den).isFinite = true := by
  have hpattern := pattern_lt_of_lt hden h
  rw [ofQuotient_eq, Nat.min_eq_right (Nat.le_of_lt hpattern), isFinite,
    pattern_ofPattern _ (Nat.lt_trans hpattern (by decide))]
  exact decide_eq_true hpattern

/-- Units of a number from its exponent and its significand, also when this carries into the exponent. -/
theorem units_ofPattern (negative : Bool) {s r : Nat} (hr : r ≤ 2 ^ 53) (hs : s = 0 ∨ 2 ^ 52 ≤ r)
    (h : s * fieldUnit + r < signBit) : (ofPattern negative (s * fieldUnit + r)).units = r * 2 ^ s := by
  unfold units
  rw [pattern_ofPattern _ h]
  unfold fieldUnit
  dsimp only
  by_cases hsmall : s = 0 ∧ r < 2 ^ 52
  · obtain ⟨rfl, hlt⟩ := hsmall
    have hfield : (0 * 0x10000000000000 + r) / 0x10000000000000 = 0 := by omega
    rw [if_pos hfield]
    omega
  obtain ⟨f, rfl⟩ : ∃ f, r = 2 ^ 52 + f := Nat.exists_eq_add_of_le (by omega)
  by_cases hcarry : f = 2 ^ 52
  · subst hcarry
    have hfield : (s * 0x10000000000000 + (2 ^ 52 + 2 ^ 52)) / 0x10000000000000 = s + 2 := by omega
    have hfraction : (s * 0x10000000000000 + (2 ^ 52 + 2 ^ 52)) % 0x10000000000000 = 0 := by omega
    rw [hfield, hfraction, if_neg (Nat.succ_ne_zero _), Nat.shiftLeft_eq]
    change (2 ^ 52 + 0) * 2 ^ (s + 1) = _
    rw [Nat.pow_succ]
    ring
  · have hfield : (s * 0x10000000000000 + (2 ^ 52 + f)) / 0x10000000000000 = s + 1 := by omega
    have hfraction : (s * 0x10000000000000 + (2 ^ 52 + f)) % 0x10000000000000 = f := by omega
    rw [hfield, hfraction, if_neg (Nat.succ_ne_zero _), Nat.shiftLeft_eq]
    rfl

/-- A finite rounded quotient in steps of its last binary digit. -/
theorem units_ofQuotient {negative : Bool} (hden : 0 < den)
    (h : (ofQuotient negative num den).isFinite = true) :
    (ofQuotient negative num den).units = significand num den * 2 ^ excess num den := by
  have hlt : (ofQuotient negative num den).pattern < infinityPattern := of_decide_eq_true h
  rw [ofQuotient_eq, pattern_ofPattern _ (ofQuotient_lt num den)] at hlt
  have hmin : min infinityPattern (excess num den * fieldUnit + significand num den) =
      excess num den * fieldUnit + significand num den := by omega
  rw [ofQuotient_eq, hmin]
  exact units_ofPattern negative (significand_le hden) ((Nat.eq_zero_or_pos _).imp_right (le_significand hden))
    (hmin ▸ ofQuotient_lt num den)

theorem excess_pos (hden : 0 < den) (h : den ≤ num) : 0 < excess num den := by
  have hunits : unitsPerOne ≤ num * unitsPerOne / den :=
    (Nat.le_div_iff_mul_le hden).2 (by rw [Nat.mul_comm]; exact Nat.mul_le_mul_right _ h)
  have hpow : 2 ^ 53 ≤ num * unitsPerOne / den := by
    refine Nat.le_trans ?_ hunits
    rw [unitsPerOne_eq]
    exact Nat.pow_le_pow_right (by decide) (by decide)
  have hlog := (Nat.le_log2 (Nat.ne_of_gt (Nat.lt_of_lt_of_le (by decide) hpow))).2 hpow
  unfold excess
  omega

/-- The relative error of a finite quotient that is not less than one. -/
theorem units_ofQuotient_le (negative : Bool) (hden : 0 < den) (h : den ≤ num)
    (hfinite : num < (2 ^ 54 - 1) * 2 ^ 970 * den) :
    2 ^ 53 * ((ofQuotient negative num den).units * den) ≤ num * unitsPerOne * (2 ^ 53 + 1) := by
  have hexcess := excess_pos hden h
  have hround : 2 * (significand num den * (den * 2 ^ excess num den)) ≤
    2 * (num * unitsPerOne) + den * 2 ^ excess num den := roundQuotient_le (step_pos hden _)
  have hscaled := le_scaled hden hexcess
  rw [units_ofQuotient hden (isFinite_ofQuotient negative hden hfinite), Nat.mul_assoc,
    Nat.mul_comm (2 ^ excess num den)]
  generalize significand num den * (den * 2 ^ excess num den) = rounded at *
  generalize den * 2 ^ excess num den = step at *
  generalize num * unitsPerOne = scaled at *
  omega

theorem units_ofNat_le {n : Nat} (h : n < (2 ^ 54 - 1) * 2 ^ 970) :
    2 ^ 53 * (ofNat n).units ≤ n * unitsPerOne * (2 ^ 53 + 1) := by
  rcases Nat.eq_zero_or_pos n with rfl | hpos
  · have hzero : (ofNat 0).units = 0 := by decide +kernel
    rw [hzero]
    exact Nat.zero_le _
  · have hle := units_ofQuotient_le false Nat.one_pos hpos (by rwa [Nat.mul_one])
    rwa [Nat.mul_one] at hle

/-- The product of two rounded naturals is finite when it is well below the power of two above the
greatest number. -/
theorem isFinite_mul_ofNat {m n : Nat} (hm : m < (2 ^ 54 - 1) * 2 ^ 970)
    (hn : n < (2 ^ 54 - 1) * 2 ^ 970) (h : m * n ≤ (2 ^ 54 - 5) * 2 ^ 970) :
    ((ofNat m).mul (ofNat n)).isFinite = true := by
  have hunits := unitsPerOne_pos
  refine isFinite_ofQuotient _ (Nat.mul_pos hunits hunits) (Nat.lt_of_mul_lt_mul_left (a := 2 ^ 53 * 2 ^ 53) ?_)
  calc 2 ^ 53 * 2 ^ 53 * ((ofNat m).units * (ofNat n).units)
      = 2 ^ 53 * (ofNat m).units * (2 ^ 53 * (ofNat n).units) := by ring
    _ ≤ m * unitsPerOne * (2 ^ 53 + 1) * (n * unitsPerOne * (2 ^ 53 + 1)) :=
        Nat.mul_le_mul (units_ofNat_le hm) (units_ofNat_le hn)
    _ = m * n * ((2 ^ 53 + 1) * (2 ^ 53 + 1) * (unitsPerOne * unitsPerOne)) := by ring
    _ ≤ (2 ^ 54 - 5) * 2 ^ 970 * ((2 ^ 53 + 1) * (2 ^ 53 + 1) * (unitsPerOne * unitsPerOne)) :=
        Nat.mul_le_mul_right _ h
    _ = (2 ^ 54 - 5) * ((2 ^ 53 + 1) * (2 ^ 53 + 1)) * (2 ^ 970 * (unitsPerOne * unitsPerOne)) := by ring
    _ < 2 ^ 53 * 2 ^ 53 * (2 ^ 54 - 1) * (2 ^ 970 * (unitsPerOne * unitsPerOne)) :=
        Nat.mul_lt_mul_of_pos_right (by decide)
          (Nat.mul_pos (Nat.pow_pos (by decide)) (Nat.mul_pos hunits hunits))
    _ = 2 ^ 53 * 2 ^ 53 * ((2 ^ 54 - 1) * 2 ^ 970 * (unitsPerOne * unitsPerOne)) := by ring

/-! ## Results that are finite -/

/-- No rounded quotient is beyond infinity. -/
theorem isFinite_of_not_isInfinite {negative : Bool}
    (h : (ofQuotient negative num den).isInfinite = false) :
    (ofQuotient negative num den).isFinite = true := by
  have hle := Nat.min_le_left infinityPattern (excess num den * fieldUnit + significand num den)
  have hlt := ofQuotient_lt num den
  rw [ofQuotient_eq] at h ⊢
  rw [isInfinite, pattern_ofPattern _ hlt, decide_eq_false_iff_not] at h
  rw [isFinite, pattern_ofPattern _ hlt, decide_eq_true_iff]
  exact Nat.lt_of_le_of_ne hle h

theorem isFinite_neg {x : Binary64} : x.neg.isFinite = x.isFinite := by
  rw [isFinite, neg, pattern_ofPattern _ x.pattern_lt, isFinite]

theorem units_lt_of_isFinite {x : Binary64} (hx : x.isFinite = true) :
    x.units < (2 ^ 54 - 1) * 2 ^ 2044 := by
  have hpattern : x.pattern < infinityPattern := of_decide_eq_true hx
  have hfraction : x.pattern % fieldUnit < fieldUnit := Nat.mod_lt _ (by decide)
  have hstep : 0 < 2 ^ 2044 := Nat.pow_pos (by decide)
  have hfield : 2 ^ (x.pattern / fieldUnit - 1) ≤ 2 ^ 2044 * 2 := by
    rw [← Nat.pow_succ]
    refine Nat.pow_le_pow_right (by decide) ?_
    unfold fieldUnit infinityPattern at *
    omega
  unfold units
  dsimp only
  rw [Nat.shiftLeft_eq]
  generalize 2 ^ (x.pattern / fieldUnit - 1) = scale at *
  generalize 2 ^ 2044 = step at *
  unfold fieldUnit at *
  split
  · omega
  · calc (0x10000000000000 + x.pattern % 0x10000000000000) * scale
        ≤ (2 ^ 53 - 1) * (step * 2) := Nat.mul_le_mul (by omega) hfield
      _ < (2 ^ 54 - 1) * step := by omega

theorem unitsPerOne_le_units_ofNat {n : Nat} (hpos : 0 < n) (h : n < (2 ^ 54 - 1) * 2 ^ 970) :
    unitsPerOne ≤ (ofNat n).units := by
  have hone : 0 < 1 := Nat.one_pos
  have hfinite : (ofQuotient false n 1).isFinite = true := isFinite_ofQuotient false hone (by rwa [Nat.mul_one])
  have hexcess := excess_pos hone hpos
  have hsignificand : 2 ^ 52 ≤ significand n 1 := le_significand hone hexcess
  have hlog : 1022 ≤ excess n 1 := by
    have hunits : 2 ^ 1074 ≤ n * unitsPerOne := by
      rw [unitsPerOne_eq]
      exact Nat.le_mul_of_pos_left _ hpos
    have hle := (Nat.le_log2 (Nat.ne_of_gt (Nat.lt_of_lt_of_le (Nat.pow_pos (by decide)) hunits))).2 hunits
    unfold excess
    rw [Nat.div_one]
    omega
  rw [ofNat, units_ofQuotient hone hfinite, unitsPerOne_eq, show 1074 = 52 + 1022 from rfl, Nat.pow_add]
  exact Nat.mul_le_mul hsignificand (Nat.pow_le_pow_right (by decide) hlog)

/-- What is divided by one or more stays finite. -/
theorem isFinite_div {x y : Binary64} (hx : x.isFinite = true) (hy : unitsPerOne ≤ y.units) :
    (x.div y).isFinite = true := by
  have hunits := unitsPerOne_pos
  refine isFinite_ofQuotient _ (Nat.lt_of_lt_of_le hunits hy) ?_
  calc x.units < (2 ^ 54 - 1) * 2 ^ 2044 := units_lt_of_isFinite hx
    _ = (2 ^ 54 - 1) * 2 ^ 970 * unitsPerOne := by
        rw [unitsPerOne_eq, show 2044 = 970 + 1074 from rfl, Nat.pow_add, Nat.mul_assoc]
    _ ≤ (2 ^ 54 - 1) * 2 ^ 970 * y.units := Nat.mul_le_mul_left _ hy

end Chronicle.Binary64
