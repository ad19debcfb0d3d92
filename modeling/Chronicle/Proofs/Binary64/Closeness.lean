import Chronicle.Proofs.Binary64.Shortest

/-!
# How close numbers are

A rounding changes a quotient by a small part of it, and small parts add up over products. Quotients that are
close are in neighbourhoods of numbers that are few places apart.
-/
namespace Chronicle.Binary64

/-- Of two naturals neither is greater than the other by more than `part` parts in `2^60`. -/
structure Close (part a b : Nat) : Prop where
  le : 2 ^ 60 * a ≤ (2 ^ 60 + part) * b
  ge : 2 ^ 60 * b ≤ (2 ^ 60 + part) * a

namespace Close

variable {k l a b c d : Nat}

theorem refl (k a : Nat) : Close k a a :=
  ⟨Nat.mul_le_mul_right a (Nat.le_add_right _ k), Nat.mul_le_mul_right a (Nat.le_add_right _ k)⟩

theorem symm (h : Close k a b) : Close k b a := ⟨h.ge, h.le⟩

theorem mono (h : Close k a b) (hk : k ≤ l) : Close l a b :=
  ⟨Nat.le_trans h.le (Nat.mul_le_mul_right _ (Nat.add_le_add_left hk _)),
    Nat.le_trans h.ge (Nat.mul_le_mul_right _ (Nat.add_le_add_left hk _))⟩

theorem mul_le (hab : 2 ^ 60 * a ≤ (2 ^ 60 + k) * b) (hcd : 2 ^ 60 * c ≤ (2 ^ 60 + l) * d)
    (hkl : k * l ≤ 2 ^ 60) : 2 ^ 60 * (a * c) ≤ (2 ^ 60 + (k + l + 1)) * (b * d) := by
  refine Nat.le_of_mul_le_mul_left ?_ (Nat.two_pow_pos 60)
  calc 2 ^ 60 * (2 ^ 60 * (a * c)) = 2 ^ 60 * a * (2 ^ 60 * c) := by ring
    _ ≤ (2 ^ 60 + k) * b * ((2 ^ 60 + l) * d) := Nat.mul_le_mul hab hcd
    _ = (2 ^ 60 * (2 ^ 60 + (k + l)) + k * l) * (b * d) := by ring
    _ ≤ (2 ^ 60 * (2 ^ 60 + (k + l)) + 2 ^ 60) * (b * d) :=
        Nat.mul_le_mul_right _ (Nat.add_le_add_left hkl _)
    _ = 2 ^ 60 * ((2 ^ 60 + (k + l + 1)) * (b * d)) := by ring

/-- Parts add up, and one more is enough for their product. -/
theorem mul (hab : Close k a b) (hcd : Close l c d) (hkl : k * l ≤ 2 ^ 60) :
    Close (k + l + 1) (a * c) (b * d) :=
  ⟨mul_le hab.le hcd.le hkl, mul_le hab.ge hcd.ge hkl⟩

theorem mul_right (h : Close k a b) (c : Nat) : Close k (a * c) (b * c) := by
  constructor
  · calc 2 ^ 60 * (a * c) = 2 ^ 60 * a * c := (Nat.mul_assoc _ _ _).symm
      _ ≤ (2 ^ 60 + k) * b * c := Nat.mul_le_mul_right c h.le
      _ = (2 ^ 60 + k) * (b * c) := Nat.mul_assoc _ _ _
  · calc 2 ^ 60 * (b * c) = 2 ^ 60 * b * c := (Nat.mul_assoc _ _ _).symm
      _ ≤ (2 ^ 60 + k) * a * c := Nat.mul_le_mul_right c h.ge
      _ = (2 ^ 60 + k) * (a * c) := Nat.mul_assoc _ _ _

theorem of_mul_right (hc : 0 < c) (h : Close k (a * c) (b * c)) : Close k a b := by
  constructor
  · refine Nat.le_of_mul_le_mul_right ?_ hc
    calc 2 ^ 60 * a * c = 2 ^ 60 * (a * c) := Nat.mul_assoc _ _ _
      _ ≤ (2 ^ 60 + k) * (b * c) := h.le
      _ = (2 ^ 60 + k) * b * c := (Nat.mul_assoc _ _ _).symm
  · refine Nat.le_of_mul_le_mul_right ?_ hc
    calc 2 ^ 60 * b * c = 2 ^ 60 * (b * c) := Nat.mul_assoc _ _ _
      _ ≤ (2 ^ 60 + k) * (a * c) := h.ge
      _ = (2 ^ 60 + k) * a * c := (Nat.mul_assoc _ _ _).symm

end Close

/-! ## One rounding -/

variable {num den t k : Nat}

/-- The more units a quotient has, the smaller is the part by which it is changed. From `2^52` on it is one
part in `2^53`. -/
theorem close_ofQuotient {negative : Bool} (hden : 0 < den)
    (h : (ofQuotient negative num den).isFinite = true) (ht : t ≤ 2 ^ 52)
    (hlarge : t * den ≤ num * unitsPerOne) (hk : 2 ^ 59 ≤ k * t) :
    Close k ((ofQuotient negative num den).units * den) (num * unitsPerOne) := by
  have hround : IsNearest (num * unitsPerOne) (den * 2 ^ excess num den) (significand num den) :=
    isNearest_roundQuotient (step_pos hden _)
  have hsteps : t * (den * 2 ^ excess num den) ≤ num * unitsPerOne ∧ t ≤ significand num den := by
    rcases Nat.eq_zero_or_pos (excess num den) with hzero | hpos
    · have hfloor := div_le_roundQuotient (num * unitsPerOne) (den * 2 ^ excess num den)
      rw [hzero, Nat.pow_zero, Nat.mul_one] at hfloor ⊢
      refine ⟨hlarge, Nat.le_trans ((Nat.le_div_iff_mul_le hden).2 hlarge) ?_⟩
      rwa [significand, hzero, Nat.pow_zero, Nat.mul_one]
    · exact ⟨Nat.le_trans (Nat.mul_le_mul_right _ ht) (le_scaled hden hpos),
        Nat.le_trans ht (le_significand hden hpos)⟩
  have hunits : (ofQuotient negative num den).units * den =
      significand num den * (den * 2 ^ excess num den) := by
    rw [units_ofQuotient hden h]
    ring
  rw [hunits]
  obtain ⟨hupper, hlower, -⟩ := hround
  obtain ⟨hquotient, hrounded⟩ := hsteps
  have hscaled := Nat.mul_le_mul_left k hquotient
  have hcounted := Nat.mul_le_mul_left k (Nat.mul_le_mul_right (den * 2 ^ excess num den) hrounded)
  have hhalf := Nat.mul_le_mul_right (den * 2 ^ excess num den) hk
  rw [Nat.mul_assoc] at hhalf
  generalize significand num den * (den * 2 ^ excess num den) = rounded at *
  generalize num * unitsPerOne = exact at *
  generalize t * (den * 2 ^ excess num den) = bound at *
  generalize den * 2 ^ excess num den = step at *
  constructor <;> rw [Nat.add_mul] <;> omega

/-! ## No rounding -/

theorem roundQuotient_mul_self (n : Nat) (hden : 0 < den) : roundQuotient (n * den) den = n := by
  unfold roundQuotient
  dsimp only
  rw [Nat.mul_mod_left, Nat.mul_div_cancel n hden, if_pos hden]

/-- A natural with at most 53 binary digits before its zeros is a number. -/
theorem units_ofNat_eq {n a s : Nat} (hn : n = a * 2 ^ s) (ha : a < 2 ^ 53)
    (h : n < (2 ^ 54 - 1) * 2 ^ 970) : (ofNat n).units = n * unitsPerOne := by
  have hone : 0 < 1 := Nat.one_pos
  have hfinite : (ofQuotient false n 1).isFinite = true := isFinite_ofQuotient false hone (by rwa [Nat.mul_one])
  have hscaled : n * unitsPerOne = a * 2 ^ (s + 1074) := by
    rw [hn, unitsPerOne_eq, Nat.pow_add, Nat.mul_assoc]
  have hexcess : excess n 1 ≤ s + 1074 := by
    unfold excess
    rw [Nat.div_one, hscaled]
    rcases Nat.eq_zero_or_pos a with rfl | hpos
    · rw [Nat.zero_mul]
      exact Nat.zero_le _
    · have hlt : a * 2 ^ (s + 1074) < 2 ^ (53 + (s + 1074)) := by
        rw [Nat.pow_add 2 53]
        exact Nat.mul_lt_mul_of_pos_right ha (Nat.pow_pos (by decide))
      have hne : a * 2 ^ (s + 1074) ≠ 0 := Nat.ne_of_gt (Nat.mul_pos hpos (Nat.pow_pos (by decide)))
      have hlog := (Nat.log2_lt hne).2 hlt
      omega
  obtain ⟨t, ht⟩ := Nat.exists_eq_add_of_le hexcess
  have hwhole : n * unitsPerOne = a * 2 ^ t * (1 * 2 ^ excess n 1) := by
    rw [hscaled, ht, Nat.pow_add]
    ring
  rw [ofNat, units_ofQuotient hone hfinite, significand, hwhole,
    roundQuotient_mul_self _ (step_pos hone _), Nat.one_mul]

/-! ## Places apart -/

variable {x y : Binary64} {s r : Nat}

/-- Above a number no neighbourhood is narrower than four quarters of its last binary digit. -/
theorem Splits.low_add_le (hx : x.Splits s r) (h : x.pattern < y.pattern) :
    y.neighbourhood.low + 4 * 2 ^ s ≤ y.neighbourhood.high := by
  obtain ⟨s', r', hy⟩ := y.exists_splits
  have hpattern := h
  rw [hx.pattern, hy.pattern] at hpattern
  have hr := hx.lt
  have hr' := hy.lt
  have hnormal := hx.normal
  have hnormal' := hy.normal
  have hs : s ≤ s' := by
    unfold fieldUnit at hpattern
    omega
  have hstep : 2 ^ s ≤ 2 ^ s' := Nat.pow_le_pow_right (by decide) hs
  have hpos : 0 < r' := by
    unfold fieldUnit at hpattern
    omega
  have hunits : 2 ^ s' ≤ r' * 2 ^ s' := Nat.le_mul_of_pos_left _ hpos
  rw [hy.neighbourhood_eq]
  dsimp only
  split
  case isTrue hpower =>
    have hnext : s + 1 ≤ s' := by
      unfold fieldUnit at hpattern
      omega
    have hdouble : 2 ^ (s + 1) ≤ 2 ^ s' := Nat.pow_le_pow_right (by decide) hnext
    rw [Nat.pow_succ] at hdouble
    omega
  case isFalse => omega

theorem Splits.high_add_le (hx : x.Splits s r) {k : Nat} (h : x.pattern + (k + 1) = y.pattern) :
    x.neighbourhood.high + k * (4 * 2 ^ s) ≤ y.neighbourhood.low := by
  induction k generalizing y with
  | zero =>
    rw [Nat.zero_mul]
    exact Nat.le_of_eq (high_eq_low h.symm)
  | succ k ih =>
    have hlt : x.pattern + (k + 1) < signBit := by
      have := y.pattern_lt
      omega
    have hprevious := pattern_ofPattern false hlt
    have hbefore := ih hprevious.symm
    have hwide := hx.low_add_le (y := ofPattern false (x.pattern + (k + 1))) (by omega)
    have hmeet : (ofPattern false (x.pattern + (k + 1))).neighbourhood.high = y.neighbourhood.low :=
      high_eq_low (by omega)
    rw [Nat.succ_mul]
    omega

/-- If one quotient is greater by five parts in `2^54` at most, its number is not more than three places
greater. -/
theorem pattern_le_of_close {a b p q : Nat} (ha : 0 < a) (hb : 0 < b)
    (hp : (x.neighbourhood.scale a).holds p = true) (hq : (y.neighbourhood.scale b).holds q = true)
    (h : 2 ^ 60 * (q * a) ≤ (2 ^ 60 + 320) * (p * b)) : y.pattern ≤ x.pattern + 3 := by
  obtain ⟨s, r, hx⟩ := x.exists_splits
  refine Nat.not_lt.1 fun hlt => ?_
  obtain ⟨k, hk⟩ := Nat.exists_eq_add_of_lt hlt
  have hgap := hx.high_add_le (k := k + 3) (y := y) (by omega)
  have hstep : 0 < 2 ^ s := Nat.pow_pos (by decide)
  have hhigh : x.neighbourhood.high < 2 ^ 55 * 2 ^ s := by
    have hr : r * 2 ^ s ≤ (2 ^ 53 - 1) * 2 ^ s := Nat.mul_le_mul_right _ (Nat.le_sub_one_of_lt hx.lt)
    rw [hx.neighbourhood_eq]
    dsimp only
    omega
  have hcross : 2 ^ 60 * y.neighbourhood.low ≤ (2 ^ 60 + 320) * x.neighbourhood.high := by
    refine Nat.le_of_mul_le_mul_right ?_ (Nat.mul_pos hb ha)
    calc 2 ^ 60 * y.neighbourhood.low * (b * a) = 2 ^ 60 * (y.neighbourhood.low * b * a) := by ring
      _ ≤ 2 ^ 60 * (q * a) :=
          Nat.mul_le_mul_left _ (Nat.mul_le_mul_right a (Neighbourhood.holds_iff.1 hq).1)
      _ ≤ (2 ^ 60 + 320) * (p * b) := h
      _ ≤ (2 ^ 60 + 320) * (x.neighbourhood.high * a * b) :=
          Nat.mul_le_mul_left _ (Nat.mul_le_mul_right b (Neighbourhood.holds_iff.1 hp).2.1)
      _ = (2 ^ 60 + 320) * x.neighbourhood.high * (b * a) := by ring
  have hwide : 3 * (4 * 2 ^ s) ≤ (k + 3) * (4 * 2 ^ s) := Nat.mul_le_mul_right _ (by omega)
  omega

end Chronicle.Binary64
