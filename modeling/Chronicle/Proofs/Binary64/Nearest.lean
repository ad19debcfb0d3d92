import Chronicle.Binary64.Shortest
import Chronicle.Proofs.Binary64.Rounding

/-!
# What is rounded to a number

A quotient is rounded to a finite number just when it is in the neighbourhood of the number. Neighbourhoods
of different numbers have at most a bound in common, which then belongs to one of them.
-/
namespace Chronicle.Binary64

variable {x y : Binary64} {s r k q : Nat}

/-! ## Exponent and significand -/

/-- The size of a number is a significand times a power of two, which is the smallest one when the
significand has fewer than 53 binary digits. -/
structure Splits (x : Binary64) (s r : Nat) : Prop where
  pattern : x.pattern = s * fieldUnit + r
  lt : r < 2 ^ 53
  normal : s = 0 ∨ 2 ^ 52 ≤ r

theorem exists_splits (x : Binary64) : ∃ s r, x.Splits s r := by
  have hdiv := Nat.div_add_mod x.pattern fieldUnit
  have hmod : x.pattern % fieldUnit < fieldUnit := Nat.mod_lt _ (by decide)
  unfold fieldUnit at *
  rcases Nat.eq_zero_or_pos (x.pattern / 0x10000000000000) with hzero | hpos
  · exact ⟨0, x.pattern, by omega, by omega, .inl rfl⟩
  · refine ⟨x.pattern / 0x10000000000000 - 1, 2 ^ 52 + x.pattern % 0x10000000000000, ?_, by omega,
      .inr (by omega)⟩
    unfold fieldUnit
    omega

/-- The next greater number. -/
theorem Splits.succ (h : x.Splits s r) (hy : y.pattern = x.pattern + 1) :
    y.Splits s (r + 1) ∨ r + 1 = 2 ^ 53 ∧ y.Splits (s + 1) (2 ^ 52) := by
  obtain ⟨hpattern, hlt, hnormal⟩ := h
  unfold fieldUnit at *
  by_cases hcarry : r + 1 = 2 ^ 53
  · refine .inr ⟨hcarry, ?_, by decide, .inr (Nat.le_refl _)⟩
    unfold fieldUnit
    omega
  · refine .inl ⟨?_, by omega, by omega⟩
    unfold fieldUnit
    omega

theorem Splits.neighbourhood_eq (h : x.Splits s r) : x.neighbourhood =
    { low := 4 * (r * 2 ^ s) - (if r = 2 ^ 52 ∧ 0 < s then 2 ^ s else 2 * 2 ^ s)
      centre := 4 * (r * 2 ^ s)
      high := 4 * (r * 2 ^ s) + 2 * 2 ^ s
      closed := r % 2 == 0 } := by
  obtain ⟨hpattern, hlt, hnormal⟩ := h
  unfold neighbourhood units
  dsimp only
  by_cases hsmall : s = 0 ∧ r < 2 ^ 52
  · obtain ⟨rfl, hlt⟩ := hsmall
    have hfield : x.pattern / fieldUnit = 0 := by unfold fieldUnit at *; omega
    have hfraction : x.pattern % fieldUnit = r := by unfold fieldUnit at *; omega
    rw [hfield, hfraction, if_pos rfl, if_neg (by omega), if_neg (by omega)]
    simp
  · obtain ⟨f, rfl⟩ : ∃ f, r = 2 ^ 52 + f := Nat.exists_eq_add_of_le (by omega)
    have hfield : x.pattern / fieldUnit = s + 1 := by unfold fieldUnit at *; omega
    have hfraction : x.pattern % fieldUnit = f := by unfold fieldUnit at *; omega
    have heven : (2 ^ 52 + f) % 2 = f % 2 := by omega
    have hpower : (2 ^ 52 + f = 2 ^ 52 ∧ 0 < s) ↔ (f = 0 ∧ 1 < s + 1) := by omega
    rw [hfield, hfraction, if_neg (Nat.succ_ne_zero s), Nat.succ_sub_one, Nat.shiftLeft_eq,
      Nat.shiftLeft_eq, heven]
    have hhalf : 2 * 2 ^ s / 2 = 2 ^ s := by omega
    simp only [hpower, hhalf]
    rfl

theorem neighbourhood_congr (h : x.pattern = y.pattern) : x.neighbourhood = y.neighbourhood := by
  unfold neighbourhood units
  rw [h]

/-! ## Where neighbourhoods meet -/

theorem closed_eq (x : Binary64) : x.neighbourhood.closed = (x.pattern % 2 == 0) := by
  obtain ⟨s, r, hx⟩ := x.exists_splits
  have heven : x.pattern % 2 = r % 2 := by
    rw [hx.pattern]
    unfold fieldUnit
    omega
  rw [hx.neighbourhood_eq, heven]

theorem low_lt_high (x : Binary64) : x.neighbourhood.low < x.neighbourhood.high := by
  obtain ⟨s, r, hx⟩ := x.exists_splits
  have hpos : 0 < 2 ^ s := Nat.pow_pos (by decide)
  rw [hx.neighbourhood_eq]
  dsimp only
  omega

theorem high_eq_low (h : y.pattern = x.pattern + 1) : x.neighbourhood.high = y.neighbourhood.low := by
  obtain ⟨s, r, hx⟩ := x.exists_splits
  rcases hx.succ h with hy | ⟨hcarry, hy⟩
  · have hpower : ¬ (r + 1 = 2 ^ 52 ∧ 0 < s) := fun hboth => by
      have := hx.normal
      omega
    have hnext : (r + 1) * 2 ^ s = r * 2 ^ s + 2 ^ s := Nat.succ_mul _ _
    rw [hx.neighbourhood_eq, hy.neighbourhood_eq]
    dsimp only
    rw [if_neg hpower, hnext]
    omega
  · obtain rfl : r = 2 ^ 53 - 1 := by omega
    have hdouble : 2 ^ (s + 1) = 2 ^ s * 2 := Nat.pow_succ 2 s
    rw [hx.neighbourhood_eq, hy.neighbourhood_eq]
    dsimp only
    rw [if_pos ⟨rfl, Nat.succ_pos s⟩, hdouble]
    omega

/-- The neighbourhood of a greater number begins where another one ends, and later unless it is the next
one. -/
theorem high_le_low (h : x.pattern < y.pattern) : x.neighbourhood.high ≤ y.neighbourhood.low ∧
    (x.neighbourhood.high = y.neighbourhood.low → y.pattern = x.pattern + 1) := by
  obtain ⟨k, hk⟩ := Nat.exists_eq_add_of_lt h
  induction k generalizing x with
  | zero => exact ⟨Nat.le_of_eq (high_eq_low hk), fun _ => hk⟩
  | succ k ih =>
    have hnext : (ofPattern false (x.pattern + 1)).pattern = x.pattern + 1 :=
      pattern_ofPattern false (Nat.lt_of_le_of_lt h y.pattern_lt)
    have hmeet := high_eq_low hnext
    have hwide := low_lt_high (ofPattern false (x.pattern + 1))
    have hrest := (ih (x := ofPattern false (x.pattern + 1)) (by omega) (by omega)).1
    exact ⟨by omega, fun heq => by omega⟩

theorem Neighbourhood.holds_iff {n : Neighbourhood} : n.holds q = true ↔
    n.low ≤ q ∧ q ≤ n.high ∧ (n.closed = false → n.low < q ∧ q < n.high) := by
  unfold holds
  cases n.closed <;> simp
  omega

/-- What is in the neighbourhood of a smaller number is below that of a greater one, or at a bound that does
not belong to it. -/
theorem lt_low_of_holds (h : x.pattern < y.pattern) (hk : 0 < k)
    (hq : (x.neighbourhood.scale k).holds q = true) :
    q < y.neighbourhood.low * k ∨ q = y.neighbourhood.low * k ∧ y.neighbourhood.closed = false := by
  obtain ⟨hle, hmeet⟩ := high_le_low h
  obtain ⟨-, hhigh, hopen⟩ := Neighbourhood.holds_iff.1 hq
  have hbound : x.neighbourhood.high * k ≤ y.neighbourhood.low * k := Nat.mul_le_mul_right k hle
  rcases Nat.lt_or_ge q (y.neighbourhood.low * k) with hlt | hge
  · exact .inl hlt
  · have hq : q = x.neighbourhood.high * k := Nat.le_antisymm hhigh (Nat.le_trans hbound hge)
    have hequal : x.neighbourhood.high = y.neighbourhood.low :=
      Nat.eq_of_mul_eq_mul_right hk (Nat.le_antisymm hbound (hq ▸ hge))
    have hclosed : x.neighbourhood.closed = true := by
      cases hx : x.neighbourhood.closed with
      | true => rfl
      | false => exact absurd hq (Nat.ne_of_lt (hopen hx).2)
    refine .inr ⟨by rw [hq, hequal], ?_⟩
    rw [closed_eq] at hclosed ⊢
    rw [hmeet hequal]
    simp only [beq_iff_eq, beq_eq_false_iff_ne] at *
    omega

/-- No quotient is in two neighbourhoods. -/
theorem pattern_eq_of_holds (hk : 0 < k) (hx : (x.neighbourhood.scale k).holds q = true)
    (hy : (y.neighbourhood.scale k).holds q = true) : x.pattern = y.pattern := by
  have hnot {a b : Binary64} (ha : (a.neighbourhood.scale k).holds q = true)
      (hb : (b.neighbourhood.scale k).holds q = true) : ¬ a.pattern < b.pattern := fun hlt => by
    obtain ⟨hlow, -, hopen⟩ := Neighbourhood.holds_iff.1 hb
    rcases lt_low_of_holds hlt hk ha with hbelow | ⟨hbound, hclosed⟩
    · exact absurd hlow (Nat.not_le.2 hbelow)
    · exact absurd hbound (Nat.ne_of_gt (hopen hclosed).1)
  exact Nat.le_antisymm (Nat.not_lt.1 (hnot hy hx)) (Nat.not_lt.1 (hnot hx hy))

/-! ## Rounding -/

variable {num den : Nat}

theorem lt_of_holds (hx : x.isFinite = true) (hden : 0 < den)
    (h : (x.neighbourhood.scale den).holds (4 * (num * unitsPerOne)) = true) :
    num < (2 ^ 54 - 1) * 2 ^ 970 * den := by
  have hinfinity : (ofPattern false infinityPattern).pattern = infinityPattern :=
    pattern_ofPattern false (by decide)
  have hsplits : (ofPattern false infinityPattern).Splits 2046 (2 ^ 52) :=
    ⟨hinfinity, by decide, .inr (Nat.le_refl _)⟩
  have hbelow : 4 * (num * unitsPerOne) < (ofPattern false infinityPattern).neighbourhood.low * den := by
    refine (lt_low_of_holds (hinfinity ▸ of_decide_eq_true hx) hden h).resolve_right fun hbound => ?_
    rw [hsplits.neighbourhood_eq] at hbound
    exact absurd hbound.2 (by decide)
  rw [hsplits.neighbourhood_eq, if_pos (by decide)] at hbelow
  refine Nat.lt_of_mul_lt_mul_left (a := 4 * unitsPerOne) ?_
  calc 4 * unitsPerOne * num = 4 * (num * unitsPerOne) := by ring
    _ < (4 * (2 ^ 52 * 2 ^ 2046) - 2 ^ 2046) * den := hbelow
    _ = (2 ^ 54 - 1) * 2 ^ 2046 * den := by
        generalize 2 ^ 2046 = step
        congr 1
        omega
    _ = 4 * unitsPerOne * ((2 ^ 54 - 1) * 2 ^ 970 * den) := by
        rw [unitsPerOne_eq, show 2046 = 2 + 1074 + 970 from rfl, Nat.pow_add, Nat.pow_add]
        ring

theorem Splits.holds (hy : y.Splits s r) (hden : 0 < den) (hround : IsNearest num (den * 2 ^ s) r)
    (hlarge : 0 < s → 2 ^ 52 * (den * 2 ^ s) ≤ num) :
    (y.neighbourhood.scale den).holds (4 * num) = true := by
  obtain ⟨hupper, hlower, heven⟩ := hround
  have hstep : 0 < den * 2 ^ s := step_pos hden s
  have hcentre : 4 * (r * 2 ^ s) * den = 4 * (r * (den * 2 ^ s)) := by ring
  have hwide : 2 * 2 ^ s * den = 2 * (den * 2 ^ s) := by ring
  have hnarrow : 2 ^ s * den = den * 2 ^ s := Nat.mul_comm _ _
  rw [hy.neighbourhood_eq, Neighbourhood.holds_iff]
  unfold Neighbourhood.scale
  dsimp only
  rw [Nat.sub_mul, Nat.add_mul, hcentre, hwide]
  split
  case isTrue hpower =>
    -- below a power of two the step is halved, so no rounding comes from beyond
    obtain ⟨rfl, hpos⟩ := hpower
    have hfull := hlarge hpos
    rw [hnarrow]
    exact ⟨by omega, by omega, fun hopen => absurd hopen (by decide)⟩
  case isFalse =>
    rw [hwide]
    refine ⟨by omega, by omega, fun hopen => ?_⟩
    have hodd : r % 2 ≠ 0 := beq_eq_false_iff_ne.1 hopen
    have hinside := mt heven hodd
    have hpos : den * 2 ^ s ≤ r * (den * 2 ^ s) := Nat.le_mul_of_pos_left _ (by omega)
    omega

/-- The same when the significand is carried into the exponent. -/
theorem Splits.holds_carried (hy : y.Splits (s + 1) (2 ^ 52))
    (hround : IsNearest num (den * 2 ^ s) (2 ^ 53)) :
    (y.neighbourhood.scale den).holds (4 * num) = true := by
  obtain ⟨hupper, hlower, -⟩ := hround
  have hcentre : 4 * (2 ^ 52 * 2 ^ (s + 1)) * den = 4 * (2 ^ 53 * (den * 2 ^ s)) := by ring
  have hbelow : 2 ^ (s + 1) * den = 2 * (den * 2 ^ s) := by ring
  have habove : 2 * 2 ^ (s + 1) * den = 4 * (den * 2 ^ s) := by ring
  rw [hy.neighbourhood_eq, Neighbourhood.holds_iff, if_pos ⟨rfl, Nat.succ_pos s⟩]
  unfold Neighbourhood.scale
  dsimp only
  rw [Nat.sub_mul, Nat.add_mul, hcentre, hbelow, habove]
  exact ⟨by omega, by omega, fun hopen => absurd hopen (by decide)⟩

/-- A quotient is in the neighbourhood of the number that it is rounded to. -/
theorem holds_ofQuotient {negative : Bool} (hden : 0 < den)
    (h : (ofQuotient negative num den).isFinite = true) :
    ((ofQuotient negative num den).neighbourhood.scale den).holds (4 * (num * unitsPerOne)) = true := by
  have hround : IsNearest (num * unitsPerOne) (den * 2 ^ excess num den) (significand num den) :=
    isNearest_roundQuotient (step_pos hden _)
  have hpattern : (ofQuotient negative num den).pattern =
      excess num den * fieldUnit + significand num den := by
    have hlt : (ofQuotient negative num den).pattern < infinityPattern := of_decide_eq_true h
    rw [ofQuotient_eq, pattern_ofPattern _ (ofQuotient_lt num den)] at *
    omega
  have hle : significand num den ≤ 2 ^ 53 := significand_le hden
  rcases Nat.lt_or_eq_of_le hle with hlt | hcarry
  · have hnormal : excess num den = 0 ∨ 2 ^ 52 ≤ significand num den :=
      (Nat.eq_zero_or_pos _).imp_right (le_significand hden)
    exact Splits.holds ⟨hpattern, hlt, hnormal⟩ hden hround (le_scaled hden)
  · rw [hcarry] at hround hpattern
    refine Splits.holds_carried ⟨?_, by decide, .inr (Nat.le_refl _)⟩ hround
    rw [hpattern]
    unfold fieldUnit
    omega

/-- A quotient is rounded to a finite number, but for the sign, just when it is in the neighbourhood of the
number. -/
theorem pattern_ofQuotient_eq_iff (negative : Bool) (hx : x.isFinite = true) (hden : 0 < den) :
    (ofQuotient negative num den).pattern = x.pattern ↔
      (x.neighbourhood.scale den).holds (4 * (num * unitsPerOne)) = true := by
  constructor
  · intro h
    rw [← neighbourhood_congr h]
    exact holds_ofQuotient hden (by rwa [isFinite, h])
  · intro h
    exact pattern_eq_of_holds hden
      (holds_ofQuotient hden (isFinite_ofQuotient negative hden (lt_of_holds hx hden h))) h

end Chronicle.Binary64
