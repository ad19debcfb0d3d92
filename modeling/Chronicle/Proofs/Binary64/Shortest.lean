import Chronicle.Proofs.Binary64.Nearest

/-!
# Shortest numerals

The shortest numeral of a finite number is in the neighbourhood of the number, so it would be rounded to this
number. Its coefficient has few digits, since the next coarser grid has no point in the neighbourhood.
-/
namespace Chronicle.Binary64

variable {n : Neighbourhood} {tie : TieRule} {cell c k : Nat} {exponent : Int}

/-- A decimal is in a neighbourhood. Both are multiplied by the power of ten that makes them whole. -/
def Neighbourhood.Covers (n : Neighbourhood) (d : Decimal) : Prop :=
  (n.scale (10 ^ (-d.exponent).toNat)).holds
    (d.coefficient * (4 * unitsPerOne * 10 ^ d.exponent.toNat)) = true

namespace Neighbourhood

/-! ## Points of a grid -/

/-- A point of a grid is one of the two around the centre. -/
theorem nearest?_eq_some (h : n.nearest? tie cell = some c) :
    (c = n.centre / cell ∨ c = n.centre / cell + 1) ∧ n.holds (c * cell) = true := by
  unfold nearest? at h
  dsimp only at h
  split at h
  · cases h
  case h_2 hbelow _ =>
    cases h
    exact ⟨.inl rfl, hbelow⟩
  case h_3 _ habove =>
    cases h
    exact ⟨.inr rfl, habove⟩
  case h_4 hbelow habove =>
    split at h
    · cases h
      exact ⟨.inl rfl, hbelow⟩
    split at h
    · cases h
      exact ⟨.inr rfl, habove⟩
    cases tie with
    | up =>
      cases h
      exact ⟨.inr rfl, habove⟩
    | even =>
      dsimp only at h
      split at h
      · cases h
        exact ⟨.inl rfl, hbelow⟩
      · cases h
        exact ⟨.inr rfl, habove⟩

theorem nearest?_eq_none (h : n.nearest? tie cell = none) :
    n.holds (n.centre / cell * cell) = false ∧ n.holds ((n.centre / cell + 1) * cell) = false := by
  unfold nearest? at h
  dsimp only at h
  split at h
  case h_1 hbelow habove => exact ⟨hbelow, habove⟩
  · cases h
  · cases h
  · split at h
    · cases h
    split at h
    · cases h
    cases tie <;> cases h

theorem onGrid?_eq (n : Neighbourhood) (tie : TieRule) (exponent : Int) : n.onGrid? tie exponent =
    (n.scale (10 ^ (-exponent).toNat)).nearest? tie (4 * unitsPerOne * 10 ^ exponent.toNat) := by
  unfold onGrid?
  dsimp only
  cases exponent with
  | ofNat k =>
    have hdown : (-(Int.ofNat k)).toNat = 0 := by
      change (-(k : Int)).toNat = 0
      omega
    have hup : (Int.ofNat k).toNat = k := rfl
    have hone : n.scale 1 = n := by
      unfold scale
      rw [Nat.mul_one, Nat.mul_one, Nat.mul_one]
    rw [hdown, hup, Nat.pow_zero, hone]
    rfl
  | negSucc k =>
    have hdown : (-(Int.negSucc k)).toNat = k + 1 := rfl
    have hup : (Int.negSucc k).toNat = 0 := rfl
    rw [hdown, hup, Nat.pow_zero, Nat.mul_one]
    rfl

theorem covers_of_onGrid? (h : n.onGrid? tie exponent = some c) : n.Covers ⟨c, exponent⟩ := by
  rw [onGrid?_eq] at h
  exact (nearest?_eq_some h).2

/-- The centre is at most so many steps of a grid away from zero. -/
def Within (n : Neighbourhood) (limit : Nat) (exponent : Int) : Prop :=
  n.centre * 10 ^ (-exponent).toNat < limit * (4 * unitsPerOne * 10 ^ exponent.toNat)

theorem Within.le_of_onGrid? {limit : Nat} (hn : n.Within limit exponent)
    (h : n.onGrid? tie exponent = some c) : c ≤ limit := by
  rw [onGrid?_eq] at h
  have hcell : 0 < 4 * unitsPerOne * 10 ^ exponent.toNat :=
    Nat.mul_pos (Nat.mul_pos (by decide) unitsPerOne_pos) (Nat.pow_pos (by decide))
  have hlt := (Nat.div_lt_iff_lt_mul hcell).2 hn
  rcases (nearest?_eq_some h).1 with rfl | rfl
  · exact Nat.le_of_lt hlt
  · exact hlt

/-! ## The coarsest grid -/

/-- A neighbourhood that is away from zero, and how wide it is around its centre. -/
structure Roomy (n : Neighbourhood) : Prop where
  pos : 0 < n.low
  below : n.low + 2 ≤ n.centre
  above : n.centre + 2 ≤ n.high
  relative : n.centre < 2 ^ 54 * (n.high - n.centre)

/-- A grid without points in the neighbourhood has steps as wide as the neighbourhood. -/
theorem Roomy.within_of_onGrid? (hn : n.Roomy) (h : n.onGrid? tie exponent = none) :
    n.Within (2 ^ 54) exponent := by
  rw [onGrid?_eq] at h
  obtain ⟨-, habove⟩ := nearest?_eq_none h
  have hscale : 0 < 10 ^ (-exponent).toNat := Nat.pow_pos (by decide)
  have hcell : 0 < 4 * unitsPerOne * 10 ^ exponent.toNat :=
    Nat.mul_pos (Nat.mul_pos (by decide) unitsPerOne_pos) (Nat.pow_pos (by decide))
  unfold Within
  unfold scale at habove
  dsimp only at habove
  generalize 10 ^ (-exponent).toNat = scale at *
  generalize 4 * unitsPerOne * 10 ^ exponent.toNat = cell at *
  have hdiv := Nat.div_add_mod (n.centre * scale) cell
  have hmod := Nat.mod_lt (n.centre * scale) hcell
  have hsucc : (n.centre * scale / cell + 1) * cell = cell * (n.centre * scale / cell) + cell := by
    rw [Nat.succ_mul, Nat.mul_comm]
  have hlow : n.low * scale ≤ n.centre * scale := Nat.mul_le_mul_right _ (by have := hn.below; omega)
  have hhigh : n.high * scale ≤ (n.centre * scale / cell + 1) * cell := by
    refine Nat.not_lt.1 fun hlt => Bool.eq_false_iff.1 habove ?_
    rw [holds_iff]
    dsimp only
    omega
  have hwide : (n.high - n.centre) * scale ≤ cell := by
    rw [Nat.sub_mul]
    omega
  calc n.centre * scale < 2 ^ 54 * (n.high - n.centre) * scale :=
        Nat.mul_lt_mul_of_pos_right hn.relative hscale
    _ = 2 ^ 54 * ((n.high - n.centre) * scale) := Nat.mul_assoc _ _ _
    _ ≤ 2 ^ 54 * cell := Nat.mul_le_mul_left _ hwide

/-- On the next finer grid it is ten times as far. -/
theorem Within.finer {limit : Nat} (h : n.Within limit (exponent + 1)) :
    n.Within (10 * limit) exponent := by
  unfold Within at *
  rcases Int.lt_or_le exponent 0 with hneg | hpos
  · have hdown : (-exponent).toNat = (-(exponent + 1)).toNat + 1 := by omega
    have hup : exponent.toNat = (exponent + 1).toNat := by omega
    rw [hdown, hup, Nat.pow_succ]
    generalize 10 ^ (-(exponent + 1)).toNat = scale at *
    generalize 4 * unitsPerOne * 10 ^ (exponent + 1).toNat = cell at *
    calc n.centre * (scale * 10) = 10 * (n.centre * scale) := by ring
      _ < 10 * (limit * cell) := Nat.mul_lt_mul_of_pos_left h (by decide)
      _ = 10 * limit * cell := (Nat.mul_assoc _ _ _).symm
  · have hdown : (-exponent).toNat = (-(exponent + 1)).toNat := by omega
    have hup : (exponent + 1).toNat = exponent.toNat + 1 := by omega
    rw [hup, Nat.pow_succ] at h
    rw [hdown]
    refine Nat.lt_of_lt_of_le h (Nat.le_of_eq ?_)
    ring

/-- The last grid is finer than a neighbourhood. -/
theorem Roomy.onGrid?_ne_none (hn : n.Roomy) (tie : TieRule) : n.onGrid? tie (-324) ≠ none := by
  intro h
  rw [onGrid?_eq] at h
  have hfine : 4 * unitsPerOne * 10 ^ (-324 : Int).toNat < 2 * 10 ^ (-(-324) : Int).toNat := by decide +kernel
  obtain ⟨hnot, -⟩ := nearest?_eq_none h
  have hcell : 0 < 4 * unitsPerOne * 10 ^ (-324 : Int).toNat :=
    Nat.mul_pos (Nat.mul_pos (by decide) unitsPerOne_pos) (Nat.pow_pos (by decide))
  unfold scale at hnot
  dsimp only at hnot
  generalize 10 ^ (-(-324) : Int).toNat = scale at *
  generalize 4 * unitsPerOne * 10 ^ (-324 : Int).toNat = cell at *
  have hdiv := Nat.div_add_mod (n.centre * scale) cell
  have hmod := Nat.mod_lt (n.centre * scale) hcell
  have hcomm : n.centre * scale / cell * cell = cell * (n.centre * scale / cell) := Nat.mul_comm _ _
  have hlow : (n.low + 2) * scale ≤ n.centre * scale := Nat.mul_le_mul_right _ hn.below
  have hhigh : (n.centre + 2) * scale ≤ n.high * scale := Nat.mul_le_mul_right _ hn.above
  rw [Nat.add_mul] at hlow hhigh
  refine Bool.eq_false_iff.1 hnot ?_
  rw [holds_iff]
  dsimp only
  omega

theorem Roomy.covers_coarsest (hn : n.Roomy) (tie : TieRule) (steps : Nat) :
    n.Covers (n.coarsest tie steps) := by
  induction steps with
  | zero =>
    obtain ⟨c, hc⟩ := Option.ne_none_iff_exists'.1 (hn.onGrid?_ne_none tie)
    unfold coarsest
    rw [hc]
    exact covers_of_onGrid? hc
  | succ steps ih =>
    unfold coarsest
    cases h : n.onGrid? tie ((steps : Int) + 1 - 324) with
    | some c => exact covers_of_onGrid? h
    | none => exact ih

theorem Roomy.coefficient_coarsest_le (hn : n.Roomy) (tie : TieRule) {steps : Nat}
    (h : n.Within (10 * 2 ^ 54) ((steps : Int) - 324)) :
    (n.coarsest tie steps).coefficient ≤ 10 * 2 ^ 54 := by
  induction steps with
  | zero =>
    unfold coarsest
    cases hc : n.onGrid? tie (-324) with
    | some c => exact h.le_of_onGrid? hc
    | none => exact Nat.zero_le _
  | succ steps ih =>
    unfold coarsest
    cases hc : n.onGrid? tie ((steps : Int) + 1 - 324) with
    | some c => exact h.le_of_onGrid? hc
    | none =>
      refine ih (Within.finer ?_)
      have hnext : (steps : Int) - 324 + 1 = steps + 1 - 324 := by omega
      rw [hnext]
      exact hn.within_of_onGrid? hc

theorem exponent_coarsest (n : Neighbourhood) (tie : TieRule) (steps : Nat) :
    -324 ≤ (n.coarsest tie steps).exponent ∧ (n.coarsest tie steps).exponent ≤ steps - 324 := by
  induction steps with
  | zero => exact ⟨Int.le_refl _, Int.le_refl _⟩
  | succ steps ih =>
    unfold coarsest
    cases n.onGrid? tie ((steps : Int) + 1 - 324) with
    | some c =>
      dsimp only
      omega
    | none =>
      dsimp only
      omega

end Neighbourhood

/-! ## Numerals of numbers -/

variable {x : Binary64}

theorem roomy (h : x.pattern ≠ 0) : x.neighbourhood.Roomy := by
  obtain ⟨s, r, hx⟩ := x.exists_splits
  have hpos : 0 < r := Nat.pos_of_ne_zero fun hzero => h (by
    have hpattern := hx.pattern
    have hnormal := hx.normal
    unfold fieldUnit at hpattern
    omega)
  have hstep : 0 < 2 ^ s := Nat.pow_pos (by decide)
  have hunits : 2 ^ s ≤ r * 2 ^ s := Nat.le_mul_of_pos_left _ hpos
  have hlarge : r * 2 ^ s < 2 ^ 53 * 2 ^ s := Nat.mul_lt_mul_of_pos_right hx.lt hstep
  have heven : 0 < s → 2 ≤ 2 ^ s := fun hs => Nat.le_self_pow (Nat.ne_of_gt hs) 2
  rw [hx.neighbourhood_eq]
  constructor <;> dsimp only
  · split <;> omega
  · split
    case isTrue hpower =>
      have := heven hpower.2
      omega
    case isFalse => omega
  · omega
  · omega

/-- Correct rounding brings a number back from its shortest numeral. -/
theorem covers_shortest (tie : TieRule) (x : Binary64) : x.neighbourhood.Covers (x.shortest tie) := by
  unfold shortest
  split
  case isTrue hzero =>
    have hx : x.Splits 0 0 := ⟨hzero, by decide, .inl rfl⟩
    rw [hx.neighbourhood_eq, Neighbourhood.Covers]
    decide +kernel
  case isFalse hpos => exact (roomy hpos).covers_coarsest tie _

theorem exponent_shortest (tie : TieRule) (x : Binary64) :
    -324 ≤ (x.shortest tie).exponent ∧ (x.shortest tie).exponent ≤ 309 := by
  unfold shortest
  split
  · dsimp only
    omega
  · exact x.neighbourhood.exponent_coarsest tie _

theorem coefficient_shortest_le (tie : TieRule) (hx : x.isFinite = true) :
    (x.shortest tie).coefficient ≤ 10 * 2 ^ 54 := by
  unfold shortest
  split
  · exact Nat.zero_le _
  case isFalse hpos =>
    refine (roomy hpos).coefficient_coarsest_le tie ?_
    have hcentre : x.neighbourhood.centre = 4 * x.units := rfl
    have hunits := units_lt_of_isFinite hx
    have hlarge : 4 * ((2 ^ 54 - 1) * 2 ^ 2044) ≤
        10 * 2 ^ 54 * (4 * unitsPerOne * 10 ^ ((324 + 309 : Nat) - 324 : Int).toNat) := by decide +kernel
    have hwhole : (-((324 + 309 : Nat) - 324 : Int)).toNat = 0 := rfl
    unfold Neighbourhood.Within
    rw [hcentre, hwhole, Nat.pow_zero, Nat.mul_one]
    exact Nat.lt_of_lt_of_le (Nat.mul_lt_mul_of_pos_left hunits (by decide)) hlarge

/-- Only zero has a coefficient of zero. -/
theorem coefficient_shortest_pos (tie : TieRule) (h : x.pattern ≠ 0) :
    0 < (x.shortest tie).coefficient := by
  have hlow := (Neighbourhood.holds_iff.1 (x.covers_shortest tie)).1
  refine Nat.pos_of_ne_zero fun hnone => ?_
  have hpos : 0 < x.neighbourhood.low * 10 ^ (-(x.shortest tie).exponent).toNat :=
    Nat.mul_pos (roomy h).pos (Nat.pow_pos (by decide))
  rw [hnone, Nat.zero_mul] at hlow
  exact absurd hlow (Nat.not_le.2 hpos)

theorem shortest_of_pattern_eq_zero (tie : TieRule) (h : x.pattern = 0) : x.shortest tie = ⟨0, 0⟩ := by
  rw [shortest, if_pos h]

theorem shortest_bound (tie : TieRule) (x : Binary64) :
    0 < (x.shortest tie).coefficient ∨ (x.shortest tie).exponent = 0 := by
  by_cases hzero : x.pattern = 0
  · exact .inr (by rw [shortest_of_pattern_eq_zero tie hzero])
  · exact .inl (coefficient_shortest_pos tie hzero)

end Chronicle.Binary64
