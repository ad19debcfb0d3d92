import Chronicle.Proofs.Binary64.Closeness
import Chronicle.Proofs.Json.LastRounding

/-!
# Numbers that are recovered

A number is recovered from its shortest numeral just when the quotient that the reader rounds last is in the
neighbourhood of the number. This is so when nothing was rounded before. Else the number that is read is at
most three places away.
-/
namespace Chronicle

namespace Binary64

variable {x : Binary64} {a b p q : Nat}

/-- It is the quotient that is in a neighbourhood or not. -/
theorem holds_of_mul_eq (ha : 0 < a) (hb : 0 < b) (h : p * b = q * a)
    (hp : (x.neighbourhood.scale a).holds p = true) : (x.neighbourhood.scale b).holds q = true := by
  rw [Neighbourhood.holds_iff] at hp ⊢
  unfold Neighbourhood.scale at *
  dsimp only at *
  have hle (n : Nat) : n * b ≤ q ↔ n * a ≤ p :=
    calc n * b ≤ q ↔ n * b * a ≤ q * a := (Nat.mul_le_mul_right_iff ha).symm
      _ ↔ n * a * b ≤ p * b := by rw [h, Nat.mul_right_comm]
      _ ↔ n * a ≤ p := Nat.mul_le_mul_right_iff hb
  have hge (n : Nat) : q ≤ n * b ↔ p ≤ n * a :=
    calc q ≤ n * b ↔ q * a ≤ n * b * a := (Nat.mul_le_mul_right_iff ha).symm
      _ ↔ p * b ≤ n * a * b := by rw [h, Nat.mul_right_comm]
      _ ↔ p ≤ n * a := Nat.mul_le_mul_right_iff hb
  rw [hle, hge, ← Nat.not_le, ← Nat.not_le, hle, hge, Nat.not_le, Nat.not_le]
  exact hp

/-- Whether the quotient that is rounded last, when the numeral of a number is read, is in the neighbourhood
of the number. -/
def Recovered (x : Binary64) : Prop :=
  (x.neighbourhood.scale (Json.Numeral.lastQuotient (Json.Numeral.ofBinary64 x).parts).2).holds
    (4 * ((Json.Numeral.lastQuotient (Json.Numeral.ofBinary64 x).parts).1 * unitsPerOne)) = true

instance (x : Binary64) : Decidable x.Recovered := inferInstanceAs (Decidable (_ = true))

/-- Whether nothing is rounded before: the significand has at most 53 binary digits before its zeros, and the
power of ten is a number. -/
def Plain (x : Binary64) : Prop :=
  (∃ a s, (Json.Numeral.ofBinary64 x).parts.1 = a * 2 ^ s ∧ a < 2 ^ 53) ∧
    (Json.Numeral.ofBinary64 x).parts.2.natAbs ≤ 22

/-- Two numbers of the same sign that are three places apart at most. -/
structure Near (x y : Binary64) : Prop where
  negative : y.negative = x.negative
  le : y.pattern ≤ x.pattern + 3
  ge : x.pattern ≤ y.pattern + 3

theorem eq_iff_of_negative {x y : Binary64} (h : y.negative = x.negative) : y = x ↔ y.pattern = x.pattern := by
  refine ⟨fun heq => by rw [heq], fun hpattern => ?_⟩
  rw [← ofPattern_eta x, ← ofPattern_eta y, h, hpattern]

end Binary64

namespace Json.Numeral
open Binary64

variable {x : Binary64} {significand : Nat} {power : Int}

theorem units_powerOfTen_pos {n : Nat} (hn : n ≤ 308) : 0 < (powerOfTen n).units :=
  Nat.lt_of_lt_of_le unitsPerOne_pos (unitsPerOne_le_units_ofNat (Nat.pow_pos (by decide)) (pow_lt_of_le hn))

theorem lastQuotient_pos (significand : Nat) (h : -324 ≤ power) :
    0 < (lastQuotient (significand, power)).2 := by
  unfold lastQuotient
  dsimp only
  split
  · exact Nat.mul_pos unitsPerOne_pos unitsPerOne_pos
  · split
    case isTrue hsmall => exact units_powerOfTen_pos hsmall
    case isFalse => exact units_powerOfTen_pos (by omega)

/-- The digits of a number's numeral are in its neighbourhood. -/
theorem holds_parts (hx : x.isFinite = true) (h : (ofBinary64 x).parts = (significand, power)) :
    (x.neighbourhood.scale (10 ^ (-power).toNat)).holds
      (4 * (significand * 10 ^ power.toNat * unitsPerOne)) = true := by
  obtain ⟨zeros, -, hparts⟩ := parts_ofBinary64 hx
  obtain ⟨rfl, rfl⟩ := Prod.mk.inj (h.symm.trans hparts)
  refine holds_of_mul_eq (Nat.pow_pos (by decide)) (Nat.pow_pos (by decide)) ?_ (x.covers_shortest .even)
  generalize (x.shortest .even).coefficient = c
  generalize (x.shortest .even).exponent = e
  have hpow : e.toNat + (-(e - zeros)).toNat = zeros + (e - zeros).toNat + (-e).toNat := by omega
  calc c * (4 * unitsPerOne * 10 ^ e.toNat) * 10 ^ (-(e - zeros)).toNat
      = c * (4 * unitsPerOne) * 10 ^ (e.toNat + (-(e - zeros)).toNat) := by rw [Nat.pow_add]; ring
    _ = 4 * (c * 10 ^ zeros * 10 ^ (e - zeros).toNat * unitsPerOne) * 10 ^ (-e).toNat := by
        rw [hpow, Nat.pow_add, Nat.pow_add]
        ring

/-! ## Nothing rounded before -/

theorem units_powerOfTen {n : Nat} (hn : n ≤ 22) : (powerOfTen n).units = 10 ^ n * unitsPerOne := by
  have hsplit : 10 ^ n = 5 ^ n * 2 ^ n := by rw [← Nat.mul_pow]
  have hfive : 5 ^ n < 2 ^ 53 := Nat.lt_of_le_of_lt (Nat.pow_le_pow_right (by decide) hn) (by decide)
  exact units_ofNat_eq hsplit hfive (pow_lt_of_le (by omega))

theorem recovered_of_plain (hx : x.isFinite = true) (h : x.Plain) : x.Recovered := by
  obtain ⟨⟨significand, power⟩, hparts⟩ : ∃ parts, (ofBinary64 x).parts = parts := ⟨_, rfl⟩
  have hholds := holds_parts hx hparts
  rw [Plain, hparts] at h
  obtain ⟨⟨a, s, hsignificand, ha⟩, hpower⟩ := h
  have hlimit : significand ≤ significandLimit := by
    have hle := (ofBinary64 x).parts_fst_le
    rwa [hparts] at hle
  have hunits : (ofNat significand).units = significand * unitsPerOne :=
    units_ofNat_eq hsignificand ha (Nat.lt_of_le_of_lt hlimit (by decide +kernel))
  unfold Recovered
  rw [hparts]
  refine holds_of_mul_eq (Nat.pow_pos (by decide)) (lastQuotient_pos _ (by omega)) ?_ hholds
  unfold lastQuotient
  dsimp only
  rw [hunits, units_powerOfTen hpower, if_pos (by omega : power.natAbs ≤ 308)]
  split
  case isTrue hup =>
    have hdown : (-power).toNat = 0 := by omega
    have hsame : power.toNat = power.natAbs := by omega
    rw [hdown, hsame]
    dsimp only
    ring
  case isFalse hup =>
    have hup : power.toNat = 0 := by omega
    have hsame : (-power).toNat = power.natAbs := by omega
    rw [hup, hsame]
    dsimp only
    ring

/-! ## Three roundings -/

theorem close_ofNat {n : Nat} (hpos : 0 < n) (h : n < (2 ^ 54 - 1) * 2 ^ 970) :
    Close 128 (ofNat n).units (n * unitsPerOne) := by
  have hfinite : (ofQuotient false n 1).isFinite = true :=
    isFinite_ofQuotient false Nat.one_pos (by rwa [Nat.mul_one])
  have hlarge : 2 ^ 52 * 1 ≤ n * unitsPerOne :=
    Nat.le_trans (by decide +kernel : 2 ^ 52 * 1 ≤ 1 * unitsPerOne) (Nat.mul_le_mul_right _ hpos)
  have hclose := close_ofQuotient Nat.one_pos hfinite (Nat.le_refl (2 ^ 52)) hlarge (by decide : _ ≤ 128 * _)
  rwa [Nat.mul_one] at hclose

theorem close_powerOfTen {n : Nat} (hn : n ≤ 308) :
    Close 128 (powerOfTen n).units (10 ^ n * unitsPerOne) :=
  close_ofNat (Nat.pow_pos (by decide)) (pow_lt_of_le hn)

/-- The greatest power that is divided by is rounded by much less than half a step. -/
theorem close_powerOfTen_greatest : Close 13 (powerOfTen 308).units (10 ^ 308 * unitsPerOne) :=
  ⟨by decide +kernel, by decide +kernel⟩

theorem isFinite_ofNat (hlimit : significand ≤ significandLimit) : (ofNat significand).isFinite = true := by
  refine isFinite_ofQuotient false Nat.one_pos ?_
  rw [Nat.mul_one]
  exact Nat.lt_of_le_of_lt hlimit (by decide +kernel)

/-- What two roundings and that of the greatest power add up to. -/
theorem close_of_close {start quotient k l : Nat} (hpos : 0 < start)
    (hstart : Close k start (significand * unitsPerOne))
    (hquotient : Close l (quotient * (powerOfTen 308).units) (start * unitsPerOne))
    (hle : k + l + 15 ≤ 320) : Close 320 (quotient * 10 ^ 308) (significand * unitsPerOne) := by
  have hfirst := hquotient.mul hstart (Nat.le_trans (Nat.mul_le_mul (by omega : _ ≤ 320) (by omega : _ ≤ 320))
    (by decide))
  have hproduct := hfirst.mul close_powerOfTen_greatest.symm
    (Nat.le_trans (Nat.mul_le_mul_right 13 (by omega : _ ≤ 320)) (by decide))
  refine (Close.of_mul_right (c := (powerOfTen 308).units * start * unitsPerOne) ?_ ?_).mono
    (by omega : l + k + 1 + 13 + 1 ≤ 320)
  · exact Nat.mul_pos (Nat.mul_pos (units_powerOfTen_pos (Nat.le_refl 308)) hpos) unitsPerOne_pos
  · have hleft : quotient * 10 ^ 308 * ((powerOfTen 308).units * start * unitsPerOne) =
        quotient * (powerOfTen 308).units * start * (10 ^ 308 * unitsPerOne) := by ring
    have hright : significand * unitsPerOne * ((powerOfTen 308).units * start * unitsPerOne) =
        start * unitsPerOne * (significand * unitsPerOne) * (powerOfTen 308).units := by ring
    rwa [hleft, hright]

/-- The first of two divisions. A significand that is rounded itself is so great that its quotient has all
binary digits; that of another one can have a few less. -/
theorem close_first_division (hpos : 0 < significand) (hlimit : significand ≤ significandLimit) :
    Close 320 (((ofNat significand).div (powerOfTen 308)).units * 10 ^ 308) (significand * unitsPerOne) := by
  have hmax : significand < (2 ^ 54 - 1) * 2 ^ 970 := Nat.lt_of_le_of_lt hlimit (by decide +kernel)
  have hunits := unitsPerOne_le_units_ofNat hpos hmax
  have hfinite := isFinite_div_powerOfTen (isFinite_ofNat hlimit) (Nat.le_refl 308)
  have hpower : 0 < (powerOfTen 308).units := units_powerOfTen_pos (Nat.le_refl 308)
  have hwhole : (ofNat significand).div (powerOfTen 308) =
      ofQuotient false (ofNat significand).units (powerOfTen 308).units :=
    div_eq (negative_ofNat _) (negative_ofNat _)
  have hstart : 0 < (ofNat significand).units := Nat.lt_of_lt_of_le unitsPerOne_pos hunits
  rw [hwhole] at hfinite ⊢
  by_cases hexact : significand < 2 ^ 53
  · have hlarge : 1987795697598013 * (powerOfTen 308).units ≤ (ofNat significand).units * unitsPerOne :=
      Nat.le_trans (by decide +kernel : _ ≤ unitsPerOne * unitsPerOne) (Nat.mul_le_mul_right _ hunits)
    have hclose : Close 0 (ofNat significand).units (significand * unitsPerOne) := by
      rw [units_ofNat_eq (s := 0) (Nat.mul_one significand).symm hexact hmax]
      exact Close.refl 0 _
    exact close_of_close hstart hclose
      (close_ofQuotient hpower hfinite (by decide) hlarge (by decide : _ ≤ 290 * _)) (by decide)
  · have hclose := close_ofNat hpos hmax
    have hfull : 2 ^ 52 * unitsPerOne ≤ (ofNat significand).units := by
      have hge := hclose.ge
      have hgreat : 2 ^ 53 * unitsPerOne ≤ significand * unitsPerOne :=
        Nat.mul_le_mul_right _ (Nat.not_lt.1 hexact)
      omega
    have hlarge : 2 ^ 52 * (powerOfTen 308).units ≤ (ofNat significand).units * unitsPerOne :=
      Nat.le_trans (by decide +kernel : _ ≤ 2 ^ 52 * unitsPerOne * unitsPerOne) (Nat.mul_le_mul_right _ hfull)
    exact close_of_close hstart hclose
      (close_ofQuotient hpower hfinite (Nat.le_refl _) hlarge (by decide : _ ≤ 128 * _)) (by decide)

theorem close_lastQuotient (hpos : 0 < significand) (hlimit : significand ≤ significandLimit)
    (hdown : -324 ≤ power) (hup : power ≤ 308) :
    Close 320 ((lastQuotient (significand, power)).1 * 10 ^ (-power).toNat)
      (significand * 10 ^ power.toNat * (lastQuotient (significand, power)).2) := by
  have hstart := close_ofNat hpos (Nat.lt_of_le_of_lt hlimit (by decide +kernel))
  unfold lastQuotient
  dsimp only
  split
  case isTrue hnonneg =>
    have hnone : (-power).toNat = 0 := by omega
    have hsame : power.toNat = power.natAbs := by omega
    have hproduct := (hstart.mul (close_powerOfTen (by omega : power.natAbs ≤ 308)) (by decide)).mono
      (by decide : _ ≤ 320)
    rw [hnone, hsame, Nat.pow_zero, Nat.mul_one]
    have hright : significand * 10 ^ power.natAbs * (unitsPerOne * unitsPerOne) =
        significand * unitsPerOne * (10 ^ power.natAbs * unitsPerOne) := by ring
    rwa [hright]
  case isFalse hnegative =>
    have hnone : power.toNat = 0 := by omega
    have hsame : (-power).toNat = power.natAbs := by omega
    rw [hnone, hsame, Nat.pow_zero, Nat.mul_one]
    split
    case isTrue hsmall =>
      have hproduct := (hstart.mul (close_powerOfTen hsmall).symm (by decide)).mono (by decide : _ ≤ 320)
      refine Close.of_mul_right unitsPerOne_pos ?_
      have hleft : (ofNat significand).units * 10 ^ power.natAbs * unitsPerOne =
          (ofNat significand).units * (10 ^ power.natAbs * unitsPerOne) := Nat.mul_assoc _ _ _
      have hright : significand * (powerOfTen power.natAbs).units * unitsPerOne =
          significand * unitsPerOne * (powerOfTen power.natAbs).units := Nat.mul_right_comm _ _ _
      rwa [hleft, hright]
    case isFalse hlarge =>
      dsimp only
      have hsplit : power.natAbs = 308 + (power.natAbs - 308) := by omega
      rw [units_powerOfTen (by omega : power.natAbs - 308 ≤ 22)]
      have hdivision := (close_first_division hpos hlimit).mul_right (10 ^ (power.natAbs - 308))
      have hleft : ((ofNat significand).div (powerOfTen 308)).units * 10 ^ power.natAbs =
          ((ofNat significand).div (powerOfTen 308)).units * 10 ^ 308 * 10 ^ (power.natAbs - 308) := by
        conv_lhs => rw [hsplit, Nat.pow_add, ← Nat.mul_assoc]
      have hright : significand * (10 ^ (power.natAbs - 308) * unitsPerOne) =
          significand * unitsPerOne * 10 ^ (power.natAbs - 308) := by ring
      rwa [hleft, hright]

/-- A number is read as itself just when it is recovered. -/
theorem reread_eq_iff (hx : x.isFinite = true) : x.reread = x ↔ x.Recovered := by
  have hexponent := x.exponent_shortest .even
  obtain ⟨zeros, hzeros, hparts⟩ := parts_ofBinary64 hx
  have hden : 0 < (lastQuotient (ofBinary64 x).parts).2 := by
    rw [hparts]
    exact lastQuotient_pos _ (by omega)
  have hnegative : x.reread.negative = x.negative := negative_ofQuotient _ _ _
  rw [eq_iff_of_negative hnegative]
  exact pattern_ofQuotient_eq_iff x.negative hx hden

theorem plain_of_pattern_eq_zero (h : x.pattern = 0) : x.Plain := by
  have hx : x.isFinite = true := by
    rw [isFinite, h]
    decide
  obtain ⟨zeros, hzeros, hparts⟩ := parts_ofBinary64 hx
  rw [shortest_of_pattern_eq_zero .even h] at hparts hzeros
  rw [Plain, hparts]
  dsimp only at hzeros ⊢
  rw [Nat.zero_mul]
  exact ⟨⟨0, 0, rfl, by decide⟩, by omega⟩

/-- What is read of the numeral of a finite number is a number nearby. -/
theorem near_reread (hx : x.isFinite = true) : x.Near x.reread := by
  have hfinite : x.reread.isFinite = true := isFinite_of_toBinary64? (toBinary64?_ofBinary64 hx)
  have hlimit := (ofBinary64 x).parts_fst_le
  have hsome := isSome_scale?_parts hx
  have hexponent := x.exponent_shortest .even
  by_cases hzero : x.pattern = 0
  · rw [(reread_eq_iff hx).2 (recovered_of_plain hx (plain_of_pattern_eq_zero hzero))]
    exact ⟨rfl, Nat.le_add_right _ 3, Nat.le_add_right _ 3⟩
  obtain ⟨zeros, hzeros, hparts⟩ := parts_ofBinary64 hx
  have hholds := holds_parts hx hparts
  have hpos : 0 < (x.shortest .even).coefficient * 10 ^ zeros :=
    Nat.mul_pos (x.coefficient_shortest_pos .even hzero) (Nat.pow_pos (by decide))
  have hdown : -324 ≤ (x.shortest .even).exponent - zeros := by omega
  unfold reread at hfinite ⊢
  rw [hparts] at hlimit hsome hfinite ⊢
  generalize (x.shortest .even).coefficient * 10 ^ zeros = significand at *
  generalize (x.shortest .even).exponent - zeros = power at *
  have hden := lastQuotient_pos significand hdown
  have hrounded := holds_ofQuotient hden hfinite
  have hclose := (close_lastQuotient hpos hlimit hdown (le_of_isSome_scale? hpos hlimit hsome)).mul_right
    (4 * unitsPerOne)
  have hleft : (lastQuotient (significand, power)).1 * 10 ^ (-power).toNat * (4 * unitsPerOne) =
      4 * ((lastQuotient (significand, power)).1 * unitsPerOne) * 10 ^ (-power).toNat := by ring
  have hright : significand * 10 ^ power.toNat * (lastQuotient (significand, power)).2 * (4 * unitsPerOne) =
      4 * (significand * 10 ^ power.toNat * unitsPerOne) * (lastQuotient (significand, power)).2 := by ring
  rw [hleft, hright] at hclose
  exact ⟨negative_ofQuotient _ _ _,
    pattern_le_of_close (Nat.pow_pos (by decide)) hden hholds hrounded hclose.le,
    pattern_le_of_close hden (Nat.pow_pos (by decide)) hrounded hholds hclose.ge⟩

end Json.Numeral

end Chronicle
