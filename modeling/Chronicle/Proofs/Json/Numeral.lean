import Chronicle.Json.Numeral
import Chronicle.Proofs.Binary64.Shortest
import Chronicle.Proofs.Text.Digits

/-!
# Numerals that are written

The numerals of integers and of binary numbers have no leading zeros, and integers are read back from
theirs.
-/
namespace Chronicle

namespace Text

/-- The first digit of a number is not zero, unless the number is. -/
theorem digits_eq_cons (n : Nat) : digits n = ['0'] ∨ ∃ d ds, digits n = d :: ds ∧ d ≠ '0' := by
  have hvalue := natOfDigits_digits n
  cases hdigits : digits n with
  | nil =>
    have hpos := length_digits_pos n
    rw [hdigits] at hpos
    cases hpos
  | cons d ds =>
    by_cases hd : d = '0'
    · left
      subst hd
      cases ds with
      | nil => rfl
      | cons c cs =>
        have hdigit : ∀ x ∈ c :: cs, x.isDigit = true := by
          intro x hx
          have hmem : x ∈ digits n := by
            rw [hdigits]
            exact List.mem_cons_of_mem _ hx
          exact isDigit_of_mem_digits hmem
        have hlt := natOfDigits_lt hdigit
        rw [hdigits, natOfDigits_cons] at hvalue
        have hzero : digitValue '0' = 0 := rfl
        rw [hzero, Nat.mul_zero, Nat.zero_add] at hvalue
        rw [hvalue] at hlt
        have hshort : (digits n).length ≤ (c :: cs).length :=
          (Nat.length_toDigits_le_iff (by decide) (by simp)).2 hlt
        rw [hdigits] at hshort
        simp only [List.length_cons] at hshort
        omega
    · exact .inr ⟨d, ds, rfl, hd⟩

theorem exists_digits_of_pos {n : Nat} (h : 0 < n) : ∃ d ds, digits n = d :: ds ∧ d ≠ '0' := by
  refine (digits_eq_cons n).resolve_left fun hzero => ?_
  have hvalue := natOfDigits_digits n
  rw [hzero] at hvalue
  have : natOfDigits ['0'] = 0 := rfl
  omega

end Text

namespace Json.Numeral
open Text

/-- Digits with at least one before the point and no zero before them. -/
structure WellFormed (n : Numeral) : Prop where
  whole : n.whole = ['0'] ∨ ∃ d ds, n.whole = d :: ds ∧ d ≠ '0' ∧ ∀ c ∈ d :: ds, c.isDigit = true
  fraction : ∀ c ∈ n.fraction, c.isDigit = true

theorem wellFormed_ofInt (i : Int) : (ofInt i).WellFormed := by
  refine ⟨?_, fun c hc => nomatch hc⟩
  rcases digits_eq_cons i.natAbs with h | ⟨d, ds, h, hd⟩
  · exact .inl h
  · refine .inr ⟨d, ds, h, hd, fun c hc => ?_⟩
    rw [← h] at hc
    exact isDigit_of_mem_digits hc

theorem toInt64?_ofInt (i : Int64) : (ofInt i.toInt).toInt64? = some i := by
  have hmin := Int64.le_toInt i
  have hmax := Int64.toInt_lt i
  unfold toInt64? ofInt
  simp only [List.isEmpty_nil, Option.isNone_none, Bool.and_self, if_true, natOfDigits_digits,
    decide_eq_true_eq]
  by_cases hneg : i.toInt < 0
  · have hsize : 0 < i.toInt.natAbs ∧ i.toInt.natAbs ≤ 0x8000000000000000 := by omega
    have hvalue : -(i.toInt.natAbs : Int) = i.toInt := by omega
    rw [if_pos hneg, if_pos hsize, hvalue, Int64.ofInt_toInt]
  · have hsize : i.toInt.natAbs < 0x8000000000000000 := by omega
    have hvalue : (i.toInt.natAbs : Int) = i.toInt := by omega
    rw [if_neg hneg, if_pos hsize, hvalue, Int64.ofInt_toInt]

/-! ## Binary numbers -/

theorem wellFormed_scientific (negative : Bool) (n : Nat) (exponent : Int) :
    (ofDecimal.scientific negative (digits n) exponent).WellFormed := by
  have hdigit {c : Char} (hc : c ∈ digits n) : c.isDigit = true := isDigit_of_mem_digits hc
  refine ⟨?_, fun c hc => hdigit (List.mem_of_mem_drop hc)⟩
  unfold ofDecimal.scientific
  rcases digits_eq_cons n with h | ⟨d, ds, h, hd⟩
  · exact .inl (by rw [h]; rfl)
  · refine .inr ⟨d, [], by rw [h]; rfl, hd, fun c hc => ?_⟩
    obtain rfl := List.mem_singleton.1 hc
    exact hdigit (by rw [h]; exact List.mem_cons_self)

theorem wellFormed_ofDecimal (negative : Bool) {d : Decimal} (h : 0 < d.coefficient ∨ d.exponent ≤ 0) :
    (ofDecimal negative d).WellFormed := by
  have hdigit {c : Char} (hc : c ∈ digits d.coefficient) : c.isDigit = true :=
    isDigit_of_mem_digits hc
  unfold ofDecimal
  dsimp only
  split
  · exact ⟨.inl rfl, fun c hc => hdigit hc⟩
  case h_2 point hne hpoint =>
    split
    · exact wellFormed_scientific negative d.coefficient _
    have hpoint' : ((digits d.coefficient).length : Int) + d.exponent = point := hpoint
    split
    case isTrue hlength =>
      refine ⟨?_, fun c hc => by obtain rfl := List.mem_singleton.1 hc; rfl⟩
      rcases digits_eq_cons d.coefficient with hzero | ⟨e, ds, hds, he⟩
      · have hexponent : d.exponent ≤ 0 := h.resolve_left fun hpos => by
          obtain ⟨e, ds, hds, he⟩ := exists_digits_of_pos hpos
          rw [hzero] at hds
          cases hds
          exact he rfl
        rw [hzero, List.length_singleton] at hpoint'
        have hnone : point - 1 = 0 := by omega
        left
        dsimp only
        rw [hzero, List.length_singleton, hnone]
        rfl
      · refine .inr ⟨e, ds ++ List.replicate (point - (digits d.coefficient).length) '0', ?_, he, ?_⟩
        · dsimp only
          rw [hds]
          rfl
        · rw [← List.cons_append, ← hds]
          intro c hc
          rcases List.mem_append.1 hc with hc | hc
          · exact hdigit hc
          · rw [List.eq_of_mem_replicate hc]
            rfl
    case isFalse hlength =>
      refine ⟨?_, fun c hc => hdigit (List.mem_of_mem_drop hc)⟩
      obtain ⟨before, rfl⟩ := Nat.exists_eq_succ_of_ne_zero fun h => hne h
      rcases digits_eq_cons d.coefficient with hzero | ⟨e, ds, hds, he⟩
      · rw [hzero, List.length_singleton] at hlength
        omega
      · refine .inr ⟨e, ds.take before, ?_, he, fun c hc => hdigit (List.mem_of_mem_take (i := before + 1) ?_)⟩
        · dsimp only
          rw [hds]
          rfl
        · rw [hds]
          exact hc
  case h_3 zeros hzeros =>
    split
    · refine ⟨.inl rfl, fun c hc => ?_⟩
      rcases List.mem_append.1 hc with hc | hc
      · rw [List.eq_of_mem_replicate hc]
        rfl
      · exact hdigit hc
    · exact wellFormed_scientific negative d.coefficient _

end Json.Numeral

/-- A numeral of a binary number is well formed, whatever the number is. -/
theorem Json.Numeral.wellFormed_ofBinary64 (x : Binary64) : (ofBinary64 x).WellFormed :=
  wellFormed_ofDecimal _ ((x.shortest_bound .even).imp_right Int.le_of_eq)

end Chronicle
