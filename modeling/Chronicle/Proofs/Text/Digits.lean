import Chronicle.Proofs.Text.Order
import Chronicle.Text.Digits
import Mathlib.Algebra.Group.Nat.Defs

/-!
# Padded runs of digits

A run of digits of fixed width is read back as the number it writes, and two such runs compare as their
numbers do.
-/
namespace Chronicle.Text

theorem natOfDigits_digits (n : Nat) : natOfDigits (digits n) = n :=
  Nat.ofDigitChars_ten_toDigits

theorem isDigit_of_mem_digits {n : Nat} {c : Char} (h : c ∈ digits n) : c.isDigit = true :=
  Nat.isDigit_of_mem_toDigits (by decide) (by decide) h

theorem length_digits_pos (n : Nat) : 0 < (digits n).length := Nat.length_toDigits_pos

theorem natOfDigits_padded (width n : Nat) : natOfDigits (padded width n) = n := by
  change Nat.ofDigitChars 10 (_ ++ _) 0 = n
  rw [Nat.ofDigitChars_append, Nat.ofDigitChars_replicate_zero, Nat.mul_zero]
  exact natOfDigits_digits n

theorem isDigit_of_mem_padded {width n : Nat} {c : Char} (h : c ∈ padded width n) :
    c.isDigit = true := by
  rcases List.mem_append.1 h with h | h
  · rw [List.eq_of_mem_replicate h]
    rfl
  · exact isDigit_of_mem_digits h

theorem length_padded {width n : Nat} (hw : 0 < width) (h : n < 10 ^ width) :
    (padded width n).length = width := by
  have hlength : (digits n).length ≤ width := (Nat.length_toDigits_le_iff (by decide) hw).2 h
  simp only [padded, List.length_append, List.length_replicate]
  omega

theorem pow_length_digits_le {n : Nat} (h : 0 < n) : 10 ^ ((digits n).length - 1) ≤ n := by
  rcases Nat.eq_zero_or_pos ((digits n).length - 1) with hzero | hpos
  · rw [hzero]
    exact h
  · refine Nat.not_lt.1 fun hlt => ?_
    have hlength : (digits n).length ≤ (digits n).length - 1 :=
      (Nat.length_toDigits_le_iff (by decide) hpos).2 hlt
    omega

theorem padded_ne_nil (width n : Nat) : padded width n ≠ [] := by
  have hpos := length_digits_pos n
  intro h
  have hlength := congrArg List.length h
  simp only [padded, List.length_append, List.length_nil] at hlength
  omega

/-! ## Reading -/

theorem spanDigits_of_isDigit {ds : List Char} (rest : List Char) {limit : Nat} (hds : ∀ c ∈ ds, c.isDigit = true)
    (hlimit : ds.length ≤ limit) (hrest : ds.length = limit ∨ ∀ c ∈ rest.head?, c.isDigit = false) :
    spanDigits limit (ds ++ rest) = (ds, rest) := by
  induction ds generalizing limit with
  | nil =>
    cases limit with
    | zero => rfl
    | succ limit =>
      cases rest with
      | nil => rfl
      | cons c rest =>
        rcases hrest with hrest | hrest
        · cases hrest
        · simp [spanDigits, hrest c rfl]
  | cons d ds ih =>
    cases limit with
    | zero => simp at hlimit
    | succ limit =>
      have hd := hds d List.mem_cons_self
      have hlength : ds.length ≤ limit := by simpa using hlimit
      have htail : ds.length = limit ∨ ∀ c ∈ rest.head?, c.isDigit = false := by simpa using hrest
      have hspan := ih (fun c hc => hds c (List.mem_cons_of_mem _ hc)) hlength htail
      simp [spanDigits, hd, hspan]

theorem readNat?_of_isDigit {ds rest : List Char} {limit : Nat} (hds : ∀ c ∈ ds, c.isDigit = true)
    (hne : ds ≠ []) (hlimit : ds.length ≤ limit)
    (hrest : ds.length = limit ∨ ∀ c ∈ rest.head?, c.isDigit = false) :
    readNat? limit (ds ++ rest) = some (natOfDigits ds, rest) := by
  unfold readNat?
  rw [spanDigits_of_isDigit rest hds hlimit hrest]
  cases ds with
  | nil => exact absurd rfl hne
  | cons d ds => rfl

/-- A number that fills its width is read back whatever follows. -/
theorem readNat?_padded {width n : Nat} (hw : 0 < width) (h : n < 10 ^ width) (rest : List Char) :
    readNat? width (padded width n ++ rest) = some (n, rest) := by
  have hlength := length_padded hw h
  rw [readNat?_of_isDigit (fun c hc => isDigit_of_mem_padded hc) (padded_ne_nil width n)
    (Nat.le_of_eq hlength) (.inl hlength), natOfDigits_padded]

/-! ## Order -/

theorem natOfDigits_cons (c : Char) (cs : List Char) :
    natOfDigits (c :: cs) = 10 ^ cs.length * digitValue c + natOfDigits cs := by
  change Nat.ofDigitChars 10 (c :: cs) 0 = _
  rw [Nat.ofDigitChars_cons, Nat.ofDigitChars_eq_ofDigitChars_zero, Nat.mul_zero, Nat.zero_add]
  rfl

theorem digitValue_lt {c : Char} (h : c.isDigit = true) : digitValue c < 10 := by
  simp only [Char.isDigit, Bool.and_eq_true, decide_eq_true_eq] at h
  have hval : c.val.toNat ≤ 57 := h.2
  have hc : c.toNat = c.val.toNat := rfl
  simp only [digitValue, hc, Char.reduceToNat]
  omega

theorem natOfDigits_lt {cs : List Char} (h : ∀ c ∈ cs, c.isDigit = true) :
    natOfDigits cs < 10 ^ cs.length := by
  induction cs with
  | nil => decide
  | cons c cs ih =>
    have hc := digitValue_lt (h c List.mem_cons_self)
    have hcs := ih fun d hd => h d (List.mem_cons_of_mem _ hd)
    rw [natOfDigits_cons, List.length_cons, Nat.pow_succ]
    have hle : 10 ^ cs.length * digitValue c ≤ 10 ^ cs.length * 9 := Nat.mul_le_mul_left _ (by omega)
    omega

theorem compare_digit {c d : Char} (hc : c.isDigit = true) (hd : d.isDigit = true) :
    compare c d = compare (digitValue c) (digitValue d) := by
  simp only [Char.isDigit, Bool.and_eq_true, decide_eq_true_eq] at hc hd
  have hc' : 48 ≤ c.toNat := hc.1
  have hd' : 48 ≤ d.toNat := hd.1
  have hlt : c < d ↔ digitValue c < digitValue d := by
    have hnat : c < d ↔ c.toNat < d.toNat := Iff.rfl
    simp only [hnat, digitValue, Char.reduceToNat]
    omega
  have heq : c = d ↔ digitValue c = digitValue d := by
    rw [← Char.toNat_inj]
    simp only [digitValue, Char.reduceToNat]
    omega
  exact compareOfLessAndEq_congr hlt heq

/-- The higher place decides unless it is equal. -/
theorem compare_then (base : Nat) {m n i j : Nat} (hi : i < base) (hj : j < base) :
    (compare m n).then (compare i j) = compare (base * m + i) (base * n + j) := by
  rcases Nat.lt_trichotomy m n with h | h | h
  · have hmul : base * (m + 1) ≤ base * n := Nat.mul_le_mul_left _ h
    have hlt : base * m + i < base * n + j := by
      rw [Nat.mul_add] at hmul
      omega
    rw [Nat.compare_eq_lt.2 h, Nat.compare_eq_lt.2 hlt]
    rfl
  · subst h
    have hself : compare m m = .eq := Nat.compare_eq_eq.2 rfl
    rw [hself, Ordering.eq_then]
    exact compareOfLessAndEq_congr Nat.add_lt_add_iff_left.symm Nat.add_left_cancel_iff.symm
  · have hmul : base * (n + 1) ≤ base * m := Nat.mul_le_mul_left _ h
    have hgt : base * n + j < base * m + i := by
      rw [Nat.mul_add] at hmul
      omega
    rw [Nat.compare_eq_gt.2 h, Nat.compare_eq_gt.2 hgt]
    rfl

theorem compare_digits {a b : List Char} (ha : ∀ c ∈ a, c.isDigit = true)
    (hb : ∀ c ∈ b, c.isDigit = true) (hlength : a.length = b.length) :
    compare a b = compare (natOfDigits a) (natOfDigits b) := by
  induction a generalizing b with
  | nil =>
    obtain rfl := List.length_eq_zero_iff.1 hlength.symm
    rfl
  | cons c a ih =>
    cases b with
    | nil => cases hlength
    | cons d b =>
      have hlength' : a.length = b.length := Nat.succ.inj hlength
      have ha' : ∀ x ∈ a, x.isDigit = true := fun x hx => ha x (List.mem_cons_of_mem _ hx)
      have hb' : ∀ x ∈ b, x.isDigit = true := fun x hx => hb x (List.mem_cons_of_mem _ hx)
      have hlta := natOfDigits_lt ha'
      have hltb := natOfDigits_lt hb'
      rw [hlength'] at hlta
      rw [List.compare_cons_cons, ih ha' hb' hlength', natOfDigits_cons, natOfDigits_cons,
        compare_digit (ha c List.mem_cons_self) (hb d List.mem_cons_self), hlength']
      exact compare_then _ hlta hltb

theorem compare_padded {width m n : Nat} (hw : 0 < width) (hm : m < 10 ^ width)
    (hn : n < 10 ^ width) : compare (padded width m) (padded width n) = compare m n := by
  have hlength : (padded width m).length = (padded width n).length := by
    rw [length_padded hw hm, length_padded hw hn]
  rw [compare_digits (fun c hc => isDigit_of_mem_padded hc) (fun c hc => isDigit_of_mem_padded hc)
    hlength, natOfDigits_padded, natOfDigits_padded]

end Chronicle.Text
