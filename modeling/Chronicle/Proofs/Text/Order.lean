import Chronicle.Text.Utf8
import Mathlib.Tactic.SplitIfs

/-!
# The order of texts

Texts compare character by character, which is the order of their bytes.
-/
namespace Chronicle.Text

variable {α : Type} [Ord α]

theorem compareOfLessAndEq_congr {α β : Type} [LT α] [DecidableLT α] [DecidableEq α] [LT β]
    [DecidableLT β] [DecidableEq β] {a b : α} {c d : β} (hlt : a < b ↔ c < d) (heq : a = b ↔ c = d) :
    compareOfLessAndEq a b = compareOfLessAndEq c d := by
  simp only [compareOfLessAndEq, hlt, heq]

theorem compare_append {a b : List α} (h : a.length = b.length) (x y : List α) :
    compare (a ++ x) (b ++ y) = (compare a b).then (compare x y) := by
  induction a generalizing b with
  | nil =>
    obtain rfl := List.length_eq_zero_iff.1 h.symm
    rfl
  | cons c a ih =>
    cases b with
    | nil => cases h
    | cons d b =>
      have hlength : a.length = b.length := Nat.succ.inj h
      simp only [List.cons_append, List.compare_cons_cons, ih hlength, Ordering.then_assoc]

theorem compare_cons_self [Std.ReflOrd α] (c : α) (x y : List α) :
    compare (c :: x) (c :: y) = compare x y := by
  simp [List.compare_cons_cons, Std.ReflOrd.compare_self]

theorem compare_eq_lt_iff {x y : List Char} : compare x y = .lt ↔ x < y := by
  induction x generalizing y with
  | nil => cases y <;> simp [List.compare_nil_cons]
  | cons c x ih =>
    cases y with
    | nil => simp [List.compare_cons_nil]
    | cons d y =>
      rw [List.compare_cons_cons, Ordering.then_eq_lt, ih, List.cons_lt_cons_iff,
        Std.LawfulEqCmp.compare_eq_iff_eq]
      rw [show compare c d = .lt ↔ c < d from compareOfLessAndEq_eq_lt]

/-- Texts compare character by character. -/
theorem compare_ofList (x y : List Char) :
    compare (String.ofList x) (String.ofList y) = compare x y := by
  have hlt (x y : List Char) :
      compare (String.ofList x) (String.ofList y) = .lt ↔ compare x y = .lt := by
    rw [compare_eq_lt_iff]
    have hofList : String.ofList x < String.ofList y ↔
        (String.ofList x).toList < (String.ofList y).toList := Iff.rfl
    rw [String.toList_ofList, String.toList_ofList] at hofList
    exact compareOfLessAndEq_eq_lt.trans hofList
  cases h : compare x y with
  | lt => exact (hlt x y).2 h
  | eq =>
    obtain rfl := Std.LawfulEqCmp.eq_of_compare h
    exact Std.ReflCmp.compare_self
  | gt => exact Std.OrientedCmp.gt_of_lt ((hlt y x).2 (Std.OrientedCmp.lt_of_gt h))

/-! ## Bytes -/

namespace Utf8

theorem compare_ofNat_cons {a b : Nat} (ha : a < 0x100) (hb : b < 0x100) (x y : Bytes) :
    compare (UInt8.ofNat a :: x) (UInt8.ofNat b :: y) = (compare a b).then (compare x y) := by
  have hbyte : compare (UInt8.ofNat a) (UInt8.ofNat b) = compare a b := by
    have hlt : UInt8.ofNat a < UInt8.ofNat b ↔ a < b := by
      rw [UInt8.lt_iff_toNat_lt, UInt8.toNat_ofNat_of_lt' ha, UInt8.toNat_ofNat_of_lt' hb]
    have heq : UInt8.ofNat a = UInt8.ofNat b ↔ a = b := by
      rw [← UInt8.toNat_inj, UInt8.toNat_ofNat_of_lt' ha, UInt8.toNat_ofNat_of_lt' hb]
    exact compareOfLessAndEq_congr hlt heq
  rw [List.compare_cons_cons, hbyte]

theorem toNat_lt (c : Char) : c.toNat < 0x110000 := by
  have h := c.valid
  simp only [UInt32.isValidChar, Nat.isValidChar] at h
  have hval : c.toNat = c.val.toNat := rfl
  omega

theorem encodeChar_ne_nil (c : Char) : encodeChar c ≠ [] := by
  unfold encodeChar
  dsimp only
  split
  · simp
  · split
    · simp
    · split <;> simp

/-- The bytes of a smaller character come first, whatever follows. -/
theorem compare_encodeChar_append {c d : Char} (h : c < d) (x y : Bytes) :
    compare (encodeChar c ++ x) (encodeChar d ++ y) = .lt := by
  have hlt : c.toNat < d.toNat := h
  have hd := toNat_lt d
  unfold encodeChar
  dsimp only
  generalize c.toNat = m at *
  generalize d.toNat = n at *
  -- Characters with fewer bytes have smaller first bytes; among equally many the bytes are digits.
  split_ifs <;>
    simp (disch := omega) only [List.cons_append, List.nil_append, compare_ofNat_cons,
      Ordering.then_eq_lt, Nat.compare_eq_lt, Nat.compare_eq_eq]
  all_goals omega

theorem compare_encode (x y : List Char) : compare (encode x) (encode y) = compare x y := by
  induction x generalizing y with
  | nil =>
    cases y with
    | nil => rfl
    | cons d y =>
      obtain ⟨b, bs, hb⟩ := List.exists_cons_of_ne_nil (encodeChar_ne_nil d)
      simp [encode, hb, List.compare_nil_cons]
  | cons c x ih =>
    cases y with
    | nil =>
      obtain ⟨b, bs, hb⟩ := List.exists_cons_of_ne_nil (encodeChar_ne_nil c)
      simp [encode, hb, List.compare_cons_nil]
    | cons d y =>
      rw [List.compare_cons_cons]
      simp only [encode, List.flatMap_cons]
      cases h : compare c d with
      | lt => exact compare_encodeChar_append (compareOfLessAndEq_eq_lt.1 h) _ _
      | eq =>
        obtain rfl := Std.LawfulEqCmp.eq_of_compare h
        have hself : compare (encodeChar c) (encodeChar c) = .eq := Std.ReflCmp.compare_self
        rw [compare_append rfl, hself]
        exact ih y
      | gt =>
        have hlt := Std.OrientedCmp.lt_of_gt h
        exact Std.OrientedCmp.gt_of_lt
          (compare_encodeChar_append (compareOfLessAndEq_eq_lt.1 hlt) _ _)

end Utf8

/-- Texts compare as their bytes do. -/
theorem compare_bytes (s t : String) :
    compare (Utf8.encode s.toList) (Utf8.encode t.toList) = compare s t := by
  rw [Utf8.compare_encode, ← compare_ofList, String.ofList_toList, String.ofList_toList]

end Chronicle.Text
