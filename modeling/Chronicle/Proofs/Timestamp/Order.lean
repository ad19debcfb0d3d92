import Chronicle.Proofs.Timestamp.Text

/-!
# The order of stored points in time

For years of four digits the stored form has a fixed width, so its characters compare as the points in
time do, leap seconds included.
-/
namespace Chronicle.Timestamp
open Text

theorem compare_yearText {y z : Int} (hy : 0 ≤ y ∧ y ≤ 9999) (hz : 0 ≤ z ∧ z ≤ 9999) :
    compare (yearText y) (yearText z) = compare y z := by
  unfold yearText
  rw [if_pos hy, if_pos hz, compare_padded (by decide) (by omega) (by omega)]
  have hlt : y.natAbs < z.natAbs ↔ y < z := by omega
  have heq : y.natAbs = z.natAbs ↔ y = z := by omega
  exact compareOfLessAndEq_congr hlt heq

/-- A leap second is written as a second of its own with few nanoseconds. -/
theorem compare_shownSecond (s t : Timestamp) :
    (compare s.shownSecond t.shownSecond).then (compare s.shownNanosecond t.shownNanosecond) =
      (compare s.second t.second).then (compare s.nanosecond t.nanosecond) := by
  have hs := s.exist.second_lt
  have ht := t.exist.second_lt
  have hs' := s.exist.nanosecond_lt
  have ht' := t.exist.nanosecond_lt
  simp only [shownSecond, shownNanosecond, secondLength] at *
  rw [compare_then 1000000000 (by omega) (by omega),
    compare_then 2000000000 (by omega) (by omega)]
  exact compareOfLessAndEq_congr (by omega) (by omega)

theorem order_eq (s t : Timestamp) : compare s t =
    (compare s.year t.year).then ((compare s.month t.month).then ((compare s.day t.day).then
      ((compare s.hour t.hour).then ((compare s.minute t.minute).then
        ((compare s.second t.second).then (compare s.nanosecond t.nanosecond)))))) :=
  rfl

theorem length_yearText {y : Int} (h : 0 ≤ y ∧ y ≤ 9999) : (yearText y).length = 4 := by
  unfold yearText
  rw [if_pos h, length_padded (by decide) (by omega)]

/-- The stored text of a point in time sorts where the point in time does. -/
theorem compare_storedText {s t : Timestamp} (hs : 0 ≤ s.year ∧ s.year ≤ 9999)
    (ht : 0 ≤ t.year ∧ t.year ≤ 9999) : compare s.storedText t.storedText = compare s t := by
  have htwo {m n : Nat} (hm : m < 100) (hn : n < 100) (x y : List Char) :
      compare (padded 2 m ++ x) (padded 2 n ++ y) = (compare m n).then (compare x y) := by
    rw [compare_append (by rw [length_padded (by decide) hm, length_padded (by decide) hn]),
      compare_padded (by decide) hm hn]
  unfold storedText
  rw [compare_ofList]
  simp only [storedChars, dateText, clockText, List.append_assoc, List.cons_append]
  rw [compare_append (by rw [length_yearText hs, length_yearText ht]), compare_yearText hs ht,
    compare_cons_self, htwo s.month_lt t.month_lt, compare_cons_self, htwo s.day_lt t.day_lt,
    compare_cons_self, htwo s.hour_lt t.hour_lt, compare_cons_self, htwo s.minute_lt t.minute_lt,
    compare_cons_self, htwo s.shownSecond_lt t.shownSecond_lt, compare_cons_self,
    compare_padded (by decide) s.shownNanosecond_lt t.shownNanosecond_lt, compare_shownSecond, order_eq]

end Chronicle.Timestamp
