import Chronicle.Proofs.Sql.Holds
import Chronicle.Proofs.Save.Checks
import Chronicle.Proofs.Timestamp.Order
import Mathlib.Algebra.BigOperators.Intervals

/-!
# Stored points in time and the calendar

Points in time are placed by counting: the days of the years and months that have passed, the seconds of
the day, the nanoseconds of the second. The count is what the calendar fields say one by one, and the stored
texts of two points in time sort as their counts do.
-/
namespace Chronicle.Timestamp
open Text

/-! ## Counting days -/

def yearLength (year : Int) : Nat := if isLeapYear year then 366 else 365

/-- The days before a year, from the start of year 0 on. -/
def daysBeforeYear (year : Int) : Int :=
  365 * year + (year + 3) / 4 - (year + 99) / 100 + (year + 399) / 400

/-- The days of a year before one of its months. -/
def daysBeforeMonth (year : Int) (month : Nat) : Nat := ∑ m ∈ Finset.Ico 1 month, daysIn year m

def dayOfYear (t : Timestamp) : Nat := daysBeforeMonth t.year t.month + t.day

/-- The number of the day, where the first day of year 0 is day 1. -/
def dayNumber (t : Timestamp) : Int := daysBeforeYear t.year + t.dayOfYear

def secondOfDay (t : Timestamp) : Nat := t.hour * 3600 + (t.minute * 60 + t.second)

/-- The order of the days, of the seconds of one day and of the nanoseconds of one second. A leap second
is the second half of a second of twice the length. -/
def chronological (s t : Timestamp) : Ordering :=
  (compare s.dayNumber t.dayNumber).then
    ((compare s.secondOfDay t.secondOfDay).then (compare s.nanosecond t.nanosecond))

theorem isLeapYear_iff {year : Int} :
    isLeapYear year = true ↔ year % 4 = 0 ∧ (year % 100 ≠ 0 ∨ year % 400 = 0) := by
  simp [isLeapYear]

theorem daysBeforeYear_succ (year : Int) :
    daysBeforeYear (year + 1) = daysBeforeYear year + yearLength year := by
  unfold daysBeforeYear yearLength
  split
  case isTrue h =>
    have hleap := isLeapYear_iff.1 h
    omega
  case isFalse h =>
    have hleap : ¬(year % 4 = 0 ∧ (year % 100 ≠ 0 ∨ year % 400 = 0)) := fun hl => h (isLeapYear_iff.2 hl)
    omega

/-- A year is over before a later one begins. -/
theorem daysBeforeYear_le {y z : Int} (h : y < z) :
    daysBeforeYear y + yearLength y ≤ daysBeforeYear z := by
  rw [← daysBeforeYear_succ]
  have hle : y + 1 ≤ z := h
  induction z, hle using Int.leInduction with
  | base => exact Int.le_refl _
  | succ z hz ih =>
    have hstep := daysBeforeYear_succ z
    have hprevious := ih (by omega)
    omega

theorem daysBeforeMonth_succ (year : Int) {month : Nat} (h : 1 ≤ month) :
    daysBeforeMonth year (month + 1) = daysBeforeMonth year month + daysIn year month :=
  Finset.sum_Ico_succ_top h _

/-- A month is over before a later one begins. -/
theorem daysBeforeMonth_le (year : Int) {m n : Nat} (hm : 1 ≤ m) (h : m < n) :
    daysBeforeMonth year m + daysIn year m ≤ daysBeforeMonth year n := by
  rw [← daysBeforeMonth_succ year hm]
  unfold daysBeforeMonth
  rw [← Finset.sum_Ico_consecutive _ (Nat.le_succ_of_le hm) h]
  exact Nat.le_add_right _ _

/-- The twelve months make up the year. -/
theorem daysBeforeMonth_thirteen (year : Int) : daysBeforeMonth year 13 = yearLength year := by
  unfold yearLength
  simp only [daysBeforeMonth, Finset.sum_Ico_succ_top, Nat.reduceLeDiff, Finset.Ico_self,
    Finset.sum_empty, daysIn]
  split <;> rfl

theorem dayOfYear_mem (t : Timestamp) : 1 ≤ t.dayOfYear ∧ t.dayOfYear ≤ yearLength t.year := by
  have hmonth := t.exist.month_mem
  have hday := t.exist.day_mem
  have hover := daysBeforeMonth_le t.year hmonth.1 (Nat.lt_succ_of_le hmonth.2)
  rw [daysBeforeMonth_thirteen] at hover
  unfold dayOfYear
  omega

/-! ## The count orders as the fields do -/

/-- What keeps a first component strictly apart is decided by it, unless it is the same. -/
theorem compare_eq_then {α β : Type} [LinearOrder α] [LinearOrder β] {x y : α} {p q : β} {o : Ordering}
    (hlt : x < y → p < q) (hgt : y < x → q < p) (heq : x = y → compare p q = o) :
    compare p q = (compare x y).then o := by
  rcases lt_trichotomy x y with h | h | h
  · rw [compare_lt_iff_lt.2 h, compare_lt_iff_lt.2 (hlt h)]
    rfl
  · rw [compare_eq_iff_eq.2 h, heq h]
    rfl
  · rw [compare_gt_iff_gt.2 h, compare_gt_iff_gt.2 (hgt h)]
    rfl

theorem compare_dayOfYear {s t : Timestamp} (h : s.year = t.year) :
    compare s.dayOfYear t.dayOfYear = (compare s.month t.month).then (compare s.day t.day) := by
  have hs := s.exist.day_mem
  have ht := t.exist.day_mem
  unfold dayOfYear
  rw [h] at hs ⊢
  apply compare_eq_then
  · intro hmonth
    have hover := daysBeforeMonth_le t.year s.exist.month_mem.1 hmonth
    omega
  · intro hmonth
    have hover := daysBeforeMonth_le t.year t.exist.month_mem.1 hmonth
    omega
  · intro hmonth
    rw [hmonth]
    exact compareOfLessAndEq_congr Nat.add_lt_add_iff_left Nat.add_left_cancel_iff

theorem compare_dayNumber (s t : Timestamp) : compare s.dayNumber t.dayNumber =
    (compare s.year t.year).then ((compare s.month t.month).then (compare s.day t.day)) := by
  have hs := s.dayOfYear_mem
  have ht := t.dayOfYear_mem
  unfold dayNumber
  apply compare_eq_then
  · intro hyear
    have hover := daysBeforeYear_le hyear
    omega
  · intro hyear
    have hover := daysBeforeYear_le hyear
    omega
  · intro hyear
    rw [hyear, ← compare_dayOfYear hyear]
    exact compareOfLessAndEq_congr (by omega) (by omega)

theorem compare_secondOfDay (s t : Timestamp) : compare s.secondOfDay t.secondOfDay =
    (compare s.hour t.hour).then ((compare s.minute t.minute).then (compare s.second t.second)) := by
  have hs := s.exist.minute_lt
  have ht := t.exist.minute_lt
  have hs' := s.exist.second_lt
  have ht' := t.exist.second_lt
  rw [compare_then 60 hs' ht', compare_then 3600 (by omega) (by omega)]
  unfold secondOfDay
  rw [Nat.mul_comm s.hour, Nat.mul_comm t.hour, Nat.mul_comm s.minute, Nat.mul_comm t.minute]

/-- The order of the calendar fields is the order of the counts. -/
theorem compare_eq_chronological (s t : Timestamp) : compare s t = chronological s t := by
  unfold chronological
  rw [order_eq, compare_dayNumber, compare_secondOfDay]
  simp only [Ordering.then_assoc]

/-! ## Stored texts -/

theorem compares_storedText {s t : Timestamp} (hs : s.Storable) (ht : t.Storable) (op : Operator) :
    (Cell.text s.storedText).compares op (.text t.storedText) = op.holds (chronological s t) := by
  rw [← compare_eq_chronological, ← compare_storedText (storable_iff.1 hs) (storable_iff.1 ht)]
  rfl

/-- A stored text is read back as the point in time that it was written for, and the bytes of the texts of
storable points in time compare as the points in time do, so that conditions on texts decide about times. -/
theorem storedText_embeds :
    (∀ t : Timestamp, ofStoredText? t.storedText = some t) ∧
    ∀ (s t : Timestamp) (o o' : String), s.check o = .ok () → t.check o' = .ok () →
      compare (Utf8.encode s.storedText.toList) (Utf8.encode t.storedText.toList) = chronological s t ∧
      ∀ op : Operator,
        (Cell.text s.storedText).compares op (.text t.storedText) = op.holds (chronological s t) := by
  constructor
  · exact ofStoredText?_storedText
  · intro s t o o' hs ht
    have hs' := check_eq_ok.1 hs
    have ht' := check_eq_ok.1 ht
    constructor
    · rw [Text.compare_bytes, compare_storedText (storable_iff.1 hs') (storable_iff.1 ht'),
        compare_eq_chronological]
    · intro op
      exact compares_storedText hs' ht' op

/-- Within the leap second that ended the year 2016. -/
def leapSecond : Timestamp := ⟨⟨2016, 12, 31, 23, 59, 59, 1500000000⟩, by decide⟩

/-- The start of the year 2017. -/
def newYear : Timestamp := ⟨⟨2017, 1, 1, 0, 0, 0, 0⟩, by decide⟩

/-- A leap second is before the day that follows, also as text. -/
theorem storedText_embeds_leapSecond :
    leapSecond.check "start" = .ok () ∧ newYear.check "end" = .ok () ∧
      chronological leapSecond newYear = .lt ∧
      compare (Utf8.encode leapSecond.storedText.toList) (Utf8.encode newYear.storedText.toList) = .lt ∧
      (Cell.text leapSecond.storedText).compares .ge (.text newYear.storedText) = false := by
  have hstart : leapSecond.check "start" = .ok () := rfl
  have hend : newYear.check "end" = .ok () := rfl
  have hbefore : chronological leapSecond newYear = .lt := by decide
  obtain ⟨hbytes, hcompares⟩ := storedText_embeds.2 leapSecond newYear "start" "end" hstart hend
  rw [hbefore] at hbytes hcompares
  exact ⟨hstart, hend, hbefore, hbytes, hcompares .ge⟩

end Chronicle.Timestamp
