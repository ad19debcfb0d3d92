/-! # Points in time

A time of the proleptic Gregorian calendar without a zone, exact to the nanosecond. During a leap
second the nanoseconds of second 59 run on past a thousand million. -/
namespace Chronicle

namespace Timestamp

/-- Calendar fields that need not name a time that exists. -/
structure Fields where
  year : Int
  month : Nat
  day : Nat
  hour : Nat
  minute : Nat
  second : Nat
  nanosecond : Nat
deriving DecidableEq

def secondLength : Nat := 1000000000

def isLeapYear (year : Int) : Bool :=
  year % 4 == 0 && (year % 100 != 0 || year % 400 == 0)

def daysIn (year : Int) : Nat → Nat
  | 2 => if isLeapYear year then 29 else 28
  | 4 | 6 | 9 | 11 => 30
  | _ => 31

def firstYear : Int := -262143

def lastYear : Int := 262142

structure Fields.Exists (f : Fields) : Prop where
  year_mem : firstYear ≤ f.year ∧ f.year ≤ lastYear
  month_mem : 1 ≤ f.month ∧ f.month ≤ 12
  day_mem : 1 ≤ f.day ∧ f.day ≤ daysIn f.year f.month
  hour_lt : f.hour < 24
  minute_lt : f.minute < 60
  second_lt : f.second < 60
  nanosecond_lt : f.nanosecond < secondLength ∨ f.second = 59 ∧ f.nanosecond < 2 * secondLength

instance (f : Fields) : Decidable f.Exists :=
  decidable_of_iff
    ((firstYear ≤ f.year ∧ f.year ≤ lastYear) ∧ (1 ≤ f.month ∧ f.month ≤ 12) ∧
      (1 ≤ f.day ∧ f.day ≤ daysIn f.year f.month) ∧ f.hour < 24 ∧ f.minute < 60 ∧ f.second < 60 ∧
      (f.nanosecond < secondLength ∨ f.second = 59 ∧ f.nanosecond < 2 * secondLength))
    ⟨fun ⟨a, b, c, d, e, g, h⟩ => ⟨a, b, c, d, e, g, h⟩,
      fun ⟨a, b, c, d, e, g, h⟩ => ⟨a, b, c, d, e, g, h⟩⟩

end Timestamp

structure Timestamp extends Timestamp.Fields where
  exist : toFields.Exists
deriving DecidableEq

namespace Timestamp

def ofFields? (f : Fields) : Option Timestamp :=
  if h : f.Exists then some ⟨f, h⟩ else none

@[simp] theorem ofFields?_toFields (t : Timestamp) : ofFields? t.toFields = some t := by
  simp [ofFields?, t.exist]

/-- Chronological order; a leap second comes after second 59 and before the next minute. -/
def order : Timestamp → Timestamp → Ordering :=
  compareLex (compareOn (·.year)) <| compareLex (compareOn (·.month)) <|
    compareLex (compareOn (·.day)) <| compareLex (compareOn (·.hour)) <|
      compareLex (compareOn (·.minute)) <| compareLex (compareOn (·.second))
        (compareOn (·.nanosecond))

instance : Ord Timestamp := ⟨order⟩

/-- The second as it is written: 60 during a leap second. -/
def shownSecond (t : Timestamp) : Nat := t.second + t.nanosecond / secondLength

/-- The nanoseconds as they are written. -/
def shownNanosecond (t : Timestamp) : Nat := t.nanosecond % secondLength

end Timestamp

end Chronicle
