import Chronicle.Binary64.Text
import Chronicle.Timestamp.Text

/-! # Typed values

The values of attributes and the literals of predicates. A value can be stored when it reads back and
sorts as it was written: numbers must be finite, and years must have four digits. -/
namespace Chronicle

namespace Value

inductive Kind
  | integer
  | string
  | boolean
  | timestamp
  | float
deriving DecidableEq

namespace Kind

def all : List Kind := [integer, string, boolean, timestamp, float]

/-- The type tag that is stored beside a value. -/
def tag : Kind → String
  | integer => "integer"
  | string => "string"
  | boolean => "boolean"
  | timestamp => "datetime"
  | float => "float"

def ofTag? (tag : String) : Option Kind := all.find? fun k => k.tag == tag

/-- The column that holds values of this kind. -/
def column : Kind → String
  | integer => "int_value"
  | string => "char_value"
  | boolean => "boolean_value"
  | timestamp => "datetime_value"
  | float => "float_value"

theorem ofTag?_tag (k : Kind) : ofTag? k.tag = some k := by cases k <;> decide

end Kind

end Value

inductive Value
  | integer (i : Int64)
  | string (s : String)
  | boolean (b : Bool)
  | timestamp (t : Timestamp)
  | float (x : Binary64)
deriving DecidableEq

namespace Value

def kind : Value → Kind
  | integer _ => .integer
  | string _ => .string
  | boolean _ => .boolean
  | timestamp _ => .timestamp
  | float _ => .float

def integer? : Value → Option Int64
  | integer i => some i
  | _ => none

def string? : Value → Option String
  | string s => some s
  | _ => none

def boolean? : Value → Option Bool
  | boolean b => some b
  | _ => none

def timestamp? : Value → Option Timestamp
  | timestamp t => some t
  | _ => none

def float? : Value → Option Binary64
  | float x => some x
  | _ => none

/-- Equality of kind and content, numbers being compared as numbers: NaN differs from itself, and the
zeros are one. -/
def agrees : Value → Value → Bool
  | integer i, integer j => i == j
  | string s, string t => s == t
  | boolean a, boolean b => a == b
  | timestamp s, timestamp t => s == t
  | float x, float y => x.equals y
  | _, _ => false

def text : Value → String
  | integer i => toString i.toInt
  | string s => s
  | boolean true => "true"
  | boolean false => "false"
  | timestamp t => t.shownText
  | float x => x.text

/-- Why a value cannot be stored. -/
inductive Fault
  | notFinite (x : Binary64)
  | yearOutside (year : Int)
deriving DecidableEq

def firstStorableYear : Int := 0

def lastStorableYear : Int := 9999

/-- Other years have no fixed width, and their texts do not sort in time. -/
def timestampFault? (t : Timestamp) : Option Fault :=
  if firstStorableYear ≤ t.year ∧ t.year ≤ lastStorableYear then none else some (.yearOutside t.year)

def fault? : Value → Option Fault
  | float x => if x.isFinite then none else some (.notFinite x)
  | timestamp t => timestampFault? t
  | _ => none

theorem agrees_refl_of_fault?_eq_none {v : Value} (h : v.fault? = none) : v.agrees v = true := by
  cases v with
  | float x =>
    have hx : x.isFinite = true := by
      by_cases hf : x.isFinite = true
      · exact hf
      · simp [fault?, hf] at h
    have hn : x.isNaN = false := by
      simp only [Binary64.isFinite, Binary64.isNaN, decide_eq_true_eq, decide_eq_false_iff_not] at *
      omega
    simp [agrees, Binary64.equals, hn]
  | _ => simp [agrees]

end Value

end Chronicle
