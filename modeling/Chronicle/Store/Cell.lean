import Chronicle.Binary64.Numeral
import Chronicle.Binary64.Significant
import Chronicle.Text.Utf8

/-! # Cells of stored rows

Any column may hold a cell of any class. A column has an affinity, though, and a cell that is put into it
is turned into the class of that affinity where nothing is lost. -/
namespace Chronicle
open Text

inductive Cell
  | null
  | integer (i : Int64)
  | real (x : Binary64)
  | text (s : String)
  | blob (b : Utf8.Bytes)
deriving DecidableEq

namespace Cell

inductive Class
  | null
  | integer
  | real
  | text
  | blob
deriving DecidableEq

def Class.name : Class → String
  | null => "Null"
  | integer => "Integer"
  | real => "Real"
  | text => "Text"
  | blob => "Blob"

def cls : Cell → Class
  | null => .null
  | integer _ => .integer
  | real _ => .real
  | text _ => .text
  | blob _ => .blob

/-- What is not a number cannot be kept apart from nothing. -/
def kept : Cell → Cell
  | real x => if x.isNaN then null else real x
  | c => c

/-- Numbers come first and compare exactly, then texts, then blobs; null does not compare. -/
def order? : Cell → Cell → Option Ordering
  | null, _ | _, null => none
  | integer i, integer j => some (compare i j)
  | integer i, real x => some (x.compareInt i.toInt)
  | real x, integer i => some (x.compareInt i.toInt).swap
  | real x, real y => some (compare x.place y.place)
  | text s, text t => some (compare s t)
  | blob a, blob b => some (compare a b)
  | integer _, _ | real _, _ | text _, blob _ => some .lt
  | text _, _ | blob _, _ => some .gt

def equals (a b : Cell) : Bool := order? a b == some .eq

end Cell

/-- The type that a column prefers. -/
inductive Affinity
  | integer
  | real
  | text
  | none
deriving DecidableEq

namespace Affinity

def isBlank (c : Char) : Bool := c == ' ' || (decide (9 ≤ c.toNat) && decide (c.toNat ≤ 13))

/-- Reads text that is a numeral from end to end, white space around it apart. -/
def readNumeral? (cs : List Char) : Option Binary64.Numeral :=
  match Binary64.Numeral.read? (cs.dropWhile isBlank) with
  | some (n, rest) => if rest.all isBlank then some n else .none
  | .none => .none

def int64? (i : Int) : Option Int64 :=
  if Int64.minValue.toInt ≤ i ∧ i ≤ Int64.maxValue.toInt then some (.ofInt i) else .none

/-- A number that is an integer strictly between the outermost ones. -/
def integral? (x : Binary64) : Option Int64 :=
  x.toInt?.bind fun i =>
    if Int64.minValue.toInt < i ∧ i < Int64.maxValue.toInt then some (.ofInt i) else .none

/-- An integer where that is exact. -/
def numberOf (x : Binary64) : Cell :=
  match integral? x with
  | some i => .integer i
  | .none => .real x

/-- The number that a text writes. -/
def numeric? (s : String) : Option Cell :=
  (readNumeral? s.toList).map fun n =>
    match n.toInt?.bind int64? with
    | some i => .integer i
    | .none => numberOf n.toBinary64

def asReal : Cell → Cell
  | .integer i => .real (.ofInt i.toInt)
  | .real x => if x.pattern = 0 then .real .zero else .real x
  | c => c

/-- The cell that a column keeps when it is given one that can be kept. -/
def adaptKept : Affinity → Cell → Cell
  | integer, .text s => (numeric? s).getD (.text s)
  | integer, .real x => numberOf x
  | real, .text s => asReal ((numeric? s).getD (.text s))
  | real, c => asReal c
  | text, .integer i => .text (toString i.toInt)
  | text, .real x => .text x.significantText
  | _, c => c

/-- The cell that a column keeps when it is given one. -/
def adapt (a : Affinity) (c : Cell) : Cell := a.adaptKept c.kept

end Affinity

/-- What columns for text that must not be null can hold. -/
inductive StoredText
  | text (s : String)
  | bytes (b : Utf8.Bytes)
deriving DecidableEq

namespace StoredText

def cell : StoredText → Cell
  | text s => .text s
  | bytes b => .blob b

def ofCell? (c : Cell) : Option StoredText :=
  match Affinity.text.adapt c with
  | .text s => some (text s)
  | .blob b => some (bytes b)
  | _ => none

/-- Texts come before bytes. -/
def order : StoredText → StoredText → Ordering
  | text s, text t => compare s t
  | text _, bytes _ => .lt
  | bytes _, text _ => .gt
  | bytes a, bytes b => compare a b

instance : Ord StoredText := ⟨order⟩

@[simp] theorem compare_text (s t : String) : compare (text s) (text t) = compare s t := rfl

@[simp] theorem compare_bytes (a b : Utf8.Bytes) : compare (bytes a) (bytes b) = compare a b := rfl

@[simp] theorem compare_text_bytes (s : String) (b : Utf8.Bytes) :
    compare (text s) (bytes b) = .lt := rfl

@[simp] theorem compare_bytes_text (b : Utf8.Bytes) (s : String) :
    compare (bytes b) (text s) = .gt := rfl

instance : Std.TransOrd StoredText where
  eq_swap {a b} := by
    cases a <;> cases b <;> simp only [compare_text, compare_bytes, compare_text_bytes,
      compare_bytes_text, Ordering.swap_lt, Ordering.swap_gt]
    · exact Std.OrientedCmp.eq_swap
    · exact Std.OrientedCmp.eq_swap
  isLE_trans {a b c} := by
    cases a <;> cases b <;> cases c <;> simp only [compare_text, compare_bytes, compare_text_bytes,
      compare_bytes_text, Ordering.isLE_lt, Ordering.isLE_gt, reduceCtorEq, false_implies, implies_true]
    · exact Std.TransCmp.isLE_trans
    · exact Std.TransCmp.isLE_trans

instance : Std.LawfulEqOrd StoredText where
  compare_self {a} := by
    cases a
    · exact (compare_text _ _).trans Std.ReflCmp.compare_self
    · exact (compare_bytes _ _).trans Std.ReflCmp.compare_self
  eq_of_compare {a b} h := by
    cases a <;> cases b
    · exact congrArg text (Std.LawfulEqCmp.eq_of_compare (compare_text _ _ ▸ h))
    · simp at h
    · simp at h
    · exact congrArg bytes (Std.LawfulEqCmp.eq_of_compare (compare_bytes _ _ ▸ h))

end StoredText

end Chronicle
