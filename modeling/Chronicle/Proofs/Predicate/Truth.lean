import Chronicle.Entity.Basic
import Chronicle.Regex.Basic
import Chronicle.Text.Utf8

/-!
# The truth of predicates

Of an entity every predicate is either true or false. A comparison with something that is not there, or
that is of another kind than the literal, is false, and its negation is true.
-/
namespace Chronicle
open Text

/-- What a predicate can ask of an entity: its fixed fields by name and its open attributes. -/
structure Subject where
  field : String → Option Value
  attributes : Attributes

namespace Event

def fieldValue (e : Event) (name : String) : Option Value :=
  if name = "start" then some (.timestamp e.startTime)
  else if name = "end" then some (.timestamp e.endTime)
  else if name = "author" then some (.string e.author)
  else if name = "uuid" then some (.string e.uuid)
  else none

def subject (e : Event) : Subject := ⟨e.fieldValue, e.attributes⟩

end Event

namespace Catalogue

def fieldValue (name author : String) (field : String) : Option Value :=
  if field = "name" then some (.string name)
  else if field = "author" then some (.string author)
  else none

end Catalogue

namespace Binary64

/-- Order of two numbers; what is not a number has no place in it. -/
def order? (x y : Binary64) : Option Ordering :=
  if x.less y then some .lt else if x.equals y then some .eq else if y.less x then some .gt else none

end Binary64

namespace Value

/-- Order of two values of one kind: numbers by size, texts by their bytes, false before true, points in
time as they follow each other. -/
def order? : Value → Value → Option Ordering
  | integer i, integer j => some (compare i j)
  | string s, string t => some (compare (Utf8.encode s.toList) (Utf8.encode t.toList))
  | boolean a, boolean b => some (compare a b)
  | timestamp s, timestamp t => some (compare s t)
  | float x, float y => x.order? y
  | _, _ => none

def satisfies (v : Value) (op : Operator) (literal : Value) : Bool := (v.order? literal).any op.holds

/-- The text that a fixed field is stored as. -/
def storedText? : Value → Option String
  | string s => some s
  | timestamp t => some t.storedText
  | _ => none

end Value

namespace Regex

/-- Whether the pattern can be read and matches. -/
def matchesText [Regex.Library] (pattern text : String) : Bool := (compile? pattern).any (·.isMatch text)

end Regex

namespace Predicate

/-- The value that is compared. -/
def operandValue (x : Subject) : Operand → Option Value
  | .field name => x.field name
  | .attr key => x.attributes.get? key

/-- The text that is matched; an attribute has one when it is a string. -/
def operandText (x : Subject) : Operand → Option String
  | .field name => (x.field name).bind Value.storedText?
  | .attr key => (x.attributes.get? key).bind Value.string?

mutual

def isTrueOf [Regex.Library] (x : Subject) : Predicate → Bool
  | comparison op operand literal => (operandValue x operand).any (·.satisfies op literal)
  | matching operand (.string pattern) => (operandText x operand).any (Regex.matchesText pattern)
  | matching _ _ => false
  | not p => !p.isTrueOf x
  | has key => x.attributes.contains key
  | all ps => allTrueOf x ps
  | any ps => anyTrueOf x ps

def allTrueOf [Regex.Library] (x : Subject) : List Predicate → Bool
  | [] => true
  | p :: ps => p.isTrueOf x && allTrueOf x ps

def anyTrueOf [Regex.Library] (x : Subject) : List Predicate → Bool
  | [] => false
  | p :: ps => p.isTrueOf x || anyTrueOf x ps

end

end Predicate

end Chronicle
