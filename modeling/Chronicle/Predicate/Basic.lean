import Chronicle.Text.Quoted
import Chronicle.Value

/-! # Predicates

Boolean expressions over the fixed fields and the open attributes of an entity. A predicate is a tree
and can be built with any field names, keys and values; whether it makes sense for a kind of entity is
decided when it is compiled. -/
namespace Chronicle

inductive Operator
  | eq
  | ne
  | lt
  | le
  | gt
  | ge
deriving DecidableEq

namespace Operator

/-- The operator in conditions. -/
def sql : Operator → String
  | eq => "="
  | ne => "<>"
  | lt => "<"
  | le => "<="
  | gt => ">"
  | ge => ">="

/-- The operator in the text of predicates. -/
def symbol : Operator → String
  | eq => "=="
  | ne => "!="
  | lt => "<"
  | le => "<="
  | gt => ">"
  | ge => ">="

def all : List Operator := [eq, ne, lt, le, gt, ge]

/-- Whether the operator holds of two things in the given order. -/
def holds : Operator → Ordering → Bool
  | eq, o => o == .eq
  | ne, o => o != .eq
  | lt, o => o == .lt
  | le, o => o != .gt
  | gt, o => o == .gt
  | ge, o => o != .lt

/-- White space around a symbol does not count. -/
def trimmed (text : String) : String := String.ofList (Text.trim text.toList)

def ofSymbol? (text : String) : Option Operator :=
  all.find? fun op => op.symbol == trimmed text

theorem ofSymbol?_symbol (op : Operator) : ofSymbol? op.symbol = some op := by
  cases op <;> decide +kernel

end Operator

inductive Operand
  | field (name : String)
  | attr (key : String)
deriving DecidableEq

namespace Operand

/-- The field's name or the attribute's key. -/
def name : Operand → String
  | field name => name
  | attr key => key

def text : Operand → String
  | field name => "Field(" ++ name ++ ")"
  | attr key => "Attribute(" ++ key ++ ")"

end Operand

inductive Predicate
  | comparison (op : Operator) (operand : Operand) (literal : Value)
  /-- Only a string pattern can be compiled. -/
  | matching (operand : Operand) (pattern : Value)
  | not (p : Predicate)
  | has (key : String)
  | all (ps : List Predicate)
  | any (ps : List Predicate)

namespace Predicate

mutual

def text : Predicate → String
  | comparison op operand literal =>
    operand.text ++ " " ++ op.symbol ++ " " ++ Text.quoted literal.text
  | matching operand pattern => operand.text ++ " ~ /" ++ pattern.text ++ "/"
  | not p => "Not(" ++ p.text ++ ")"
  | has key => "Has(" ++ key ++ ")"
  | all ps => "All(" ++ String.intercalate ", " (texts ps) ++ ")"
  | any ps => "Any(" ++ String.intercalate ", " (texts ps) ++ ")"

def texts : List Predicate → List String
  | [] => []
  | p :: ps => p.text :: texts ps

end

mutual

/-- Equality with values compared as `Value.agrees` does. -/
def agrees : Predicate → Predicate → Bool
  | comparison op operand literal, comparison op' operand' literal' =>
    op == op' && operand == operand' && literal.agrees literal'
  | matching operand pattern, matching operand' pattern' =>
    operand == operand' && pattern.agrees pattern'
  | not p, not q => p.agrees q
  | has key, has key' => key == key'
  | all ps, all qs => agreesEach ps qs
  | any ps, any qs => agreesEach ps qs
  | _, _ => false

def agreesEach : List Predicate → List Predicate → Bool
  | [], [] => true
  | p :: ps, q :: qs => p.agrees q && agreesEach ps qs
  | _, _ => false

end

mutual

/-- Levels of the tree; a leaf has one. -/
def height : Predicate → Nat
  | not p => p.height + 1
  | all ps => greatestHeight ps + 1
  | any ps => greatestHeight ps + 1
  | _ => 1

def greatestHeight : List Predicate → Nat
  | [] => 0
  | p :: ps => max p.height (greatestHeight ps)

end

end Predicate

end Chronicle
