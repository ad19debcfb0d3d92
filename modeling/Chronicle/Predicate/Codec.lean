import Chronicle.Json.Tree
import Chronicle.Predicate.Basic

/-! # Durable bytes of predicates

A predicate is written as interchange text in which every alternative is an object with one member, its
name. Reading is laxer: the members of comparisons and matches may come in any order, among others that
do not count, or in an array without their names. Every array and every object that is read takes one of
a limited number of levels; members that do not count take none, however deep they are. -/
namespace Chronicle
open Text

namespace Json

/-- Reads what is in an array or object, which takes a level. -/
def enter? {α : Type} (levels : Nat) (read : Nat → Option α) : Option α :=
  match levels with
  | 0 => none
  | levels + 1 => read levels

/-- The text of a text literal. -/
def text? : Json → Option String
  | text l => l.toText?
  | _ => none

def ofText (s : String) : Json := text (.ofText s)

/-- An object with one member. -/
def tagged (name : String) (content : Json) : Json := object [(.ofText name, content)]

/-- Name and content of an object with one member. -/
def tagged? : Json → Option (String × Json)
  | object [(k, j)] => k.toText?.map (·, j)
  | _ => none

/-- The members of an object that are among `names`, in the order of the names. Every name comes exactly
once, and every other key is a text at least. -/
def members? (names : List String) (members : List (Literal × Json)) : Option (List Json) := do
  let named ← members.mapM fun (k, j) => k.toText?.map (·, j)
  names.mapM fun name =>
    match named.filter (·.1 == name) with
    | [(_, j)] => some j
    | _ => none

/-- The parts of a record: an object with the names as keys, or an array in the order of the names. -/
def record? (names : List String) : Json → Option (List Json)
  | object ms => members? names ms
  | array items => if items.length = names.length then some items else none
  | _ => none

end Json

namespace Operator

def variant : Operator → String
  | eq => "Eq"
  | ne => "Ne"
  | lt => "Lt"
  | le => "Le"
  | gt => "Gt"
  | ge => "Ge"

def ofVariant? (name : String) : Option Operator := all.find? fun op => op.variant == name

def toJson (op : Operator) : Json := .ofText op.variant

/-- The name alone, or with nothing as its content. -/
def ofJson? (levels : Nat) (j : Json) : Option Operator :=
  match j.tagged? with
  | some (name, .null) => Json.enter? levels fun _ => ofVariant? name
  | some _ => none
  | none => j.text?.bind ofVariant?

end Operator

namespace Operand

def toJson : Operand → Json
  | field name => .tagged "Field" (.ofText name)
  | attr key => .tagged "Attribute" (.ofText key)

def ofJson? (levels : Nat) (j : Json) : Option Operand :=
  Json.enter? levels fun _ => match j.tagged? with
  | some ("Field", content) => content.text?.map field
  | some ("Attribute", content) => content.text?.map attr
  | _ => none

end Operand

namespace Value

/-- A number that is not finite has no numeral. -/
def toJson : Value → Json
  | integer i => .tagged "Integer" (.number (.ofInt i.toInt))
  | string s => .tagged "String" (.ofText s)
  | boolean b => .tagged "Boolean" (.bool b)
  | timestamp t => .tagged "Timestamp" (.ofText t.interchangeText)
  | float x => .tagged "Float" (if x.isFinite then .number (.ofBinary64 x) else .null)

def ofJson? (levels : Nat) (j : Json) : Option Value :=
  Json.enter? levels fun _ => match j.tagged? with
  | some ("Integer", .number n) => n.toInt64?.map integer
  | some ("String", content) => content.text?.map string
  | some ("Boolean", .bool b) => some (boolean b)
  | some ("Timestamp", content) => (content.text?.bind Timestamp.ofInterchangeText?).map timestamp
  | some ("Float", .number n) => n.toBinary64?.map float
  | _ => none

end Value

namespace Predicate

def comparisonNames : List String := ["op", "operand", "literal"]

def matchNames : List String := ["operand", "pattern"]

def comparisonOf? (levels : Nat) : List Json → Option Predicate
  | [op, operand, literal] => do
    let op ← Operator.ofJson? levels op
    let operand ← Operand.ofJson? levels operand
    let literal ← Value.ofJson? levels literal
    some (comparison op operand literal)
  | _ => none

def matchOf? (levels : Nat) : List Json → Option Predicate
  | [operand, pattern] => do
    let operand ← Operand.ofJson? levels operand
    let pattern ← Value.ofJson? levels pattern
    some (matching operand pattern)
  | _ => none

mutual

def toJson : Predicate → Json
  | comparison op operand literal =>
    .tagged "Comparison" (.object [(.ofText "op", op.toJson), (.ofText "operand", operand.toJson),
      (.ofText "literal", literal.toJson)])
  | matching operand pattern =>
    .tagged "Match" (.object [(.ofText "operand", operand.toJson), (.ofText "pattern", pattern.toJson)])
  | not p => .tagged "Not" p.toJson
  | has key => .tagged "Has" (.ofText key)
  | all ps => .tagged "All" (.array (toJsons ps))
  | any ps => .tagged "Any" (.array (toJsons ps))

def toJsons : List Predicate → List Json
  | [] => []
  | p :: ps => p.toJson :: toJsons ps

end

mutual

def ofJson? : Nat → Json → Option Predicate
  | levels, .object [(k, content)] =>
    Json.enter? levels fun levels =>
      match k.toText?, content with
      | some "Comparison", content =>
        Json.enter? levels fun levels => (content.record? comparisonNames).bind (comparisonOf? levels)
      | some "Match", content =>
        Json.enter? levels fun levels => (content.record? matchNames).bind (matchOf? levels)
      | some "Not", content => (ofJson? levels content).map not
      | some "Has", content => content.text?.map has
      | some "All", .array items => Json.enter? levels fun levels => (ofJsons? levels items).map all
      | some "Any", .array items => Json.enter? levels fun levels => (ofJsons? levels items).map any
      | _, _ => none
  | _, _ => none

def ofJsons? : Nat → List Json → Option (List Predicate)
  | _, [] => some []
  | levels, j :: rest => (ofJson? levels j).bind fun p => (ofJsons? levels rest).map (p :: ·)

end

/-- Levels of arrays and objects in durable bytes. -/
def nestingLimit : Nat := 127

def toBytes (p : Predicate) : Utf8.Bytes := Utf8.encode p.toJson.chars

def ofBytes? (bytes : Utf8.Bytes) : Option Predicate := (Json.parse? bytes).bind (ofJson? nestingLimit)

end Predicate

end Chronicle
