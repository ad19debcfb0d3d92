import Chronicle.Condition.Basic
import Chronicle.Error
import Chronicle.Regex.Basic

/-! # Conditions of predicates

A predicate that makes sense for a kind of entity becomes a condition; otherwise the first fault from
left to right is reported. Double negations leave nothing behind. -/
namespace Chronicle

namespace EntityKind

def knownField (kind : EntityKind) (name : String) : Except Error FieldSpec :=
  match kind.field? name with
  | some f => .ok f
  | none => .error (.unknownField name kind)

end EntityKind

namespace Predicate
open Condition (Atom)

/-- The literal must be storable, and a field must exist and have the kind of the literal. -/
def compileComparison (kind : EntityKind) (op : Operator) (operand : Operand) (literal : Value) :
    Except Error Condition := do
  literal.check operand.name
  match operand with
  | .field name =>
    let f ← kind.knownField name
    if literal.kind ≠ f.kind then .error (.typeMismatch name f.kind literal.kind)
    else .ok (.atom (.fieldComparison kind f.column op literal))
  | .attr key => .ok (.atom (.attributeComparison kind key op literal))

/-- The pattern must be a readable string, and a field must exist. -/
def compileMatch [Regex.Library] (kind : EntityKind) (operand : Operand) (pattern : Value) :
    Except Error Condition :=
  match pattern with
  | .string text =>
    if (Regex.compile? text).isNone then .error (.invalidPattern text)
    else match operand with
      | .field name => (kind.knownField name).map fun f => .atom (.fieldMatch kind f.column text)
      | .attr key => .ok (.atom (.attributeMatch kind key text))
  | _ => .error (.patternNotString operand pattern.kind)

mutual

def compile [Regex.Library] (kind : EntityKind) : Predicate → Except Error Condition
  | comparison op operand literal => compileComparison kind op operand literal
  | matching operand pattern => compileMatch kind operand pattern
  | not (not p) => p.compile kind
  | not p => (p.compile kind).map .negate
  | has key => .ok (.atom (.hasAttribute kind key))
  | all ps => if ps.isEmpty then .error (.emptyCombinator .all) else (compileEach kind ps).map .and
  | any ps => if ps.isEmpty then .error (.emptyCombinator .any) else (compileEach kind ps).map .or

def compileEach [Regex.Library] (kind : EntityKind) : List Predicate → Except Error (List Condition)
  | [] => .ok []
  | p :: ps => do
    let c ← p.compile kind
    let cs ← compileEach kind ps
    .ok (c :: cs)

end

end Predicate

end Chronicle
