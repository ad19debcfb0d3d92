import Chronicle.EntityKind
import Chronicle.Predicate.Basic
import Chronicle.RowId

/-! # Conditions

A condition is a boolean expression about one stored entity. It is written with a question mark for each
parameter, so what a user gives never becomes part of the text. -/
namespace Chronicle

inductive Condition.Atom
  | fieldComparison (kind : EntityKind) (column : Column) (op : Operator) (literal : Value)
  | fieldMatch (kind : EntityKind) (column : Column) (pattern : String)
  | hasAttribute (kind : EntityKind) (key : String)
  /-- An attribute of the literal's kind compares to it. -/
  | attributeComparison (kind : EntityKind) (key : String) (op : Operator) (literal : Value)
  | attributeMatch (kind : EntityKind) (key pattern : String)
  /-- An event is a member of the catalogue. -/
  | memberOf (catalogue : RowId)
  /-- A catalogue has the event as a member. -/
  | containing (event : RowId)
deriving DecidableEq

inductive Condition
  | atom (a : Condition.Atom)
  | and (cs : List Condition)
  | or (cs : List Condition)
  | negate (c : Condition)

namespace Condition

namespace Atom

/-- The kind of entity that the condition is about. -/
def kind : Atom → EntityKind
  | fieldComparison kind _ _ _ => kind
  | fieldMatch kind _ _ => kind
  | hasAttribute kind _ => kind
  | attributeComparison kind _ _ _ => kind
  | attributeMatch kind _ _ => kind
  | memberOf _ => .event
  | containing _ => .catalogue

/-- A query for the attribute with a key, which may ask for more. -/
def attributeQuery (kind : EntityKind) (more : String) : String :=
  "exists (select 1 from " ++ kind.attributeTable ++ " a where a.owner_id = " ++ kind.tableAlias ++
    ".id and a.key = ?" ++ more ++ ")"

/-- A query for a membership. -/
def membershipQuery (kind : EntityKind) (own other : String) : String :=
  "exists (select 1 from catalogue_events m where m." ++ own ++ " = " ++ kind.tableAlias ++
    ".id and m." ++ other ++ " = ?)"

def sql : Atom → String
  | fieldComparison kind column op _ =>
    kind.tableAlias ++ "." ++ column.text ++ " " ++ op.sql ++ " ?"
  | fieldMatch kind column _ => kind.tableAlias ++ "." ++ column.text ++ " regexp ?"
  | hasAttribute kind _ => attributeQuery kind ""
  | attributeComparison kind _ op literal =>
    attributeQuery kind (" and a.value_type = ? and a." ++ literal.kind.column ++ " " ++ op.sql ++ " ?")
  | attributeMatch kind _ _ =>
    attributeQuery kind (" and a.value_type = ? and a." ++ Value.Kind.string.column ++ " regexp ?")
  | memberOf _ => membershipQuery .event "event_id" "catalogue_id"
  | containing _ => membershipQuery .catalogue "catalogue_id" "event_id"

/-- What the question marks stand for, in their order. -/
def params : Atom → List Value
  | fieldComparison _ _ _ literal => [literal]
  | fieldMatch _ _ pattern => [.string pattern]
  | hasAttribute _ key => [.string key]
  | attributeComparison _ key _ literal => [.string key, .string literal.kind.tag, literal]
  | attributeMatch _ key pattern => [.string key, .string Value.Kind.string.tag, .string pattern]
  | memberOf catalogue => [.integer catalogue]
  | containing event => [.integer event]

end Atom

/-- One part is written alone; of several each is put in parentheses. -/
def joined (connective identity : String) : List String → String
  | [] => identity
  | [part] => part
  | parts => String.intercalate (" " ++ connective ++ " ") (parts.map fun part => "(" ++ part ++ ")")

mutual

def sql : Condition → String
  | atom a => a.sql
  | and cs => joined "and" "1" (sqls cs)
  | or cs => joined "or" "0" (sqls cs)
  | negate c => "not (" ++ c.sql ++ ")"

def sqls : List Condition → List String
  | [] => []
  | c :: cs => c.sql :: sqls cs

end

mutual

def atoms : Condition → List Atom
  | atom a => [a]
  | and cs => atomsOfAll cs
  | or cs => atomsOfAll cs
  | negate c => c.atoms

def atomsOfAll : List Condition → List Atom
  | [] => []
  | c :: cs => c.atoms ++ atomsOfAll cs

end

def params (c : Condition) : List Value := c.atoms.flatMap Atom.params

/-- Conditions that are written alike and have equal parameters. -/
def agrees (c d : Condition) : Bool :=
  c.sql == d.sql && c.params.length == d.params.length &&
    (c.params.zip d.params).all fun (v, w) => v.agrees w

end Condition

end Chronicle
