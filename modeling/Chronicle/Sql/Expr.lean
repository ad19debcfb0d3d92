import Chronicle.Sql.Token
import Chronicle.Store.Tables

/-! # Expressions and statements

The boolean expressions that rows are selected by, and the statements that select them. Columns are written
with the name of their table. -/
namespace Chronicle.Sql

/-- What is compared: a column of a table that goes by a name, or a parameter. -/
inductive Term
  | column (owner name : String)
  | bound (v : Value)

inductive Test
  | compares (op : Operator)
  | regexp
deriving DecidableEq

inductive Connective
  | and
  | or
deriving DecidableEq

inductive Expr
  | constant (b : Bool)
  | test (t : Test) (l r : Term)
  /-- Whether a table that goes by a name has a row on which the expression is true. -/
  | query (table : Table) (name : String) (e : Expr)
  | not (e : Expr)
  | join (c : Connective) (l r : Expr)

def Test.text : Test → String
  | compares op => op.sql
  | regexp => "regexp"

def Test.all : List Test := Operator.all.map compares ++ [regexp]

def Test.ofText? (text : String) : Option Test := all.find? fun t => t.text == text

def Connective.text : Connective → String
  | and => "and"
  | or => "or"

/-- A column of a table that goes by a name. -/
structure Qualified where
  owner : String
  name : String

/-- Some columns of the rows of a table on which a condition is true, in the order of one column. -/
structure Statement where
  columns : List Qualified
  table : Table
  name : String
  condition : Expr
  order : Qualified

/-! ## Names -/

/-- A table goes by a small letter, which is no keyword. -/
def isAlias (name : String) : Bool :=
  match name.toList with
  | [c] => c.isLower
  | _ => false

def Table.hasColumn (t : Table) (name : String) : Bool := t.columns.any fun c => c.name == name

/-- Whether a column is one of the innermost table that goes by its name. -/
def Qualified.isKnown (tables : List (String × Table)) (q : Qualified) : Bool :=
  (tables.lookup q.owner).any fun t => Table.hasColumn t q.name

def Term.isKnown (tables : List (String × Table)) : Term → Bool
  | column owner name => Qualified.isKnown tables ⟨owner, name⟩
  | bound _ => true

/-- Whether all columns of an expression are known, and tables go by names that are free for them. -/
def Expr.isKnown (tables : List (String × Table)) : Expr → Bool
  | constant _ => true
  | test _ l r => l.isKnown tables && r.isKnown tables
  | query table name e => isAlias name && e.isKnown ((name, table) :: tables)
  | not e => e.isKnown tables
  | join _ l r => l.isKnown tables && r.isKnown tables

def Statement.isKnown (q : Statement) : Bool :=
  let tables := [(q.name, q.table)]
  isAlias q.name && q.columns.all (·.isKnown tables) && q.condition.isKnown tables && q.order.isKnown tables

/-! ## Levels -/

/-- A column is written with a name on either side of a point. -/
def Term.height : Term → Nat
  | column _ _ => 2
  | bound _ => 1

def Expr.height : Expr → Nat
  | constant _ => 1
  | test _ l r => max l.height r.height + 1
  | query _ _ e => e.height + 1
  | not e => e.height + 1
  | join _ l r => max l.height r.height + 1

/-- The height of the conditions of queries inside of an expression, the greatest on any way down. -/
def Expr.queryHeight : Expr → Nat
  | constant _ => 0
  | test _ _ _ => 0
  | query _ _ e => e.height + e.queryHeight
  | not e => e.queryHeight
  | join _ l r => max l.queryHeight r.queryHeight

/-- The levels of an expression. The condition of a query counts twice, as a part and by itself. -/
def Expr.depth (e : Expr) : Nat := e.height + e.queryHeight

/-! ## Ways -/

/-- The tests outside of queries. Each may be a way to find the rows. -/
def Expr.ways : Expr → Nat
  | constant _ => 0
  | test _ _ _ => 1
  | query _ _ _ => 0
  | not e => e.ways
  | join _ l r => l.ways + r.ways

/-- The ways of queries inside of an expression, the most of any of them. -/
def Expr.queryWays : Expr → Nat
  | constant _ => 0
  | test _ _ _ => 0
  | query _ _ e => max e.ways e.queryWays
  | not e => e.queryWays
  | join _ l r => max l.queryWays r.queryWays

def Expr.hasConstant : Expr → Bool
  | constant _ => true
  | test _ _ _ => false
  | query _ _ e => e.hasConstant
  | not e => e.hasConstant
  | join _ l r => l.hasConstant || r.hasConstant

end Chronicle.Sql
