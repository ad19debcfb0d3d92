import Chronicle.Sql.Reader

/-! # Engines

A database engine runs the statements that it takes. It never takes one that goes beyond its limits, and
always one that stays within them and has not too many ways to find the rows. -/
namespace Chronicle

namespace Sql

/-- The greatest number of levels of an expression. -/
def maximumDepth : Nat := 1000

/-- The greatest number of parameters. -/
def maximumParameters : Nat := 32766

/-- The greatest number of columns that are selected. -/
def maximumColumns : Nat := 2000

/-- So many ways to find the rows of a table are always weighed. -/
def weighedWays : Nat := 20000

/-- The greatest number of bytes of a text. -/
def maximumLength : Nat := 1000000000

/-- The bytes of a parameter that is handed over as a text. -/
def lengthOf (v : Value) : Nat :=
  match v.cell with
  | .text s => s.utf8ByteSize
  | _ => 0

/-- A statement that every engine takes. -/
structure Statement.IsModest (q : Statement) (text : String) (params : List Value) : Prop where
  known : q.isKnown = true
  columns : q.columns.length ≤ maximumColumns
  depth : q.condition.depth ≤ maximumDepth
  ways : q.condition.ways ≤ weighedWays
  queryWays : q.condition.queryWays ≤ weighedWays
  parameters : params.length ≤ maximumParameters
  length : text.utf8ByteSize ≤ maximumLength
  lengths : ∀ v ∈ params, lengthOf v ≤ maximumLength

/-- A statement that no engine takes. A condition with constants may be made smaller before it is looked
at. -/
def Statement.IsExcessive (q : Statement) (params : List Value) : Prop :=
  (q.condition.hasConstant = false ∧ maximumDepth < q.condition.depth) ∨ maximumParameters < params.length

class Engine where
  /-- Whether a text with its parameters is taken as a statement. -/
  takes (text : String) (params : List Value) : Bool
  takes_of_isModest : ∀ {text params q}, read? text params = some q → q.IsModest text params →
    takes text params = true
  not_takes_of_isExcessive : ∀ {text params q}, read? text params = some q → q.IsExcessive params →
    takes text params = false

end Sql

end Chronicle
