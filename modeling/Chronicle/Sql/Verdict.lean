import Chronicle.Error
import Chronicle.Regex.Basic
import Chronicle.Sql.Expr

/-! # What expressions say about rows

An expression is decided on the rows that its names stand for. Comparisons with null are unknown, and a
connective is unknown unless one side settles it. It looks at its right side only if the left does not
settle it, so a pattern that is not readable fails only when it is asked. -/
namespace Chronicle

namespace Cell

/-- Whether a pattern matches; numbers are matched as they are shown, and nothing matches in null and
blobs. -/
def matched [Regex.Library] (c : Cell) (r : Regex) : Bool :=
  match c with
  | text s => r.isMatch s
  | integer i => r.isMatch (toString i.toInt)
  | real x => r.isMatch x.text
  | null | blob _ => false

/-- Matches with a pattern that has to be read first. -/
def matchedBy [Regex.Library] (c : Cell) (pattern : String) : Except StoreFault Bool :=
  match Regex.compile? pattern with
  | some r => .ok (c.matched r)
  | none => .error .pattern

end Cell

namespace Sql

/-- What an expression says about rows: true, false, or unknown. -/
abbrev Verdict := Except StoreFault (Option Bool)

namespace Connective

/-- The truth value that settles the connective from one side. -/
def settling : Connective → Bool
  | and => false
  | or => true

def join (c : Connective) (v w : Verdict) : Verdict :=
  match v with
  | .error f => .error f
  | .ok (some b) => if b = c.settling then .ok (some b) else w
  | .ok none => w.map fun b => if b = some c.settling then b else none

end Connective

def Verdict.negate (v : Verdict) : Verdict := v.map (·.map (!·))

/-- A row of a table that goes by a name. -/
structure Scope where
  name : String
  table : Table
  row : Row

def Scope.cell? (s : Scope) (column : String) : Option Cell :=
  ((s.table.columns.map TableColumn.name).zip s.row).lookup column

/-- A name stands for the innermost row that goes by it. -/
def Term.cell (scopes : List Scope) : Term → Except StoreFault Cell
  | column owner name =>
    match (scopes.find? fun s => s.name == owner).bind (·.cell? name) with
    | some c => .ok c
    | none => .error .unknownColumn
  | bound v => .ok v.cell.kept

def Test.verdict [Regex.Library] : Test → Cell → Cell → Verdict
  | compares op, c, d => .ok ((c.order? d).map op.holds)
  | regexp, c, .text pattern => (c.matchedBy pattern).map some
  | regexp, _, _ => .error .pattern

/-- Looks for a row on which something is true. -/
def anyRow (f : Row → Verdict) : List Row → Verdict
  | [] => .ok (some false)
  | row :: rows => do if (← f row) = some true then .ok (some true) else anyRow f rows

def Expr.verdict [Regex.Library] (t : Tables) (scopes : List Scope) : Expr → Verdict
  | constant b => .ok (some b)
  | test t l r => do t.verdict (← l.cell scopes) (← r.cell scopes)
  | query table name e => anyRow (fun row => e.verdict t (⟨name, table, row⟩ :: scopes)) (t.rows table)
  | not e => (e.verdict t scopes).negate
  | join c l r => c.join (l.verdict t scopes) (r.verdict t scopes)

namespace Statement

variable (q : Statement)

def scope (row : Row) : Scope := ⟨q.name, q.table, row⟩

/-- The cell of a column in a row of the statement's table; no cell is null. -/
def cell (row : Row) (c : Qualified) : Cell := ((q.scope row).cell? c.name).getD .null

/-- Whether a row may stand before another one. -/
def precedes (row row' : Row) : Bool := (q.cell row q.order).order? (q.cell row' q.order) != some .gt

/-- Reads the rows on which a condition is true, one after the other. -/
def readRows [Regex.Library] {α : Type} (t : Tables) (read : Row → Except StoreFault α) :
    List Row → Except StoreFault (List α)
  | [] => .ok []
  | row :: rest => do
    if (← q.condition.verdict t [q.scope row]) = some true then
      let record ← read (q.columns.map (q.cell row))
      let records ← readRows t read rest
      .ok (record :: records)
    else readRows t read rest

def run [Regex.Library] {α : Type} (t : Tables) (read : Row → Except StoreFault α) :
    Except StoreFault (List α) :=
  q.readRows t read ((t.rows q.table).mergeSort q.precedes)

end Statement

end Sql

end Chronicle
