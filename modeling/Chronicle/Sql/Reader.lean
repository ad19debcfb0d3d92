import Chronicle.Sql.Expr

/-! # Reading statements

An expression is read token by token. Inside of each bracket the left sides of connectives are kept until
their right sides have been read: a conjunction is put together at the next connective, a disjunction at the
next `or`, and what is in a bracket at its end. -/
namespace Chronicle.Sql

inductive Bracket
  | group
  | query (table : Table) (name : String)

def Bracket.close : Bracket → Expr → Expr
  | group, e => e
  | query table name, e => .query table name e

/-- A left side, if there is one, with its right side. -/
def Connective.joined (c : Connective) : Option Expr → Expr → Expr
  | none, r => r
  | some l, r => .join c l r

/-- What has been read before an atom: the left side of an `or`, then that of an `and`, then negations. -/
structure Frame where
  disjunction : Option Expr
  conjunction : Option Expr
  negations : Nat

namespace Frame

def empty : Frame := ⟨none, none, 0⟩

def conjoin (f : Frame) (e : Expr) : Expr := Connective.and.joined f.conjunction (f.negations.repeat .not e)

def disjoin (f : Frame) (e : Expr) : Expr := Connective.or.joined f.disjunction (f.conjoin e)

end Frame

inductive Phase
  /-- An atom must follow. -/
  | operand
  /-- The name of a table has been read, on the right side of a test if there is a left one. -/
  | owner (left : Option (Term × Test)) (owner : String)
  /-- The point after the name of a table. -/
  | point (left : Option (Term × Test)) (owner : String)
  /-- The left side of a test. -/
  | left (l : Term)
  /-- The left side and the test itself. -/
  | tested (l : Term) (t : Test)
  /-- These words must follow, and then a query for rows of a table. -/
  | words (rest : List String)
  /-- The table of a query must follow. -/
  | table
  /-- The name that the table of a query goes by must follow. -/
  | alias (t : Table)
  /-- The condition of a query must follow. -/
  | condition (t : Table) (name : String)
  /-- An atom has been read. -/
  | complete (e : Expr)

structure Reading where
  /-- The frames around the open brackets, the innermost first. -/
  outer : List (Frame × Bracket)
  frame : Frame
  phase : Phase

namespace Reading

def start : Reading := ⟨[], .empty, .operand⟩

def enter (s : Reading) (b : Bracket) : Reading := ⟨(s.frame, b) :: s.outer, .empty, .operand⟩

/-- After a side of a test: the test is complete if the side is its right one. -/
def side (s : Reading) (left : Option (Term × Test)) (r : Term) : Reading :=
  match left with
  | none => { s with phase := .left r }
  | some (l, t) => { s with phase := .complete (.test t l r) }

def stepOperand (s : Reading) (l : String) : Option Reading :=
  if l = "not" then some { s with frame := { s.frame with negations := s.frame.negations + 1 } }
  else if l = "(" then some (s.enter .group)
  else if l = "exists" then some { s with phase := .words ["(", "select", "1", "from"] }
  else if l = "1" then some { s with phase := .complete (.constant true) }
  else if l = "0" then some { s with phase := .complete (.constant false) }
  else if isName l then some { s with phase := .owner none l }
  else none

def stepComplete (s : Reading) (e : Expr) (l : String) : Option Reading :=
  if l = "and" then some ⟨s.outer, ⟨s.frame.disjunction, some (s.frame.conjoin e), 0⟩, .operand⟩
  else if l = "or" then some ⟨s.outer, ⟨some (s.frame.disjoin e), none, 0⟩, .operand⟩
  else if l = ")" then
    match s.outer with
    | [] => none
    | (f, b) :: outer => some ⟨outer, f, .complete (b.close (s.frame.disjoin e))⟩
  else none

def step (s : Reading) (t : Token) : Option Reading :=
  match s.phase, t with
  | .operand, .lexeme l => s.stepOperand l
  | .operand, .bound v => some (s.side none (.bound v))
  | .owner left owner, .lexeme l => if l = "." then some { s with phase := .point left owner } else none
  | .point left owner, .lexeme l => if isName l then some (s.side left (.column owner l)) else none
  | .left l, .lexeme text => (Test.ofText? text).map fun t => { s with phase := .tested l t }
  | .tested l t, .lexeme name => if isName name then some { s with phase := .owner (some (l, t)) name } else none
  | .tested l t, .bound v => some (s.side (some (l, t)) (.bound v))
  | .words (w :: ws), .lexeme l =>
    if l = w then some { s with phase := if ws.isEmpty then .table else .words ws } else none
  | .table, .lexeme l => (Table.ofName? l).map fun t => { s with phase := .alias t }
  | .alias t, .lexeme l => if isName l then some { s with phase := .condition t l } else none
  | .condition t name, .lexeme l => if l = "where" then some (s.enter (.query t name)) else none
  | .complete e, .lexeme l => s.stepComplete e l
  | _, _ => none

/-- The expression that has been read when all brackets are closed. -/
def finish? (s : Reading) : Option Expr :=
  match s.outer, s.phase with
  | [], .complete e => some (s.frame.disjoin e)
  | _, _ => none

end Reading

def readExpr? (ts : List Token) : Option Expr := (ts.foldlM Reading.step .start).bind Reading.finish?

def readColumns? : List Token → Option (List Qualified × List Token)
  | .lexeme owner :: .lexeme "." :: .lexeme name :: .lexeme "," :: rest =>
    (readColumns? rest).map fun (columns, rest) => (⟨owner, name⟩ :: columns, rest)
  | .lexeme owner :: .lexeme "." :: .lexeme name :: rest => some ([⟨owner, name⟩], rest)
  | _ => none

/-- How many tokens name the order at the end of a statement. -/
def orderLength : Nat := 5

/-- The condition of a statement and the column that orders it. -/
def readCondition? (ts : List Token) : Option (Expr × Qualified) :=
  match ts.drop (ts.length - orderLength) with
  | [.lexeme "order", .lexeme "by", .lexeme owner, .lexeme ".", .lexeme name] =>
    (readExpr? (ts.take (ts.length - orderLength))).map (·, ⟨owner, name⟩)
  | _ => none

def readStatement? : List Token → Option Statement
  | .lexeme "select" :: rest => do
    let (columns, rest) ← readColumns? rest
    match rest with
    | .lexeme "from" :: .lexeme table :: .lexeme name :: .lexeme "where" :: rest =>
      let table ← Table.ofName? table
      let (condition, order) ← readCondition? rest
      some ⟨columns, table, name, condition, order⟩
    | _ => none
  | _ => none

/-- The statement that a text is with its parameters. -/
def read? (text : String) (params : List Value) : Option Statement :=
  (tokens? (lexemes text) params).bind readStatement?

end Chronicle.Sql
