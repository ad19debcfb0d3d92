import Chronicle.Condition.Basic
import Chronicle.Sql.Verdict

/-!
# When conditions hold

What a condition says about one stored entity, apart from how it is written. It is decided from left to
right, and only as far as needed. What can fail is a pattern that is not readable, and only when it is asked.
-/
namespace Chronicle

/-- A stored entity as conditions see it. -/
structure Candidate where
  field : Column → StoredText
  attributes : AttributeTable
  /-- Whether it is tied by membership to the row of the other kind. -/
  tied : RowId → Bool

namespace Cell

/-- Whether an operator holds of a stored cell and a parameter; it never does with null. -/
def compares (c : Cell) (op : Operator) (d : Cell) : Bool :=
  match c.order? d.kept with
  | some o => op.holds o
  | none => false

end Cell

namespace Condition

def Atom.holds [Regex.Library] (e : Candidate) : Atom → Except StoreFault Bool
  | fieldComparison _ column op literal => .ok ((e.field column).cell.compares op literal.cell)
  | fieldMatch _ column pattern => (e.field column).cell.matchedBy pattern
  | hasAttribute _ key => .ok (e.attributes.contains (.text key))
  | attributeComparison _ key op literal =>
    match e.attributes.get? (.text key) with
    | some r =>
      .ok (r.tag == .text literal.kind.tag && (r.slot literal.kind).compares op literal.cell)
    | none => .ok false
  | attributeMatch _ key pattern =>
    match e.attributes.get? (.text key) with
    | some r =>
      if r.tag = .text Value.Kind.string.tag then (r.slot .string).matchedBy pattern else .ok false
    | none => .ok false
  | memberOf catalogue => .ok (e.tied catalogue)
  | containing event => .ok (e.tied event)

mutual

def holds [Regex.Library] (e : Candidate) : Condition → Except StoreFault Bool
  | atom a => a.holds e
  | and cs => allHold e cs
  | or cs => anyHolds e cs
  | negate c => (c.holds e).map (!·)

def allHold [Regex.Library] (e : Candidate) : List Condition → Except StoreFault Bool
  | [] => .ok true
  | c :: cs => do if ← c.holds e then allHold e cs else .ok false

def anyHolds [Regex.Library] (e : Candidate) : List Condition → Except StoreFault Bool
  | [] => .ok false
  | c :: cs => do if ← c.holds e then .ok true else anyHolds e cs

end

end Condition

end Chronicle
