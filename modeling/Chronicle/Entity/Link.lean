import Chronicle.RowId
import Chronicle.SortedMap

/-! # Links to rows

An entity in memory has a link, which its copies share. The link says which row the entity is stored in,
once it is. -/
namespace Chronicle

structure Link where
  number : Nat
deriving DecidableEq

/-- All links that were made, and the rows of those that have one. -/
structure Links where
  made : Nat
  rows : SortedMap Nat RowId
deriving DecidableEq

namespace Links

def none : Links := ⟨0, .empty⟩

def row? (ls : Links) (l : Link) : Option RowId := ls.rows.get? l.number

/-- A link that no entity has yet. -/
def fresh (ls : Links) : Link × Links := (⟨ls.made⟩, { ls with made := ls.made + 1 })

def assign (ls : Links) (l : Link) (id : RowId) : Links := { ls with rows := ls.rows.insert l.number id }

/-- A new link to a row. -/
def freshTo (ls : Links) (id : RowId) : Link × Links :=
  let (l, ls) := ls.fresh
  (l, ls.assign l id)

theorem row?_assign_self (ls : Links) (l : Link) (id : RowId) : (ls.assign l id).row? l = some id :=
  SortedMap.get?_insert_self ..

theorem row?_assign_of_ne (ls : Links) {l l' : Link} (id : RowId) (h : l ≠ l') :
    (ls.assign l id).row? l' = ls.row? l' :=
  SortedMap.get?_insert_of_ne _ _ fun e => h (by cases l; cases l'; cases e; rfl)

end Links

end Chronicle
