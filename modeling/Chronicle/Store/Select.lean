import Chronicle.Condition.Basic
import Chronicle.Sql.Engine
import Chronicle.Sql.Verdict

/-! # Selecting rows

The rows on which a condition is true, in the order of their ids. The text of the condition becomes a part of
a statement, which the engine must take, and the cells of the rows must have the class that is expected of
them. -/
namespace Chronicle

/-- The columns of a kind that are read from a row. -/
def EntityKind.columns : EntityKind → List String
  | event => ["id", "uuid", "start_time", "end_time", "author"]
  | catalogue => ["id", "name", "author", "predicate", "predicate_digest"]

namespace EntityKind

/-- What stands before the condition in a statement that selects rows of a kind. -/
def selectionStart (kind : EntityKind) : String :=
  "select " ++ String.intercalate ", " (kind.columns.map fun column => kind.tableAlias ++ "." ++ column) ++
    " from " ++ kind.table ++ " " ++ kind.tableAlias ++ " where "

def selectionEnd (kind : EntityKind) : String := " order by " ++ kind.tableAlias ++ ".id"

/-- The statement that selects the rows of a kind on which a condition is true. -/
def selection (kind : EntityKind) (condition : String) : String :=
  kind.selectionStart ++ condition ++ kind.selectionEnd

end EntityKind

namespace Store

/-- A selected event. -/
structure EventRecord where
  id : RowId
  uuid : String
  startText : String
  endText : String
  author : String
deriving DecidableEq

/-- A selected catalogue. -/
structure CatalogueRecord where
  id : RowId
  name : String
  author : String
  predicate : Option Text.Utf8.Bytes
  digest : Option String
deriving DecidableEq

def cellAt (row : Row) (index : Nat) : Cell := row.getD index .null

def readEvent (row : Row) : Except StoreFault EventRecord := do
  let id ← (cellAt row 0).required Cell.integer? 0 "id"
  let uuid ← (cellAt row 1).required Cell.text? 1 "uuid"
  let startText ← (cellAt row 2).required Cell.text? 2 "start_time"
  let endText ← (cellAt row 3).required Cell.text? 3 "end_time"
  let author ← (cellAt row 4).required Cell.text? 4 "author"
  .ok ⟨id, uuid, startText, endText, author⟩

def readCatalogue (row : Row) : Except StoreFault CatalogueRecord := do
  let id ← (cellAt row 0).required Cell.integer? 0 "id"
  let name ← (cellAt row 1).required Cell.text? 1 "name"
  let author ← (cellAt row 2).required Cell.text? 2 "author"
  let predicate ← (cellAt row 3).optional Cell.blob? 3 "predicate"
  let digest ← (cellAt row 4).optional Cell.text? 4 "predicate_digest"
  .ok ⟨id, name, author, predicate, digest⟩

variable [Regex.Library] [Sql.Engine]

/-- Runs a statement with its parameters if the engine takes it. -/
def selectRows {α : Type} (s : Store) (read : Row → Except StoreFault α) (text : String)
    (params : List Value) : Except StoreFault (List α) :=
  match Sql.read? text params with
  | some q => if Sql.Engine.takes text params then q.run s.tables read else .error .refused
  | none => .error .refused

def selectEvents (s : Store) (c : Condition) : Except StoreFault (List EventRecord) :=
  s.selectRows readEvent (EntityKind.event.selection c.sql) c.params

def selectCatalogues (s : Store) (c : Condition) : Except StoreFault (List CatalogueRecord) :=
  s.selectRows readCatalogue (EntityKind.catalogue.selection c.sql) c.params

end Store

end Chronicle
