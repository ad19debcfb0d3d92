import Chronicle.Regex.Standard
import Chronicle.Proofs.Query.Reading
import Chronicle.Proofs.Sql.Limits
import Chronicle.Sql.Standard
import Mathlib.Tactic.Choose

/-!
# Selecting by predicates

In every store that can be reached, selecting with the condition of a predicate succeeds and finds just
the stored entities of which the predicate is true, in the order of their ids.
-/
namespace Chronicle

namespace Store

/-- What is selected of an entity of a kind. -/
def Record : EntityKind → Type
  | .event => EventRecord
  | .catalogue => CatalogueRecord

def Record.id : {kind : EntityKind} → Record kind → RowId
  | .event, r => EventRecord.id r
  | .catalogue, r => CatalogueRecord.id r

def select [Regex.Library] [Sql.Engine] (s : Store) : (kind : EntityKind) → Condition → Except StoreFault
    (List (Record kind))
  | .event, c => s.selectEvents c
  | .catalogue, c => s.selectCatalogues c

/-- The entity of a record, read back with its attributes. -/
def subject? (s : Store) : {kind : EntityKind} → Record kind → Except Error Subject
  | .event, (r : EventRecord) => do
    let attributes ← s.loadAttributes .event r.id
    let e ← r.toEvent attributes ⟨0⟩
    .ok e.subject
  | .catalogue, (r : CatalogueRecord) => do
    let attributes ← s.loadAttributes .catalogue r.id
    .ok ⟨Catalogue.fieldValue r.name r.author, attributes⟩

/-- A row that is read as a record and is seen by conditions as the entity of that record. -/
def Reads (s : Store) (kind : EntityKind) (id : RowId) (candidate : Candidate)
    (read : Except StoreFault (Record kind)) (r : Record kind × Subject) : Prop :=
  read = .ok r.1 ∧ r.1.id = id ∧ s.subject? r.1 = .ok r.2 ∧ candidate.Shows kind r.2

/-- So many times the question whether there is an attribute. -/
def copies (n : Nat) : Predicate := .all (List.replicate n (.has "k"))

end Store

end Chronicle
