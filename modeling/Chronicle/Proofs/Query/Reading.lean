import Chronicle.Database.Query
import Chronicle.Proofs.Sql.Selection
import Chronicle.Proofs.Store.Sound

/-!
# Rows read back

The row of a storable event is read as that event, and the row of a catalogue as its record: no cell is
of a class that a reader refuses.
-/
namespace Chronicle

namespace Store

/-- The record of an event in a row. -/
def EventRecord.of (id : RowId) (e : Event) : EventRecord :=
  ⟨id, e.uuid, e.startTime.storedText, e.endTime.storedText, e.author⟩

/-- The record of a catalogue in a row. -/
def CatalogueRecord.of (id : RowId) (c : Catalogue) : CatalogueRecord :=
  ⟨id, c.name, c.author, (Predicate.Stored.of c.predicate).bytes, (Predicate.Stored.of c.predicate).digest⟩

theorem readEvent_row (id : RowId) (e : Event) : readEvent (e.row.cells id) = .ok (.of id e) := rfl

theorem readCatalogue_row (id : RowId) (c : Catalogue) (members : SortedMap RowId Unit) :
    readCatalogue ((c.row members).cells id) = .ok (.of id c) := by
  have hpredicate : (c.row members).predicate.optional Cell.blob? 3 "predicate" =
      .ok (Predicate.Stored.of c.predicate).bytes := by
    change Cell.optional Cell.blob? 3 "predicate"
      (((Predicate.Stored.of c.predicate).bytes.map Cell.blob).getD .null) = _
    cases (Predicate.Stored.of c.predicate).bytes <;> rfl
  have hdigest : (c.row members).digest.optional Cell.text? 4 "predicate_digest" =
      .ok (Predicate.Stored.of c.predicate).digest := by
    change Cell.optional Cell.text? 4 "predicate_digest"
      (((Predicate.Stored.of c.predicate).digest.map Cell.text).getD .null) = _
    cases (Predicate.Stored.of c.predicate).digest <;> rfl
  refine except_bind_eq_ok.2 ⟨id, rfl, except_bind_eq_ok.2 ⟨c.name, rfl, ?_⟩⟩
  refine except_bind_eq_ok.2 ⟨c.author, rfl, ?_⟩
  exact except_bind_eq_ok.2 ⟨_, hpredicate, except_bind_eq_ok.2 ⟨_, hdigest, rfl⟩⟩

variable {s : Store} {id : RowId}

theorem loadAttributes_event {e : Event} (he : e.Storable) (h : s.events.get? id = some e.row) :
    s.loadAttributes .event id = .ok (e.attributes.map Value.settled) := by
  simp only [loadAttributes, attributes, h, Option.map_some, Option.getD_some]
  exact AttributeTable.read_of he.2.2

theorem loadAttributes_catalogue [Regex.Library] {c : Catalogue} {members : SortedMap RowId Unit}
    (hc : c.Storable)
    (h : s.catalogues.get? id = some (c.row members)) :
    s.loadAttributes .catalogue id = .ok (c.attributes.map Value.settled) := by
  simp only [loadAttributes, attributes, h, Option.map_some, Option.getD_some]
  exact AttributeTable.read_of hc.1

/-- The event that is read from the row of an event. -/
theorem toEvent_of (id : RowId) (e : Event) (a : Attributes) (link : Link) :
    (EventRecord.of id e).toEvent a link = .ok { e with attributes := a, link } := by
  have hread (field : String) (t : Timestamp) : readTime e.uuid field t.storedText = .ok t := by
    unfold readTime
    rw [Timestamp.ofStoredText?_storedText]
  exact except_bind_eq_ok.2 ⟨_, hread "start" e.startTime,
    except_bind_eq_ok.2 ⟨_, hread "end" e.endTime, rfl⟩⟩

end Store

end Chronicle
