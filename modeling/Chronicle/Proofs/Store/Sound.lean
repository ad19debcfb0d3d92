import Chronicle.Proofs.Save.Changes
import Chronicle.Proofs.Store.Operations
import Chronicle.Proofs.Store.Sync

/-!
# Sound stores

In every store that can be reached, the rows are the rows of events and catalogues that passed their
checks. So one slot of every attribute is filled, its tag is that of a kind, times have a fixed width, and
a predicate stands beside its digest. Members are stored events.
-/
namespace Chronicle

namespace Event

def Storable (e : Event) : Prop :=
  e.startTime.Storable ∧ e.endTime.Storable ∧ e.attributes.Storable

/-- The row of an event, in full. -/
def row (e : Event) : EventRow := e.cells.over (.of e.attributes)

theorem storable_of_check {e : Event} {settings : Settings} (h : e.check settings = .ok ()) :
    e.Storable := by
  obtain ⟨hattributes, hstart, hend, -⟩ := check_eq_ok.1 h
  exact ⟨hstart, hend, hattributes.storable⟩

end Event

namespace Catalogue

/-- A predicate is stored only if it makes sense for events. -/
def Storable [Regex.Library] (c : Catalogue) : Prop :=
  c.attributes.Storable ∧ ∀ p, c.predicate = some p → ∃ condition, p.compile .event = .ok condition

/-- The row of a catalogue with these members, in full. -/
def row (c : Catalogue) (members : SortedMap RowId Unit) : CatalogueRow :=
  c.cells.over (.of c.attributes) members

theorem storable_of_check [Regex.Library] {c : Catalogue} {settings : Settings}
    (h : c.check settings = .ok ()) :
    c.Storable := by
  obtain ⟨hattributes, hpredicate, -⟩ := check_eq_ok.1 h
  exact ⟨hattributes.storable, fun p hp => (checkPredicate_eq_ok.1 hpredicate p hp).2.2⟩

end Catalogue

def AttributeTable.Sound (t : AttributeTable) : Prop := ∃ a : Attributes, a.Storable ∧ t = .of a

def EventRow.Sound (r : EventRow) : Prop := ∃ e : Event, e.Storable ∧ r = e.row

def CatalogueRow.Sound [Regex.Library] (r : CatalogueRow) : Prop := ∃ c :
    Catalogue, c.Storable ∧ r = c.row r.members

namespace AttributeTable.Sound

theorem empty : Sound .empty := ⟨.empty, Attributes.storable_empty, rfl⟩

theorem insert {t : AttributeTable} (h : t.Sound) {v : Value} (hv : v.Storable) (key : String) :
    Sound (SortedMap.insert t (.text key) (.ofValue v)) := by
  obtain ⟨a, ha, rfl⟩ := h
  refine ⟨a.insert key v, fun e he => ?_, (of_insert a key v).symm⟩
  rcases SortedMap.mem_put he with rfl | he
  · exact hv
  · exact ha e he

theorem erase {t : AttributeTable} (h : t.Sound) (key : String) :
    Sound (SortedMap.erase t (.text key)) := by
  obtain ⟨a, ha, rfl⟩ := h
  exact ⟨a.erase key, fun e he => ha e (List.mem_filter.1 he).1, (of_erase a key).symm⟩

end AttributeTable.Sound

namespace EventRow

theorem Sound.attributes {r : EventRow} (h : r.Sound) : r.attributes.Sound := by
  obtain ⟨e, ⟨-, -, he⟩, rfl⟩ := h
  exact ⟨e.attributes, he, rfl⟩

/-- An event may be written over any attributes that are sound. -/
theorem sound_over {e : Event} (he : e.Storable) {t : AttributeTable} (ht : t.Sound) :
    Sound (e.cells.over t) := by
  obtain ⟨a, ha, rfl⟩ := ht
  exact ⟨{ e with attributes := a }, ⟨he.1, he.2.1, ha⟩, rfl⟩

theorem Sound.withAttributes {r : EventRow} (h : r.Sound) {t : AttributeTable} (ht : t.Sound) :
    Sound { r with attributes := t } := by
  obtain ⟨e, he, rfl⟩ := h
  exact sound_over he ht

end EventRow

namespace CatalogueRow

variable [Regex.Library]

theorem Sound.attributes {r : CatalogueRow} (h : r.Sound) : r.attributes.Sound := by
  obtain ⟨c, ⟨hc, -⟩, hr⟩ := h
  rw [hr]
  exact ⟨c.attributes, hc, rfl⟩

theorem sound_over {c : Catalogue} (hc : c.Storable) {t : AttributeTable} (ht : t.Sound)
    (members : SortedMap RowId Unit) : Sound (c.cells.over t members) := by
  obtain ⟨a, ha, rfl⟩ := ht
  exact ⟨{ c with attributes := a }, ⟨ha, hc.2⟩, rfl⟩

theorem Sound.withAttributes {r : CatalogueRow} (h : r.Sound) {t : AttributeTable} (ht : t.Sound) :
    Sound { r with attributes := t } := by
  obtain ⟨c, hc, hr⟩ := h
  rw [hr]
  exact sound_over hc ht r.members

theorem Sound.withMembers {r : CatalogueRow} (h : r.Sound) (members : SortedMap RowId Unit) :
    Sound { r with members } := by
  obtain ⟨c, hc, hr⟩ := h
  rw [hr]
  exact ⟨c, hc, rfl⟩

end CatalogueRow

namespace Store

structure Sound [Regex.Library] (s : Store) : Prop where
  events : ∀ id row, s.events.get? id = some row → row.Sound
  catalogues : ∀ id row, s.catalogues.get? id = some row → row.Sound
  members : ∀ id row, s.catalogues.get? id = some row →
    ∀ event, row.members.contains event = true → s.events.contains event = true

namespace Sound

variable [Regex.Library] {s s' : Store} {settings : Settings} {f : Footprint}

theorem empty : Sound .empty :=
  ⟨(fun _ _ h => nomatch h), (fun _ _ h => nomatch h), (fun _ _ h => nomatch h)⟩

theorem insertEvent (h : s.Sound) {row : EventRow} (hrow : row.Sound) (id last : RowId) :
    Sound { s with events := s.events.insert id row, lastEvent := last } := by
  refine ⟨fun id' row' hget => ?_, h.catalogues, fun id' row' hget event hevent => ?_⟩
  · rcases SortedMap.get?_insert_eq_some.1 hget with ⟨-, rfl⟩ | ⟨-, hget⟩
    · exact hrow
    · exact h.events id' row' hget
  · exact SortedMap.contains_insert.2 (.inr (h.members id' row' hget event hevent))

theorem insertCatalogue (h : s.Sound) {row : CatalogueRow} (hrow : row.Sound)
    (hmembers : ∀ event, row.members.contains event = true → s.events.contains event = true)
    (id last : RowId) :
    Sound { s with catalogues := s.catalogues.insert id row, lastCatalogue := last } := by
  refine ⟨h.events, fun id' row' hget => ?_, fun id' row' hget => ?_⟩
  · rcases SortedMap.get?_insert_eq_some.1 hget with ⟨-, rfl⟩ | ⟨-, hget⟩
    · exact hrow
    · exact h.catalogues id' row' hget
  · rcases SortedMap.get?_insert_eq_some.1 hget with ⟨-, rfl⟩ | ⟨-, hget⟩
    · exact hmembers
    · exact h.members id' row' hget

theorem withAttributes (h : s.Sound) (kind : EntityKind) (owner : RowId)
    {f : AttributeTable → AttributeTable} (hf : ∀ t : AttributeTable, t.Sound → (f t).Sound) :
    (s.withAttributes kind owner f).Sound := by
  refine withAttributes_induction h (fun row _ hrow => ?_) fun row _ hrow => ?_
  · have hsound := h.events owner row hrow
    exact h.insertEvent (hsound.withAttributes (hf _ hsound.attributes)) owner s.lastEvent
  · have hsound := h.catalogues owner row hrow
    exact h.insertCatalogue (hsound.withAttributes (hf _ hsound.attributes))
      (h.members owner row hrow) owner s.lastCatalogue

/-- Every change keeps a store sound. -/
theorem change (h : s.Sound) (hchange : Change settings f s s') : s'.Sound := by
  cases hchange with
  | insertEvent e he hinsert =>
    obtain ⟨-, -, rfl⟩ := insertEvent_eq_ok.1 hinsert
    exact h.insertEvent (EventRow.sound_over (Event.storable_of_check he) .empty) _ _
  | @updateEvent _ _ id e he hupdate =>
    rcases updateEvent_eq_ok.1 hupdate with ⟨-, rfl⟩ | ⟨row, hrow, -, rfl⟩
    · exact h
    · have hsound := h.events id row hrow
      exact h.insertEvent (EventRow.sound_over (Event.storable_of_check he) hsound.attributes) _ _
  | insertCatalogue c hc hinsert =>
    obtain ⟨-, rfl⟩ := insertCatalogue_eq_ok.1 hinsert
    have hnone (event : RowId) :
        (c.cells.over .empty .empty).members.contains event = false := rfl
    exact h.insertCatalogue (CatalogueRow.sound_over (Catalogue.storable_of_check hc) .empty _)
      (fun event hevent => by simp [hnone] at hevent) _ _
  | @updateCatalogue _ id c hc =>
    refine updateCatalogue_induction h fun row hrow => ?_
    have hsound := h.catalogues id row hrow
    exact h.insertCatalogue
      (CatalogueRow.sound_over (Catalogue.storable_of_check hc) hsound.attributes _)
      (h.members id row hrow) _ _
  | @addMember _ _ _ catalogue event hadd =>
    obtain ⟨row, hrow, -, hevent, rfl⟩ := addMember_eq_ok hadd
    have hmembers := h.members catalogue row hrow
    refine h.insertCatalogue ((h.catalogues catalogue row hrow).withMembers _) (fun x hx => ?_) _ _
    rcases SortedMap.contains_insert.1 hx with rfl | hx
    · exact hevent.elim (hmembers event) id
    · exact hmembers x hx
  | @removeMember _ catalogue event =>
    refine removeMember_induction h fun row hrow => ?_
    refine h.insertCatalogue ((h.catalogues catalogue row hrow).withMembers _) (fun x hx => ?_) _ _
    exact h.members catalogue row hrow x (SortedMap.contains_of_erase hx)
  | @putAttribute _ _ kind owner key v hv hput =>
    obtain ⟨-, rfl⟩ := putAttribute_eq_ok.1 hput
    exact h.withAttributes kind owner fun t ht => ht.insert hv.2 key
  | @removeAttribute _ kind owner key =>
    rw [removeAttribute_snd]
    exact h.withAttributes kind owner fun t ht => ht.erase key

end Sound

/-- Every store that can be reached is sound. -/
theorem Reachable.sound [Regex.Library] {s : Store} (h : s.Reachable) : s.Sound :=
  h.induction .empty fun _ _ _ _ hchange hs => hs.change hchange

end Store

end Chronicle
