import Chronicle.Proofs.Save.Steps
import Chronicle.SortedMap.Lookup

/-!
# What links stand for

A link is made for one entity and shared by its copies. So it stands for an event with a uuid, which never
changes, or for a catalogue. A roster says which; the entities that can come up in a batch are on it.
-/
namespace Chronicle

/-- What copies of an entity have in common. -/
inductive Identity
  | event (uuid : String)
  | catalogue
deriving DecidableEq

abbrev Roster := Link → Option Identity

def Event.On (r : Roster) (e : Event) : Prop := r e.link = some (.event e.uuid)

def Catalogue.On (r : Roster) (c : Catalogue) : Prop :=
  r c.link = some .catalogue ∧ (∀ e ∈ c.additions, e.On r) ∧ ∀ e ∈ c.removals, e.On r

instance (r : Roster) (e : Event) : Decidable (e.On r) := inferInstanceAs (Decidable (_ = _))

instance (r : Roster) (c : Catalogue) : Decidable (c.On r) := inferInstanceAs (Decidable (_ ∧ _ ∧ _))

namespace Entity

def On (r : Roster) : Entity → Prop
  | event e => e.On r
  | catalogue c => c.On r

instance (r : Roster) : ∀ x : Entity, Decidable (x.On r)
  | event e => inferInstanceAs (Decidable (e.On r))
  | catalogue c => inferInstanceAs (Decidable (c.On r))

/-- The event that stands in a batch directly. -/
def direct : Entity → List Event
  | event e => [e]
  | catalogue _ => []

/-- The events that may be written: those that stand in a batch directly and those to be added. -/
def written : Entity → List Event
  | event e => [e]
  | catalogue c => c.additions

/-- All events of an entity, those to be removed among them. -/
def events : Entity → List Event
  | event e => [e]
  | catalogue c => c.additions ++ c.removals

theorem On.of_mem_events {r : Roster} {x : Entity} (h : x.On r) {e : Event} (he : e ∈ x.events) :
    e.On r := by
  cases x with
  | event =>
    rw [List.mem_singleton.1 he]
    exact h
  | catalogue c => exact (List.mem_append.1 he).elim (h.2.1 e) (h.2.2 e)

end Entity

/-- Copies of an event have one uuid. -/
theorem Event.On.uuid_eq {r : Roster} {x y : Event} (hx : x.On r) (hy : y.On r) (h : x.link = y.link) :
    x.uuid = y.uuid := by
  unfold On at hx hy
  rw [h, hy] at hx
  simpa using hx.symm

theorem Event.On.link_ne {r : Roster} {x : Event} {l : Link} (hx : x.On r) (hl : r l = some .catalogue) :
    x.link ≠ l := by
  intro h
  rw [On, h, hl] at hx
  cases hx

namespace Links

variable {ls : Links} {l l' : Link} {id id' : RowId}

theorem row?_assign : (ls.assign l id).row? l' = if l = l' then some id else ls.row? l' := by
  by_cases h : l = l'
  · rw [if_pos h, h, row?_assign_self]
  · rw [if_neg h, row?_assign_of_ne ls id h]

/-- Learning what is known changes nothing. -/
theorem assign_of_row? (h : ls.row? l = some id) : ls.assign l id = ls := by
  simp [assign, SortedMap.insert_of_get?_eq_some h]

end Links

namespace Batch

/-- The links as they are once they have learnt what is noted. -/
def links (ls : Links) (b : Batch) : Links := ls.assignAll b.assignments.reverse

variable {ls : Links} {b : Batch} {l : Link} {id : RowId}

@[simp] theorem links_begin (s : Store) : (begin s).links ls = ls := rfl

theorem links_note {b' : Batch} (h : b'.assignments = (l, id) :: b.assignments) :
    b'.links ls = (b.links ls).assign l id := by
  simp [links, h, Links.assignAll, List.foldl_append]

theorem links_congr {b' : Batch} (h : b'.assignments = b.assignments) : b'.links ls = b.links ls := by
  rw [links, h, links]

theorem eventRow?_eq (ls : Links) (e : Event) (b : Batch) :
    b.eventRow? ls e = (ls.row? e.link).or (b.events.get? e.uuid) := rfl

/-- When a batch begins, entities are found where their links know them. -/
@[simp] theorem eventRow?_begin (s : Store) (ls : Links) (e : Event) :
    (begin s).eventRow? ls e = ls.row? e.link := Option.or_none

@[simp] theorem catalogueRow?_begin (s : Store) (ls : Links) (c : Catalogue) :
    (begin s).catalogueRow? ls c = ls.row? c.link := Option.or_none

theorem eventRow?_of_row? {e : Event} (h : ls.row? e.link = some id) : b.eventRow? ls e = some id := by
  rw [eventRow?_eq, h, Option.some_or]

theorem eventRow?_of_new {e : Event} (h : ls.row? e.link = none) :
    b.eventRow? ls e = b.events.get? e.uuid := by
  rw [eventRow?_eq, h, Option.none_or]

theorem eventRow?_eq_none {e : Event} :
    b.eventRow? ls e = none ↔ ls.row? e.link = none ∧ b.events.get? e.uuid = none := by
  rw [eventRow?_eq, Option.or_eq_none_iff]

/-- A row that was made for a new event is the row of all new events with its uuid. -/
theorem eventRow?_insert {b' : Batch} {u : String} (h : b'.events = b.events.insert u id) (x : Event) :
    b'.eventRow? ls x =
      if ls.row? x.link = none ∧ u = x.uuid then some id else b.eventRow? ls x := by
  rw [eventRow?_eq, eventRow?_eq, h]
  cases ls.row? x.link with
  | some row => simp
  | none =>
    by_cases hu : u = x.uuid
    · simp [hu]
    · simp [hu, SortedMap.get?_insert_of_ne _ _ hu]

theorem catalogueRow?_of_row? {c : Catalogue} (h : ls.row? c.link = some id) :
    b.catalogueRow? ls c = some id := by
  rw [catalogueRow?, h, Option.some_or]

/-- A row that was made for a new catalogue is the row of its copies. -/
theorem catalogueRow?_append {b' : Batch} {c : Catalogue} (hc : b.catalogueRow? ls c = none)
    (h : b'.catalogues = b.catalogues ++ [(c.link, id)]) (d : Catalogue) :
    b'.catalogueRow? ls d = if c.link = d.link then some id else b.catalogueRow? ls d := by
  obtain ⟨hnew, hnone⟩ := Option.or_eq_none_iff.1 hc
  rw [catalogueRow?, catalogueRow?, h, List.find?_append]
  by_cases hlink : c.link = d.link
  · rw [Option.map_eq_none_iff, hlink] at hnone
    rw [hlink] at hnew
    simp [hlink, hnew, hnone]
  · simp [hlink]

end Batch

/-- A save that goes well: what it gives, and the world that it leaves. -/
theorem save_eq_ok [Regex.Library] {settings : Settings} {es saved : List Entity} {w w' : World} :
    save settings es w = .ok saved w' ↔ (∀ x ∈ es, x.check settings = .ok ()) ∧
      ∃ b, es.forM (Batch.saveEntity settings w.links) (.begin w.store) = .ok () b ∧
        saved = es.map Entity.saved ∧ w' = ⟨b.store, b.links w.links⟩ := by
  rw [save, ← Entity.checkEach_eq_ok]
  cases Entity.checkEach settings es with
  | error e => simp
  | ok =>
    simp only [Work.transaction, Batch.saveAll]
    cases es.forM (Batch.saveEntity settings w.links) (.begin w.store) with
    | error e b => simp
    | ok u b => simp [Batch.links, eq_comm]

theorem save_singleton_eq_ok [Regex.Library] {settings : Settings} {x : Entity} {saved : List Entity}
    {w w' : World} :
    save settings [x] w = .ok saved w' ↔ x.check settings = .ok () ∧
      ∃ b, Batch.saveEntity settings w.links x (.begin w.store) = .ok () b ∧
        saved = [x.saved] ∧ w' = ⟨b.store, b.links w.links⟩ := by
  rw [save_eq_ok]
  simp

def succeeds {ε σ α : Type} : EStateM.Result ε σ α → Bool
  | .ok _ _ => true
  | .error _ _ => false

theorem save_of_succeeds [Regex.Library] {settings : Settings} {es : List Entity} {w : World}
    (h : succeeds (save settings es w) = true) :
    save settings es w = .ok (es.map Entity.saved) (left (save settings es w)) := by
  cases hsave : save settings es w with
  | ok saved w' =>
    obtain ⟨-, b, -, rfl, -⟩ := save_eq_ok.1 hsave
    rfl
  | error e w' =>
    rw [hsave] at h
    cases h

end Chronicle
