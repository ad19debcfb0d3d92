import Chronicle.Regex.Standard
import Chronicle.Proofs.Save.Progress

/-!
# Why a save fails

A save fails because an entity may not be saved, and then for what is wrong with the first such entity, or
because a new event is to be written whose uuid is stored. In a world that can be reached nothing else can
go wrong, as long as there are ids for new rows, which are numbers of 64 bits.
-/
namespace Chronicle

/-- What is asked of an event that is to be saved. -/
structure Event.Valid (settings : Settings) (e : Event) : Prop where
  attributes : settings.keyPolicy.Admits e.attributes
  startTime : e.startTime.Storable
  endTime : e.endTime.Storable
  ordered : settings.enforceInterval = true → compare e.startTime e.endTime ≠ .gt

/-- What is asked of a catalogue. One with a predicate has its members computed, so none may be pending. -/
structure Catalogue.Valid [Regex.Library] (settings : Settings) (c : Catalogue) : Prop where
  attributes : settings.keyPolicy.Admits c.attributes
  additions : ∀ a ∈ c.additions, a.Valid settings
  pending : c.isSmart = true → c.additions = [] ∧ c.removals = []
  predicate : ∀ p, c.predicate = some p → ∃ condition, p.compile .event = .ok condition

def Entity.Valid [Regex.Library] (settings : Settings) : Entity → Prop
  | event e => e.Valid settings
  | catalogue c => c.Valid settings

section Valid

variable {settings : Settings}

theorem Event.valid_iff {e : Event} : e.Valid settings ↔ e.check settings = .ok () := by
  rw [Event.check_eq_ok, not_and]
  exact ⟨fun h => ⟨h.attributes, h.startTime, h.endTime, h.ordered⟩,
    fun ⟨hattributes, hstart, hend, hordered⟩ => ⟨hattributes, hstart, hend, hordered⟩⟩

theorem Catalogue.valid_iff [Regex.Library] {c : Catalogue} : c.Valid settings ↔ c.check settings = .ok () := by
  rw [Catalogue.check_eq_ok, Catalogue.checkPredicate_eq_ok]
  constructor
  · refine fun h => ⟨h.attributes, fun p hp => ?_, fun a ha => Event.valid_iff.1 (h.additions a ha)⟩
    obtain ⟨hadditions, hremovals⟩ := h.pending (Option.isSome_of_eq_some hp)
    exact ⟨hadditions, hremovals, h.predicate p hp⟩
  · rintro ⟨hattributes, hpredicate, hadditions⟩
    refine ⟨hattributes, fun a ha => Event.valid_iff.2 (hadditions a ha), fun hsmart => ?_,
      fun p hp => (hpredicate p hp).2.2⟩
    obtain ⟨p, hp⟩ := Option.isSome_iff_exists.1 hsmart
    exact ⟨(hpredicate p hp).1, (hpredicate p hp).2.1⟩

/-- An entity is valid when it passes its checks. -/
theorem Entity.valid_iff [Regex.Library] {x : Entity} : x.Valid settings ↔ x.check settings = .ok () := by
  cases x with
  | event e => exact Event.valid_iff
  | catalogue c => exact Catalogue.valid_iff

end Valid

/-- Whether a batch is to write a new event with a uuid that is stored. -/
def World.Clashes (w : World) (es : List Entity) : Prop :=
  ∃ x ∈ es, ∃ u, x.Introduces w.links u ∧ Store.hasUuid w.store.events (.text u) = true

/-- Whether there are ids for all rows that a batch can make. Ids are signed numbers of 64 bits, so it takes
nearly `2 ^ 63` rows to run out of them. -/
def Store.Fits (s : Store) (es : List Entity) : Prop :=
  s.events.entries.length + (es.flatMap Entity.written).length < idLimit ∧
    s.catalogues.entries.length + es.length < idLimit

instance (s : Store) (es : List Entity) : Decidable (s.Fits es) := inferInstanceAs (Decidable (_ ∧ _))

section Batches

variable [Regex.Library] {r : Roster} {settings : Settings} {es : List Entity} {w : World}

/-- A batch that goes well does not clash: the new event would have a second row with the uuid. -/
theorem not_clashes_of_forM {b : Batch} (hs : w.store.Reachable) (hhome : AtHome r w)
    (hchecks : ∀ x ∈ es, x.check settings = .ok ()) (hon : ∀ x ∈ es, x.On r)
    (hrun : es.forM (Batch.saveEntity settings w.links) (.begin w.store) = .ok () b) : ¬ w.Clashes es := by
  rintro ⟨x, hx, u, hintroduces, htaken⟩
  have htidy := Batch.tidy_begin hs hhome
  obtain ⟨hdeeds, hsound⟩ := Batch.deeds_on_of_forM htidy.sound hchecks hon hrun
  have hb := hdeeds.tidy (fun _ hd => hd) htidy hsound
  -- the row that was there still has the uuid
  obtain ⟨k, hk⟩ := Store.hasUuid_iff.1 htaken
  have hstill := hdeeds.uuid?_eq_some htidy.placed hk
  -- and a row was made for it, which was free before
  have hmade := (Batch.made_forM htidy.sound hchecks hon hrun u).2 (.inr ⟨x, hx, hintroduces⟩)
  obtain ⟨k', hk'⟩ := Option.ne_none_iff_exists'.1 hmade
  obtain ⟨hfree, -⟩ := (hdeeds.since (Batch.since_begin w.store)).made u k' hk'
  obtain ⟨e, hon, hnew, rfl⟩ : ∃ e : Event, e.On r ∧ w.links.row? e.link = none ∧ e.uuid = u := by
    cases x with
    | event e => exact ⟨e, hon _ hx, hintroduces⟩
    | catalogue c =>
      obtain ⟨⟨a, ha, hnew, hu⟩, -⟩ := hintroduces
      exact ⟨a, (hon _ hx).2.1 a ha, hnew, hu⟩
  have hplaced := hb.placed.event e hon k' ((Batch.eventRow?_of_new hnew).trans hk')
  obtain rfl := hb.distinct k k' _ hstill hplaced
  rw [Store.uuid?, hfree] at hk
  cases hk

/-- What becomes of the entities of a batch once all passed their checks. -/
theorem advances_begin (hs : w.store.Reachable) (hhome : AtHome r w)
    (hchecks : ∀ x ∈ es, x.check settings = .ok ()) (hon : ∀ x ∈ es, x.On r) (hfits : w.store.Fits es) :
    Batch.Advances (fun _ b => Batch.Fit r w.links w.store 0 0 b) (w.Clashes es)
      (es.forM (Batch.saveEntity settings w.links) (.begin w.store)) := by
  have hroom : w.store.events.entries.length + (0 + (es.flatMap Entity.written).length) < Store.idLimit := by
    rw [Nat.zero_add]
    exact hfits.1
  have hroom' : w.store.catalogues.entries.length + (0 + es.length) < Store.idLimit := by
    rw [Nat.zero_add]
    exact hfits.2
  exact Batch.advances_forM (Batch.fit_begin hs hhome hroom hroom') hchecks hon

theorem exists_save_eq_ok_iff (hs : w.store.Reachable) (hhome : AtHome r w) (hon : ∀ x ∈ es, x.On r)
    (hfits : w.store.Fits es) : (∃ saved w', save settings es w = .ok saved w') ↔
      (∀ x ∈ es, x.check settings = .ok ()) ∧ ¬ w.Clashes es := by
  constructor
  · rintro ⟨saved, w', h⟩
    obtain ⟨hchecks, b, hrun, -⟩ := save_eq_ok.1 h
    exact ⟨hchecks, not_clashes_of_forM hs hhome hchecks hon hrun⟩
  · rintro ⟨hchecks, hfresh⟩
    have hadvances := advances_begin hs hhome hchecks hon hfits
    cases hrun : es.forM (Batch.saveEntity settings w.links) (.begin w.store) with
    | ok _ b => exact ⟨_, _, save_eq_ok.2 ⟨hchecks, b, hrun, rfl, rfl⟩⟩
    | error err b =>
      rw [hrun] at hadvances
      exact absurd hadvances.2 hfresh

end Batches

/-- The world in which one event was saved. -/
def shaken : World := left (save .standard [.event (tremor "u" 0)] ⟨.empty, .none⟩)

end Chronicle
