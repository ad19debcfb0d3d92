import Chronicle.Regex.Standard
import Chronicle.Proofs.Save.Members

/-!
# A catalogue saved on its own

The members of a catalogue after it was saved are those it had but for the removed ones, and those it
adds. New events are stored once each; an event whose addition was cancelled leaves no trace.
-/
namespace Chronicle

namespace Catalogue

variable (ls : Links) (c : Catalogue)

/-- Whether the removal of a new event cancels the addition of events with a uuid. -/
def Cancels (u : String) : Prop := ∃ x ∈ c.removals, ls.row? x.link = none ∧ x.uuid = u

instance (u : String) : Decidable (c.Cancels ls u) := inferInstanceAs (Decidable (∃ x ∈ _, _ ∧ _))

/-- The events that are to be added, but for those whose addition is cancelled. -/
def Adds (a : Event) : Prop := a ∈ c.additions ∧ ¬ c.Cancels ls a.uuid

/-- Whether events with one uuid share their link or their row. -/
def SharesRows : Prop := ∀ x ∈ c.additions ++ c.removals, ∀ y ∈ c.additions ++ c.removals,
  x.uuid = y.uuid → x.link = y.link ∨ ls.row? x.link ≠ none ∧ ls.row? y.link = ls.row? x.link

instance : Decidable (c.SharesRows ls) := inferInstanceAs (Decidable (∀ x ∈ _, ∀ y ∈ _, _ → _ ∨ _ ∧ _))

/-- The members that are stored; a new catalogue has none. -/
def storedMembers (s : Store) : SortedMap RowId Unit :=
  match ls.row? c.link with
  | some id => s.members id
  | none => .empty

end Catalogue

/-- What a store and links have come to when a catalogue was saved in a row. -/
structure Reconciled (s : Store) (ls : Links) (c : Catalogue) (w : World) (id : RowId) : Prop where
  row : w.links.row? c.link = some id
  /-- Members that were removed are none any more; those that were added are. -/
  members : ∀ k, (w.store.members id).contains k = true ↔
    ((c.storedMembers ls s).contains k = true ∧ ¬ ∃ x ∈ c.removals, ls.row? x.link = some k) ∨
      ∃ a, c.Adds ls a ∧ w.links.row? a.link = some k
  /-- A row that is made is that of a new event that was added. -/
  made : ∀ k row, s.events.get? k = none → w.store.events.get? k = some row →
    ∃ a, c.Adds ls a ∧ ls.row? a.link = none ∧ row = a.row ∧ w.links.row? a.link = some k
  /-- For the uuid of a new event that is added one row is made. -/
  once : ∀ a, c.Adds ls a → ls.row? a.link = none → ∃ k, s.events.get? k = none ∧
    w.store.uuid? k = some (.text a.uuid) ∧ ∀ k', w.store.uuid? k' = some (.text a.uuid) → k' = k
  stored : ∀ a, c.Adds ls a → ∃ k, w.links.row? a.link = some k ∧ w.store.events.contains k = true
  /-- A new event that is cancelled is neither written nor linked. -/
  cancelled : ∀ x ∈ c.additions ++ c.removals, ls.row? x.link = none → c.Cancels ls x.uuid →
    w.links.row? x.link = none ∧
      ∀ k, s.events.get? k = none → w.store.uuid? k ≠ some (.text x.uuid)
  kept : ∀ k row, s.events.get? k = some row → w.store.events.get? k = some row
  others : ∀ k, k ≠ id → w.store.catalogues.get? k = s.catalogues.get? k

namespace Batch

/-- The rows of events that the batch found are as they were, and those it made are known to the links of
the events they were made for. -/
structure Keeps (adds : Event → Prop) (s : Store) (ls : Links) (b : Batch) : Prop where
  kept : ∀ k row, s.events.get? k = some row → b.store.events.get? k = some row
  made : ∀ k row, s.events.get? k = none → b.store.events.get? k = some row →
    ∃ a, adds a ∧ ls.row? a.link = none ∧ row = a.row ∧ (b.links ls).row? a.link = some k
  found : ∀ u k, b.events.get? u = some k → ∃ a, adds a ∧ ls.row? a.link = none ∧ a.uuid = u ∧
    b.store.events.get? k = some a.row ∧ (b.links ls).row? a.link = some k

variable {r : Roster} {ls : Links} {b b' : Batch} {adds : Event → Prop} {c : Catalogue} {id : RowId}
  {d : Deed} {s : Store}

theorem keeps_begin (adds : Event → Prop) (s : Store) (ls : Links) : Keeps adds s ls (begin s) where
  kept _ _ h := h
  made _ _ hnone hsome := nomatch hnone.symm.trans hsome
  found := nofun

/-- A catalogue leaves all rows of events alone. -/
theorem Does.get?_events_of_catalogue (h : Does ls d b b') (hd : d.OfCatalogue adds c id) {k : RowId}
    {row : EventRow} (hrow : b.store.events.get? k = some row) : b'.store.events.get? k = some row := by
  rw [h.get?_events, hrow]
  cases d with
  | overwrite => exact hd.elim
  | insert e k' =>
    obtain ⟨-, hfree, -, -⟩ := h.of_insert
    refine if_neg ?_
    rintro rfl
    cases hfree.symm.trans hrow
  | _ => rfl

theorem Does.keeps (h : Does ls d b b') (hd : d.OfCatalogue adds c id) (hon : d.On r)
    (hcoherent : Coherent r ls b) (hb : Keeps adds s ls b) : Keeps adds s ls b' where
  kept k row hrow := h.get?_events_of_catalogue hd (hb.kept k row hrow)
  made k row hnone hrow := by
    cases hold : b.store.events.get? k with
    | some row' =>
      obtain ⟨a, ha, hnew, rfl, hlink⟩ := hb.made k row' hnone hold
      have hsame := h.get?_events_of_catalogue hd hold
      exact ⟨a, ha, hnew, Option.some.inj (hrow.symm.trans hsame), h.row?_eq_some hon hcoherent hlink⟩
    | none =>
      rw [h.get?_events, hold] at hrow
      cases d with
      | overwrite => exact hd.elim
      | insert e k' =>
        dsimp only [Deed.leaves] at hrow
        split at hrow
        case isTrue hk =>
          subst hk
          cases hrow
          obtain ⟨hnew, -, -, hlink⟩ := h.of_insert
          exact ⟨e, hd, (eventRow?_eq_none.1 hnew).1, rfl, hlink⟩
        case isFalse => cases hrow
      | _ => cases hrow
  found u k hk := by
    rcases h.made_or hk with hk | ⟨e, rfl, hu⟩
    · obtain ⟨a, ha, hnew, hu, hrow, hlink⟩ := hb.found u k hk
      exact ⟨a, ha, hnew, hu, h.get?_events_of_catalogue hd hrow, h.row?_eq_some hon hcoherent hlink⟩
    · obtain ⟨hnew, -, hrow, hlink⟩ := h.of_insert
      exact ⟨e, hd, (eventRow?_eq_none.1 hnew).1, hu, hrow, hlink⟩

theorem Deeds.keeps (h : Deeds ls (Deed.OfCatalogue adds c id) b b') (hc : r c.link = some .catalogue)
    (hadds : ∀ a, adds a → a.On r) (hcoherent : Coherent r ls b) (hb : Keeps adds s ls b) :
    Coherent r ls b' ∧ Keeps adds s ls b' := by
  refine h.preserve (P := fun b => Coherent r ls b ∧ Keeps adds s ls b) (fun d b b' hd hdoes hP => ?_)
    ⟨hcoherent, hb⟩
  have hon : d.On r := by
    cases d with
    | overwrite => exact hd.elim
    | insert e => exact hadds e hd
    | catalogue => exact hd.1 ▸ hc
    | _ => trivial
  exact ⟨hdoes.coherent hon hP.1, hdoes.keeps hd hon hP.1 hP.2⟩

end Batch

/-- The members that were stored for a catalogue are those in the row in which it is saved, be the row
new. -/
theorem Batch.Reconciles.storedMembers_eq {b b' : Batch} {ls : Links} {c : Catalogue} {id : RowId}
    {s : Store} (h : Reconciles ls c id b b') (hsince : Since s b) : c.storedMembers ls s = s.members id := by
  unfold Catalogue.storedMembers
  cases hlink : ls.row? c.link with
  | some id' =>
    have hrow := h.deeds.catalogueRow?_eq_some (catalogueRow?_of_row? (b := b) hlink)
    rw [Option.some.inj (hrow.symm.trans h.row)]
  | none =>
    have hfree : s.catalogues.get? id = none := by
      rcases h.place with hrow | ⟨-, hfree⟩
      · rw [catalogueRow?, hlink, Option.none_or] at hrow
        obtain ⟨⟨l, k⟩, hmade, hk⟩ := Option.map_eq_some_iff.1 hrow
        cases hk
        exact hsince.madeCatalogue l k (List.mem_of_find?_eq_some hmade)
      · exact hsince.catalogues_eq_none hfree
    rw [Store.members, hfree]
    rfl

namespace Batch

/-- A batch in which a catalogue was saved and nothing else. -/
structure Lone (r : Roster) (s : Store) (ls : Links) (c : Catalogue) (b : Batch) : Prop where
  on : c.On r
  shares : c.SharesRows ls
  since : Since s b
  coherent : Coherent r ls b
  keeps : Keeps (c.Adds ls) s ls b

namespace Lone

variable {r : Roster} {s : Store} {ls : Links} {c : Catalogue} {b : Batch} {a x : Event} {k : RowId}

/-- An event that is added is found where its link is going to know it. -/
theorem eventRow?_iff (h : Lone r s ls c b) (ha : c.Adds ls a) :
    b.eventRow? ls a = some k ↔ (b.links ls).row? a.link = some k := by
  refine ⟨fun hk => ?_, h.coherent.event a (h.on.2.1 a ha.1) k⟩
  cases hnew : ls.row? a.link with
  | some k' =>
    rw [eventRow?_of_row? hnew] at hk
    cases hk
    exact h.coherent.known _ _ hnew
  | none =>
    rw [eventRow?_of_new hnew] at hk
    obtain ⟨a', ha', hnew', huuid, -, hlink⟩ := h.keeps.found _ _ hk
    rcases h.shares a (List.mem_append_left _ ha.1) a' (List.mem_append_left _ ha'.1) huuid.symm with
      heq | ⟨hknown, -⟩
    · rwa [heq]
    · exact absurd hnew hknown

/-- The row of a new event that is added is new and has its uuid. -/
theorem uuid?_of_adds (h : Lone r s ls c b) (ha : c.Adds ls a) (hnew : ls.row? a.link = none)
    (hk : (b.links ls).row? a.link = some k) :
    s.events.get? k = none ∧ b.store.uuid? k = some (.text a.uuid) := by
  have hstaged : b.events.get? a.uuid = some k := by
    rw [← eventRow?_of_new hnew, (h.eventRow?_iff ha).2 hk]
  obtain ⟨a', -, -, huuid, hrow, -⟩ := h.keeps.found _ _ hstaged
  refine ⟨(h.since.made _ _ hstaged).1, ?_⟩
  rw [Store.uuid?, hrow, ← huuid]
  rfl

theorem row?_of_cancels (h : Lone r s ls c b) (hx : x ∈ c.additions ++ c.removals)
    (hnew : ls.row? x.link = none) (hcancels : c.Cancels ls x.uuid) : (b.links ls).row? x.link = none := by
  have hon : x.On r := Entity.On.of_mem_events (x := .catalogue c) h.on hx
  cases hlink : (b.links ls).row? x.link with
  | none => rfl
  | some k =>
    have hstaged := h.coherent.event x hon k hlink
    rw [eventRow?_of_new hnew] at hstaged
    obtain ⟨a, ha, -, huuid, -⟩ := h.keeps.found _ _ hstaged
    exact absurd (huuid ▸ hcancels) ha.2

theorem uuid?_of_cancels (h : Lone r s ls c b) (hcancels : c.Cancels ls x.uuid)
    (hnone : s.events.get? k = none) : b.store.uuid? k ≠ some (.text x.uuid) := by
  intro huuid
  obtain ⟨row, hrow, hu⟩ := Option.map_eq_some_iff.1 huuid
  obtain ⟨a, ha, -, rfl, -⟩ := h.keeps.made k row hnone hrow
  have hsame : a.uuid = x.uuid := StoredText.text.inj hu
  exact ha.2 (hsame ▸ hcancels)

end Lone

theorem adds_begin (s : Store) (ls : Links) (c : Catalogue) : Adds ls c (begin s) = c.Adds ls := by
  funext a
  simp only [Adds, Cancels, eventRow?_begin, Catalogue.Adds, Catalogue.Cancels]

theorem Reconciles.lone {r : Roster} {s : Store} {ls : Links} {c : Catalogue} {b : Batch} {id : RowId}
    (h : Reconciles ls c id (begin s) b) (hc : c.On r) (hshares : c.SharesRows ls) : Lone r s ls c b := by
  obtain ⟨hcoherent, hkeeps⟩ := h.deeds.keeps hc.1 (fun a ha => hc.2.1 a ha.1)
    (coherent_begin r ls s) (keeps_begin _ s ls)
  rw [adds_begin] at hkeeps
  exact ⟨hc, hshares, h.deeds.since (since_begin s), hcoherent, hkeeps⟩

end Batch

/-- Saving a catalogue on its own computes its members and stores what it adds, and nothing else. -/
theorem save_reconciles [Regex.Library] {r : Roster} {settings : Settings} {s : Store} {ls : Links}
    {c : Catalogue} {saved : List Entity} {w : World} (hs : s.Reachable) (hc : c.On r)
    (hshares : c.SharesRows ls) (h : save settings [.catalogue c] ⟨s, ls⟩ = .ok saved w) :
    saved = [.catalogue c.withoutPendingEdits] ∧ ∃ id, Reconciled s ls c w id := by
  have hdistinct := (hs.save h).distinct
  have hsound := (hs.save h).sound
  obtain ⟨hcheck, b, hentity, rfl, rfl⟩ := save_singleton_eq_ok.1 h
  obtain ⟨id, hsave⟩ := Batch.saveEntity_catalogue_eq_ok.1 hentity
  have hrec := Batch.reconciles_saveCatalogue (b := .begin s) hs.sound hcheck hsave
  have hlone := hrec.lone hc hshares
  have hadds := Batch.adds_begin s ls c
  have hfound (a : Event) (ha : c.Adds ls a) : ∃ k, (b.links ls).row? a.link = some k := by
    obtain ⟨k, hk⟩ := hrec.found a (hadds ▸ ha)
    exact ⟨k, (hlone.eventRow?_iff ha).1 hk⟩
  refine ⟨rfl, id, ?_⟩
  exact {
    row := (hlone.coherent.catalogue c hc.1).symm.trans hrec.row
    members := fun k => by
      rw [hrec.storedMembers_eq (Batch.since_begin s), hrec.members k, hadds]
      simp only [Batch.eventRow?_begin, not_exists, not_and, ne_eq]
      exact or_congr Iff.rfl (exists_congr fun a => and_congr_right hlone.eventRow?_iff)
    made := hlone.keeps.made
    once := fun a ha hnew => by
      obtain ⟨k, hk⟩ := hfound a ha
      obtain ⟨hnone, huuid⟩ := hlone.uuid?_of_adds ha hnew hk
      exact ⟨k, hnone, huuid, fun k' hk' => hdistinct k' k _ hk' huuid⟩
    stored := fun a ha => by
      obtain ⟨k, hk⟩ := hfound a ha
      have hmember := (hrec.members k).2 (.inr ⟨a, hadds ▸ ha, (hlone.eventRow?_iff ha).2 hk⟩)
      exact ⟨k, hk, hsound.contains_event hmember⟩
    cancelled := fun x hx hnew hcancels =>
      ⟨hlone.row?_of_cancels hx hnew hcancels, fun k => hlone.uuid?_of_cancels hcancels⟩
    kept := hlone.keeps.kept
    others := fun k hk => Batch.get?_saveCatalogue_of_ne hcheck (Ne.symm hk) hsave }

def tremor (uuid : String) (link : Nat) : Event :=
  ⟨⟨⟨2023, 1, 2, 3, 0, 0, 0⟩, by decide⟩, ⟨⟨2023, 1, 2, 4, 0, 0, 0⟩, by decide⟩, "carol", uuid, .empty, ⟨link⟩⟩

/-- A catalogue that was saved with two events. -/
def tremors : Catalogue := ⟨"tremors", "carol", none, .empty, [tremor "u" 0, tremor "v" 1], [], ⟨2⟩⟩

def surveyed : Store := (left (save .standard [.catalogue tremors] ⟨.empty, ⟨5, .empty⟩⟩)).store

/-- The links after that. -/
def surveyedLinks : Links := ⟨5, ((SortedMap.empty.insert 0 1).insert 1 2).insert 2 1⟩

/-- Both events are removed and one of them is added again, with two new events of which one is removed. -/
def revised : Catalogue :=
  { tremors with
    additions := [tremor "u" 0, tremor "w" 3, tremor "x" 4, tremor "w" 3]
    removals := [tremor "u" 0, tremor "v" 1, tremor "x" 4] }

def resurveyed : World := left (save .standard [.catalogue revised] ⟨surveyed, surveyedLinks⟩)

theorem save_reconciles_revised : (resurveyed.store.members 1).keys = [1, 3] ∧
    ∃ id, Reconciled surveyed surveyedLinks revised resurveyed id := by
  let r : Roster := fun l =>
    match l.number with
    | 0 => some (.event "u")
    | 1 => some (.event "v")
    | 3 => some (.event "w")
    | 4 => some (.event "x")
    | _ => some .catalogue
  have hreachable : surveyed.Reachable := .single (.save .standard ⟨5, .empty⟩ [.catalogue tremors] .empty)
  have hsave : save .standard [.catalogue revised] ⟨surveyed, surveyedLinks⟩ = .ok _ resurveyed :=
    save_of_succeeds (by decide +kernel)
  have hkeys : (resurveyed.store.members 1).keys = [1, 3] := by decide +kernel
  exact ⟨hkeys, (save_reconciles (r := r) hreachable (by decide) (by decide) hsave).2⟩

end Chronicle
