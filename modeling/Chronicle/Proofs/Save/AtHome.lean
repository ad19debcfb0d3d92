import Chronicle.Proofs.Save.AllOrNothing
import Chronicle.Proofs.Save.Lookups

/-!
# Links at home

As long as there is one database, links of events know rows with the uuid of the event, and links of
catalogues know rows of catalogues. While a batch is written this also holds of the rows that it has made,
and no row gets another uuid.
-/
namespace Chronicle

/-- Whether links know rows of their own entities. -/
structure AtHome (r : Roster) (w : World) : Prop where
  event : ∀ x : Event, x.On r → ∀ id, w.links.row? x.link = some id →
    w.store.uuid? id = some (.text x.uuid)
  catalogue : ∀ c : Catalogue, r c.link = some .catalogue → ∀ id, w.links.row? c.link = some id →
    w.store.catalogues.contains id = true

namespace Store

/-- Whether the same rows are there, with the same uuids. -/
def SameRows (s s' : Store) : Prop :=
  (∀ id, s'.uuid? id = s.uuid? id) ∧ ∀ id, s'.catalogues.contains id = s.catalogues.contains id

variable {s s' : Store} {settings : Settings} {kind : EntityKind} {owner : RowId}

/-- Attributes make no difference to the rows that are there. -/
theorem Change.sameRows [Regex.Library] (h : Change settings (.attributes kind owner) s s') :
    SameRows s s' := by
  have hrows (f : AttributeTable → AttributeTable) : SameRows s (s.withAttributes kind owner f) :=
    ⟨fun _ => uuid?_withAttributes kind owner f, fun id => ownerExists_withAttributes .catalogue id⟩
  cases h with
  | putAttribute key v hv hput =>
    obtain ⟨-, rfl⟩ := putAttribute_eq_ok.1 hput
    exact hrows _
  | removeAttribute key =>
    rw [removeAttribute_snd]
    exact hrows _

theorem sameRows_of_steps (h : Relation.ReflTransGen SameRows s s') : SameRows s s' := by
  induction h with
  | refl => exact ⟨fun _ => rfl, fun _ => rfl⟩
  | tail _ hstep ih =>
    exact ⟨fun id => (hstep.1 id).trans (ih.1 id), fun id => (hstep.2 id).trans (ih.2 id)⟩

variable [Regex.Library]

theorem sameRows_setAttribute (key : String) (v : Value) :
    SameRows s (left (setAttribute settings.keyPolicy kind owner key v s)) :=
  sameRows_of_steps (moves_setAttribute (fun _ _ => Change.sameRows) key v s)

theorem sameRows_dropAttribute (key : String) : SameRows s (left (dropAttribute kind owner key s)) :=
  sameRows_of_steps (moves_dropAttribute (fun _ _ (h : Change .standard _ _ _) => h.sameRows) key s)

theorem sameRows_syncAttributes (a : Attributes) :
    SameRows s (left (syncAttributes settings.keyPolicy kind owner a s)) :=
  sameRows_of_steps (moves_syncAttributes (fun _ _ => Change.sameRows) a s)

end Store

namespace Batch

/-- Whether a batch finds entities in rows of their own. -/
structure Placed (r : Roster) (ls : Links) (b : Batch) : Prop where
  event : ∀ x : Event, x.On r → ∀ id, b.eventRow? ls x = some id → b.store.uuid? id = some (.text x.uuid)
  catalogue : ∀ c : Catalogue, r c.link = some .catalogue → ∀ id, b.catalogueRow? ls c = some id →
    b.store.catalogues.contains id = true

variable {r : Roster} {ls : Links} {b b' : Batch} {d : Deed} {k id : RowId} {u : StoredText}

theorem placed_begin {s : Store} (h : AtHome r ⟨s, ls⟩) : Placed r ls (begin s) where
  event x hx id hid := h.event x hx id (by simpa using hid)
  catalogue c hc id hid := h.catalogue c hc id (by simpa using hid)

/-- When entities are in their own rows, no row gets another uuid. -/
theorem Does.uuid?_eq_some (h : Does ls d b b') (hd : d.On r) (hb : Placed r ls b)
    (hu : b.store.uuid? k = some u) : b'.store.uuid? k = some u := by
  rw [Store.uuid?, h.get?_events]
  obtain ⟨row, hrow, rfl⟩ := Option.map_eq_some_iff.1 hu
  rw [hrow]
  cases d with
  | overwrite e k' =>
    by_cases hk : k' = k
    · subst hk
      have huuid := hb.event e hd k' h.of_overwrite
      rw [hu] at huuid
      simp [Deed.leaves, Event.row, Store.EventCells.over, Event.cells, Option.some.inj huuid]
    · simp [Deed.leaves, hk]
  | insert e k' =>
    obtain ⟨-, hfree, -⟩ := h.of_insert
    have hk : k' ≠ k := by
      rintro rfl
      cases hfree.symm.trans hrow
    simp [Deed.leaves, hk]
  | _ => rfl

theorem Does.placed (h : Does ls d b b') (hd : d.On r) (hb : Placed r ls b) : Placed r ls b' where
  event x hx id hid := by
    rw [Batch.eventRow?_eq] at hid
    rcases Option.or_eq_some_iff.1 hid with hknown | ⟨hnew, hstaged⟩
    · exact h.uuid?_eq_some hd hb (hb.event x hx id (eventRow?_of_row? hknown))
    · rcases h.made_or hstaged with hold | ⟨e, rfl, huuid⟩
      · rw [← eventRow?_of_new hnew] at hold
        exact h.uuid?_eq_some hd hb (hb.event x hx id hold)
      · obtain ⟨-, -, hrow, -⟩ := h.of_insert
        rw [Store.uuid?, hrow, ← huuid]
        rfl
  catalogue c hc id hid := by
    by_cases hstill : b.catalogueRow? ls c = some id
    · exact h.catalogues_contains (hb.catalogue c hc id hstill)
    · cases h with
      | insertCatalogue hnone =>
        rw [catalogueRow?_append hnone rfl] at hid
        split at hid
        · cases hid
          exact SortedMap.contains_insert.2 (.inl rfl)
        · exact absurd hid hstill
      | _ => exact absurd hid hstill

theorem Deeds.placed (h : Deeds ls (Deed.On r) b b') (hb : Placed r ls b) : Placed r ls b' :=
  h.preserve (fun _ _ _ hd hdoes => hdoes.placed hd) hb

theorem Deeds.uuid?_eq_some (h : Deeds ls (Deed.On r) b b') (hb : Placed r ls b)
    (hu : b.store.uuid? k = some u) : b'.store.uuid? k = some u := by
  have hboth := h.preserve (P := fun b => Placed r ls b ∧ b.store.uuid? k = some u)
    (fun _ _ _ hd hdoes hP => ⟨hdoes.placed hd hP.1, hdoes.uuid?_eq_some hd hP.1 hP.2⟩) ⟨hb, hu⟩
  exact hboth.2

/-- What is in its own row when the batch ends is at home. -/
theorem Placed.atHome (hb : Placed r ls b) (hcoherent : Coherent r ls b) :
    AtHome r ⟨b.store, b.links ls⟩ where
  event x hx id hid := hb.event x hx id (hcoherent.event x hx id hid)
  catalogue c hc id hid := hb.catalogue c hc id ((hcoherent.catalogue c hc).trans hid)

end Batch

namespace AtHome

variable {r : Roster} {w : World}

theorem empty (r : Roster) (made : Nat) : AtHome r ⟨.empty, ⟨made, .empty⟩⟩ where
  event _ _ _ h := nomatch h
  catalogue _ _ _ h := nomatch h

/-- Saving leaves links at home, also when it fails. -/
theorem save [Regex.Library] (h : AtHome r w) (hs : w.store.Sound) (settings : Settings) {es : List Entity}
    (hes : ∀ x ∈ es, x.On r) : AtHome r (left (Chronicle.save settings es w)) := by
  cases hsave : Chronicle.save settings es w with
  | error e w' =>
    obtain ⟨rfl, -⟩ := save_eq_error.1 hsave
    exact h
  | ok saved w' =>
    obtain ⟨hchecks, b, hb, -, rfl⟩ := save_eq_ok.1 hsave
    obtain ⟨hdeeds, -⟩ := Batch.deeds_on_of_forM (b := .begin w.store) hs hchecks hes hb
    exact (hdeeds.placed (Batch.placed_begin h)).atHome
      (hdeeds.coherent (fun _ hd => hd) (Batch.coherent_begin r w.links w.store))

theorem sameRows {s : Store} (h : AtHome r w) (hrows : w.store.SameRows s) :
    AtHome r { w with store := s } where
  event x hx id hid := (hrows.1 id).trans (h.event x hx id hid)
  catalogue c hc id hid := (hrows.2 id).trans (h.catalogue c hc id hid)

end AtHome

/-- Whether a row is one of an entity. -/
def Store.Houses (s : Store) (id : RowId) : Identity → Prop
  | .event u => s.uuid? id = some (.text u)
  | .catalogue => s.catalogues.contains id = true

instance (s : Store) (id : RowId) : ∀ i, Decidable (s.Houses id i)
  | .event _ => inferInstanceAs (Decidable (_ = _))
  | .catalogue => inferInstanceAs (Decidable (_ = _))

namespace World

variable [Regex.Library]

/-- What can happen as long as there is one database: entities of a roster are saved, attributes are set,
removed and brought in line on their own, and entities are made or read from rows, so that links are new
or know rows of their own entities. -/
inductive Step (r : Roster) : World → World → Prop
  | saved {w : World} (settings : Settings) {es : List Entity} (hes : ∀ x ∈ es, x.On r) :
      Step r w (left (Chronicle.save settings es w))
  | setAttribute {w : World} (settings : Settings) (kind : EntityKind) (owner : RowId) (key : String)
      (v : Value) : Step r w
        { w with store := left (Store.setAttribute settings.keyPolicy kind owner key v w.store) }
  | dropAttribute {w : World} (kind : EntityKind) (owner : RowId) (key : String) :
      Step r w { w with store := left (Store.dropAttribute kind owner key w.store) }
  | syncAttributes {w : World} (settings : Settings) (kind : EntityKind) (owner : RowId)
      (a : Attributes) : Step r w
        { w with store := left (Store.syncAttributes settings.keyPolicy kind owner a w.store) }
  | linked {w : World} {ls : Links}
      (event : ∀ x : Event, x.On r → ∀ id, ls.row? x.link = some id →
        w.links.row? x.link = some id ∨ w.store.uuid? id = some (.text x.uuid))
      (catalogue : ∀ c : Catalogue, r c.link = some .catalogue → ∀ id, ls.row? c.link = some id →
        w.links.row? c.link = some id ∨ w.store.catalogues.contains id = true) : Step r w { w with links := ls }

/-- Links may come to know any rows of their own entities. -/
theorem Step.of_houses {r : Roster} {w : World} {ls : Links}
    (h : ∀ e ∈ ls.rows.entries, ∀ i ∈ r ⟨e.1⟩, w.store.Houses e.2 i) : Step r w { w with links := ls } :=
  .linked (fun _ hx _ hid => .inr (h _ (SortedMap.get?_eq_some_iff.1 hid) _ hx))
    fun _ hc _ hid => .inr (h _ (SortedMap.get?_eq_some_iff.1 hid) _ hc)

def Reachable (r : Roster) (w : World) : Prop := Relation.ReflTransGen (Step r) ⟨.empty, .none⟩ w

/-- With one database all links are at home. -/
theorem Reachable.atHome {r : Roster} {w : World} (h : w.Reachable r) :
    w.store.Reachable ∧ AtHome r w := by
  induction h with
  | refl => exact ⟨.refl, .empty r 0⟩
  | tail _ step ih =>
    obtain ⟨hreachable, hhome⟩ := ih
    cases step with
    | saved settings hes =>
      exact ⟨hreachable.tail (.save settings _ _ _), hhome.save hreachable.sound settings hes⟩
    | setAttribute settings kind owner key v =>
      exact ⟨hreachable.tail (.setAttribute settings kind owner key v _),
        hhome.sameRows (Store.sameRows_setAttribute key v)⟩
    | dropAttribute kind owner key =>
      exact ⟨hreachable.tail (.dropAttribute kind owner key _),
        hhome.sameRows (Store.sameRows_dropAttribute key)⟩
    | syncAttributes settings kind owner a =>
      exact ⟨hreachable.tail (.syncAttributes settings kind owner a _),
        hhome.sameRows (Store.sameRows_syncAttributes a)⟩
    | linked hevent hcatalogue =>
      exact ⟨hreachable, fun x hx id hid => (hevent x hx id hid).elim (hhome.event x hx id) (fun h => h),
        fun c hc id hid => (hcatalogue c hc id hid).elim (hhome.catalogue c hc id) fun h => h⟩

end World

end Chronicle
