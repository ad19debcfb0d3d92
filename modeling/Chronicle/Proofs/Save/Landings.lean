import Chronicle.Proofs.Store.Frame
import Chronicle.Proofs.Store.Sound

/-!
# Catalogues that land on rows

What a run of saves leaves in the row of a catalogue is decided by the catalogue that was written to it
last. So a property of a row is followed through a run together with that catalogue.
-/
namespace Chronicle

namespace Store

variable [Regex.Library] {settings : Settings} {s s' : Store}

/-- Several changes of the parts of a store that `q` admits. -/
def Changes (settings : Settings) (q : Footprint → Prop) : Store → Store → Prop :=
  Relation.ReflTransGen fun s s' => ∃ p, q p ∧ Change settings p s s'

theorem Changes.preserve {q : Footprint → Prop} {P : Store → Prop} (h : Changes settings q s s')
    (hP : ∀ p s s', q p → Change settings p s s' → P s → P s') (hs : P s) : P s' := by
  induction h with
  | refl => exact hs
  | tail _ step ih =>
    obtain ⟨p, hp, hstep⟩ := step
    exact hP p _ _ hp hstep ih

theorem Changes.eq {q : Footprint → Prop} {β : Type} {f : Store → β} (h : Changes settings q s s')
    (hf : ∀ p s s', q p → Change settings p s s' → f s' = f s) : f s' = f s :=
  h.preserve (P := fun t => f t = f s) (fun p t t' hp hstep ht => (hf p t t' hp hstep).trans ht) rfl

theorem Changes.sound {q : Footprint → Prop} (h : Changes settings q s s') (hs : s.Sound) : s'.Sound :=
  h.preserve (P := Sound) (fun _ _ _ _ hstep ht => ht.change hstep) hs

theorem changes_syncAttributes {kind : EntityKind} {owner : RowId} {a : Attributes}
    (h : syncAttributes settings.keyPolicy kind owner a s = .ok () s') :
    Changes settings (· = .attributes kind owner) s s' := by
  have hmoves : Moves (fun s s' => ∃ p, p = .attributes kind owner ∧ Change settings p s s')
      (syncAttributes settings.keyPolicy kind owner a) :=
    moves_syncAttributes (fun _ _ hstep => ⟨_, rfl, hstep⟩) a
  have hsteps := hmoves s
  rw [h] at hsteps
  exact hsteps

end Store

namespace Batch
open Store (Changes Footprint)

variable {settings : Settings} {ls : Links} {b b' : Batch} {id : RowId}

theorem changes_of_moves [Regex.Library] {q : Footprint → Prop} {α : Type} {x : BatchWork α} {a : α}
    (h : Moves (Goes fun s s' => ∃ p, q p ∧ Store.Change settings p s s') x) (hx : x b = .ok a b') :
    Changes settings q b.store b'.store := by
  have hmoves := h b
  rw [hx] at hmoves
  exact steps_of_goes hmoves

theorem changes_saveEvent [Regex.Library] {e : Event} (he : e.check settings = .ok ())
    (h : saveEvent settings ls e b = .ok id b') :
    Changes settings Footprint.OfEvents b.store b'.store :=
  changes_of_moves (moves_saveEvent (fun p _ _ hp hstep => ⟨p, hp, hstep⟩) ls he) h

/-- What a catalogue touches after it was written to its row and before its attributes are. -/
def Follows (id : RowId) (p : Footprint) : Prop := p.OfEvents ∨ p = .members id

theorem change_of_writeCatalogue [Regex.Library] {c : Catalogue} (hc : c.check settings = .ok ())
    (h : writeCatalogue ls c b = .ok id b') :
    Store.Change settings (.catalogue id) b.store b'.store := by
  rcases writeCatalogue_eq_ok.1 h with ⟨-, rfl⟩ | ⟨-, s, hs, rfl⟩
  · exact .updateCatalogue c hc
  · exact .insertCatalogue c hc hs

/-- A row that is not in this store is not written, which is no failure. -/
theorem row_writeCatalogue {c : Catalogue} (h : writeCatalogue ls c b = .ok id b') :
    b'.store.catalogues.get? id = none ∨
      ∃ t members, b'.store.catalogues.get? id = some (c.cells.over t members) := by
  rcases writeCatalogue_eq_ok.1 h with ⟨-, rfl⟩ | ⟨-, s, hs, rfl⟩
  · cases hrow : b.store.catalogues.get? id with
    | none =>
      rw [Store.updateCatalogue_of_get?_eq_none hrow]
      exact .inl hrow
    | some r =>
      rw [Store.updateCatalogue_of_get? hrow]
      exact .inr ⟨_, _, SortedMap.get?_insert_self _ id _⟩
  · obtain ⟨-, rfl⟩ := Store.insertCatalogue_eq_ok.1 hs
    exact .inr ⟨_, _, SortedMap.get?_insert_self _ id _⟩

/-- A catalogue is written to its row; then come its members, unless it has a predicate, and last its
attributes. -/
theorem changes_saveCatalogue [Regex.Library] {c : Catalogue} (hc : c.check settings = .ok ())
    (h : saveCatalogue settings ls c b = .ok id b') : ∃ b₁ b₂, writeCatalogue ls c b = .ok id b₁ ∧
      Changes settings (Follows id) b₁.store b₂.store ∧ (c.isSmart = true → b₂ = b₁) ∧
        Store.syncAttributes settings.keyPolicy .catalogue id c.attributes b₂.store = .ok () b'.store := by
  obtain ⟨b₁, rest, b₂, b₃, s, hwrite, hremove, hadd, hsync, rfl⟩ := saveCatalogue_eq_ok.1 h
  obtain ⟨-, hpredicate, hadditions⟩ := Catalogue.check_eq_ok.1 hc
  have hchecked : ∀ e ∈ rest, e.check settings = .ok () :=
    fun e he => hadditions e (applyRemovals_subset hremove e he)
  have hmembers (s s') (hstep : Store.Change settings (.members id) s s') :
      ∃ p, Follows id p ∧ Store.Change settings p s s' := ⟨_, .inr rfl, hstep⟩
  have hevents (p s s') (hp : p.OfEvents) (hstep : Store.Change settings p s s') :
      ∃ p, Follows id p ∧ Store.Change settings p s s' := ⟨p, .inl hp, hstep⟩
  have hremoved := changes_of_moves (moves_applyRemovals ls hmembers c.removals c.additions) hremove
  have hadded := changes_of_moves (moves_applyAdditions hevents ls hmembers hchecked) hadd
  refine ⟨b₁, b₃, hwrite, hremoved.trans hadded, fun hsmart => ?_, hsync⟩
  obtain ⟨p, hp⟩ := Option.isSome_iff_exists.1 hsmart
  obtain ⟨hnone, hnone', -⟩ := Catalogue.checkPredicate_eq_ok.1 hpredicate p hp
  rw [hnone, hnone'] at hremove
  obtain ⟨rfl, rfl⟩ := pure_eq_ok.1 hremove
  obtain ⟨-, rfl⟩ := pure_eq_ok.1 hadd
  rfl

theorem sound_saveCatalogue [Regex.Library] {c : Catalogue} (hb : b.store.Sound)
    (hc : c.check settings = .ok ())
    (h : saveCatalogue settings ls c b = .ok id b') : b'.store.Sound := by
  obtain ⟨b₁, b₂, hwrite, hfollows, -, hsync⟩ := changes_saveCatalogue hc h
  have hwritten := hb.change (change_of_writeCatalogue hc hwrite)
  exact (Store.changes_syncAttributes hsync).sound (hfollows.sound hwritten)

theorem get?_saveEvent [Regex.Library] {e : Event} {row : RowId} (he : e.check settings = .ok ())
    (h : saveEvent settings ls e b = .ok id b') :
    b'.store.catalogues.get? row = b.store.catalogues.get? row :=
  (changes_saveEvent he h).eq (f := fun s => s.catalogues.get? row) fun _ _ _ hp hchange =>
    hchange.get?_eq (hp.spares row)

theorem Follows.spares {row : RowId} {p : Footprint} (hp : Follows id p) (hrow : id ≠ row) :
    p.Spares row := by
  rcases hp with hp | rfl
  · exact hp.spares row
  · simp [Footprint.Spares, hrow]

/-- Saving a catalogue leaves all other catalogues alone. -/
theorem get?_saveCatalogue_of_ne [Regex.Library] {c : Catalogue} {row : RowId} (hc : c.check settings = .ok ())
    (hrow : id ≠ row) (h : saveCatalogue settings ls c b = .ok id b') :
    b'.store.catalogues.get? row = b.store.catalogues.get? row := by
  obtain ⟨b₁, b₂, hwrite, hfollows, -, hsync⟩ := changes_saveCatalogue hc h
  have hwritten : b₁.store.catalogues.get? row = b.store.catalogues.get? row :=
    (change_of_writeCatalogue hc hwrite).get?_eq (by simp [Footprint.Spares, hrow])
  have hfollowed : b₂.store.catalogues.get? row = b₁.store.catalogues.get? row :=
    hfollows.eq (f := fun s => s.catalogues.get? row) fun _ _ _ hp hchange =>
      hchange.get?_eq (hp.spares hrow)
  have hsynced : b'.store.catalogues.get? row = b₂.store.catalogues.get? row :=
    (Store.changes_syncAttributes hsync).eq (f := fun s => s.catalogues.get? row) fun _ _ _ hp hchange =>
      hchange.get?_eq (by simp [hp, Footprint.Spares, hrow])
  rw [hsynced, hfollowed, hwritten]

end Batch

/-- A catalogue that was written to a row, with the members that the row had at that time. -/
structure Landing where
  row : RowId
  catalogue : Catalogue
  members : SortedMap RowId Unit

/-- The last of some landings that was on a row. -/
def lastOn? (row : RowId) (landings : List Landing) : Option Landing :=
  landings.reverse.find? fun l => l.row == row

theorem lastOn?_append (row : RowId) (before after : List Landing) :
    lastOn? row (before ++ after) = (lastOn? row after).or (lastOn? row before) := by
  unfold lastOn?
  rw [List.reverse_append, List.find?_append]

theorem lastOn?_singleton (row : RowId) (l : Landing) :
    lastOn? row [l] = if l.row = row then some l else none := by
  unfold lastOn?
  rw [List.reverse_singleton, List.find?_singleton]
  simp only [beq_iff_eq]

/-- What holds of a row and the catalogue that was written to it last, if there was one, as long as entities
are saved. -/
structure Tracks [Regex.Library] (row : RowId) (J : Option Landing → Store → Prop) : Prop where
  congr : ∀ {s s' o}, s'.catalogues.get? row = s.catalogues.get? row → J o s → J o s'
  lands : ∀ {settings ls c b b'}, Catalogue.check c settings = .ok () → b.store.Sound →
    Batch.saveCatalogue settings ls c b = .ok row b' → J (some ⟨row, c, b.store.members row⟩) b'.store

/-- The catalogues that a batch writes, with what they land on. -/
def Batch.landings (settings : Settings) (ls : Links) : List Entity → Batch → List Landing
  | [], _ => []
  | .event e :: es, b =>
    match saveEvent settings ls e b with
    | .ok _ b' => landings settings ls es b'
    | .error _ _ => []
  | .catalogue c :: es, b =>
    match saveCatalogue settings ls c b with
    | .ok id b' => ⟨id, c, b.store.members id⟩ :: landings settings ls es b'
    | .error _ _ => []

/-- Every catalogue of a batch is written to some row. -/
theorem Batch.exists_landing {settings : Settings} {ls : Links} {es : List Entity} {b b' : Batch}
    (h : es.forM (saveEntity settings ls) b = .ok () b') {c : Catalogue} (hc : .catalogue c ∈ es) :
    ∃ l ∈ landings settings ls es b, l.catalogue = c := by
  induction es generalizing b with
  | nil => cases hc
  | cons e es ih =>
    obtain ⟨_, b₁, he, hrest⟩ := bind_eq_ok.1 h
    cases e with
    | event e =>
      obtain ⟨id, he⟩ := saveEntity_event_eq_ok.1 he
      rw [landings, he]
      exact ih hrest ((List.mem_cons.1 hc).resolve_left nofun)
    | catalogue d =>
      obtain ⟨id, hd⟩ := saveEntity_catalogue_eq_ok.1 he
      rw [landings, hd]
      rcases List.mem_cons.1 hc with heq | hc
      · cases heq
        exact ⟨_, List.mem_cons_self, rfl⟩
      · obtain ⟨l, hl, hcatalogue⟩ := ih hrest hc
        exact ⟨l, List.mem_cons_of_mem _ hl, hcatalogue⟩

namespace Tracks

variable [Regex.Library] {row : RowId} {J : Option Landing → Store → Prop} (hJ : Tracks row J)
  {settings : Settings} {ls : Links} {b b' : Batch} {o : Option Landing}

include hJ

theorem catalogue {c : Catalogue} {id : RowId} (hc : c.check settings = .ok ()) (hs : b.store.Sound)
    (h : Batch.saveCatalogue settings ls c b = .ok id b') (hb : J o b.store) :
    J ((lastOn? row [⟨id, c, b.store.members id⟩]).or o) b'.store := by
  rw [lastOn?_singleton]
  by_cases hrow : id = row
  · subst hrow
    rw [if_pos rfl]
    exact hJ.lands hc hs h
  · rw [if_neg hrow]
    exact hJ.congr (Batch.get?_saveCatalogue_of_ne hc hrow h) hb

theorem forM {es : List Entity} (hes : ∀ e ∈ es, e.check settings = .ok ()) (hs : b.store.Sound)
    (h : es.forM (Batch.saveEntity settings ls) b = .ok () b') (hb : J o b.store) :
    b'.store.Sound ∧ J ((lastOn? row (Batch.landings settings ls es b)).or o) b'.store := by
  induction es generalizing b o with
  | nil =>
    obtain ⟨-, rfl⟩ := pure_eq_ok.1 h
    exact ⟨hs, hb⟩
  | cons e es ih =>
    obtain ⟨_, b₁, he, hrest⟩ := bind_eq_ok.1 h
    have hchecked := hes e List.mem_cons_self
    have hlater : ∀ x ∈ es, x.check settings = .ok () := fun x hx => hes x (List.mem_cons_of_mem _ hx)
    cases e with
    | event e =>
      obtain ⟨id, he⟩ := Batch.saveEntity_event_eq_ok.1 he
      rw [Batch.landings, he]
      have hsound := (Batch.changes_saveEvent hchecked he).sound hs
      exact ih hlater hsound hrest (hJ.congr (Batch.get?_saveEvent hchecked he) hb)
    | catalogue c =>
      obtain ⟨id, hc⟩ := Batch.saveEntity_catalogue_eq_ok.1 he
      rw [Batch.landings, hc]
      dsimp only
      rw [← List.singleton_append, lastOn?_append, Option.or_assoc]
      have hsound := Batch.sound_saveCatalogue hs hchecked hc
      exact ih hlater hsound hrest (hJ.catalogue hchecked hs hc hb)

end Tracks

/-- A call of save, with the links as they are at that time. -/
structure Saving where
  settings : Settings
  links : Links
  entities : List Entity

namespace Saving

variable [Regex.Library]

/-- The store after a save, be it that it failed. -/
def after (x : Saving) (s : Store) : Store := (left (save x.settings x.entities ⟨s, x.links⟩)).store

/-- A save that fails writes nothing. -/
def landings (x : Saving) (s : Store) : List Landing :=
  match save x.settings x.entities ⟨s, x.links⟩ with
  | .ok _ _ => Batch.landings x.settings x.links x.entities (.begin s)
  | .error _ _ => []

/-- The store after several saves. -/
def afterAll (run : List Saving) (s : Store) : Store := run.foldl (fun s x => x.after s) s

def allLandings : List Saving → Store → List Landing
  | [], _ => []
  | x :: run, s => x.landings s ++ allLandings run (x.after s)

variable {row : RowId} {J : Option Landing → Store → Prop} {o : Option Landing}

theorem tracks_after (hJ : Tracks row J) (x : Saving) {s : Store} (hs : s.Sound) (ho : J o s) :
    (x.after s).Sound ∧ J ((lastOn? row (x.landings s)).or o) (x.after s) := by
  unfold after landings save
  cases hc : Entity.checkEach x.settings x.entities with
  | error e => exact ⟨hs, ho⟩
  | ok =>
    have hchecked := Entity.checkEach_eq_ok.1 hc
    dsimp only
    cases hb : x.entities.forM (Batch.saveEntity x.settings x.links) (.begin s) with
    | error e b =>
      simp only [Work.transaction, Batch.saveAll, hb]
      exact ⟨hs, ho⟩
    | ok u b =>
      simp only [Work.transaction, Batch.saveAll, hb]
      exact hJ.forM hchecked hs hb ho

theorem tracks_afterAll (hJ : Tracks row J) (run : List Saving) {s : Store} (hs : s.Sound) (ho : J o s) :
    J ((lastOn? row (allLandings run s)).or o) (afterAll run s) := by
  induction run generalizing s o with
  | nil => exact ho
  | cons x run ih =>
    obtain ⟨hsound, hx⟩ := tracks_after hJ x hs ho
    rw [allLandings, lastOn?_append, Option.or_assoc]
    exact ih hsound hx

theorem after_of_eq_ok {x : Saving} {s : Store} {saved : List Entity} {w : World}
    (h : save x.settings x.entities ⟨s, x.links⟩ = .ok saved w) : x.after s = w.store := by
  rw [after, h]
  rfl

theorem exists_landing {x : Saving} {s : Store} {saved : List Entity} {w : World}
    (h : save x.settings x.entities ⟨s, x.links⟩ = .ok saved w) {c : Catalogue}
    (hc : .catalogue c ∈ x.entities) : ∃ l ∈ x.landings s, l.catalogue = c := by
  rw [landings, h]
  unfold save at h
  split at h
  · cases h
  cases hb : x.entities.forM (Batch.saveEntity x.settings x.links) (.begin s) with
  | error e b =>
    simp only [Work.transaction, Batch.saveAll, hb] at h
    cases h
  | ok u b => exact Batch.exists_landing hb hc

theorem reachable_after {s : Store} (hs : s.Reachable) (x : Saving) : (x.after s).Reachable :=
  hs.tail (.save x.settings x.links x.entities s)

theorem reachable_afterAll (run : List Saving) : (afterAll run .empty).Reachable := by
  have hfrom (s : Store) (hs : s.Reachable) : (afterAll run s).Reachable := by
    induction run generalizing s with
    | nil => exact hs
    | cons x run ih => exact ih _ (reachable_after hs x)
  exact hfrom .empty .refl

end Saving

end Chronicle
