import Chronicle.Proofs.Save.Refusal
import Chronicle.Proofs.Store.Change

/-!
# Saving change by change

A batch changes its store by the single changes of the store, whether it succeeds or fails, and so does
everything else that is done to a store. The stores that can be reached are reached by such changes.
-/
namespace Chronicle

namespace Batch

variable {settings : Settings} {R : Store → Store → Prop}

/-- A batch that goes on changes its store step by step. -/
def Goes (R : Store → Store → Prop) (b b' : Batch) : Prop := Relation.ReflTransGen R b.store b'.store

theorem steps_of_goes {b b' : Batch} (h : Relation.ReflTransGen (Goes R) b b') :
    Relation.ReflTransGen R b.store b'.store := by
  induction h with
  | refl => exact .refl
  | tail _ goes ih => exact ih.trans goes

theorem moves_onStore {α : Type} {w : Work α} (h : Moves R w) : Moves (Goes R) (onStore w) := by
  intro b
  have hw := h b.store
  unfold onStore
  cases hb : w b.store with
  | ok a s => rw [hb] at hw; exact .single hw
  | error e s => rw [hb] at hw; exact .single hw

theorem moves_modify {f : Batch → Batch} (h : ∀ b, (f b).store = b.store) :
    Moves (Goes R) (modify f : BatchWork PUnit) := by
  intro b
  refine .single ?_
  unfold Goes
  rw [show (left ((modify f : BatchWork PUnit) b)).store = b.store from h b]

theorem moves_noteNew (ls : Links) (e : Event) (id : RowId) : Moves (Goes R) (noteNew ls e id) := by
  unfold noteNew
  split
  · exact moves_modify fun _ => rfl
  · exact .pure _

section Events

variable [Regex.Library] (hR : ∀ f s s', f.OfEvents → Store.Change settings f s s' → R s s')

include hR

theorem moves_writeEvent (ls : Links) {e : Event} (he : e.check settings = .ok ()) :
    Moves (Goes R) (writeEvent ls e) := by
  refine .get_bind fun b => ?_
  split
  · refine .bind (moves_onStore (Work.moves_change fun s _ s' h => ?_)) fun _ => .pure _
    exact .single (hR (.event _) _ _ trivial (.updateEvent e he (map_pair_eq_ok.1 h)))
  · refine .bind (moves_onStore (Work.moves_change fun s id s' h => ?_)) fun _ =>
      .bind (moves_modify fun _ => rfl) fun _ => .pure _
    exact .single (hR (.event _) _ _ trivial (.insertEvent e he h))

theorem moves_saveEvent (ls : Links) {e : Event} (he : e.check settings = .ok ()) :
    Moves (Goes R) (saveEvent settings ls e) := by
  refine .bind (moves_writeEvent hR ls he) fun id => .bind (moves_noteNew ls e id) fun _ => ?_
  have hattributes (s s') := hR (.attributes .event id) s s' trivial
  exact .bind (moves_onStore (Store.moves_syncAttributes hattributes e.attributes)) fun _ => .pure _

theorem moves_additionRow (ls : Links) {e : Event} (he : e.check settings = .ok ()) :
    Moves (Goes R) (additionRow settings ls e) := by
  refine .get_bind fun b => ?_
  split
  · exact .pure _
  · exact moves_saveEvent hR ls he

theorem moves_applyAdditions (ls : Links) {id : RowId}
    (hmembers : ∀ s s', Store.Change settings (.members id) s s' → R s s') {es : List Event}
    (h : ∀ e ∈ es, e.check settings = .ok ()) :
    Moves (Goes R) (applyAdditions settings ls id es) := by
  induction es with
  | nil => exact .pure _
  | cons e es ih =>
    refine .bind (moves_additionRow hR ls (h e List.mem_cons_self)) fun event =>
      .bind (moves_onStore (Work.moves_change fun s new s' hadd => ?_)) fun _ =>
        ih fun x hx => h x (List.mem_cons_of_mem _ hx)
    exact .single (hmembers _ _ (.addMember event hadd))

end Events

variable [Regex.Library]

theorem moves_applyRemovals (ls : Links) {id : RowId}
    (hmembers : ∀ s s', Store.Change settings (.members id) s s' → R s s') (es additions : List Event) :
    Moves (Goes R) (applyRemovals ls id es additions) := by
  induction es generalizing additions with
  | nil => exact .pure _
  | cons e es ih =>
    refine .get_bind fun b => ?_
    split
    · refine .bind (moves_onStore (Work.moves_change fun s b s' h => ?_)) fun _ => ih _
      have hs' : (s.removeMember id _).2 = s' := congrArg Prod.snd (Except.ok.inj h)
      rw [← hs']
      exact .single (hmembers _ _ (.removeMember _))
    · exact ih _

theorem moves_writeCatalogue (ls : Links)
    (hR : ∀ id s s', Store.Change settings (.catalogue id) s s' → R s s') {c : Catalogue}
    (hc : c.check settings = .ok ()) : Moves (Goes R) (writeCatalogue ls c) := by
  refine .get_bind fun b => ?_
  split
  · refine .bind (moves_onStore (Work.moves_change fun s _ s' h => ?_)) fun _ => .pure _
    cases h
    exact .single (hR _ _ _ (.updateCatalogue c hc))
  · refine .bind (moves_onStore (Work.moves_change fun s id s' h => ?_)) fun _ =>
      .bind (moves_modify fun _ => rfl) fun _ => .bind (moves_modify fun _ => rfl) fun _ => .pure _
    exact .single (hR _ _ _ (.insertCatalogue c hc h))

theorem moves_saveCatalogue (hR : ∀ f s s', Store.Change settings f s s' → R s s') (ls : Links)
    {c : Catalogue} (hc : c.check settings = .ok ()) :
    Moves (Goes R) (saveCatalogue settings ls c) := by
  obtain ⟨-, -, hadditions⟩ := Catalogue.check_eq_ok.1 hc
  refine .bind (moves_writeCatalogue ls (fun _ => hR _) hc) fun id =>
    .bind_of_ok (moves_applyRemovals ls (hR _) c.removals c.additions) fun rest b b' hrest => ?_
  have hchecked : ∀ e ∈ rest, e.check settings = .ok () :=
    fun e he => hadditions e (applyRemovals_subset hrest e he)
  exact .bind (moves_applyAdditions (fun f s s' _ => hR f s s') ls (hR _) hchecked) fun _ =>
    .bind (moves_onStore (Store.moves_syncAttributes (hR _) c.attributes)) fun _ => .pure _

theorem moves_saveEntity (hR : ∀ f s s', Store.Change settings f s s' → R s s') (ls : Links)
    {e : Entity} (he : e.check settings = .ok ()) : Moves (Goes R) (saveEntity settings ls e) := by
  cases e with
  | event e => exact .bind (moves_saveEvent (fun f s s' _ => hR f s s') ls he) fun _ => .pure _
  | catalogue c => exact .bind (moves_saveCatalogue hR ls he) fun _ => .pure _

end Batch

/-- A save changes the store by the changes of the store. -/
theorem save_changes [Regex.Library] (settings : Settings) (es : List Entity) (w : World) :
    Relation.ReflTransGen (fun s s' => ∃ f, Store.Change settings f s s') w.store
      (left (save settings es w)).store := by
  unfold save
  cases hc : Entity.checkEach settings es with
  | error e => exact .refl
  | ok =>
    have hchecked := Entity.checkEach_eq_ok.1 hc
    have hmoves : Moves (Batch.Goes fun s s' => ∃ f, Store.Change settings f s s')
        (es.forM (Batch.saveEntity settings w.links)) :=
      .forM fun e he => Batch.moves_saveEntity (fun f s s' h => ⟨f, h⟩) w.links (hchecked e he)
    have hbatch := hmoves (.begin w.store)
    simp only [Work.transaction, Batch.saveAll]
    cases hb : es.forM (Batch.saveEntity settings w.links) (.begin w.store) with
    | error e b => exact .refl
    | ok u b =>
      rw [hb] at hbatch
      exact Batch.steps_of_goes hbatch

namespace Store

variable [Regex.Library]

/-- What can be done to a store: entities are saved, whatever their links know, and attributes are set,
removed and brought in line on their own. All of it may fail. -/
inductive Step : Store → Store → Prop
  | save (settings : Settings) (ls : Links) (es : List Entity) (s : Store) :
      Step s (left (Chronicle.save settings es ⟨s, ls⟩)).store
  | setAttribute (settings : Settings) (kind : EntityKind) (owner : RowId) (key : String) (v : Value)
      (s : Store) : Step s (left (setAttribute settings.keyPolicy kind owner key v s))
  | dropAttribute (kind : EntityKind) (owner : RowId) (key : String) (s : Store) :
      Step s (left (dropAttribute kind owner key s))
  | syncAttributes (settings : Settings) (kind : EntityKind) (owner : RowId) (a : Attributes)
      (s : Store) : Step s (left (syncAttributes settings.keyPolicy kind owner a s))

def Reachable (s : Store) : Prop := Relation.ReflTransGen Step empty s

theorem Step.changes {s s' : Store} (h : Step s s') :
    ∃ settings, Relation.ReflTransGen (fun s s' => ∃ f, Change settings f s s') s s' := by
  cases h with
  | save settings ls es => exact ⟨settings, save_changes settings es ⟨s, ls⟩⟩
  | setAttribute settings kind owner key v =>
    exact ⟨settings, moves_setAttribute (fun _ _ h => ⟨_, h⟩) key v s⟩
  | dropAttribute kind owner key =>
    exact ⟨.standard, moves_dropAttribute (fun _ _ h => ⟨_, h⟩) key s⟩
  | syncAttributes settings kind owner a =>
    exact ⟨settings, moves_syncAttributes (fun _ _ h => ⟨_, h⟩) a s⟩

/-- What holds at the start and survives every change holds of every store that can be reached. -/
theorem Reachable.induction {P : Store → Prop} {s : Store} (hs : s.Reachable) (hempty : P empty)
    (hchange : ∀ settings f s s', Change settings f s s' → P s → P s') : P s := by
  induction hs with
  | refl => exact hempty
  | tail _ step ih =>
    obtain ⟨settings, hchanges⟩ := step.changes
    clear step
    induction hchanges with
    | refl => exact ih
    | tail _ change ih =>
      obtain ⟨f, hf⟩ := change
      exact hchange settings f _ _ hf ih

end Store

end Chronicle
