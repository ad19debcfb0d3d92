import Chronicle.Proofs.Save.Steps

/-!
# What can stop a batch that passed its checks

A uuid that is taken, a reference to a row that does not exist, ids that have run out, and stored
attributes that cannot be read: nothing else stops the writing of entities once they are checked.
-/
namespace Chronicle

section Loops

variable {ε σ α : Type}

theorem forM_eq_error {f : α → EStateM ε σ PUnit} {l : List α} {s s' : σ} {e : ε}
    (h : l.forM f s = .error e s') : ∃ before a after s₁, l = before ++ a :: after ∧
      before.forM f s = .ok () s₁ ∧ f a s₁ = .error e s' := by
  induction l generalizing s with
  | nil => exact absurd h pure_ne_error
  | cons a l ih =>
    rcases bind_eq_error.1 (show (f a >>= fun _ => l.forM f) s = .error e s' from h) with
      ha | ⟨_, s₁, ha, hl⟩
    · exact ⟨[], a, l, s, rfl, rfl, ha⟩
    · obtain ⟨before, x, after, s₂, rfl, hbefore, hx⟩ := ih hl
      exact ⟨a :: before, x, after, s₂, rfl, bind_eq_ok.2 ⟨_, s₁, ha, hbefore⟩, hx⟩

end Loops

/-- The errors that a store can answer with to entities that may be saved. -/
inductive Store.Refuses (s : Store) : Error → Prop
  | uuidTaken (uuid : String) (h : Store.hasUuid s.events (.text uuid) = true) :
      Refuses s (.store Store.uuidTaken)
  | missingReference : Refuses s (.store .missingReference)
  | idsExhausted : Refuses s (.store .idsExhausted)
  | unreadable (kind : EntityKind) (owner : RowId) (err : Error)
      (h : s.loadAttributes kind owner = .error err) : Refuses s err

namespace Store

theorem nextId_eq_error {α : Type} {last : RowId} {rows : SortedMap RowId α} {fault : StoreFault}
    (h : nextId last rows = .error fault) : fault = .idsExhausted := by
  unfold nextId at h
  split at h
  · cases h
  · cases h
    rfl

theorem hasUuid_of_erase {rows : SortedMap RowId EventRow} {id : RowId} {uuid : StoredText}
    (h : hasUuid (rows.erase id) uuid = true) : hasUuid rows uuid = true := by
  obtain ⟨e, he, hu⟩ := List.any_eq_true.1 h
  exact List.any_eq_true.2 ⟨e, (List.mem_filter.1 he).1, hu⟩

theorem insertEvent_eq_error {s : Store} {c : EventCells} {fault : StoreFault}
    (h : s.insertEvent c = .error fault) : s.Refuses (.store fault) := by
  rcases except_bind_eq_error.1 h with h | ⟨id, -, h⟩
  · rw [nextId_eq_error h]
    exact .idsExhausted
  · split at h
    case isTrue hu =>
      cases h
      exact .uuidTaken _ hu
    case isFalse => cases h

theorem updateEvent_eq_error {s : Store} {id : RowId} {c : EventCells} {fault : StoreFault}
    (h : s.updateEvent id c = .error fault) : s.Refuses (.store fault) := by
  unfold updateEvent at h
  split at h
  · cases h
  · split at h
    case isTrue hu =>
      cases h
      exact .uuidTaken _ (hasUuid_of_erase hu)
    case isFalse => cases h

theorem insertCatalogue_eq_error {s : Store} {c : CatalogueCells} {fault : StoreFault}
    (h : s.insertCatalogue c = .error fault) : s.Refuses (.store fault) := by
  rcases except_bind_eq_error.1 h with h | ⟨id, -, h⟩
  · rw [nextId_eq_error h]
    exact .idsExhausted
  · cases h

theorem addMember_eq_error {s : Store} {catalogue event : RowId} {fault : StoreFault}
    (h : s.addMember catalogue event = .error fault) : s.Refuses (.store fault) := by
  unfold addMember at h
  split at h
  · cases h
    exact .missingReference
  · split at h
    · cases h
    · split at h
      · cases h
      · cases h
        exact .missingReference

theorem putAttribute_eq_error {s : Store} {kind : EntityKind} {owner : RowId} {key : String}
    {row : AttributeRow} {fault : StoreFault} (h : s.putAttribute kind owner key row = .error fault) :
    s.Refuses (.store fault) := by
  unfold putAttribute at h
  split at h
  · cases h
  · cases h
    exact .missingReference

theorem failsOnly_change {α : Type} {f : Store → Except StoreFault (α × Store)}
    (h : ∀ s fault, f s = .error fault → s.Refuses (.store fault)) :
    FailsOnly Store.Refuses (Work.change f) := by
  intro s e s' hs
  obtain ⟨fault, hf, rfl, rfl⟩ := Work.change_eq_error.1 hs
  exact h s' fault hf

theorem failsOnly_setAttribute {p : KeyPolicy} {kind : EntityKind} {owner : RowId} {key : String}
    {v : Value} (h : p.checkAttribute key v = .ok ()) :
    FailsOnly Store.Refuses (setAttribute p kind owner key v) := by
  refine .bind (fun s e s' hs => ?_) fun _ => failsOnly_change fun s fault hf => ?_
  · obtain ⟨he, -⟩ := Work.check_eq_error.1 hs
    rw [h] at he
    cases he
  · cases hp : s.putAttribute kind owner key (.ofValue v) with
    | ok s' => rw [hp] at hf; cases hf
    | error fault' =>
      rw [hp] at hf
      cases hf
      exact putAttribute_eq_error hp

theorem failsOnly_dropAttribute {kind : EntityKind} {owner : RowId} {key : String} :
    FailsOnly Store.Refuses (dropAttribute kind owner key) :=
  failsOnly_change fun _ _ h => nomatch h

/-- Attributes that were checked are refused only for a missing owner, or because those that are
stored cannot be read. -/
theorem failsOnly_syncAttributes {p : KeyPolicy} {kind : EntityKind} {owner : RowId}
    {attributes : Attributes} (h : p.Admits attributes) :
    FailsOnly Store.Refuses (syncAttributes p kind owner attributes) := by
  refine .bind (fun s e s' hs => ?_) fun _ => .bind (fun s e s' hs => ?_) fun stored =>
    .bind (.forM fun key _ => .bind failsOnly_dropAttribute fun _ => .pure _) fun _ =>
      .forM fun (key, v) he => ?_
  · obtain ⟨he, -⟩ := Work.check_eq_error.1 hs
    rw [KeyPolicy.checkAttributes_eq_ok.2 h] at he
    cases he
  · obtain ⟨he, rfl⟩ := Work.look_eq_error.1 hs
    exact .unreadable kind owner e he
  · dsimp only
    split
    · exact .pure _
    · exact failsOnly_setAttribute (KeyPolicy.checkAttribute_eq_ok.2 (h (key, v) he))

end Store

namespace Batch

/-- The errors of the store that a batch works on. -/
def Refuses (b : Batch) (e : Error) : Prop := b.store.Refuses e

theorem failsOnly_onStore {α : Type} {w : Work α} (h : FailsOnly Store.Refuses w) :
    FailsOnly Refuses (onStore w) := by
  intro b e b' hb
  obtain ⟨s, hs, rfl⟩ := onStore_eq_error.1 hb
  exact h b.store e s hs

theorem failsOnly_writeEvent (ls : Links) (e : Event) : FailsOnly Refuses (writeEvent ls e) := by
  refine .get_bind fun b => ?_
  split
  · refine .bind (failsOnly_onStore (Store.failsOnly_change fun s fault hf => ?_)) fun _ => .pure _
    cases hu : s.updateEvent _ e.cells with
    | ok s' => rw [hu] at hf; cases hf
    | error fault' =>
      rw [hu] at hf
      cases hf
      exact Store.updateEvent_eq_error hu
  · exact .bind (failsOnly_onStore (Store.failsOnly_change fun s fault => Store.insertEvent_eq_error))
      fun _ => .bind (.of_modify _) fun _ => .pure _

theorem failsOnly_note (l : Link) (id : RowId) : FailsOnly Refuses (note l id) := .of_modify _

variable {settings : Settings}

theorem failsOnly_saveEvent (ls : Links) {e : Event} (h : e.check settings = .ok ()) :
    FailsOnly Refuses (saveEvent settings ls e) := by
  refine .bind (failsOnly_writeEvent ls e) fun id => .bind ?_ fun _ =>
    .bind (failsOnly_onStore (Store.failsOnly_syncAttributes (Event.check_eq_ok.1 h).1)) fun _ => .pure _
  unfold noteNew
  split
  · exact failsOnly_note _ _
  · exact .pure _

theorem failsOnly_additionRow (ls : Links) {e : Event} (h : e.check settings = .ok ()) :
    FailsOnly Refuses (additionRow settings ls e) := by
  refine .get_bind fun b => ?_
  split
  · exact .pure _
  · exact failsOnly_saveEvent ls h

theorem failsOnly_writeCatalogue (ls : Links) (c : Catalogue) :
    FailsOnly Refuses (writeCatalogue ls c) := by
  refine .get_bind fun b => ?_
  split
  · exact .bind (failsOnly_onStore (Store.failsOnly_change fun _ _ h => nomatch h)) fun _ => .pure _
  · exact .bind
      (failsOnly_onStore (Store.failsOnly_change fun s fault => Store.insertCatalogue_eq_error))
      fun _ => .bind (.of_modify _) fun _ => .bind (failsOnly_note _ _) fun _ => .pure _

theorem failsOnly_applyRemovals (ls : Links) (id : RowId) (es additions : List Event) :
    FailsOnly Refuses (applyRemovals ls id es additions) := by
  induction es generalizing additions with
  | nil => exact .pure _
  | cons e es ih =>
    refine .get_bind fun b => ?_
    split
    · exact .bind (failsOnly_onStore (Store.failsOnly_change fun _ _ h => nomatch h)) fun _ => ih _
    · exact ih _

theorem failsOnly_applyAdditions (ls : Links) (id : RowId) {es : List Event}
    (h : ∀ e ∈ es, e.check settings = .ok ()) :
    FailsOnly Refuses (applyAdditions settings ls id es) := by
  induction es with
  | nil => exact .pure _
  | cons e es ih =>
    exact .bind (failsOnly_additionRow ls (h e List.mem_cons_self)) fun event =>
      .bind (failsOnly_onStore (Store.failsOnly_change fun s fault => Store.addMember_eq_error))
        fun _ => ih fun x hx => h x (List.mem_cons_of_mem _ hx)

theorem failsOnly_saveCatalogue [Regex.Library] (ls : Links) {c : Catalogue} (h : c.check settings = .ok ()) :
    FailsOnly Refuses (saveCatalogue settings ls c) := by
  obtain ⟨hattributes, -, hadditions⟩ := Catalogue.check_eq_ok.1 h
  refine .bind (failsOnly_writeCatalogue ls c) fun id =>
    .bind_of_ok (failsOnly_applyRemovals ls id c.removals c.additions) fun rest b b' hrest =>
      .bind (failsOnly_applyAdditions ls id fun e he => hadditions e (applyRemovals_subset hrest e he))
        fun _ => .bind (failsOnly_onStore (Store.failsOnly_syncAttributes hattributes)) fun _ => .pure _

theorem failsOnly_saveEntity [Regex.Library] (ls : Links) {e : Entity} (h : e.check settings = .ok ()) :
    FailsOnly Refuses (saveEntity settings ls e) := by
  cases e with
  | event e => exact .bind (failsOnly_saveEvent ls h) fun _ => .pure _
  | catalogue c => exact .bind (failsOnly_saveCatalogue ls h) fun _ => .pure _

end Batch

end Chronicle
