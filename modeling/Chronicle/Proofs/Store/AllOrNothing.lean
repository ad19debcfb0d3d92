import Chronicle.Regex.Standard
import Chronicle.Proofs.Save.Reconciled
import Chronicle.Proofs.Store.Keys
import Chronicle.Proofs.Store.Readable

/-!
# Attributes are brought in line as a whole or not at all

Bringing the attributes of an owner in line takes rows away and puts rows one by one, with nothing that would
take them back. All that can fail comes before the first row: the checks of the new attributes and the
reading of the stored ones. Without an owner nothing is read, so there is nothing to take away, and the first
row that is put is refused. None of this depends on how the stored rows came about.
-/
namespace Chronicle.Store

variable {s s' : Store} {p : KeyPolicy} {kind : EntityKind} {owner : RowId} {a b : Attributes} {e : Error}

/-- Why attributes cannot be brought in line. What is refused comes before what cannot be read, and a missing
owner is only found where there is something to put. -/
inductive SyncFault (p : KeyPolicy) (kind : EntityKind) (owner : RowId) (a : Attributes) (s : Store) :
    Error → Prop
  | refused {e : Error} (h : p.checkAttributes a = .error e) : SyncFault p kind owner a s e
  | unreadable {e : Error} (ha : p.Admits a) (h : s.loadAttributes kind owner = .error e) :
      SyncFault p kind owner a s e
  | ownerless (ha : p.Admits a) (howner : s.ownerExists kind owner = false) (hne : a ≠ .empty) :
      SyncFault p kind owner a s (.store .missingReference)

theorem loadAttributes_of_not_ownerExists (h : s.ownerExists kind owner = false) :
    s.loadAttributes kind owner = .ok .empty := by
  rw [loadAttributes, attributes_of_not_ownerExists h]
  rfl

theorem setAttribute_of_not_ownerExists {key : String} {v : Value} (hv : p.accepts key = true ∧ v.Storable)
    (h : s.ownerExists kind owner = false) :
    setAttribute p kind owner key v s = .error (.store .missingReference) s := by
  have hcheck : Work.check (p.checkAttribute key v) s = .ok () s :=
    Work.check_eq_ok.2 ⟨KeyPolicy.checkAttribute_eq_ok.2 hv, rfl⟩
  refine bind_eq_error.2 (.inr ⟨(), s, hcheck, ?_⟩)
  refine Work.change_eq_error.2 ⟨.missingReference, ?_, rfl, rfl⟩
  rw [putAttribute, if_neg (by simp [h])]
  rfl

/-- Nothing is stored, so nothing is dropped and the first attribute of all is the first to be put. -/
theorem syncAttributes_ownerless (ha : p.Admits a) (h : s.ownerExists kind owner = false)
    (hne : a ≠ .empty) : syncAttributes p kind owner a s = .error (.store .missingReference) s := by
  have hcheck : Work.check (p.checkAttributes a) s = .ok () s :=
    Work.check_eq_ok.2 ⟨KeyPolicy.checkAttributes_eq_ok.2 ha, rfl⟩
  have hload := loadAttributes_of_not_ownerExists h
  refine bind_eq_error.2 (.inr ⟨(), s, hcheck, ?_⟩)
  refine bind_eq_error.2 (.inr ⟨.empty, s, Work.look_eq_ok.2 ⟨hload, rfl⟩, ?_⟩)
  refine bind_eq_error.2 (.inr ⟨(), s, rfl, ?_⟩)
  cases hentries : a.entries with
  | nil =>
    refine absurd (SortedMap.ext_get? fun key => ?_) hne
    simp [SortedMap.get?, hentries, SortedMap.empty]
  | cons x l =>
    obtain ⟨key, v⟩ := x
    have hv : p.accepts key = true ∧ v.Storable := ha (key, v) (by simp [hentries])
    exact bind_eq_error.2 (.inl (setAttribute_of_not_ownerExists hv h))

/-- Whatever the fault is, no row has been touched when it is found. -/
theorem SyncFault.syncAttributes_eq (h : SyncFault p kind owner a s e) :
    syncAttributes p kind owner a s = .error e s := by
  cases h with
  | refused h => exact bind_eq_error.2 (.inl (Work.check_eq_error.2 ⟨h, rfl⟩))
  | unreadable ha h =>
    have hcheck : Work.check (p.checkAttributes a) s = .ok () s :=
      Work.check_eq_ok.2 ⟨KeyPolicy.checkAttributes_eq_ok.2 ha, rfl⟩
    exact bind_eq_error.2 (.inr ⟨(), s, hcheck, bind_eq_error.2 (.inl (Work.look_eq_error.2 ⟨h, rfl⟩))⟩)
  | ownerless ha howner hne => exact syncAttributes_ownerless ha howner hne

theorem syncFault_or_reads (p : KeyPolicy) (kind : EntityKind) (owner : RowId) (a : Attributes) (s : Store) :
    (∃ e, SyncFault p kind owner a s e) ∨
    ∃ t b, syncAttributes p kind owner a s = .ok () (s.withTable kind owner t) ∧
      (s.withTable kind owner t).loadAttributes kind owner = .ok b ∧ a.agrees b = true := by
  cases hcheck : p.checkAttributes a with
  | error e => exact .inl ⟨e, .refused hcheck⟩
  | ok =>
    have ha := KeyPolicy.checkAttributes_eq_ok.1 hcheck
    cases hload : s.loadAttributes kind owner with
    | error e => exact .inl ⟨e, .unreadable ha hload⟩
    | ok b =>
      cases howner : s.ownerExists kind owner with
      | true =>
        obtain ⟨t, b', hrun, ht, hagree⟩ := syncAttributes_reads howner ha (AttributeTable.read_eq_ok.1 hload)
        refine .inr ⟨t, b', hrun, ?_, Attributes.agrees_iff.2 hagree⟩
        rw [loadAttributes, withTable, attributes_withAttributes howner]
        exact AttributeTable.read_eq_ok.2 ht
      | false =>
        by_cases hne : a = .empty
        · subst hne
          have hempty := attributes_of_not_ownerExists howner
          have hrun := (syncAttributes_eq_ok Attributes.storable_empty hempty).2 ⟨ha, .inr rfl, rfl⟩
          refine .inr ⟨_, .empty, hrun, ?_, rfl⟩
          rw [withTable, withAttributes_of_not_ownerExists howner, loadAttributes_of_not_ownerExists howner]
        · exact .inl ⟨_, .ownerless ha howner hne⟩

end Chronicle.Store
