import Chronicle.Proofs.Save.Changes
import Chronicle.Proofs.Store.Frame

/-!
# Keys of stored attributes

A change leaves a table of attributes as it is, empties it, or puts or takes away one attribute. So a store
on which one key policy was used has only keys that this policy accepts.
-/
namespace Chronicle

theorem KeyPolicy.exists_settings (p : KeyPolicy) : ∃ settings : Settings, settings.keyPolicy = p := by
  cases p with
  | strict => exact ⟨.standard, rfl⟩
  | caseInsensitive => exact ⟨{ Settings.standard with caseInsensitiveKeys := true }, rfl⟩

/-- What a change can make of a table of attributes. -/
inductive AttributeTable.Edit (p : KeyPolicy) (t : AttributeTable) : AttributeTable → Prop
  | same : Edit p t t
  | cleared : Edit p t .empty
  | put (key : String) (v : Value) (hv : p.accepts key = true ∧ v.Storable) :
      Edit p t (SortedMap.insert t (.text key) (.ofValue v))
  | removed (key : String) : Edit p t (SortedMap.erase t (.text key))

/-- Whether all keys are texts that a policy accepts. -/
def AttributeTable.Keyed (p : KeyPolicy) (t : AttributeTable) : Prop :=
  ∀ e ∈ t.entries, ∃ key, e.1 = .text key ∧ p.accepts key = true

theorem AttributeTable.Edit.keyed {p : KeyPolicy} {t t' : AttributeTable} (h : Edit p t t')
    (ht : t.Keyed p) : t'.Keyed p := by
  intro e he
  cases h with
  | same => exact ht e he
  | cleared => cases he
  | put key v hv =>
    rcases SortedMap.mem_put he with rfl | he
    · exact ⟨key, rfl, hv.1⟩
    · exact ht e he
  | removed key => exact ht e (List.mem_filter.1 he).1

namespace Store

variable {s s' : Store} {kind kind' : EntityKind} {owner owner' id : RowId}

theorem attributes_withAttributes_of_ne (f : AttributeTable → AttributeTable)
    (h : (kind, owner) ≠ (kind', owner')) :
    (s.withAttributes kind owner f).attributes kind' owner' = s.attributes kind' owner' := by
  have hne (hkind : kind = kind') : owner ≠ owner' := by
    rintro rfl
    exact h (by rw [hkind])
  cases kind with
  | event =>
    cases hrow : s.events.get? owner with
    | none => simp [withAttributes, hrow]
    | some row =>
      cases kind' with
      | event => simp [withAttributes, hrow, attributes, SortedMap.get?_insert_of_ne _ _ (hne rfl)]
      | catalogue => simp [withAttributes, hrow, attributes]
  | catalogue =>
    cases hrow : s.catalogues.get? owner with
    | none => simp [withAttributes, hrow]
    | some row =>
      cases kind' with
      | event => simp [withAttributes, hrow, attributes]
      | catalogue => simp [withAttributes, hrow, attributes, SortedMap.get?_insert_of_ne _ _ (hne rfl)]

theorem edit_withAttributes {p : KeyPolicy} {f : AttributeTable → AttributeTable}
    (hf : ∀ t : AttributeTable, t.Edit p (f t)) (kind kind' : EntityKind) (owner owner' : RowId) :
    (s.attributes kind owner).Edit p ((s.withAttributes kind' owner' f).attributes kind owner) := by
  by_cases h : (kind', owner') = (kind, owner)
  · obtain ⟨rfl, rfl⟩ := Prod.mk.inj h
    cases howner : s.ownerExists kind' owner' with
    | true =>
      rw [attributes_withAttributes howner]
      exact hf _
    | false =>
      rw [withAttributes_of_not_ownerExists howner]
      exact .same
  · rw [attributes_withAttributes_of_ne f h]
    exact .same

/-- A row that was written over another one keeps its attributes, a new one has none. -/
theorem edit_insert {α : Type} {p : KeyPolicy} {rows : SortedMap RowId α} {row : α}
    {attributes : α → AttributeTable} (h : attributes row = .empty ∨
      ∃ old, rows.get? id = some old ∧ attributes row = attributes old) (k : RowId) :
    (((rows.get? k).map attributes).getD .empty).Edit p
      ((((rows.insert id row).get? k).map attributes).getD .empty) := by
  by_cases hk : id = k
  · subst hk
    rw [SortedMap.get?_insert_self, Option.map_some, Option.getD_some]
    rcases h with hempty | ⟨old, hold, hsame⟩
    · rw [hempty]
      exact .cleared
    · rw [hold, hsame]
      exact .same
  · rw [SortedMap.get?_insert_of_ne _ _ hk]
    exact .same

variable [Regex.Library]

theorem Change.edit {settings : Settings} {f : Footprint} (h : Change settings f s s')
    (kind : EntityKind) (owner : RowId) :
    (s.attributes kind owner).Edit settings.keyPolicy (s'.attributes kind owner) := by
  have hevents {id last : RowId} {row : EventRow} (hrow : row.attributes = .empty ∨
      ∃ old, s.events.get? id = some old ∧ row.attributes = old.attributes) :
      (s.attributes kind owner).Edit settings.keyPolicy
        ({ s with events := s.events.insert id row, lastEvent := last : Store }.attributes kind owner) := by
    cases kind with
    | event => exact edit_insert hrow owner
    | catalogue => exact .same
  have hcatalogues {id last : RowId} {row : CatalogueRow} (hrow : row.attributes = .empty ∨
      ∃ old, s.catalogues.get? id = some old ∧ row.attributes = old.attributes) :
      (s.attributes kind owner).Edit settings.keyPolicy
        ({ s with catalogues := s.catalogues.insert id row, lastCatalogue := last : Store }.attributes
          kind owner) := by
    cases kind with
    | event => exact .same
    | catalogue => exact edit_insert hrow owner
  cases h with
  | insertEvent e he h =>
    obtain ⟨-, -, rfl⟩ := insertEvent_eq_ok.1 h
    exact hevents (.inl rfl)
  | updateEvent e he h =>
    rcases updateEvent_eq_ok.1 h with ⟨-, rfl⟩ | ⟨row, hrow, -, rfl⟩
    · exact .same
    · exact hevents (.inr ⟨row, hrow, rfl⟩)
  | insertCatalogue c hc h =>
    obtain ⟨-, rfl⟩ := insertCatalogue_eq_ok.1 h
    exact hcatalogues (.inl rfl)
  | updateCatalogue c hc =>
    exact updateCatalogue_induction .same fun row hrow => hcatalogues (.inr ⟨row, hrow, rfl⟩)
  | addMember event h =>
    obtain ⟨row, hrow, -, -, rfl⟩ := addMember_eq_ok h
    exact hcatalogues (.inr ⟨row, hrow, rfl⟩)
  | removeMember event =>
    exact removeMember_induction .same fun row hrow => hcatalogues (.inr ⟨row, hrow, rfl⟩)
  | putAttribute key v hv h =>
    obtain ⟨-, rfl⟩ := putAttribute_eq_ok.1 h
    exact edit_withAttributes (fun t => .put key v hv) ..
  | removeAttribute key =>
    rw [removeAttribute_snd]
    exact edit_withAttributes (fun t => .removed key) ..

/-- What can be done to a store as long as one key policy is used: entities are saved, whatever their links
know, and attributes are set, removed and brought in line on their own. All of it may fail. -/
inductive StepUnder (p : KeyPolicy) : Store → Store → Prop
  | save (settings : Settings) (hp : settings.keyPolicy = p) (ls : Links) (es : List Entity) (s : Store) :
      StepUnder p s (left (Chronicle.save settings es ⟨s, ls⟩)).store
  | setAttribute (kind : EntityKind) (owner : RowId) (key : String) (v : Value) (s : Store) :
      StepUnder p s (left (setAttribute p kind owner key v s))
  | dropAttribute (kind : EntityKind) (owner : RowId) (key : String) (s : Store) :
      StepUnder p s (left (dropAttribute kind owner key s))
  | syncAttributes (kind : EntityKind) (owner : RowId) (a : Attributes) (s : Store) :
      StepUnder p s (left (syncAttributes p kind owner a s))

def ReachableUnder (p : KeyPolicy) (s : Store) : Prop := Relation.ReflTransGen (StepUnder p) empty s

variable {p : KeyPolicy}

theorem StepUnder.step (h : StepUnder p s s') : Step s s' := by
  obtain ⟨settings, rfl⟩ := p.exists_settings
  cases h with
  | save settings' hp ls es => exact .save settings' ls es s
  | setAttribute kind owner key v => exact .setAttribute settings kind owner key v s
  | dropAttribute kind owner key => exact .dropAttribute kind owner key s
  | syncAttributes kind owner a => exact .syncAttributes settings kind owner a s

theorem ReachableUnder.reachable (h : s.ReachableUnder p) : s.Reachable :=
  Relation.ReflTransGen.mono (fun _ _ hstep => hstep.step) _ _ h

theorem StepUnder.changes (h : StepUnder p s s') : ∃ settings : Settings, settings.keyPolicy = p ∧
    Relation.ReflTransGen (fun s s' => ∃ f, Change settings f s s') s s' := by
  obtain ⟨settings, rfl⟩ := p.exists_settings
  cases h with
  | save settings' hp ls es => exact ⟨settings', hp, save_changes settings' es ⟨s, ls⟩⟩
  | setAttribute kind owner key v =>
    exact ⟨settings, rfl, moves_setAttribute (fun _ _ h => ⟨_, h⟩) key v s⟩
  | dropAttribute kind owner key =>
    exact ⟨settings, rfl, moves_dropAttribute (fun _ _ h => ⟨_, h⟩) key s⟩
  | syncAttributes kind owner a =>
    exact ⟨settings, rfl, moves_syncAttributes (fun _ _ h => ⟨_, h⟩) a s⟩

/-- All keys are accepted by the policy that was used. -/
theorem ReachableUnder.keyed (h : s.ReachableUnder p) (kind : EntityKind) (owner : RowId) :
    (s.attributes kind owner).Keyed p := by
  induction h with
  | refl =>
    intro e he
    cases kind <;> cases he
  | tail _ hstep ih =>
    obtain ⟨settings, rfl, hchanges⟩ := hstep.changes
    clear hstep
    induction hchanges with
    | refl => exact ih
    | tail _ hchange ih =>
      obtain ⟨f, hf⟩ := hchange
      exact (hf.edit kind owner).keyed ih

end Store

end Chronicle
