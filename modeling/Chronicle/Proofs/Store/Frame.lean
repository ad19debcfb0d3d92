import Chronicle.Proofs.Store.Change
import Chronicle.Proofs.Store.Operations
import Chronicle.Proofs.Store.Sync

/-!
# What changes leave alone

A change touches its own part of the store. Members and predicates of all other catalogues stay as they
are, also when a row is inserted, because ids are never handed out twice.
-/
namespace Chronicle.Store

theorem lt_succ {id : RowId} (h : id < Int64.maxValue) : id < id + 1 := by
  have hmax := Int64.toInt_maxValue
  have hlow := Int64.le_toInt id
  have hone : (1 : Int64).toInt = 1 := rfl
  rw [Int64.lt_iff_toInt_lt] at h ⊢
  rw [Int64.toInt_add, hone, Int.bmod_eq_of_le] <;> omega

theorem le_greatestId {α : Type} (last : RowId) {id : RowId} {rows : SortedMap RowId α} {row : α}
    (h : (id, row) ∈ rows.entries) : id ≤ greatestId last rows := by
  have hmax (a b : RowId) : a ≤ max a b := by
    change a ≤ if a ≤ b then b else a
    split
    · assumption
    · exact Int64.le_refl a
  unfold greatestId
  cases hlast : rows.last? with
  | none =>
    have hnil : rows.entries = [] := List.getLast?_eq_none_iff.1 hlast
    rw [hnil] at h
    cases h
  | some e =>
    rcases SortedMap.eq_last_or_lt_of_mem hlast h with heq | hlt
    · subst heq
      exact hmax id last
    · have hle : id ≤ e.1 := Int64.le_of_lt (compareOfLessAndEq_eq_lt.1 hlt)
      exact Int64.le_trans hle (hmax e.1 last)

/-- The next id is not in use. -/
theorem get?_eq_none_of_nextId {α : Type} {last id : RowId} {rows : SortedMap RowId α}
    (h : nextId last rows = .ok id) : rows.get? id = none := by
  obtain ⟨hlt, rfl⟩ := nextId_eq_ok.1 h
  rw [SortedMap.get?_eq_none_iff]
  intro hmem
  obtain ⟨⟨key, row⟩, he, hkey⟩ := List.mem_map.1 hmem
  have hle := le_greatestId last he
  dsimp only at hkey
  rw [hkey] at hle
  exact absurd (lt_succ hlt) (Int64.not_lt.2 hle)

/-- The members of a catalogue; a catalogue that does not exist has none. -/
def members (s : Store) (id : RowId) : SortedMap RowId Unit :=
  ((s.catalogues.get? id).map CatalogueRow.members).getD .empty

/-- The cell for the predicate of a catalogue that exists. -/
def predicateCell? (s : Store) (id : RowId) : Option Cell :=
  (s.catalogues.get? id).map CatalogueRow.predicate

/-- The row of a catalogue that exists, but for its members. -/
def content? (s : Store) (id : RowId) : Option CatalogueRow :=
  (s.catalogues.get? id).map fun row => { row with members := .empty }

variable {settings : Settings} {f : Footprint} {s s' : Store} {id : RowId}

/-- What is the same in a row and in the row that takes its place is the same in all rows. -/
theorem map_get?_insert {α β : Type} {rows : SortedMap RowId α} {id' : RowId} {row : α}
    (h : rows.get? id' = some row) (g : α → β) {row' : α} (hg : g row' = g row) :
    ((rows.insert id' row').get? id).map g = (rows.get? id).map g := by
  by_cases hid : id' = id
  · subst hid
    rw [SortedMap.get?_insert_self, h, Option.map_some, Option.map_some, hg]
  · rw [SortedMap.get?_insert_of_ne _ _ hid]

theorem get?_withAttributes_of_ne (kind : EntityKind) (owner : RowId) (k : AttributeTable → AttributeTable)
    (h : Footprint.attributes kind owner ≠ .attributes .catalogue id) :
    (s.withAttributes kind owner k).catalogues.get? id = s.catalogues.get? id := by
  refine withAttributes_induction rfl (fun _ _ _ => rfl) ?_
  rintro row rfl -
  exact SortedMap.get?_insert_of_ne _ _ fun heq => h (congrArg (Footprint.attributes .catalogue) heq)

theorem map_get?_withAttributes {β : Type} (kind : EntityKind) (owner : RowId)
    (k : AttributeTable → AttributeTable) (g : CatalogueRow → β)
    (hg : Footprint.attributes kind owner = .attributes .catalogue id →
      ∀ row t, g { row with attributes := t } = g row) :
    ((s.withAttributes kind owner k).catalogues.get? id).map g = (s.catalogues.get? id).map g := by
  by_cases h : Footprint.attributes kind owner = .attributes .catalogue id
  · cases h
    unfold withAttributes
    cases hrow : s.catalogues.get? id with
    | none => rw [hrow]
    | some row => rw [map_get?_insert hrow g (hg rfl row _), hrow]
  · rw [get?_withAttributes_of_ne kind owner k h]

/-- What does not depend on the parts that a change touches is the same afterwards, as long as the row is
not written as a whole. -/
theorem Change.map_get?_eq [Regex.Library] {β : Type} (h : Change settings f s s') (hf : f ≠ .catalogue id)
    (g : CatalogueRow → β)
    (hmembers : f = .members id → ∀ row m, g { row with members := m } = g row)
    (hattributes : f = .attributes .catalogue id → ∀ row t, g { row with attributes := t } = g row) :
    (s'.catalogues.get? id).map g = (s.catalogues.get? id).map g := by
  have hmember {catalogue : RowId} {row : CatalogueRow} {m : SortedMap RowId Unit}
      (hrow : s.catalogues.get? catalogue = some row)
      (hg : Footprint.members catalogue = .members id → ∀ row m, g { row with members := m } = g row) :
      ((s.catalogues.insert catalogue { row with members := m }).get? id).map g =
        (s.catalogues.get? id).map g := by
    by_cases hid : catalogue = id
    · exact map_get?_insert hrow g (hg (congrArg _ hid) row m)
    · rw [SortedMap.get?_insert_of_ne _ _ hid]
  cases h with
  | insertEvent e he h =>
    obtain ⟨-, -, rfl⟩ := insertEvent_eq_ok.1 h
    rfl
  | updateEvent e he h =>
    rcases updateEvent_eq_ok.1 h with ⟨-, rfl⟩ | ⟨row, -, -, rfl⟩
    · rfl
    · rfl
  | insertCatalogue c hc h =>
    obtain ⟨-, rfl⟩ := insertCatalogue_eq_ok.1 h
    rw [SortedMap.get?_insert_of_ne _ _ fun heq => hf (congrArg Footprint.catalogue heq)]
  | updateCatalogue c hc =>
    refine updateCatalogue_induction rfl fun row _ => ?_
    rw [SortedMap.get?_insert_of_ne _ _ fun heq => hf (congrArg Footprint.catalogue heq)]
  | @addMember _ _ _ catalogue event h =>
    obtain ⟨row, hrow, -, -, rfl⟩ := addMember_eq_ok h
    exact hmember hrow hmembers
  | removeMember event => exact removeMember_induction rfl fun row hrow => hmember hrow hmembers
  | putAttribute key v hv h =>
    obtain ⟨-, rfl⟩ := putAttribute_eq_ok.1 h
    exact map_get?_withAttributes _ _ _ g hattributes
  | removeAttribute key =>
    rw [removeAttribute_snd]
    exact map_get?_withAttributes _ _ _ g hattributes

/-- Whether a change leaves a catalogue alone. -/
def Footprint.Spares (id : RowId) (f : Footprint) : Prop :=
  f ≠ .catalogue id ∧ f ≠ .members id ∧ f ≠ .attributes .catalogue id

theorem Footprint.OfEvents.spares (hf : f.OfEvents) (id : RowId) : f.Spares id := by
  refine ⟨?_, ?_, ?_⟩ <;>
    · rintro rfl
      cases hf

theorem Change.get?_eq [Regex.Library] (h : Change settings f s s') (hf : f.Spares id) :
    s'.catalogues.get? id = s.catalogues.get? id := by
  obtain ⟨hcatalogue, hmembers, hattributes⟩ := hf
  have hmap := h.map_get?_eq hcatalogue (fun row => row) (fun heq => absurd heq hmembers)
    fun heq => absurd heq hattributes
  rwa [Option.map_id', Option.map_id'] at hmap

theorem Change.predicateCell?_eq [Regex.Library] (h : Change settings f s s') (hf : f ≠ .catalogue id) :
    s'.predicateCell? id = s.predicateCell? id :=
  h.map_get?_eq hf CatalogueRow.predicate (fun _ _ _ => rfl) fun _ _ _ => rfl

theorem Change.content?_eq [Regex.Library] (h : Change settings f s s') (hf : f ≠ .catalogue id)
    (hattributes : f ≠ .attributes .catalogue id) : s'.content? id = s.content? id :=
  h.map_get?_eq hf _ (fun _ _ _ => rfl) fun heq => absurd heq hattributes

/-- A row that is inserted has no members, like a row that is not there. -/
theorem Change.members_eq [Regex.Library] (h : Change settings f s s') (hf : f ≠ .members id) :
    s'.members id = s.members id := by
  by_cases hcatalogue : f = .catalogue id
  · unfold members
    cases h with
    | insertCatalogue c hc h =>
      cases hcatalogue
      obtain ⟨hid, rfl⟩ := insertCatalogue_eq_ok.1 h
      rw [SortedMap.get?_insert_self, get?_eq_none_of_nextId hid]
      rfl
    | updateCatalogue c hc =>
      cases hcatalogue
      cases hrow : s.catalogues.get? id with
      | none => rw [updateCatalogue_of_get?_eq_none hrow, hrow]
      | some row =>
        rw [updateCatalogue_of_get? hrow, SortedMap.get?_insert_self]
        rfl
    | _ => cases hcatalogue
  · exact congrArg (Option.getD · .empty)
      (h.map_get?_eq hcatalogue CatalogueRow.members (fun heq => absurd heq hf) fun _ _ _ => rfl)

/-- Whether at most the row of a catalogue is written, and only if it is there. -/
def Rewrites (id : RowId) (s s' : Store) : Prop :=
  s' = s ∨ ∃ row, s' = { s with catalogues := s.catalogues.insert id row }

theorem rewrites_updateCatalogue (c : CatalogueCells) : Rewrites id s (s.updateCatalogue id c) :=
  updateCatalogue_induction (.inl rfl) fun _ _ => .inr ⟨_, rfl⟩

theorem rewrites_removeMember (event : RowId) : Rewrites id s (s.removeMember id event).2 :=
  removeMember_induction (.inl rfl) fun _ _ => .inr ⟨_, rfl⟩

theorem rewrites_withTable (t : AttributeTable) : Rewrites id s (s.withTable .catalogue id t) := by
  unfold withTable
  exact withAttributes_induction (.inl rfl) nofun fun _ _ _ => .inr ⟨_, rfl⟩

theorem Rewrites.events_eq (h : Rewrites id s s') : s'.events = s.events := by
  rcases h with rfl | ⟨row, rfl⟩ <;> rfl

theorem Rewrites.contains (h : Rewrites id s s') {k : RowId} (hk : s.catalogues.contains k = true) :
    s'.catalogues.contains k = true := by
  rcases h with rfl | ⟨row, rfl⟩
  · exact hk
  · exact SortedMap.contains_insert.2 (.inr hk)

end Chronicle.Store
