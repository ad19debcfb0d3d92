import Chronicle.Proofs.Work
import Chronicle.SortedMap.Lookup

/-!
# What the operations of the store come to

When an operation of the store succeeds, the rows that it met and the store that it leaves are known.
-/
namespace Chronicle.Store

variable {s s' : Store} {id : RowId}

theorem nextId_eq_ok {α : Type} {last : RowId} {rows : SortedMap RowId α} :
    nextId last rows = .ok id ↔
      greatestId last rows < Int64.maxValue ∧ id = greatestId last rows + 1 := by
  unfold nextId
  split <;> simp_all [eq_comm]

theorem insertEvent_eq_ok {c : EventCells} : s.insertEvent c = .ok (id, s') ↔
    nextId s.lastEvent s.events = .ok id ∧ hasUuid s.events (.text c.uuid) = false ∧
      s' = { s with events := s.events.insert id (c.over .empty), lastEvent := id } := by
  unfold insertEvent
  rw [except_bind_eq_ok]
  constructor
  · rintro ⟨id', hid, h⟩
    split at h
    · cases h
    case isFalse hu =>
      cases h
      exact ⟨hid, by simpa using hu, rfl⟩
  · rintro ⟨hid, hu, rfl⟩
    exact ⟨id, hid, by rw [if_neg (by simp [hu])]⟩

/-- An event that does not exist is not updated. -/
theorem updateEvent_eq_ok {c : EventCells} : s.updateEvent id c = .ok s' ↔
    (s.events.get? id = none ∧ s' = s) ∨
      ∃ row, s.events.get? id = some row ∧ hasUuid (s.events.erase id) (.text c.uuid) = false ∧
        s' = { s with events := s.events.insert id (c.over row.attributes) } := by
  unfold updateEvent
  cases s.events.get? id with
  | none =>
    constructor
    · rintro h
      cases h
      exact .inl ⟨rfl, rfl⟩
    · rintro (⟨-, rfl⟩ | ⟨row, hrow, -⟩)
      · rfl
      · cases hrow
  | some row =>
    cases hu : hasUuid (s.events.erase id) (.text c.uuid) with
    | true => simp
    | false =>
      constructor
      · rintro h
        cases h
        exact .inr ⟨row, rfl, rfl, rfl⟩
      · rintro (⟨hrow, -⟩ | ⟨row', hrow, -, rfl⟩)
        · cases hrow
        · cases hrow
          rfl

theorem insertCatalogue_eq_ok {c : CatalogueCells} : s.insertCatalogue c = .ok (id, s') ↔
    nextId s.lastCatalogue s.catalogues = .ok id ∧
      s' = { s with
        catalogues := s.catalogues.insert id (c.over .empty .empty), lastCatalogue := id } := by
  unfold insertCatalogue
  rw [except_bind_eq_ok]
  constructor
  · rintro ⟨id', hid, h⟩
    cases h
    exact ⟨hid, rfl⟩
  · rintro ⟨hid, rfl⟩
    exact ⟨id, hid, rfl⟩

theorem updateCatalogue_of_get? {c : CatalogueCells} {row : CatalogueRow}
    (h : s.catalogues.get? id = some row) : s.updateCatalogue id c =
      { s with catalogues := s.catalogues.insert id (c.over row.attributes row.members) } := by
  simp [updateCatalogue, h]

theorem updateCatalogue_of_get?_eq_none {c : CatalogueCells} (h : s.catalogues.get? id = none) :
    s.updateCatalogue id c = s := by
  simp [updateCatalogue, h]

/-- A catalogue that does not exist is not updated, and one that does is overwritten. -/
@[elab_as_elim]
theorem updateCatalogue_induction {motive : Store → Prop} {c : CatalogueCells} (absent : motive s)
    (present : ∀ row, s.catalogues.get? id = some row → motive
      { s with catalogues := s.catalogues.insert id (c.over row.attributes row.members) }) :
    motive (s.updateCatalogue id c) := by
  cases hrow : s.catalogues.get? id with
  | none => rwa [updateCatalogue_of_get?_eq_none hrow]
  | some row =>
    rw [updateCatalogue_of_get? hrow]
    exact present row hrow

/-- An event that is a member already is put where it is. -/
theorem addMember_eq_ok {catalogue event : RowId} {new : Bool}
    (h : s.addMember catalogue event = .ok (new, s')) :
    ∃ row, s.catalogues.get? catalogue = some row ∧ new = !row.members.contains event ∧
      (row.members.contains event = true ∨ s.events.contains event = true) ∧
      s' = { s with catalogues :=
        s.catalogues.insert catalogue { row with members := row.members.insert event () } } := by
  unfold addMember at h
  cases hrow : s.catalogues.get? catalogue with
  | none =>
    rw [hrow] at h
    cases h
  | some row =>
    rw [hrow] at h
    dsimp only at h
    split at h
    case isTrue hmember =>
      cases h
      obtain ⟨u, hu⟩ := Option.isSome_iff_exists.1 hmember
      refine ⟨row, rfl, by simp [hmember], .inl hmember, ?_⟩
      rw [SortedMap.insert_of_get?_eq_some hu, SortedMap.insert_of_get?_eq_some hrow]
    case isFalse hmember =>
      split at h
      case isTrue hevent =>
        cases h
        exact ⟨row, rfl, by simp [hmember], .inr hevent, rfl⟩
      case isFalse => cases h

/-- An event that is no member is taken from where it is not. -/
theorem removeMember_snd {catalogue event : RowId} {row : CatalogueRow}
    (h : s.catalogues.get? catalogue = some row) : (s.removeMember catalogue event).2 =
      { s with catalogues :=
        s.catalogues.insert catalogue { row with members := row.members.erase event } } := by
  unfold removeMember
  rw [h]
  dsimp only
  split
  · rfl
  case isFalse hmember =>
    have hnone : row.members.get? event = none := by simpa [SortedMap.contains] using hmember
    rw [SortedMap.erase_of_get?_eq_none hnone, SortedMap.insert_of_get?_eq_some h]

theorem removeMember_snd_of_get?_eq_none {catalogue event : RowId}
    (h : s.catalogues.get? catalogue = none) : (s.removeMember catalogue event).2 = s := by
  simp [removeMember, h]

@[elab_as_elim]
theorem removeMember_induction {motive : Store → Prop} {catalogue event : RowId} (absent : motive s)
    (present : ∀ row, s.catalogues.get? catalogue = some row → motive
      { s with catalogues :=
        s.catalogues.insert catalogue { row with members := row.members.erase event } }) :
    motive (s.removeMember catalogue event).2 := by
  cases hrow : s.catalogues.get? catalogue with
  | none => rwa [removeMember_snd_of_get?_eq_none hrow]
  | some row =>
    rw [removeMember_snd hrow]
    exact present row hrow

/-- The attributes of an owner that does not exist are not changed. -/
@[elab_as_elim]
theorem withAttributes_induction {motive : Store → Prop} {kind : EntityKind} {owner : RowId}
    {f : AttributeTable → AttributeTable} (absent : motive s)
    (event : ∀ row, kind = .event → s.events.get? owner = some row → motive
      { s with events := s.events.insert owner { row with attributes := f row.attributes } })
    (catalogue : ∀ row, kind = .catalogue → s.catalogues.get? owner = some row → motive
      { s with catalogues := s.catalogues.insert owner { row with attributes := f row.attributes } }) :
    motive (s.withAttributes kind owner f) := by
  cases kind with
  | event =>
    unfold withAttributes
    cases hrow : s.events.get? owner with
    | none => exact absent
    | some row => exact event row rfl hrow
  | catalogue =>
    unfold withAttributes
    cases hrow : s.catalogues.get? owner with
    | none => exact absent
    | some row => exact catalogue row rfl hrow

theorem putAttribute_eq_ok {kind : EntityKind} {owner : RowId} {key : String} {row : AttributeRow} :
    s.putAttribute kind owner key row = .ok s' ↔
      s.ownerExists kind owner = true ∧ s' = s.withAttributes kind owner (·.insert (.text key) row) := by
  unfold putAttribute
  cases s.ownerExists kind owner with
  | true =>
    constructor
    · rintro h
      cases h
      exact ⟨rfl, rfl⟩
    · rintro ⟨-, rfl⟩
      rfl
  | false => simp

end Chronicle.Store
