import Chronicle.Proofs.Save.Checks

/-!
# The steps of a batch

What each step did when it succeeded: which row it wrote, how it changed the store, and what it noted for
the rest of the batch.
-/
namespace Chronicle.Batch

variable {settings : Settings} {ls : Links} {b b' : Batch} {id : RowId}

theorem onStore_eq_ok {α : Type} {w : Work α} {a : α} :
    onStore w b = .ok a b' ↔ ∃ s, w b.store = .ok a s ∧ b' = { b with store := s } := by
  unfold onStore
  cases h : w b.store <;> simp [eq_comm, and_assoc]

theorem onStore_eq_error {α : Type} {w : Work α} {e : Error} :
    onStore w b = .error e b' ↔ ∃ s, w b.store = .error e s ∧ b' = { b with store := s } := by
  unfold onStore
  cases h : w b.store <;> simp [eq_comm, and_assoc]

theorem onStore_change_eq_ok {α : Type} {f : Store → Except StoreFault (α × Store)} {a : α} :
    onStore (Work.change f) b = .ok a b' ↔
      ∃ s, f b.store = .ok (a, s) ∧ b' = { b with store := s } := by
  simp only [onStore_eq_ok, Work.change_eq_ok]

/-- An event is written over its row if it has one, and as a new row otherwise. -/
theorem writeEvent_eq_ok {e : Event} : writeEvent ls e b = .ok id b' ↔
    (b.eventRow? ls e = some id ∧ ∃ s, b.store.updateEvent id e.cells = .ok s ∧
        b' = { b with store := s }) ∨
      (b.eventRow? ls e = none ∧ ∃ s, b.store.insertEvent e.cells = .ok (id, s) ∧
        b' = { b with store := s, events := b.events.insert e.uuid id }) := by
  rw [writeEvent, get_bind_apply]
  cases h : b.eventRow? ls e with
  | some row =>
    simp only [bind_eq_ok, onStore_change_eq_ok, map_pair_eq_ok, pure_eq_ok]
    constructor
    · rintro ⟨_, _, ⟨s, hs, rfl⟩, rfl, rfl⟩
      exact .inl ⟨rfl, s, hs, rfl⟩
    · rintro (⟨hrow, s, hs, rfl⟩ | ⟨hrow, -⟩)
      · cases hrow
        exact ⟨(), _, ⟨s, hs, rfl⟩, rfl, rfl⟩
      · cases hrow
  | none =>
    simp only [bind_eq_ok, onStore_change_eq_ok, pure_eq_ok]
    constructor
    · rintro ⟨new, _, ⟨s, hs, rfl⟩, _, _, hmodify, rfl, rfl⟩
      cases hmodify
      exact .inr ⟨trivial, s, hs, rfl⟩
    · rintro (⟨hrow, -⟩ | ⟨-, s, hs, rfl⟩)
      · cases hrow
      · exact ⟨id, _, ⟨s, hs, rfl⟩, (), _, rfl, rfl, rfl⟩

/-- What is noted for links once an event is in a row. -/
def noted (ls : Links) (e : Event) (id : RowId) (assignments : List (Link × RowId)) :
    List (Link × RowId) :=
  if (ls.row? e.link).isNone then (e.link, id) :: assignments else assignments

theorem noteNew_eq_ok {e : Event} {u : Unit} : noteNew ls e id b = .ok u b' ↔
    b' = { b with assignments := noted ls e id b.assignments } := by
  unfold noteNew noted
  split
  · change EStateM.Result.ok _ _ = _ ↔ _
    simp [eq_comm]
  · simp [pure_eq_ok]

theorem saveEvent_eq_ok {e : Event} : saveEvent settings ls e b = .ok id b' ↔
    ∃ b₁ s, writeEvent ls e b = .ok id b₁ ∧
      Store.syncAttributes settings.keyPolicy .event id e.attributes b₁.store = .ok () s ∧
      b' = { b₁ with store := s, assignments := noted ls e id b₁.assignments } := by
  simp only [saveEvent, bind_eq_ok, noteNew_eq_ok, onStore_eq_ok, pure_eq_ok]
  constructor
  · rintro ⟨_, b₁, hwrite, _, _, rfl, _, _, ⟨s, hsync, rfl⟩, rfl, rfl⟩
    exact ⟨b₁, s, hwrite, hsync, rfl⟩
  · rintro ⟨b₁, s, hwrite, hsync, rfl⟩
    exact ⟨id, b₁, hwrite, (), _, rfl, (), _, ⟨s, hsync, rfl⟩, rfl, rfl⟩

/-- A catalogue is written over its row if it has one, and as a new row otherwise. -/
theorem writeCatalogue_eq_ok {c : Catalogue} : writeCatalogue ls c b = .ok id b' ↔
    (b.catalogueRow? ls c = some id ∧ b' = { b with store := b.store.updateCatalogue id c.cells }) ∨
      (b.catalogueRow? ls c = none ∧ ∃ s, b.store.insertCatalogue c.cells = .ok (id, s) ∧
        b' = { b with
          store := s
          catalogues := b.catalogues ++ [(c.link, id)]
          assignments := (c.link, id) :: b.assignments }) := by
  rw [writeCatalogue, get_bind_apply]
  cases h : b.catalogueRow? ls c with
  | some row =>
    simp only [bind_eq_ok, onStore_change_eq_ok, pure_eq_ok]
    constructor
    · rintro ⟨_, _, ⟨s, hs, rfl⟩, rfl, rfl⟩
      cases hs
      exact .inl ⟨rfl, rfl⟩
    · rintro (⟨hrow, rfl⟩ | ⟨hrow, -⟩)
      · cases hrow
        exact ⟨(), _, ⟨_, rfl, rfl⟩, rfl, rfl⟩
      · cases hrow
  | none =>
    simp only [bind_eq_ok, onStore_change_eq_ok, pure_eq_ok]
    constructor
    · rintro ⟨new, _, ⟨s, hs, rfl⟩, _, _, hmodify, _, _, hnote, rfl, rfl⟩
      cases hmodify
      cases hnote
      exact .inr ⟨trivial, s, hs, rfl⟩
    · rintro (⟨hrow, -⟩ | ⟨-, s, hs, rfl⟩)
      · cases hrow
      · exact ⟨id, _, ⟨s, hs, rfl⟩, (), _, rfl, (), _, rfl, rfl, rfl⟩

theorem applyRemovals_cons (e : Event) (es additions : List Event) :
    applyRemovals ls id (e :: es) additions b =
      match b.eventRow? ls e with
      | some event =>
        applyRemovals ls id es additions { b with store := (b.store.removeMember id event).2 }
      | none => applyRemovals ls id es (additions.filter fun a => a.uuid != e.uuid) b := by
  rw [applyRemovals, get_bind_apply]
  cases b.eventRow? ls e <;> rfl

theorem applyRemovals_subset {es additions rest : List Event}
    (h : applyRemovals ls id es additions b = .ok rest b') : ∀ e ∈ rest, e ∈ additions := by
  induction es generalizing additions b with
  | nil =>
    obtain ⟨rfl, -⟩ := pure_eq_ok.1 h
    exact fun _ he => he
  | cons e es ih =>
    rw [applyRemovals_cons] at h
    split at h
    · exact ih h
    · exact fun x hx => (List.mem_filter.1 (ih h x hx)).1

/-- An added event keeps its row if it has one, and is saved otherwise. -/
theorem additionRow_eq_ok {e : Event} : additionRow settings ls e b = .ok id b' ↔
    (b.eventRow? ls e = some id ∧ b' = b) ∨
      (b.eventRow? ls e = none ∧ saveEvent settings ls e b = .ok id b') := by
  rw [additionRow, get_bind_apply]
  cases h : b.eventRow? ls e with
  | some row => simp [pure_eq_ok, eq_comm]
  | none => simp

theorem applyAdditions_cons_eq_ok {e : Event} {es : List Event} :
    applyAdditions settings ls id (e :: es) b = .ok () b' ↔
      ∃ event b₁ new s, additionRow settings ls e b = .ok event b₁ ∧
        b₁.store.addMember id event = .ok (new, s) ∧
        applyAdditions settings ls id es { b₁ with store := s } = .ok () b' := by
  simp only [applyAdditions, bind_eq_ok, onStore_change_eq_ok]
  constructor
  · rintro ⟨event, b₁, hrow, new, _, ⟨s, hs, rfl⟩, hrest⟩
    exact ⟨event, b₁, new, s, hrow, hs, hrest⟩
  · rintro ⟨event, b₁, new, s, hrow, hs, hrest⟩
    exact ⟨event, b₁, hrow, new, _, ⟨s, hs, rfl⟩, hrest⟩

/-- A catalogue is written, loses members, gains members, and gets its attributes. -/
theorem saveCatalogue_eq_ok {c : Catalogue} : saveCatalogue settings ls c b = .ok id b' ↔
    ∃ b₁ rest b₂ b₃ s, writeCatalogue ls c b = .ok id b₁ ∧
      applyRemovals ls id c.removals c.additions b₁ = .ok rest b₂ ∧
      applyAdditions settings ls id rest b₂ = .ok () b₃ ∧
      Store.syncAttributes settings.keyPolicy .catalogue id c.attributes b₃.store = .ok () s ∧
      b' = { b₃ with store := s } := by
  simp only [saveCatalogue, bind_eq_ok, onStore_eq_ok, pure_eq_ok]
  constructor
  · rintro ⟨_, b₁, hwrite, rest, b₂, hremove, _, b₃, hadd, _, _, ⟨s, hsync, rfl⟩, rfl, rfl⟩
    exact ⟨b₁, rest, b₂, b₃, s, hwrite, hremove, hadd, hsync, rfl⟩
  · rintro ⟨b₁, rest, b₂, b₃, s, hwrite, hremove, hadd, hsync, rfl⟩
    exact ⟨id, b₁, hwrite, rest, b₂, hremove, (), b₃, hadd, (), _, ⟨s, hsync, rfl⟩, rfl, rfl⟩

theorem saveEntity_event_eq_ok {e : Event} :
    saveEntity settings ls (.event e) b = .ok () b' ↔ ∃ id, saveEvent settings ls e b = .ok id b' := by
  simp only [saveEntity, bind_eq_ok, pure_eq_ok]
  exact ⟨fun ⟨id, _, h, _, hb⟩ => ⟨id, hb ▸ h⟩, fun ⟨id, h⟩ => ⟨id, b', h, trivial, rfl⟩⟩

theorem saveEntity_catalogue_eq_ok {c : Catalogue} :
    saveEntity settings ls (.catalogue c) b = .ok () b' ↔
      ∃ id, saveCatalogue settings ls c b = .ok id b' := by
  simp only [saveEntity, bind_eq_ok, pure_eq_ok]
  exact ⟨fun ⟨id, _, h, _, hb⟩ => ⟨id, hb ▸ h⟩, fun ⟨id, h⟩ => ⟨id, b', h, trivial, rfl⟩⟩

end Chronicle.Batch
