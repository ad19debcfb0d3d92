import Chronicle.Proofs.Query.Found
import Chronicle.Proofs.Store.Frame
import Chronicle.Store.Tables

/-!
# Catalogues found through an event

An event finds the catalogues that have it as a member. These are the catalogues without a predicate that
list the event, unless members linger at a catalogue that has a predicate.
-/
namespace Chronicle

namespace Store

variable {s : Store} {ls : Links}

/-- Whether an event is among the events of a stored catalogue, when this is taken for one without a
predicate. -/
def Lists [Regex.Library] [Sql.Engine] (s : Store) (catalogue event : RowId) : Prop :=
  ∀ c ls, c.predicate = none → ls.row? c.link = some catalogue →
    ∃ es ls', getEvents (some (.catalogue c)) ⟨s, ls⟩ = .ok (es, ls') ∧
      ∃ e ∈ es, ls'.row? e.link = some event

/-- A catalogue with a predicate that has members. -/
def Lingers (s : Store) (catalogue : RowId) : Prop :=
  (∃ cell, s.predicateCell? catalogue = some cell ∧ cell ≠ .null) ∧ s.members catalogue ≠ .empty

theorem members_of_get? {catalogue : RowId} {row : CatalogueRow}
    (h : s.catalogues.get? catalogue = some row) : s.members catalogue = row.members := by
  rw [members, h]
  rfl

theorem predicateCell?_of_get? {catalogue : RowId} {row : CatalogueRow}
    (h : s.catalogues.get? catalogue = some row) : s.predicateCell? catalogue = some row.predicate := by
  rw [predicateCell?, h]
  rfl

theorem tied_eventCandidate (s : Store) (catalogue event : RowId) (row : EventRow) :
    (s.eventCandidate event row).tied catalogue = (s.members catalogue).contains event := by
  unfold members
  change (s.catalogues.get? catalogue).any _ = _
  cases s.catalogues.get? catalogue <;> rfl

theorem Sound.contains_event [Regex.Library] (hs : s.Sound) {catalogue event : RowId}
    (h : (s.members catalogue).contains event = true) : s.events.contains event = true := by
  cases hrow : s.catalogues.get? catalogue with
  | none =>
    rw [Store.members, hrow] at h
    cases h
  | some row =>
    rw [members_of_get? hrow] at h
    exact hs.members catalogue row hrow event h

/-- A catalogue lists its members. -/
theorem Sound.lists_iff [Regex.Library] [Sql.Engine] (hs : s.Sound) {catalogue event : RowId} :
    s.Lists catalogue event ↔ (s.members catalogue).contains event = true := by
  have hfind (c : Catalogue) (ls : Links) (hc : c.predicate = none)
      (hrow : ls.row? c.link = some catalogue) :
      ∃ es ls', getEvents (some (.catalogue c)) ⟨s, ls⟩ = .ok (es, ls') ∧
        List.Forall₂ (fun x e => ls'.row? (Event.link e) = some x.1)
          (s.events.entries.filter fun x => (s.members catalogue).contains x.1) es := by
    have hcondition : eventCondition ls (some (.catalogue c)) =
        .ok (.atom (.memberOf catalogue)) := by
      simp only [eventCondition, hc, hrow]
    obtain ⟨es, ls', hes, hrows⟩ := hs.exists_eventsWhere (Condition.isSelectable_memberOf catalogue)
      (fun x _ => congrArg Except.ok (tied_eventCandidate s catalogue x.1 x.2)) ls
    exact ⟨es, ls', except_bind_eq_ok.2 ⟨_, hcondition, hes⟩, hrows.imp fun _ _ hrecalls => hrecalls.1⟩
  constructor
  · intro h
    let c : Catalogue := ⟨"", "", none, .empty, [], [], ⟨0⟩⟩
    have hrow := Links.row?_assign_self .none ⟨0⟩ catalogue
    obtain ⟨es, ls', hes, hrows⟩ := hfind c _ rfl hrow
    obtain ⟨es', ls'', hes', e, he, hevent⟩ := h c _ rfl hrow
    rw [hes] at hes'
    cases hes'
    obtain ⟨x, hx, hlink⟩ := exists_left_of_mem hrows he
    rw [hlink] at hevent
    cases hevent
    exact (List.mem_filter.1 hx).2
  · intro h c ls hc hrow
    obtain ⟨es, ls', hes, hrows⟩ := hfind c ls hc hrow
    obtain ⟨row, hevent⟩ := Option.isSome_iff_exists.1 (hs.contains_event h)
    have hx : (event, row) ∈ s.events.entries.filter fun x => (s.members catalogue).contains x.1 :=
      List.mem_filter.2 ⟨SortedMap.get?_eq_some_iff.1 hevent, h⟩
    obtain ⟨e, he, hlink⟩ := exists_right_of_mem hrows hx
    exact ⟨es, ls', hes, e, he, hlink⟩

end Store

/-- Whether an event finds just the stored catalogues without a predicate that list it, each once. -/
def FoundExactly [Regex.Library] [Sql.Engine] (w : World) (e : Event) : Prop :=
  ∃ cs ls, getCatalogues (some (.event e)) w = .ok (cs, ls) ∧
    (cs.map fun c => ls.row? c.link).Nodup ∧
    ∀ catalogue, some catalogue ∈ (cs.map fun c => ls.row? c.link) ↔
      w.store.predicateCell? catalogue = some .null ∧
        ∃ event, w.links.row? e.link = some event ∧ w.store.Lists catalogue event

namespace Store

variable {s : Store} {ls : Links} {e : Event} {event : RowId}

theorem getCatalogues_event [Regex.Library] [Sql.Engine] (h : ls.row? e.link = some event) :
    getCatalogues (some (.event e)) ⟨s, ls⟩ = s.cataloguesWhere ls (.atom (.containing event)) := by
  have hcondition : catalogueCondition ls (some (.event e)) = .ok (.atom (.containing event)) := by
    simp only [catalogueCondition, h]
  simp only [getCatalogues, hcondition, bind, Except.bind]

/-- The rows of the catalogues that are found are those with the event as a member. -/
theorem Sound.rows_of_getCatalogues [Regex.Library] [Sql.Engine] (hs : s.Sound)
    (h : ls.row? e.link = some event)
    {cs : List Catalogue} {ls' : Links}
    (hcs : getCatalogues (some (.event e)) ⟨s, ls⟩ = .ok (cs, ls')) :
    (cs.map fun c => ls'.row? c.link) =
      (s.catalogues.entries.filter fun x => x.2.members.contains event).map fun x => some x.1 := by
  rw [getCatalogues_event h] at hcs
  exact rows_of_recalls
    (hs.recalls_of_cataloguesWhere (Condition.isSelectable_containing event) (fun _ _ => rfl) hcs)

theorem mem_rows_iff {catalogue : RowId} :
    some catalogue ∈ (s.catalogues.entries.filter fun x => x.2.members.contains event).map
        (fun x => some x.1) ↔ (s.members catalogue).contains event = true := by
  constructor
  · intro h
    obtain ⟨⟨id, row⟩, hx, hid⟩ := List.mem_map.1 h
    cases hid
    obtain ⟨hx, hmember⟩ := List.mem_filter.1 hx
    rw [members_of_get? (SortedMap.get?_eq_some_iff.2 hx)]
    exact hmember
  · intro h
    cases hrow : s.catalogues.get? catalogue with
    | none =>
      rw [members, hrow] at h
      cases h
    | some row =>
      rw [members_of_get? hrow] at h
      exact List.mem_map.2 ⟨(catalogue, row),
        List.mem_filter.2 ⟨SortedMap.get?_eq_some_iff.1 hrow, h⟩, rfl⟩

theorem nodup_rows (s : Store) (found : RowId × CatalogueRow → Bool) :
    ((s.catalogues.entries.filter found).map fun x => some x.1).Nodup := by
  refine List.pairwise_map.2 ((s.catalogues.ascending.sublist List.filter_sublist).imp ?_)
  intro a b hlt heq
  have hself : compare b.1 b.1 = .eq := Std.ReflCmp.compare_self
  rw [Option.some.inj heq, hself] at hlt
  cases hlt

/-- As long as no members linger, only catalogues without a predicate are found. -/
theorem Sound.foundExactly [Regex.Library] [Sql.Engine] (hs : s.Sound)
    (hlingers : ∀ catalogue, ¬ s.Lingers catalogue)
    (h : ls.row? e.link = some event) : FoundExactly ⟨s, ls⟩ e := by
  have hnull {catalogue : RowId} {row : CatalogueRow} (hrow : s.catalogues.get? catalogue = some row)
      (hmember : row.members.contains event = true) : row.predicate = .null := by
    by_cases hcell : row.predicate = .null
    · exact hcell
    · refine absurd ⟨⟨_, predicateCell?_of_get? hrow, hcell⟩, fun hempty => ?_⟩ (hlingers catalogue)
      rw [members_of_get? hrow] at hempty
      rw [hempty] at hmember
      cases hmember
  have hread : ∀ x ∈ s.catalogues.entries, x.2.members.contains event = true → ∀ stored : Catalogue,
      stored.Storable → x.2 = stored.row x.2.members →
        ∃ p, (Predicate.Stored.of stored.predicate).read stored.name = .ok p := by
    intro x hx hmember stored _ hrow
    have hcell := hnull (SortedMap.get?_eq_some_iff.2 hx) hmember
    rw [hrow] at hcell
    cases hp : stored.predicate with
    | none => exact ⟨none, rfl⟩
    | some p =>
      simp only [Catalogue.row, Catalogue.cells, Store.CatalogueCells.over, hp] at hcell
      cases hcell
  obtain ⟨cs, ls', hcs⟩ := hs.exists_cataloguesWhere (Condition.isSelectable_containing event)
    (fun _ _ => rfl) hread ls
  rw [← getCatalogues_event h] at hcs
  have hrows := hs.rows_of_getCatalogues h hcs
  refine ⟨cs, ls', hcs, ?_, fun catalogue => ?_⟩
  · rw [hrows]
    exact s.nodup_rows _
  · rw [hrows, mem_rows_iff]
    constructor
    · intro hmember
      obtain ⟨⟨id, row⟩, hx, hid⟩ := List.mem_map.1 (mem_rows_iff.2 hmember)
      cases hid
      obtain ⟨hx, hcontains⟩ := List.mem_filter.1 hx
      have hrow := SortedMap.get?_eq_some_iff.2 hx
      refine ⟨?_, event, h, hs.lists_iff.2 hmember⟩
      rw [predicateCell?_of_get? hrow, hnull hrow hcontains]
    · rintro ⟨-, event', hevent, hlists⟩
      dsimp only at hevent
      rw [h] at hevent
      cases hevent
      exact hs.lists_iff.1 hlists

/-- A member that lingers finds a catalogue with a predicate, or nothing but an error. -/
theorem Sound.not_foundExactly [Regex.Library] [Sql.Engine] (hs : s.Sound) {catalogue : RowId}
    (hlingers : s.Lingers catalogue)
    (hmember : (s.members catalogue).contains event = true) (h : ls.row? e.link = some event) :
    ¬ FoundExactly ⟨s, ls⟩ e := by
  rintro ⟨cs, ls', hcs, -, hexactly⟩
  obtain ⟨⟨cell, hcell, hne⟩, -⟩ := hlingers
  have hfound := mem_rows_iff.2 hmember
  rw [← hs.rows_of_getCatalogues h hcs] at hfound
  obtain ⟨hnull, -⟩ := (hexactly catalogue).1 hfound
  rw [hcell] at hnull
  exact hne (Option.some.inj hnull)

/-- All events find exactly what they shall just when no members linger. -/
theorem Sound.foundExactly_iff_not_lingers [Regex.Library] [Sql.Engine] (hs : s.Sound) :
    (∀ ls e event, ls.row? e.link = some event → s.events.contains event = true →
        FoundExactly ⟨s, ls⟩ e) ↔ ∀ catalogue, ¬ s.Lingers catalogue := by
  constructor
  · intro h catalogue hlingers
    obtain ⟨event, hmember⟩ := SortedMap.exists_contains hlingers.2
    have hevent := hs.contains_event hmember
    obtain ⟨row, hrow⟩ := Option.isSome_iff_exists.1 hevent
    obtain ⟨e, -, -⟩ := hs.events event row hrow
    have hlink := Links.row?_assign_self .none e.link event
    exact hs.not_foundExactly hlingers hmember hlink (h _ e event hlink hevent)
  · intro h ls e event hlink _
    exact hs.foundExactly h hlink

theorem mem_catalogueEvents_iff {catalogue : RowId} :
    [.integer catalogue, .integer event] ∈ s.tables.catalogueEvents ↔
      (s.members catalogue).contains event = true := by
  constructor
  · intro h
    obtain ⟨⟨id, row⟩, hx, hevent⟩ := List.mem_flatMap.1 h
    obtain ⟨key, hkey, heq⟩ := List.mem_map.1 hevent
    cases heq
    rw [members_of_get? (SortedMap.get?_eq_some_iff.2 hx)]
    exact SortedMap.contains_iff.2 hkey
  · intro h
    cases hrow : s.catalogues.get? catalogue with
    | none =>
      rw [members, hrow] at h
      cases h
    | some row =>
      rw [members_of_get? hrow] at h
      exact List.mem_flatMap.2 ⟨(catalogue, row), SortedMap.get?_eq_some_iff.1 hrow,
        List.mem_map.2 ⟨event, SortedMap.contains_iff.1 h, rfl⟩⟩

theorem edges_iff (s : Store) :
    (∀ catalogue event, [.integer catalogue, .integer event] ∈ s.tables.catalogueEvents →
        s.predicateCell? catalogue = some .null) ↔ ∀ catalogue, ¬ s.Lingers catalogue := by
  constructor
  · rintro h catalogue ⟨⟨cell, hcell, hne⟩, hmembers⟩
    obtain ⟨event, hevent⟩ := SortedMap.exists_contains hmembers
    have hnull := h catalogue event (mem_catalogueEvents_iff.2 hevent)
    rw [hcell] at hnull
    exact hne (Option.some.inj hnull)
  · intro h catalogue event hevent
    have hmember := mem_catalogueEvents_iff.1 hevent
    cases hrow : s.catalogues.get? catalogue with
    | none =>
      rw [members, hrow] at hmember
      cases hmember
    | some row =>
      by_cases hcell : row.predicate = .null
      · rw [predicateCell?_of_get? hrow, hcell]
      · refine absurd ⟨⟨_, predicateCell?_of_get? hrow, hcell⟩, fun hempty => ?_⟩ (h catalogue)
        rw [hempty] at hmember
        cases hmember

end Store

end Chronicle
