import Chronicle.Proofs.Predicate.Codec
import Chronicle.Proofs.Query.Reading
import Chronicle.Proofs.Query.Restored
import Chronicle.Proofs.Sql.Limits

/-!
# Entities found by conditions

In a sound store every row on which a condition holds is found and made an entity again. Only a predicate
that cannot be decoded stands in the way.
-/
namespace Chronicle

namespace Store

theorem exists_selectFrom [Regex.Library] {α β : Type} {candidate : RowId → α → Candidate}
    (read : RowId → α → Except StoreFault β) {c : Condition} {l : List (RowId × α)}
    {found : RowId × α → Bool} {P : RowId × α → β → Prop}
    (hholds : ∀ x ∈ l, c.holds (candidate x.1 x.2) = .ok (found x))
    (hread : ∀ x ∈ l, ∃ r, read x.1 x.2 = .ok r ∧ P x r) :
    ∃ rs, selectFrom candidate read c l = .ok rs ∧ List.Forall₂ P (l.filter found) rs := by
  induction l with
  | nil => exact ⟨[], rfl, .nil⟩
  | cons x l ih =>
    obtain ⟨rs, hselect, hrs⟩ := ih (fun y hy => hholds y (List.mem_cons_of_mem _ hy))
      fun y hy => hread y (List.mem_cons_of_mem _ hy)
    obtain ⟨r, hr, hp⟩ := hread x List.mem_cons_self
    rw [selectFrom, hholds x List.mem_cons_self, hr, hselect]
    cases h : found x with
    | true =>
      rw [List.filter_cons_of_pos h]
      exact ⟨r :: rs, rfl, .cons hp hrs⟩
    | false =>
      rw [List.filter_cons_of_neg (by simp [h])]
      exact ⟨rs, rfl, hrs⟩

/-- A catalogue in memory with the content of a stored one, as far as its predicate is read again. -/
def Recalls [Regex.Library] (ls : Links) (x : RowId × CatalogueRow) (c : Catalogue) : Prop :=
  ls.row? c.link = some x.1 ∧ ∃ stored : Catalogue, stored.Storable ∧ x.2 = stored.row x.2.members ∧
    (Predicate.Stored.of stored.predicate).read stored.name = .ok c.predicate ∧
    c = { stored with
      predicate := c.predicate
      attributes := stored.attributes.map Value.settled
      additions := []
      removals := []
      link := c.link }

variable {s : Store} {ls : Links} {c : Condition}

theorem link_of_catalogue (s : Store) (r : CatalogueRecord) (link : Link) (c : Catalogue) (h : (do
    let attributes ← s.loadAttributes .catalogue r.id
    r.toCatalogue attributes link) = .ok c) : c.link = link := by
  obtain ⟨a, -, h⟩ := except_bind_eq_ok.1 h
  obtain ⟨p, -, h⟩ := except_bind_eq_ok.1 h
  cases h
  rfl

theorem toCatalogue_of_eq_ok {id : RowId} {stored b : Catalogue} {a : Attributes} {link : Link} :
    (CatalogueRecord.of id stored).toCatalogue a link = .ok b ↔
      ∃ p, (Predicate.Stored.of stored.predicate).read stored.name = .ok p ∧
        b = ⟨stored.name, stored.author, p, a, [], [], link⟩ := by
  unfold CatalogueRecord.toCatalogue
  rw [except_bind_eq_ok]
  constructor
  · rintro ⟨p, hp, h⟩
    cases h
    exact ⟨p, hp, rfl⟩
  · rintro ⟨p, hp, rfl⟩
    exact ⟨p, hp, rfl⟩

/-- A row and the record of the catalogue in it. -/
def Holds [Regex.Library] (s : Store) (x : RowId × CatalogueRow) (r : CatalogueRecord) : Prop :=
  ∃ stored : Catalogue, stored.Storable ∧ x.2 = stored.row x.2.members ∧ r = .of x.1 stored ∧
    s.loadAttributes .catalogue x.1 = .ok (stored.attributes.map Value.settled)

theorem Sound.exists_selectCatalogues [Regex.Library] [Sql.Engine] (hs : s.Sound)
    {found : RowId × CatalogueRow → Bool} (hc : c.IsSelectable .catalogue)
    (hholds : ∀ x ∈ s.catalogues.entries, c.holds (catalogueCandidate x.2) = .ok (found x)) :
    ∃ rs, s.selectCatalogues c = .ok rs ∧
      List.Forall₂ s.Holds (s.catalogues.entries.filter found) rs := by
  rw [s.selectCatalogues_eq_selectFrom hc]
  refine exists_selectFrom _ hholds fun x hx => ?_
  obtain ⟨id, row⟩ := x
  have hget := SortedMap.get?_eq_some_iff.2 hx
  obtain ⟨stored, hstored, hrow⟩ := hs.catalogues id row hget
  refine ⟨.of id stored, ?_, stored, hstored, hrow, rfl, ?_⟩
  · rw [hrow]
    exact readCatalogue_row id stored _
  · rw [hrow] at hget
    exact loadAttributes_catalogue hstored hget

theorem Holds.recalls [Regex.Library] {x : RowId × CatalogueRow} {r : CatalogueRecord} {b : Catalogue}
    (h : s.Holds x r) (hrow : ls.row? b.link = some r.id)
    (hb : (do
      let attributes ← s.loadAttributes .catalogue r.id
      r.toCatalogue attributes b.link) = .ok b) : Recalls ls x b := by
  obtain ⟨stored, hstored, hx, rfl, hload⟩ := h
  obtain ⟨a, ha, hb⟩ := except_bind_eq_ok.1 hb
  have hsame : a = stored.attributes.map Value.settled := Except.ok.inj (ha.symm.trans hload)
  subst hsame
  obtain ⟨p, hp, hb⟩ := toCatalogue_of_eq_ok.1 hb
  have hpredicate : b.predicate = p := congrArg Catalogue.predicate hb
  refine ⟨hrow, stored, hstored, hx, hpredicate ▸ hp, ?_⟩
  rw [hpredicate]
  exact hb

/-- What is found are catalogues with the content of the rows on which the condition holds. -/
theorem Sound.recalls_of_cataloguesWhere [Regex.Library] [Sql.Engine] (hs : s.Sound)
    {found : RowId × CatalogueRow → Bool} (hc : c.IsSelectable .catalogue)
    (hholds : ∀ x ∈ s.catalogues.entries, c.holds (catalogueCandidate x.2) = .ok (found x))
    {cs : List Catalogue} {ls' : Links} (h : s.cataloguesWhere ls c = .ok (cs, ls')) :
    List.Forall₂ (Recalls ls') (s.catalogues.entries.filter found) cs := by
  obtain ⟨rs, hselect, hrs⟩ := hs.exists_selectCatalogues hc hholds
  rw [Store.cataloguesWhere, hselect] at h
  refine (forall₂_trans hrs (forall₂_of_restoreEach s.link_of_catalogue h)).imp ?_
  rintro x b ⟨r, hr, hb, hrow⟩
  exact hr.recalls hrow hb

/-- Nothing fails when all predicates in question can be read. -/
theorem Sound.exists_cataloguesWhere [Regex.Library] [Sql.Engine] (hs : s.Sound)
    {found : RowId × CatalogueRow → Bool} (hc : c.IsSelectable .catalogue)
    (hholds : ∀ x ∈ s.catalogues.entries, c.holds (catalogueCandidate x.2) = .ok (found x))
    (hread : ∀ x ∈ s.catalogues.entries, found x = true → ∀ stored : Catalogue, stored.Storable →
      x.2 = stored.row x.2.members →
        ∃ p, (Predicate.Stored.of stored.predicate).read stored.name = .ok p) (ls : Links) :
    ∃ cs ls', s.cataloguesWhere ls c = .ok (cs, ls') := by
  obtain ⟨rs, hselect, hrs⟩ := hs.exists_selectCatalogues hc hholds
  rw [Store.cataloguesWhere, hselect]
  refine exists_restoreEach _ (fun r hr l => ?_) ls
  obtain ⟨x, hx, stored, hstored, hrow, rfl, hload⟩ := exists_left_of_mem hrs hr
  obtain ⟨hx, hfound⟩ := List.mem_filter.1 hx
  obtain ⟨p, hp⟩ := hread x hx hfound stored hstored hrow
  exact ⟨_, except_bind_eq_ok.2 ⟨_, hload, toCatalogue_of_eq_ok.2 ⟨p, hp, rfl⟩⟩⟩

theorem rows_of_recalls [Regex.Library] {xs : List (RowId × CatalogueRow)} {cs : List Catalogue}
    (h : List.Forall₂ (Recalls ls) xs cs) :
    (cs.map fun c => ls.row? c.link) = xs.map fun x => some x.1 := by
  induction h with
  | nil => rfl
  | cons hr _ ih => rw [List.map_cons, List.map_cons, hr.1, ih]

/-- An event in memory with the content of a stored one. -/
def RecallsEvent (ls : Links) (x : RowId × EventRow) (e : Event) : Prop :=
  ls.row? e.link = some x.1 ∧ ∃ stored : Event, stored.Storable ∧ x.2 = stored.row ∧
    e = { stored with attributes := stored.attributes.map Value.settled, link := e.link }

theorem link_of_event (s : Store) (r : EventRecord) (link : Link) (e : Event) (h : (do
    let attributes ← s.loadAttributes .event r.id
    r.toEvent attributes link) = .ok e) : e.link = link := by
  obtain ⟨a, -, h⟩ := except_bind_eq_ok.1 h
  obtain ⟨t, -, h⟩ := except_bind_eq_ok.1 h
  obtain ⟨t', -, h⟩ := except_bind_eq_ok.1 h
  cases h
  rfl

/-- Events are always found. -/
theorem Sound.exists_eventsWhere [Regex.Library] [Sql.Engine] (hs : s.Sound) {found : RowId × EventRow → Bool}
    (hc : c.IsSelectable .event)
    (hholds : ∀ x ∈ s.events.entries, c.holds (s.eventCandidate x.1 x.2) = .ok (found x))
    (ls : Links) : ∃ es ls', s.eventsWhere ls c = .ok (es, ls') ∧
      List.Forall₂ (RecallsEvent ls') (s.events.entries.filter found) es := by
  have hread : ∀ x ∈ s.events.entries, ∃ r, readEvent (x.2.cells x.1) = .ok r ∧
      ∃ e : Event, e.Storable ∧ x.2 = e.row ∧ r = .of x.1 e ∧
      s.loadAttributes .event x.1 = .ok (e.attributes.map Value.settled) := by
    rintro ⟨id, row⟩ hx
    have hget := SortedMap.get?_eq_some_iff.2 hx
    obtain ⟨e, he, rfl⟩ := hs.events id row hget
    exact ⟨.of id e, readEvent_row id e, e, he, rfl, rfl, loadAttributes_event he hget⟩
  obtain ⟨rs, hselect, hrs⟩ := exists_selectFrom (fun id row => readEvent (row.cells id)) hholds hread
  have hmake : ∀ r ∈ rs, ∀ l, ∃ b, (do
      let attributes ← s.loadAttributes .event (EventRecord.id r)
      r.toEvent attributes l) = .ok b := by
    intro r hr l
    obtain ⟨x, -, e, -, -, rfl, hload⟩ := exists_left_of_mem hrs hr
    exact ⟨_, except_bind_eq_ok.2 ⟨_, hload, toEvent_of x.1 e _ l⟩⟩
  obtain ⟨es, ls', hes⟩ := exists_restoreEach EventRecord.id hmake ls
  refine ⟨es, ls', ?_, ?_⟩
  · rw [Store.eventsWhere, s.selectEvents_eq_selectFrom hc, hselect]
    exact hes
  · refine (forall₂_trans hrs (forall₂_of_restoreEach s.link_of_event hes)).imp ?_
    rintro x b ⟨r, ⟨e, he, hx, rfl, hload⟩, hb, hrow⟩
    refine ⟨hrow, e, he, hx, ?_⟩
    obtain ⟨a, ha, hb⟩ := except_bind_eq_ok.1 hb
    rw [← Except.ok.inj (ha.symm.trans hload)]
    exact Except.ok.inj (hb.symm.trans (toEvent_of x.1 e a b.link))

end Store

section Bases

variable [Regex.Library] {ls : Links} {base : Option Base} {c : Condition}

theorem suits_eventCondition (h : eventCondition ls base = .ok c) : c.Suits .event := by
  unfold eventCondition at h
  split at h
  case h_1 =>
    cases h
    exact Condition.suits_and.2 nofun
  case h_2 => exact Predicate.suits_compile h
  case h_3 =>
    split at h
    case h_1 => exact Predicate.suits_compile h
    case h_2 =>
      cases h
      exact Condition.suits_atom trivial
    case h_3 => cases h
  case h_4 => cases h

theorem suits_catalogueCondition (h : catalogueCondition ls base = .ok c) : c.Suits .catalogue := by
  unfold catalogueCondition at h
  split at h
  case h_1 =>
    cases h
    exact Condition.suits_and.2 nofun
  case h_2 => exact Predicate.suits_compile h
  case h_3 =>
    split at h
    case h_1 =>
      cases h
      exact Condition.suits_atom trivial
    case h_2 => cases h
  case h_4 => cases h

end Bases

end Chronicle
