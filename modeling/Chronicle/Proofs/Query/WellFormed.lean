import Chronicle.Regex.Standard
import Chronicle.Proofs.Query.Listed
import Chronicle.Proofs.Store.Keys
import Chronicle.Store.Tables

/-!
# Well-formed tables

What the tables of a store look like that was only worked on through saves and through the attributes of
owners, with one key policy: cells are written in one way, no two events have one uuid, and nothing refers
to a row that does not exist. So events and attributes can always be read.
-/
namespace Chronicle

/-- The cells in which values of a kind are kept. -/
def Value.Kind.Keeps : Value.Kind → Cell → Prop
  | integer, c => ∃ i, c = .integer i
  | string, c => ∃ s, c = .text s
  | boolean, c => c = .integer 0 ∨ c = .integer 1
  | timestamp, c => ∃ t : Timestamp, t.Storable ∧ c = .text t.storedText
  | float, c => ∃ x : Binary64, x.isFinite = true ∧ c = .real x

theorem Value.Storable.keeps {v : Value} (h : v.Storable) :
    v.kind.Keeps ((AttributeRow.ofValue v).slot v.kind) := by
  rw [AttributeRow.slot_ofValue_kind h]
  cases v with
  | integer i => exact ⟨i, rfl⟩
  | string s => exact ⟨s, rfl⟩
  | boolean b =>
    cases b with
    | false => exact .inl rfl
    | true => exact .inr rfl
  | timestamp t => exact ⟨t, h, rfl⟩
  | float x => exact ⟨x.settled, Binary64.isFinite_settled (storable_float_iff.1 h), rfl⟩

namespace Row

def IsEvent (row : Row) : Prop :=
  ∃ (id : RowId) (uuid : String) (startTime endTime : Timestamp) (author : String),
    startTime.Storable ∧ endTime.Storable ∧
      row = [.integer id, .text uuid, .text startTime.storedText, .text endTime.storedText, .text author]

/-- A catalogue has neither predicate nor digest, or the bytes of a predicate about events and their
digest. -/
def IsCatalogue [Regex.Library] (row : Row) : Prop :=
  ∃ (id : RowId) (name author : String) (predicate digest : Cell),
    row = [.integer id, .text name, .text author, predicate, digest] ∧
      (predicate = .null ∧ digest = .null ∨
        ∃ p : Predicate, (∃ condition, p.compile .event = .ok condition) ∧
          predicate = .blob p.toBytes ∧ digest = .text (Blake3.hexDigest p.toBytes))

/-- An attribute has an owner, an accepted key and the tag of a kind, and of its slots only that of this
kind is filled. -/
def IsAttribute (p : KeyPolicy) (owners : List Cell) (row : Row) : Prop :=
  ∃ owner ∈ owners, ∃ (key : String) (kind : Value.Kind) (slot : Value.Kind → Cell),
    row = owner :: .text key :: .text kind.tag :: Value.Kind.all.map slot ∧ p.accepts key = true ∧
      kind.Keeps (slot kind) ∧ ∀ k, k ≠ kind → slot k = .null

end Row

namespace Tables

/-- The ids of rows, which are in their first column. -/
def ids (rows : List Row) : List Cell := rows.filterMap List.head?

/-- The uuids of the rows of events, which are in the second column. -/
def uuids (rows : List Row) : List Cell := rows.filterMap fun row => row[1]?

structure WellFormed [Regex.Library] (p : KeyPolicy) (t : Tables) : Prop where
  events : ∀ row ∈ t.events, row.IsEvent
  uuids : (uuids t.events).Nodup
  catalogues : ∀ row ∈ t.catalogues, row.IsCatalogue
  eventAttributes : ∀ row ∈ t.eventAttributes, row.IsAttribute p (ids t.events)
  catalogueAttributes : ∀ row ∈ t.catalogueAttributes, row.IsAttribute p (ids t.catalogues)
  catalogueEvents : ∀ row ∈ t.catalogueEvents,
    ∃ catalogue ∈ ids t.catalogues, ∃ event ∈ ids t.events, row = [catalogue, event]

end Tables

namespace Store

variable {s : Store} {p : KeyPolicy} {id : RowId}

theorem mem_ids_events (h : s.events.contains id = true) : .integer id ∈ Tables.ids s.tables.events := by
  obtain ⟨row, hrow⟩ := Option.isSome_iff_exists.1 h
  exact List.mem_filterMap.2
    ⟨_, List.mem_map.2 ⟨(id, row), SortedMap.get?_eq_some_iff.1 hrow, rfl⟩, rfl⟩

theorem mem_ids_catalogues (h : s.catalogues.contains id = true) :
    .integer id ∈ Tables.ids s.tables.catalogues := by
  obtain ⟨row, hrow⟩ := Option.isSome_iff_exists.1 h
  exact List.mem_filterMap.2
    ⟨_, List.mem_map.2 ⟨(id, row), SortedMap.get?_eq_some_iff.1 hrow, rfl⟩, rfl⟩

theorem isAttribute_of_mem {t : AttributeTable} (ht : t.Sound) (hkeys : t.Keyed p) {owners : List Cell}
    (hid : .integer id ∈ owners) {row : Row} (hrow : row ∈ attributeRows id t) :
    row.IsAttribute p owners := by
  obtain ⟨⟨key, r⟩, hentry, rfl⟩ := List.mem_map.1 hrow
  obtain ⟨k, hk, haccepts⟩ := hkeys _ hentry
  obtain ⟨a, ha, rfl⟩ := ht
  obtain ⟨k', v, hv, hk', rfl⟩ := AttributeTable.mem_entries_of.1 hentry
  dsimp only at hk
  subst hk
  refine ⟨_, hid, k, v.kind, (AttributeRow.ofValue v).slot, rfl, haccepts, (ha _ hv).keeps, fun i hi => ?_⟩
  exact AttributeRow.slot_ofValue_of_ne (Ne.symm hi)

theorem isCatalogue_row [Regex.Library] (id : RowId) {c : Catalogue} (hc : c.Storable)
    (members : SortedMap RowId Unit) :
    Row.IsCatalogue [.integer id, (c.row members).name.cell, (c.row members).author.cell,
      (c.row members).predicate, (c.row members).digest] := by
  refine ⟨id, c.name, c.author, _, _, rfl, ?_⟩
  cases hp : c.predicate with
  | none =>
    refine .inl ⟨?_, ?_⟩ <;>
      simp [Catalogue.row, CatalogueCells.over, Catalogue.cells, hp, Predicate.Stored.of]
  | some q =>
    refine .inr ⟨q, hc.2 q hp, ?_, ?_⟩ <;>
      simp [Catalogue.row, CatalogueCells.over, Catalogue.cells, hp, Predicate.Stored.of]

theorem nodup_uuids [Regex.Library] (hs : s.Sound) (hdistinct : s.Distinct) :
    (Tables.uuids s.tables.events).Nodup := by
  have huuids : Tables.uuids s.tables.events = s.events.entries.map fun x => x.2.uuid.cell := by
    rw [Tables.uuids, tables, List.filterMap_map]
    exact congrFun (List.filterMap_eq_map (f := fun x : RowId × EventRow => x.2.uuid.cell)) _
  rw [huuids, List.Nodup, List.pairwise_map]
  refine s.events.ascending.imp_of_mem fun {x y} hx hy hlt heq => ?_
  have huuid {x : RowId × EventRow} (hx : x ∈ s.events.entries) : s.uuid? x.1 = some x.2.uuid := by
    rw [uuid?, SortedMap.get?_eq_some_iff.2 hx]
    rfl
  obtain ⟨e, -, hxe⟩ := hs.events _ _ (SortedMap.get?_eq_some_iff.2 hx)
  obtain ⟨e', -, hye⟩ := hs.events _ _ (SortedMap.get?_eq_some_iff.2 hy)
  have hsame : x.2.uuid = y.2.uuid := by
    rw [hxe, hye] at heq ⊢
    exact congrArg StoredText.text (Cell.text.inj heq)
  have hid := hdistinct x.1 y.1 _ (huuid hx) (hsame ▸ huuid hy)
  simp [hid] at hlt

theorem attributes_of_mem_events {x : RowId × EventRow} (h : x ∈ s.events.entries) :
    s.attributes .event x.1 = x.2.attributes := by
  simp [attributes, SortedMap.get?_eq_some_iff.2 h]

theorem attributes_of_mem_catalogues {x : RowId × CatalogueRow} (h : x ∈ s.catalogues.entries) :
    s.attributes .catalogue x.1 = x.2.attributes := by
  simp [attributes, SortedMap.get?_eq_some_iff.2 h]

/-- The tables of a sound store with distinct uuids and accepted keys. -/
theorem Sound.wellFormed_tables [Regex.Library] (hs : s.Sound) (hdistinct : s.Distinct)
    (hkeys : ∀ kind owner, (s.attributes kind owner).Keyed p) : s.tables.WellFormed p where
  events row hrow := by
    obtain ⟨⟨id, r⟩, hr, rfl⟩ := List.mem_map.1 hrow
    obtain ⟨e, he, rfl⟩ := hs.events id r (SortedMap.get?_eq_some_iff.2 hr)
    exact ⟨id, e.uuid, e.startTime, e.endTime, e.author, he.1, he.2.1, rfl⟩
  uuids := nodup_uuids hs hdistinct
  catalogues row hrow := by
    obtain ⟨⟨id, r⟩, hr, rfl⟩ := List.mem_map.1 hrow
    obtain ⟨c, hc, hrow⟩ := hs.catalogues id r (SortedMap.get?_eq_some_iff.2 hr)
    rw [hrow]
    exact isCatalogue_row id hc r.members
  eventAttributes row hrow := by
    obtain ⟨⟨id, r⟩, hr, hrow⟩ := List.mem_flatMap.1 hrow
    have hget := SortedMap.get?_eq_some_iff.2 hr
    refine isAttribute_of_mem (hs.events id r hget).attributes ?_ (mem_ids_events ?_) hrow
    · exact attributes_of_mem_events hr ▸ hkeys .event id
    · rw [SortedMap.contains, hget]
      rfl
  catalogueAttributes row hrow := by
    obtain ⟨⟨id, r⟩, hr, hrow⟩ := List.mem_flatMap.1 hrow
    have hget := SortedMap.get?_eq_some_iff.2 hr
    refine isAttribute_of_mem (hs.catalogues id r hget).attributes ?_ (mem_ids_catalogues ?_) hrow
    · exact attributes_of_mem_catalogues hr ▸ hkeys .catalogue id
    · rw [SortedMap.contains, hget]
      rfl
  catalogueEvents row hrow := by
    obtain ⟨⟨id, r⟩, hr, hrow⟩ := List.mem_flatMap.1 hrow
    obtain ⟨event, hevent, rfl⟩ := List.mem_map.1 hrow
    have hget := SortedMap.get?_eq_some_iff.2 hr
    refine ⟨_, mem_ids_catalogues (by rw [SortedMap.contains, hget]; rfl), _, mem_ids_events ?_, rfl⟩
    exact hs.members id r hget event (SortedMap.contains_iff.2 hevent)

theorem Sound.exists_loadAttributes [Regex.Library] (hs : s.Sound) (kind : EntityKind) (owner : RowId) :
    ∃ a, s.loadAttributes kind owner = .ok a := by
  obtain ⟨a, ha, hattributes⟩ := hs.exists_attributes kind owner
  exact ⟨_, by rw [loadAttributes, hattributes, AttributeTable.read_of ha]⟩

/-- Whatever was done under one key policy, the tables are well-formed, and events and attributes can be
read. -/
theorem ReachableUnder.wellFormed [Regex.Library] [Sql.Engine] (h : s.ReachableUnder p) :
    s.tables.WellFormed p ∧
    (∀ ls, ∃ es ls', getEvents none ⟨s, ls⟩ = .ok (es, ls')) ∧
      ∀ kind owner, ∃ a, s.loadAttributes kind owner = .ok a := by
  have hs := h.reachable.sound
  refine ⟨hs.wellFormed_tables h.reachable.distinct h.keyed, fun ls => ?_, hs.exists_loadAttributes⟩
  obtain ⟨es, ls', hes, -⟩ := hs.exists_getEvents ls
  exact ⟨es, ls', hes⟩

/-- A store with one event that has a number. -/
def labelled : Store :=
  let e : Event := { tremor "u" 0 with attributes := SortedMap.empty.insert "Felt" (.integer 5) }
  (left (save ⟨none, true, false⟩ [.event e] ⟨.empty, .none⟩)).store

/-- The number was overwritten by a text. -/
def relabelled : Store :=
  left (setAttribute .caseInsensitive .event 1 "Felt" (.string "strongly") labelled)

theorem wellFormed_relabelled :
    relabelled.tables.eventAttributes =
      [[.integer 1, .text "Felt", .text "string", .null, .text "strongly", .null, .null, .null]] ∧
    relabelled.tables.WellFormed .caseInsensitive ∧
      (∀ ls, ∃ es ls', getEvents none ⟨relabelled, ls⟩ = .ok (es, ls')) ∧
        ∀ kind owner, ∃ a, relabelled.loadAttributes kind owner = .ok a := by
  have hlabelled : labelled.ReachableUnder .caseInsensitive :=
    .single (.save ⟨none, true, false⟩ rfl .none _ .empty)
  have hreachable : relabelled.ReachableUnder .caseInsensitive :=
    hlabelled.tail (.setAttribute .event 1 "Felt" (.string "strongly") labelled)
  exact ⟨by decide +kernel, hreachable.wellFormed⟩

end Store

end Chronicle
