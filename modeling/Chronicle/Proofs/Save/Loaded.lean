import Chronicle.Regex.Standard
import Chronicle.Proofs.Predicate.Exact
import Chronicle.Proofs.Query.ReadBack
import Chronicle.Proofs.Save.Enforced
import Chronicle.Proofs.Store.Counted

/-!
# Saving what was loaded

What is read of a row passes the checks again and is written as the row has it. So a batch of entities that
were loaded, and not edited since, leaves the store and the links as they are.
-/
namespace Chronicle

/-! ## Attributes -/

/-- What is read of a table makes the same table. -/
theorem AttributeTable.of_settled {a : Attributes} (h : a.Storable) : of (a.map Value.settled) = of a := by
  apply SortedMap.ext_get?
  intro key
  cases key with
  | bytes b => rw [get?_of_bytes, get?_of_bytes]
  | text key =>
    rw [get?_of, get?_of, SortedMap.get?_map]
    cases hv : a.get? key with
    | none => rfl
    | some v =>
      have hstorable : v.Storable := h (key, v) (SortedMap.get?_eq_some_iff.1 hv)
      exact congrArg some (AttributeRow.ofValue_settled hstorable)

theorem AttributeTable.Keyed.admits {p : KeyPolicy} {a : Attributes} (hkeys : (of a).Keyed p)
    (h : a.Storable) : p.Admits (a.map Value.settled) := by
  intro e he
  obtain ⟨⟨key, v⟩, hv, rfl⟩ := List.mem_map.1 he
  obtain ⟨k, hk, haccepts⟩ := hkeys (entry (key, v)) (List.mem_map_of_mem hv)
  obtain rfl := StoredText.text.inj hk
  exact ⟨haccepts, (h (key, v) hv).settled⟩

namespace Store

variable {settings : Settings} {s : Store} {ls ls' : Links} {kind : EntityKind} {owner id : RowId}

/-- Attributes that were loaded are in line already. -/
theorem syncAttributes_settled {p : KeyPolicy} {a : Attributes} (howner : s.ownerExists kind owner = true)
    (ha : a.Storable) (hs : s.attributes kind owner = .of a) (hkeys : (s.attributes kind owner).Keyed p) :
    syncAttributes p kind owner (a.map Value.settled) s = .ok () s := by
  have hadmits : p.Admits (a.map Value.settled) := by
    rw [hs] at hkeys
    exact hkeys.admits ha
  rw [syncAttributes_eq howner hadmits ha hs, AttributeTable.of_settled ha, ← hs, withTable_self]

/-! ## Rows that are written as they are -/

theorem Distinct.updateEvent_self (hs : s.Distinct) {row : EventRow} (hrow : s.events.get? id = some row)
    {c : EventCells} (hc : row = c.over row.attributes) : s.updateEvent id c = .ok s := by
  have huuid : s.uuid? id = some (.text c.uuid) := by
    rw [uuid?, hrow, hc]
    rfl
  apply updateEvent_eq_ok.2
  refine .inr ⟨row, hrow, hs.hasUuid_erase huuid, ?_⟩
  rw [← hc, SortedMap.insert_of_get?_eq_some hrow]

theorem updateCatalogue_self {row : CatalogueRow} (hrow : s.catalogues.get? id = some row)
    {c : CatalogueCells} (hc : row = c.over row.attributes row.members) : s.updateCatalogue id c = s := by
  rw [updateCatalogue_of_get? hrow, ← hc, SortedMap.insert_of_get?_eq_some hrow]

/-- What is known of a store that was only worked on under these settings. -/
structure Conforms [Regex.Library] (settings : Settings) (s : Store) : Prop where
  sound : s.Sound
  distinct : s.Distinct
  keyed : ∀ kind owner, (s.attributes kind owner).Keyed settings.keyPolicy
  checked : ∀ id row, s.events.get? id = some row → row.Checked settings

theorem ReachableWith.conforms [Regex.Library] (h : s.ReachableWith settings) : s.Conforms settings where
  sound := h.reachableUnder.reachable.sound
  distinct := h.reachableUnder.reachable.distinct
  keyed := h.reachableUnder.keyed
  checked := h.checked

/-! ## Events -/

theorem RecallsEvent.eq_stored {x : RowId × EventRow} {e : Event} (h : RecallsEvent ls x e)
    (hx : s.events.get? x.1 = some x.2) : ∃ stored : Event, stored.Storable ∧ x.2 = stored.row ∧
      s.attributes .event x.1 = .of stored.attributes ∧
      e = { stored with attributes := stored.attributes.map Value.settled, link := e.link } := by
  obtain ⟨-, stored, hstored, hrow, he⟩ := h
  refine ⟨stored, hstored, hrow, ?_, he⟩
  rw [attributes, hx, hrow]
  rfl

section

variable [Regex.Library]

theorem Conforms.check_event (hs : s.Conforms settings) {x : RowId × EventRow}
    (hx : s.events.get? x.1 = some x.2) {e : Event} (h : RecallsEvent ls x e) :
    e.check settings = .ok () := by
  have hforward := h.forward (hs.checked x.1 x.2 hx)
  have hkeys := hs.keyed .event x.1
  obtain ⟨stored, ⟨hstart, hend, hattributes⟩, -, htable, he⟩ := h.eq_stored hx
  rw [htable] at hkeys
  rw [he] at hforward ⊢
  apply Event.check_eq_ok.2
  refine ⟨hkeys.admits hattributes, hstart, hend, ?_⟩
  rintro ⟨henforce, hgt⟩
  exact hforward henforce hgt

/-- An event that was loaded is written as it is stored. -/
theorem Conforms.saveEvent_loaded {b : Batch} (hs : b.store.Conforms settings) {x : RowId × EventRow}
    (hx : b.store.events.get? x.1 = some x.2) {e : Event} (h : RecallsEvent ls x e) :
    Batch.saveEvent settings ls e b = .ok x.1 b := by
  have hlink := h.1
  obtain ⟨stored, ⟨-, -, hattributes⟩, hrow, htable, he⟩ := h.eq_stored hx
  have hcells : x.2 = e.cells.over x.2.attributes := by
    rw [he, hrow]
    rfl
  have hupdate : b.store.updateEvent x.1 e.cells = .ok b.store :=
    hs.distinct.updateEvent_self hx hcells
  have hwrite : Batch.writeEvent ls e b = .ok x.1 b :=
    Batch.writeEvent_eq_ok.2 (.inl ⟨Batch.eventRow?_of_row? hlink, b.store, hupdate, rfl⟩)
  have howner : b.store.ownerExists .event x.1 = true := contains_of_get? hx
  have hsync : syncAttributes settings.keyPolicy .event x.1 e.attributes b.store = .ok () b.store := by
    rw [he]
    exact syncAttributes_settled howner hattributes htable (hs.keyed .event x.1)
  have hnoted : Batch.noted ls e x.1 b.assignments = b.assignments := by
    simp [Batch.noted, hlink]
  apply Batch.saveEvent_eq_ok.2
  refine ⟨b, b.store, hwrite, hsync, ?_⟩
  rw [hnoted]

/-! ## Catalogues -/

/-- Whether the binary numbers in stored predicates survive their text. -/
def KeepsNumbers (s : Store) : Prop :=
  ∀ row (p : Predicate), s.predicateCell? row = some (.blob p.toBytes) →
    (∃ condition, p.compile .event = .ok condition) → p.KeepsNumbers

/-- Where numbers survive, a catalogue is loaded with the predicate that was stored. -/
theorem Recalls.predicate_eq {c stored : Catalogue} (hnumbers : s.KeepsNumbers)
    (hcell : s.predicateCell? id = some stored.cells.predicate) (hstored : stored.Storable)
    (hread : (Predicate.Stored.of stored.predicate).read stored.name = .ok c.predicate) :
    c.predicate = stored.predicate := by
  cases hp : stored.predicate with
  | none =>
    rw [hp, Predicate.Stored.read_of] at hread
    exact (Except.ok.inj hread).symm
  | some p =>
    obtain ⟨condition, hcompile⟩ := hstored.2 p hp
    have hblob : stored.cells.predicate = .blob p.toBytes := by
      simp [Catalogue.cells, Predicate.Stored.of, hp]
    rw [hblob] at hcell
    rw [hp, Predicate.Stored.read_eq_ok hcompile] at hread
    rw [← hread.2, p.reread?_eq_some (hnumbers id p hcell ⟨condition, hcompile⟩)]

theorem Recalls.eq_stored {x : RowId × CatalogueRow} {c : Catalogue} (h : Recalls ls x c)
    (hnumbers : s.KeepsNumbers) (hx : s.catalogues.get? x.1 = some x.2) :
    ∃ stored : Catalogue, stored.Storable ∧ x.2 = stored.row x.2.members ∧
      s.attributes .catalogue x.1 = .of stored.attributes ∧
      c = { stored with
        attributes := stored.attributes.map Value.settled
        additions := []
        removals := []
        link := c.link } := by
  obtain ⟨-, stored, hstored, hrow, hread, hc⟩ := h
  have hcell : s.predicateCell? x.1 = some stored.cells.predicate := by
    rw [predicateCell?, hx, hrow]
    rfl
  have hpredicate := Recalls.predicate_eq hnumbers hcell hstored hread
  refine ⟨stored, hstored, hrow, ?_, ?_⟩
  · rw [attributes, hx, hrow]
    rfl
  · rw [hpredicate] at hc
    exact hc

theorem Conforms.check_catalogue (hs : s.Conforms settings) (hnumbers : s.KeepsNumbers)
    {x : RowId × CatalogueRow} (hx : s.catalogues.get? x.1 = some x.2) {c : Catalogue}
    (h : Recalls ls x c) : c.check settings = .ok () := by
  have hkeys := hs.keyed .catalogue x.1
  obtain ⟨stored, ⟨hattributes, hcompile⟩, -, htable, hc⟩ := h.eq_stored hnumbers hx
  rw [htable] at hkeys
  rw [hc]
  apply Catalogue.check_eq_ok.2
  refine ⟨hkeys.admits hattributes, Catalogue.checkPredicate_eq_ok.2 ?_, ?_⟩
  · intro p hp
    exact ⟨rfl, rfl, hcompile p hp⟩
  · intro e he
    cases he

/-- A catalogue that was loaded is written as it is stored. -/
theorem Conforms.saveCatalogue_loaded {b : Batch} (hs : b.store.Conforms settings)
    (hnumbers : b.store.KeepsNumbers) {x : RowId × CatalogueRow}
    (hx : b.store.catalogues.get? x.1 = some x.2) {c : Catalogue} (h : Recalls ls x c) :
    Batch.saveCatalogue settings ls c b = .ok x.1 b := by
  have hlink := h.1
  obtain ⟨stored, ⟨hattributes, -⟩, hrow, htable, hc⟩ := h.eq_stored hnumbers hx
  have hcells : x.2 = c.cells.over x.2.attributes x.2.members := by
    rw [hc, hrow]
    rfl
  have hwrite : Batch.writeCatalogue ls c b = .ok x.1 b := by
    apply Batch.writeCatalogue_eq_ok.2
    refine .inl ⟨Batch.catalogueRow?_of_row? hlink, ?_⟩
    rw [updateCatalogue_self hx hcells]
  have howner : b.store.ownerExists .catalogue x.1 = true := contains_of_get? hx
  have hsync : syncAttributes settings.keyPolicy .catalogue x.1 c.attributes b.store =
      .ok () b.store := by
    rw [hc]
    exact syncAttributes_settled howner hattributes htable (hs.keyed .catalogue x.1)
  apply Batch.saveCatalogue_eq_ok.2
  refine ⟨b, [], b, b, b.store, hwrite, ?_, rfl, hsync, rfl⟩
  rw [hc]
  rfl

/-! ## Batches -/

/-- Whether an entity is what is read of a stored row, and is linked to this row. -/
def IsLoaded (s : Store) (ls : Links) : Entity → Prop
  | .event e => ∃ x ∈ s.events.entries, RecallsEvent ls x e
  | .catalogue c => ∃ x ∈ s.catalogues.entries, Recalls ls x c

theorem Conforms.check_loaded (hs : s.Conforms settings) (hnumbers : s.KeepsNumbers) {x : Entity}
    (h : s.IsLoaded ls x) : x.check settings = .ok () := by
  cases x with
  | event e =>
    obtain ⟨row, hrow, hrecalls⟩ := h
    exact hs.check_event (SortedMap.get?_eq_some_iff.2 hrow) hrecalls
  | catalogue c =>
    obtain ⟨row, hrow, hrecalls⟩ := h
    exact hs.check_catalogue hnumbers (SortedMap.get?_eq_some_iff.2 hrow) hrecalls

theorem Conforms.saveEntity_loaded {b : Batch} (hs : b.store.Conforms settings)
    (hnumbers : b.store.KeepsNumbers) {x : Entity} (h : b.store.IsLoaded ls x) :
    Batch.saveEntity settings ls x b = .ok () b := by
  cases x with
  | event e =>
    obtain ⟨row, hrow, hrecalls⟩ := h
    apply Batch.saveEntity_event_eq_ok.2
    exact ⟨row.1, hs.saveEvent_loaded (SortedMap.get?_eq_some_iff.2 hrow) hrecalls⟩
  | catalogue c =>
    obtain ⟨row, hrow, hrecalls⟩ := h
    apply Batch.saveEntity_catalogue_eq_ok.2
    exact ⟨row.1, hs.saveCatalogue_loaded hnumbers (SortedMap.get?_eq_some_iff.2 hrow) hrecalls⟩

theorem Conforms.forM_loaded {b : Batch} (hs : b.store.Conforms settings)
    (hnumbers : b.store.KeepsNumbers) {batch : List Entity} (h : ∀ x ∈ batch, b.store.IsLoaded ls x) :
    batch.forM (Batch.saveEntity settings ls) b = .ok () b := by
  induction batch with
  | nil => rfl
  | cons x batch ih =>
    obtain ⟨hx, hrest⟩ := List.forall_mem_cons.1 h
    exact bind_eq_ok.2 ⟨(), b, hs.saveEntity_loaded hnumbers hx, ih hrest⟩

theorem IsLoaded.saved_eq {x : Entity} (h : s.IsLoaded ls x) : x.saved = x := by
  cases x with
  | event e => rfl
  | catalogue c =>
    obtain ⟨row, -, -, stored, -, -, -, hc⟩ := h
    rw [hc]
    rfl

/-- A batch of what was loaded is saved and changes nothing. -/
theorem Conforms.save_loaded (hs : s.Conforms settings) (hnumbers : s.KeepsNumbers) {batch : List Entity}
    (h : ∀ x ∈ batch, s.IsLoaded ls x) : save settings batch ⟨s, ls⟩ = .ok batch ⟨s, ls⟩ := by
  have hchecks : ∀ x ∈ batch, x.check settings = .ok () := by
    intro x hx
    exact hs.check_loaded hnumbers (h x hx)
  have hrun : batch.forM (Batch.saveEntity settings ls) (.begin s) = .ok () (.begin s) :=
    Conforms.forM_loaded (b := .begin s) hs hnumbers h
  have hsaved : batch.map Entity.saved = batch := by
    rw [List.map_congr_left fun x hx => (h x hx).saved_eq, List.map_id']
  apply save_eq_ok.2
  exact ⟨hchecks, .begin s, hrun, hsaved.symm, rfl⟩

/-! ## Queries -/

theorem extends_of_getEvents [Sql.Engine] {base : Option Base} {es : List Event}
    (h : getEvents base ⟨s, ls⟩ = .ok (es, ls')) : ls.Extends ls' (es.map Event.link) := by
  obtain ⟨c, -, h⟩ := except_bind_eq_ok.1 h
  obtain ⟨rs, -, h⟩ := except_bind_eq_ok.1 h
  exact extends_of_restoreEach s.link_of_event h

theorem extends_of_getCatalogues [Sql.Engine] {base : Option Base} {cs : List Catalogue}
    (h : getCatalogues base ⟨s, ls⟩ = .ok (cs, ls')) : ls.Extends ls' (cs.map Catalogue.link) := by
  obtain ⟨c, -, h⟩ := except_bind_eq_ok.1 h
  obtain ⟨rs, -, h⟩ := except_bind_eq_ok.1 h
  exact extends_of_restoreEach s.link_of_catalogue h

/-- Everything is loaded: the events before the catalogues, or after them. -/
inductive Loads [Sql.Engine] (s : Store) (ls : Links) : List Event → List Catalogue → Links → Prop
  | eventsFirst {es : List Event} {cs : List Catalogue} {ls₁ ls₂ : Links}
      (hes : getEvents none ⟨s, ls⟩ = .ok (es, ls₁)) (hcs : getCatalogues none ⟨s, ls₁⟩ = .ok (cs, ls₂)) :
      Loads s ls es cs ls₂
  | cataloguesFirst {es : List Event} {cs : List Catalogue} {ls₁ ls₂ : Links}
      (hcs : getCatalogues none ⟨s, ls⟩ = .ok (cs, ls₁)) (hes : getEvents none ⟨s, ls₁⟩ = .ok (es, ls₂)) :
      Loads s ls es cs ls₂

theorem Sound.recalls_of_getEvents [Sql.Engine] (hs : s.Sound) {es : List Event}
    (h : getEvents none ⟨s, ls⟩ = .ok (es, ls')) : List.Forall₂ (RecallsEvent ls') s.events.entries es := by
  obtain ⟨es', ls'', hes, hrecalls⟩ := hs.exists_getEvents ls
  rw [h] at hes
  cases hes
  exact hrecalls

variable {es : List Event} {cs : List Catalogue}

/-- All that was loaded is linked to its rows, whichever query came first. -/
theorem Sound.isLoaded [Sql.Engine] (hs : s.Sound) (h : Loads s ls es cs ls') :
    (∀ e ∈ es, s.IsLoaded ls' (.event e)) ∧ ∀ c ∈ cs, s.IsLoaded ls' (.catalogue c) := by
  cases h with
  | eventsFirst hes hcs =>
    have hextends := extends_of_getEvents hes
    have hkept := (extends_of_getCatalogues hcs).kept
    constructor
    · intro e he
      obtain ⟨x, hx, hlink, hstored⟩ := exists_left_of_mem (hs.recalls_of_getEvents hes) he
      have hlt := hextends.lt_made e.link (List.mem_map_of_mem he)
      exact ⟨x, hx, (hkept e.link hlt).trans hlink, hstored⟩
    · intro c hc
      exact exists_left_of_mem (hs.recalls_of_getCatalogues hcs) hc
  | cataloguesFirst hcs hes =>
    have hextends := extends_of_getCatalogues hcs
    have hkept := (extends_of_getEvents hes).kept
    constructor
    · intro e he
      exact exists_left_of_mem (hs.recalls_of_getEvents hes) he
    · intro c hc
      obtain ⟨x, hx, hlink, hstored⟩ := exists_left_of_mem (hs.recalls_of_getCatalogues hcs) hc
      have hlt := hextends.lt_made c.link (List.mem_map_of_mem hc)
      exact ⟨x, hx, (hkept c.link hlt).trans hlink, hstored⟩

/-- Every row is loaded once. -/
theorem Sound.length_of_loads [Sql.Engine] (hs : s.Sound) (h : Loads s ls es cs ls') :
    es.length = s.events.entries.length ∧ cs.length = s.catalogues.entries.length := by
  cases h with
  | eventsFirst hes hcs =>
    exact ⟨(hs.recalls_of_getEvents hes).length_eq.symm, (hs.recalls_of_getCatalogues hcs).length_eq.symm⟩
  | cataloguesFirst hcs hes =>
    exact ⟨(hs.recalls_of_getEvents hes).length_eq.symm, (hs.recalls_of_getCatalogues hcs).length_eq.symm⟩

/-- Where all catalogues can be loaded, so can all events, and whatever part of them is saved without having
been edited, in whatever order, the store stays as it is. -/
theorem ReachableWith.save_unedited [Sql.Engine] (h : s.ReachableWith settings) (hnumbers : s.KeepsNumbers)
    (hlisted : ∃ cs ls', getCatalogues none ⟨s, ls⟩ = .ok (cs, ls')) :
    (∃ es cs ls', Loads s ls es cs ls') ∧
    ∀ es cs ls' batch, Loads s ls es cs ls' →
      (∀ x ∈ batch, (∃ e ∈ es, x = .event e) ∨ ∃ c ∈ cs, x = .catalogue c) →
        save settings batch ⟨s, ls'⟩ = .ok batch ⟨s, ls'⟩ := by
  have hs := h.conforms
  constructor
  · obtain ⟨cs, ls₁, hcs⟩ := hlisted
    obtain ⟨es, ls₂, hes, -⟩ := hs.sound.exists_getEvents ls₁
    exact ⟨es, cs, ls₂, .cataloguesFirst hcs hes⟩
  · intro es cs ls' batch hloads hbatch
    obtain ⟨hevents, hcatalogues⟩ := hs.sound.isLoaded hloads
    apply hs.save_loaded hnumbers
    intro x hx
    rcases hbatch x hx with ⟨e, he, rfl⟩ | ⟨c, hc, rfl⟩
    · exact hevents e he
    · exact hcatalogues c hc

end

/-- An event with a number, a catalogue with two events and one with a predicate. -/
def shelved : Store :=
  let w : Event := { tremor "w" 3 with attributes := SortedMap.empty.insert "score" (.integer 5) }
  (left (save .standard [.catalogue tremors, .catalogue { Saving.notes with link := ⟨4⟩ }, .event w]
    ⟨.empty, ⟨5, .empty⟩⟩)).store

theorem toBytes_of_predicateCell?_shelved [Regex.Library] {row : RowId} {p : Predicate}
    (h : shelved.predicateCell? row = some (.blob p.toBytes)) :
    p.toBytes = (Predicate.has "score").toBytes := by
  have hcells : ∀ x ∈ shelved.catalogues.entries,
      x.2.predicate = .null ∨ x.2.predicate = .blob (Predicate.has "score").toBytes := by
    decide +kernel
  obtain ⟨r, hr, hpredicate⟩ := Option.map_eq_some_iff.1 h
  rcases hcells (row, r) (SortedMap.get?_eq_some_iff.1 hr) with hnull | hblob
  · rw [hnull] at hpredicate
    cases hpredicate
  · exact Cell.blob.inj (hpredicate.symm.trans hblob)

/-- All is loaded, and saved again in another order and partly twice. -/
theorem save_unedited_shelved : ∃ es cs ls', Loads shelved .none es cs ls' ∧ es.length = 3 ∧ cs.length = 2 ∧
    let batch := es.reverse.map Entity.event ++ cs.map Entity.catalogue ++ es.map Entity.event
    save .standard batch ⟨shelved, ls'⟩ = .ok batch ⟨shelved, ls'⟩ := by
  have hreachable : shelved.ReachableWith .standard := .single (.save _ _ .empty)
  have hsound := hreachable.conforms.sound
  have hshallow : shelved.Shallow := by
    intro row p hcell
    rw [Predicate.nesting_of_toBytes_eq (toBytes_of_predicateCell?_shelved hcell)]
    decide
  have hnumbers : shelved.KeepsNumbers := by
    intro row p hcell _ x hx
    have hjson := Predicate.toJson_of_toBytes_eq (toBytes_of_predicateCell?_shelved hcell)
    have htag := congrArg Json.tagged? hjson
    cases p with
    | has key => cases hx
    | _ => simp [Predicate.toJson, Json.tagged?_tagged] at htag
  have hlisted : ∃ cs ls', getCatalogues none ⟨shelved, .none⟩ = .ok (cs, ls') :=
    hsound.exists_getCatalogues_iff.2 hshallow
  obtain ⟨⟨es, cs, ls', hloads⟩, hsave⟩ := hreachable.save_unedited hnumbers hlisted
  obtain ⟨hes, hcs⟩ := hsound.length_of_loads hloads
  refine ⟨es, cs, ls', hloads, hes.trans (by decide +kernel), hcs.trans (by decide +kernel), ?_⟩
  apply hsave es cs ls' _ hloads
  intro x hx
  simp only [List.mem_append, List.mem_map, List.mem_reverse] at hx
  rcases hx with (⟨e, he, rfl⟩ | ⟨c, hc, rfl⟩) | ⟨e, he, rfl⟩
  · exact .inl ⟨e, he, rfl⟩
  · exact .inr ⟨c, hc, rfl⟩
  · exact .inl ⟨e, he, rfl⟩

end Store

end Chronicle
