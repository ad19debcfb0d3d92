import Chronicle.Regex.Standard
import Chronicle.Proofs.Save.Progress

/-!
# Saving again

Once a batch is saved, its entities know their rows and have no edits left. To save them again is to write
each over its row. A row that several copies share goes through all of them and holds the last in the end,
as it did before.
-/
namespace Chronicle

namespace Entity

def kind : Entity → EntityKind
  | event _ => .event
  | catalogue _ => .catalogue

def link : Entity → Link
  | event e => e.link
  | catalogue c => c.link

/-- Where links know an entity to be: a row among those for its kind. -/
def place? (ls : Links) (x : Entity) : Option (EntityKind × RowId) := (ls.row? x.link).map (x.kind, ·)

variable {ls : Links} {x : Entity} {id : RowId}

theorem place?_of_row? (h : ls.row? x.link = some id) : x.place? ls = some (x.kind, id) := by
  rw [place?, h]
  rfl

theorem link_saved (x : Entity) : x.saved.link = x.link := by cases x <;> rfl

theorem place?_saved (ls : Links) (x : Entity) : x.saved.place? ls = x.place? ls := by cases x <;> rfl

theorem saved_saved (x : Entity) : x.saved.saved = x.saved := by cases x <;> rfl

/-- What passed the checks passes them again. -/
theorem check_saved [Regex.Library] {settings : Settings} (h : x.check settings = .ok ()) :
    x.saved.check settings = .ok () := by
  cases x with
  | event e => exact h
  | catalogue c =>
    obtain ⟨hattributes, hpredicate, -⟩ := Catalogue.check_eq_ok.1 h
    refine Catalogue.check_eq_ok.2
      ⟨hattributes, Catalogue.checkPredicate_eq_ok.2 fun p hp => ?_, List.forall_mem_nil _⟩
    obtain ⟨-, -, hcompiles⟩ := Catalogue.checkPredicate_eq_ok.1 hpredicate p hp
    exact ⟨rfl, rfl, hcompiles⟩

theorem on_saved {r : Roster} (h : x.On r) : x.saved.On r := by
  cases x with
  | event e => exact h
  | catalogue c => exact ⟨h.1, List.forall_mem_nil _, List.forall_mem_nil _⟩

end Entity

/-- The last entity of a batch that links know to be in a place. -/
def lastAt? (ls : Links) (p : EntityKind × RowId) (es : List Entity) : Option Entity :=
  (es.filter fun x => x.place? ls == some p).getLast?

section LastAt

variable {ls : Links} {p : EntityKind × RowId} {x : Entity} {es : List Entity}

theorem lastAt?_cons (ls : Links) (p : EntityKind × RowId) (x : Entity) (es : List Entity) :
    lastAt? ls p (x :: es) = (lastAt? ls p es).or (if x.place? ls = some p then some x else none) := by
  unfold lastAt?
  by_cases hx : x.place? ls = some p
  · simp [hx, List.getLast?_cons, Option.or_some]
  · simp [hx]

theorem lastAt?_cons_of_ne (hx : x.place? ls ≠ some p) : lastAt? ls p (x :: es) = lastAt? ls p es := by
  rw [lastAt?_cons, if_neg hx, Option.or_none]

theorem lastAt?_eq_none : lastAt? ls p es = none ↔ ∀ x ∈ es, x.place? ls ≠ some p := by
  simp [lastAt?]

theorem lastAt?_saved (ls : Links) (p : EntityKind × RowId) (es : List Entity) :
    lastAt? ls p (es.map Entity.saved) = (lastAt? ls p es).map Entity.saved := by
  simp only [lastAt?, List.filter_map, List.getLast?_map, Function.comp_def, Entity.place?_saved]

end LastAt

namespace Store

variable {s : Store} {id : RowId} {x : Entity}

/-- Whether a row holds an entity, whatever its members are. -/
def Records (s : Store) (id : RowId) : Entity → Prop
  | .event e => s.events.get? id = some e.row
  | .catalogue c => s.content? id = some (c.row .empty)

theorem records_saved : s.Records id x.saved ↔ s.Records id x := by cases x <;> rfl

/-- The store with an entity in place of the one in a row. A catalogue leaves the members as they are. -/
def withEntity (s : Store) (id : RowId) : Entity → Store
  | .event e => { s with events := s.events.insert id e.row }
  | .catalogue c => { s with catalogues := s.catalogues.insert id (c.row (s.members id)) }

theorem get?_of_content? {c : Catalogue} (h : s.content? id = some (c.row .empty)) :
    s.catalogues.get? id = some (c.row (s.members id)) := by
  obtain ⟨row, hrow, hcontent⟩ := Option.map_eq_some_iff.1 h
  rw [members, hrow]
  cases row
  cases hcontent
  rfl

end Store

namespace Batch

variable {r : Roster} {settings : Settings} {ls : Links} {b b' : Batch} {x y : Entity} {es : List Entity}
  {id k : RowId} {s : Store} {p : EntityKind × RowId}

/-! ## What the first save leaves -/

section

variable [Regex.Library]

theorem row?_link_of_saveCatalogue {c : Catalogue} (hb : b.store.Sound) (hcoherent : Coherent r ls b)
    (hc : c.check settings = .ok ()) (hon : c.On r) (h : saveCatalogue settings ls c b = .ok id b') :
    (b'.links ls).row? c.link = some id := by
  obtain ⟨b₁, rest, b₂, hwrite, hremove, hdeeds⟩ := deeds_of_saveCatalogue hb hc h
  have hwritten := does_of_writeCatalogue hwrite
  have hlater : Deeds ls (Deed.On r) b₁ b' := by
    refine hdeeds.mono fun d hd => ?_
    have hd' : d.Of (.catalogue c) id := hd.mono fun e he => applyRemovals_subset hremove e he
    exact hd'.on hon
  exact hlater.row?_eq_some (fun _ hd => hd) (hwritten.coherent hon.1 hcoherent)
    (hwritten.row?_of_learns hon.1 hcoherent rfl)

/-- The link of an entity knows its row from then on. The row holds the entity, and all other rows hold what
they did. -/
theorem records_saveEvent {e : Event} (hb : Tidy r ls b) (hcoherent : Coherent r ls b)
    (he : e.check settings = .ok ()) (hon : e.On r) (h : saveEvent settings ls e b = .ok id b') :
    (b'.links ls).row? e.link = some id ∧ b'.store.Records id (.event e) ∧
      ∀ y k, (EntityKind.event, id) ≠ (y.kind, k) → b.store.Records k y → b'.store.Records k y := by
  obtain ⟨d, hd, hdoes⟩ := does_of_saveEvent hb.sound h
  have hdon : d.On r := Deed.Of.on (x := .event e) hd hon
  have hlearns : d.learns = some (e.link, id) := by rcases hd with rfl | rfl <;> rfl
  refine ⟨hdoes.row?_of_learns hdon hcoherent hlearns, ?_, ?_⟩
  · change b'.store.events.get? id = some e.row
    rcases hd with rfl | rfl
    · obtain ⟨row, hrow, -⟩ := Option.map_eq_some_iff.1 (hb.placed.event e hon id hdoes.of_overwrite)
      rw [hdoes.get?_events, hrow]
      exact if_pos rfl
    · exact hdoes.of_insert.2.2.1
  · intro y k hne hy
    cases y with
    | event f =>
      have hid : id ≠ k := fun heq => hne (by rw [heq]; rfl)
      change b'.store.events.get? k = some f.row
      rw [hdoes.get?_events, ← show b.store.events.get? k = some f.row from hy]
      rcases hd with rfl | rfl <;> exact if_neg hid
    | catalogue d =>
      change (b'.store.catalogues.get? k).map _ = _
      rw [get?_saveEvent he h]
      exact hy

theorem records_saveCatalogue {c : Catalogue} (hb : Tidy r ls b) (hcoherent : Coherent r ls b)
    (hc : c.check settings = .ok ()) (hon : c.On r) (h : saveCatalogue settings ls c b = .ok id b') :
    (b'.links ls).row? c.link = some id ∧ b'.store.Records id (.catalogue c) ∧
      ∀ y k, (EntityKind.catalogue, id) ≠ (y.kind, k) → b.store.Records k y → b'.store.Records k y := by
  have hknown := row?_link_of_saveCatalogue hb.sound hcoherent hc hon h
  obtain ⟨hdeeds, hsound⟩ := deeds_on_of_saveEntity (x := .catalogue c) hb.sound hc hon
    (saveEntity_catalogue_eq_ok.2 ⟨id, h⟩)
  have hafter := hdeeds.coherent (fun _ hd => hd) hcoherent
  refine ⟨hknown, ?_, ?_⟩
  · refine (content?_saveCatalogue hb.sound hc h).resolve_left fun hnone => ?_
    have hthere := (hdeeds.placed hb.placed).catalogue c hon.1 id ((hafter.catalogue c hon.1).trans hknown)
    rw [SortedMap.contains, Option.map_eq_none_iff.1 hnone] at hthere
    cases hthere
  · intro y k hne hy
    cases y with
    | event f =>
      exact (reconciles_saveCatalogue hb.sound hc h).deeds.preserve
        (P := fun b => b.store.events.get? k = some f.row)
        (fun _ _ _ hd hdoes => hdoes.get?_events_of_catalogue hd) hy
    | catalogue d =>
      have hid : id ≠ k := fun heq => hne (by rw [heq]; rfl)
      change (b'.store.catalogues.get? k).map _ = _
      rw [get?_saveCatalogue_of_ne hc hid h]
      exact hy

theorem records_saveEntity (hb : Tidy r ls b) (hcoherent : Coherent r ls b) (hx : x.check settings = .ok ())
    (hon : x.On r) (h : saveEntity settings ls x b = .ok () b') : ∃ id,
      (b'.links ls).row? x.link = some id ∧ b'.store.Records id x ∧
        ∀ y k, (x.kind, id) ≠ (y.kind, k) → b.store.Records k y → b'.store.Records k y := by
  cases x with
  | event e =>
    obtain ⟨id, h⟩ := saveEntity_event_eq_ok.1 h
    exact ⟨id, records_saveEvent hb hcoherent hx hon h⟩
  | catalogue c =>
    obtain ⟨id, h⟩ := saveEntity_catalogue_eq_ok.1 h
    exact ⟨id, records_saveCatalogue hb hcoherent hx hon h⟩

/-- A row holds what it did if none of the entities is in its place. -/
theorem records_forM (hb : Tidy r ls b) (hcoherent : Coherent r ls b)
    (hes : ∀ x ∈ es, x.check settings = .ok ()) (hon : ∀ x ∈ es, x.On r)
    (h : es.forM (saveEntity settings ls) b = .ok () b') (hy : b.store.Records k y)
    (hother : ∀ x ∈ es, x.place? (b'.links ls) ≠ some (y.kind, k)) : b'.store.Records k y := by
  induction es generalizing b with
  | nil =>
    obtain ⟨-, rfl⟩ := pure_eq_ok.1 h
    exact hy
  | cons x es ih =>
    obtain ⟨_, b₁, hx, hrest⟩ := bind_eq_ok.1 h
    obtain ⟨hcheck, hchecks⟩ := List.forall_mem_cons.1 hes
    obtain ⟨honx, hons⟩ := List.forall_mem_cons.1 hon
    obtain ⟨hfirst, hothers⟩ := List.forall_mem_cons.1 hother
    obtain ⟨-, hb₁⟩ := rowOf?_saveEntity hb hcheck honx hx
    obtain ⟨hdeeds, -⟩ := deeds_on_of_saveEntity hb.sound hcheck honx hx
    have hcoherent₁ := hdeeds.coherent (fun _ hd => hd) hcoherent
    obtain ⟨hlater, -⟩ := deeds_on_of_forM hb₁.sound hchecks hons hrest
    obtain ⟨id, hknown, -, hkept⟩ := records_saveEntity hb hcoherent hcheck honx hx
    have hplace := Entity.place?_of_row? (hlater.row?_eq_some (fun _ hd => hd) hcoherent₁ hknown)
    have hne : (x.kind, id) ≠ (y.kind, k) := fun heq => hfirst (by rw [hplace, heq])
    exact ih hb₁ hcoherent₁ hchecks hons hrest (hkept y k hne hy) hothers

/-- All entities of a batch come to be in a place, and a place holds the last of those that are in it. -/
theorem records_lastAt? (hb : Tidy r ls b) (hcoherent : Coherent r ls b)
    (hes : ∀ x ∈ es, x.check settings = .ok ()) (hon : ∀ x ∈ es, x.On r)
    (h : es.forM (saveEntity settings ls) b = .ok () b') :
    (∀ x ∈ es, ∃ id, (b'.links ls).row? x.link = some id) ∧
    ∀ p x, lastAt? (b'.links ls) p es = some x → b'.store.Records p.2 x := by
  induction es generalizing b with
  | nil => exact ⟨List.forall_mem_nil _, fun _ _ h => by cases h⟩
  | cons x es ih =>
    obtain ⟨_, b₁, hx, hrest⟩ := bind_eq_ok.1 h
    obtain ⟨hcheck, hchecks⟩ := List.forall_mem_cons.1 hes
    obtain ⟨honx, hons⟩ := List.forall_mem_cons.1 hon
    obtain ⟨-, hb₁⟩ := rowOf?_saveEntity hb hcheck honx hx
    obtain ⟨hdeeds, -⟩ := deeds_on_of_saveEntity hb.sound hcheck honx hx
    have hcoherent₁ := hdeeds.coherent (fun _ hd => hd) hcoherent
    obtain ⟨hlater, -⟩ := deeds_on_of_forM hb₁.sound hchecks hons hrest
    obtain ⟨id, hknown, hheld, -⟩ := records_saveEntity hb hcoherent hcheck honx hx
    have hknown' := hlater.row?_eq_some (fun _ hd => hd) hcoherent₁ hknown
    obtain ⟨hplaces, hlast⟩ := ih hb₁ hcoherent₁ hchecks hons hrest
    refine ⟨List.forall_mem_cons.2 ⟨⟨id, hknown'⟩, hplaces⟩, fun p y hy => ?_⟩
    rw [lastAt?_cons] at hy
    rcases Option.or_eq_some_iff.1 hy with hy | ⟨hnone, hy⟩
    · exact hlast p y hy
    · rw [Option.ite_none_right_eq_some] at hy
      obtain ⟨hplace, hxy⟩ := hy
      cases hxy
      obtain rfl := Option.some.inj ((Entity.place?_of_row? hknown').symm.trans hplace)
      exact records_forM hb₁ hcoherent₁ hchecks hons hrest hheld (lastAt?_eq_none.1 hnone)

/-! ## What the second save does -/

theorem saveEvent_of_row? {e : Event} (hb : Tidy r ls b) (he : e.check settings = .ok ()) (hon : e.On r)
    (hrow : ls.row? e.link = some id) : saveEvent settings ls e b =
      .ok id { b with store := b.store.withEntity id (.event e) } := by
  have hfound : b.eventRow? ls e = some id := eventRow?_of_row? hrow
  obtain ⟨s, hupdate, hthere⟩ := hb.exists_updateEvent hon hfound
  have howner : s.ownerExists .event id = true := hthere
  obtain ⟨ha, -⟩ := Event.check_eq_ok.1 he
  obtain ⟨row, hget, hfree, hs⟩ : ∃ row, b.store.events.get? id = some row ∧ _ ∧ _ := by
    rcases Store.updateEvent_eq_ok.1 hupdate with ⟨hnone, rfl⟩ | hover
    · rw [SortedMap.contains, hnone] at hthere
      cases hthere
    · exact hover
  obtain ⟨a, hstorable, hattributes⟩ := (hb.sound.events id row hget).attributes
  have hover : s.events.get? id = some (e.cells.over row.attributes) := by
    rw [hs]
    exact SortedMap.get?_insert_self ..
  have hstored : s.attributes .event id = .of a := by
    rw [Store.attributes, hover]
    exact hattributes
  have hsync := Store.syncAttributes_eq howner ha hstorable hstored
  have hlinked : ¬ (ls.row? e.link).isNone = true := by simp [hrow]
  refine saveEvent_eq_ok.2 ⟨_, _, writeEvent_eq_ok.2 (.inl ⟨hfound, s, hupdate, rfl⟩), hsync, ?_⟩
  rw [store_of_sync ⟨a, hstorable, hattributes⟩ hover hsync, hs, noted, if_neg hlinked]
  simp only [Store.withEntity, SortedMap.insert_insert_self]

theorem saveCatalogue_of_row? {c : Catalogue} (hb : Tidy r ls b) (hc : c.check settings = .ok ())
    (hon : c.On r) (hrow : ls.row? c.link = some id) (hadditions : c.additions = [])
    (hremovals : c.removals = []) : saveCatalogue settings ls c b =
      .ok id { b with store := b.store.withEntity id (.catalogue c) } := by
  have hfound : b.catalogueRow? ls c = some id := catalogueRow?_of_row? hrow
  obtain ⟨row, hget⟩ := Option.isSome_iff_exists.1 (hb.placed.catalogue c hon.1 id hfound)
  obtain ⟨ha, -⟩ := Catalogue.check_eq_ok.1 hc
  have hsound : (b.store.updateCatalogue id c.cells).Sound := hb.sound.change (.updateCatalogue c hc)
  have hupdated := Store.updateCatalogue_of_get? (c := c.cells) hget
  have howner : (b.store.updateCatalogue id c.cells).ownerExists .catalogue id = true := by
    rw [hupdated]
    exact SortedMap.contains_insert.2 (.inl rfl)
  have hsync := hsound.syncAttributes_eq howner ha
  have hstore : (b.store.updateCatalogue id c.cells).withTable .catalogue id (.of c.attributes) =
      b.store.withEntity id (.catalogue c) := by
    simp only [hupdated, Store.withTable, Store.withAttributes, SortedMap.get?_insert_self,
      SortedMap.insert_insert_self, Store.withEntity, Store.members, hget]
    rfl
  rw [hstore] at hsync
  have hremove (b' : Batch) : applyRemovals ls id c.removals c.additions b' = .ok [] b' := by
    rw [hremovals, hadditions]
    rfl
  exact saveCatalogue_eq_ok.2 ⟨_, [], _, _, _, writeCatalogue_eq_ok.2 (.inl ⟨hfound, rfl⟩), hremove _, rfl,
    hsync, rfl⟩

/-- Saving an entity that knows its row and has no edits left is to put it in this row. -/
theorem saveEntity_of_row? (hb : Tidy r ls b) (hx : x.check settings = .ok ()) (hon : x.On r)
    (hrow : ls.row? x.link = some id) (hsaved : x.saved = x) :
    saveEntity settings ls x b = .ok () { b with store := b.store.withEntity id x } := by
  cases x with
  | event e => exact saveEntity_event_eq_ok.2 ⟨id, saveEvent_of_row? hb hx hon hrow⟩
  | catalogue c =>
    obtain ⟨hadditions, hremovals⟩ : c.additions = [] ∧ c.removals = [] := by
      injection hsaved with hsaved
      rw [← hsaved]
      exact ⟨rfl, rfl⟩
    exact saveEntity_catalogue_eq_ok.2 ⟨id, saveCatalogue_of_row? hb hx hon hrow hadditions hremovals⟩

end

/-- Whether a batch that saves anew has a store again, up to the rows that entities are still to be put in. -/
structure Restores (ls : Links) (s : Store) (es : List Entity) (b : Batch) : Prop where
  events : ∀ id, lastAt? ls (.event, id) es = none → b.store.events.get? id = s.events.get? id
  catalogues : ∀ id, lastAt? ls (.catalogue, id) es = none →
    b.store.catalogues.get? id = s.catalogues.get? id
  members : ∀ id, b.store.members id = s.members id
  lastEvent : b.store.lastEvent = s.lastEvent
  lastCatalogue : b.store.lastCatalogue = s.lastCatalogue
  assignments : b.assignments = []

theorem restores_begin (ls : Links) (s : Store) (es : List Entity) : Restores ls s es (begin s) :=
  ⟨fun _ _ => rfl, fun _ _ => rfl, fun _ => rfl, rfl, rfl, rfl⟩

theorem Restores.store_eq (h : Restores ls s [] b) : b.store = s := by
  have hevents : b.store.events = s.events := SortedMap.ext_get? fun id => h.events id rfl
  have hcatalogues : b.store.catalogues = s.catalogues := SortedMap.ext_get? fun id => h.catalogues id rfl
  have hlast := h.lastEvent
  have hlast' := h.lastCatalogue
  generalize b.store = s' at *
  cases s'
  cases s
  simp_all

/-- The last entity for a row that the store held brings the row back. -/
theorem Restores.withEntity (h : Restores ls s (x :: es) b) (hrow : ls.row? x.link = some id)
    (hlast : lastAt? ls (x.kind, id) es = none → s.Records id x) :
    Restores ls s es { b with store := b.store.withEntity id x } := by
  have hplace := Entity.place?_of_row? hrow
  have hstill {p : EntityKind × RowId} (hp : lastAt? ls p es = none) (hne : (x.kind, id) ≠ p) :
      lastAt? ls p (x :: es) = none := by
    rw [lastAt?_cons_of_ne fun heq => hne (Option.some.inj (hplace.symm.trans heq)), hp]
  cases x with
  | event e =>
    refine { h with events := fun k hk => ?_, catalogues := fun k hk => h.catalogues k (hstill hk nofun) }
    change (b.store.events.insert id e.row).get? k = _
    by_cases hid : id = k
    · subst hid
      rw [SortedMap.get?_insert_self]
      exact (hlast hk).symm
    · rw [SortedMap.get?_insert_of_ne _ _ hid]
      exact h.events k (hstill hk fun heq => hid (congrArg Prod.snd heq))
  | catalogue c =>
    refine { h with
      events := fun k hk => h.events k (hstill hk nofun)
      catalogues := fun k hk => ?_
      members := fun k => ?_ }
    · change (b.store.catalogues.insert id (c.row (b.store.members id))).get? k = _
      by_cases hid : id = k
      · subst hid
        rw [SortedMap.get?_insert_self, Store.get?_of_content? (hlast hk), h.members]
      · rw [SortedMap.get?_insert_of_ne _ _ hid]
        exact h.catalogues k (hstill hk fun heq => hid (congrArg Prod.snd heq))
    · rw [← h.members k, Store.members, Store.withEntity]
      by_cases hid : id = k
      · subst hid
        rw [SortedMap.get?_insert_self]
        rfl
      · rw [SortedMap.get?_insert_of_ne _ _ hid]
        rfl

/-- Saving entities anew goes well and brings every row back, if each row held the last of those in it. -/
theorem restores_forM [Regex.Library] (hb : Tidy r ls b) (hes : ∀ x ∈ es, x.check settings = .ok ())
    (hon : ∀ x ∈ es, x.On r) (hrows : ∀ x ∈ es, ∃ id, ls.row? x.link = some id)
    (hsaved : ∀ x ∈ es, x.saved = x) (hlast : ∀ p x, lastAt? ls p es = some x → s.Records p.2 x)
    (h : Restores ls s es b) :
    ∃ b', es.forM (saveEntity settings ls) b = .ok () b' ∧ Restores ls s [] b' := by
  induction es generalizing b with
  | nil => exact ⟨b, rfl, h⟩
  | cons x es ih =>
    obtain ⟨hcheck, hchecks⟩ := List.forall_mem_cons.1 hes
    obtain ⟨honx, hons⟩ := List.forall_mem_cons.1 hon
    obtain ⟨⟨id, hrow⟩, hrows⟩ := List.forall_mem_cons.1 hrows
    obtain ⟨hsame, hsaved⟩ := List.forall_mem_cons.1 hsaved
    have hx := saveEntity_of_row? hb hcheck honx hrow hsame
    obtain ⟨-, hb₁⟩ := rowOf?_saveEntity hb hcheck honx hx
    have hrestored := h.withEntity hrow fun hnone => hlast (x.kind, id) x (by
      rw [lastAt?_cons, hnone, if_pos (Entity.place?_of_row? hrow)]; rfl)
    obtain ⟨b', hrest, hdone⟩ := ih hb₁ hchecks hons hrows hsaved
      (fun p y hy => hlast p y (by rw [lastAt?_cons, hy]; rfl)) hrestored
    exact ⟨b', bind_eq_ok.2 ⟨(), _, hx, hrest⟩, hdone⟩

end Batch

/-- Saving again what was just saved goes well and changes nothing: no row, no id and no link. -/
theorem save_saved_eq_self [Regex.Library] {r : Roster} {settings : Settings} {es saved : List Entity}
    {w w' : World} (hw : w.Reachable r) (hon : ∀ x ∈ es, x.On r) (h : save settings es w = .ok saved w') :
    save settings saved w' = .ok saved w' := by
  obtain ⟨hreachable, hhome⟩ := hw.atHome
  have hreachable' : w'.store.Reachable := hreachable.save h
  have hhome' : AtHome r w' := by
    have hafter := hhome.save hreachable.sound settings hon
    rwa [h] at hafter
  obtain ⟨hchecks, b, hrun, rfl, rfl⟩ := save_eq_ok.1 h
  have hbegin : Batch.Tidy r w.links (.begin w.store) := Batch.tidy_begin hreachable hhome
  obtain ⟨hrows, hlast⟩ := Batch.records_lastAt? hbegin (Batch.coherent_begin ..) hchecks hon hrun
  have hall {P : Entity → Prop} (hP : ∀ x ∈ es, P x.saved) : ∀ x ∈ es.map Entity.saved, P x :=
    List.forall_mem_map.2 hP
  have hchecks' : ∀ x ∈ es.map Entity.saved, x.check settings = .ok () :=
    hall fun x hx => Entity.check_saved (hchecks x hx)
  have hrows' : ∀ x ∈ es.map Entity.saved, ∃ id, (b.links w.links).row? x.link = some id :=
    hall fun x hx => by
      rw [Entity.link_saved]
      exact hrows x hx
  have hlast' (p : EntityKind × RowId) (x : Entity)
      (hx : lastAt? (b.links w.links) p (es.map Entity.saved) = some x) : b.store.Records p.2 x := by
    rw [lastAt?_saved, Option.map_eq_some_iff] at hx
    obtain ⟨y, hy, rfl⟩ := hx
    exact Store.records_saved.2 (hlast p y hy)
  obtain ⟨b', hrun', hrestored⟩ := Batch.restores_forM (Batch.tidy_begin hreachable' hhome') hchecks'
    (hall fun x hx => Entity.on_saved (hon x hx)) hrows' (hall fun x _ => x.saved_saved) hlast'
    (Batch.restores_begin ..)
  refine save_eq_ok.2 ⟨hchecks', b', hrun', ?_, ?_⟩
  · rw [List.map_map]
    exact List.map_congr_left fun x _ => x.saved_saved.symm
  · have hlinks : b'.links (b.links w.links) = b.links w.links := by
      rw [Batch.links, hrestored.assignments]
      rfl
    rw [hrestored.store_eq, hlinks]

/-- Two copies of an event with different authors around a catalogue, of which another copy has another name
and other edits. -/
def reworded : List Entity :=
  [.event { tremor "u" 0 with author := "dave" }, .catalogue tremors,
    .catalogue { tremors with name := "shocks", additions := [tremor "w" 3], removals := [tremor "v" 1] },
    .event (tremor "u" 0)]

def rewordedRoster : Roster := fun l =>
  match l.number with
  | 0 => some (.event "u")
  | 1 => some (.event "v")
  | 3 => some (.event "w")
  | _ => some .catalogue

def rewordedWorld : World := left (save .standard reworded ⟨.empty, .none⟩)

/-- Saved again, the first copies are written over the last ones and these over them. -/
theorem save_saved_eq_self_reworded :
    (rewordedWorld.store.members 1).keys = [1, 3] ∧
    rewordedWorld.store.events.get? 1 = some (tremor "u" 0).row ∧
    ∃ saved, save .standard reworded ⟨.empty, .none⟩ = .ok saved rewordedWorld ∧
      save .standard saved rewordedWorld = .ok saved rewordedWorld := by
  have hreachable : World.Reachable rewordedRoster ⟨.empty, .none⟩ := .refl
  have hon : ∀ x ∈ reworded, x.On rewordedRoster := by decide
  have hsave : save .standard reworded ⟨.empty, .none⟩ = .ok _ rewordedWorld :=
    save_of_succeeds (by decide +kernel)
  exact ⟨by decide +kernel, by decide +kernel, _, hsave, save_saved_eq_self hreachable hon hsave⟩

end Chronicle
