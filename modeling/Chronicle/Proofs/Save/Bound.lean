import Chronicle.Proofs.Query.Found
import Chronicle.Proofs.Save.Again
import Chronicle.Proofs.Save.Hosts

/-!
# Links and the rows of their entities

Whose link it is is settled when the link is made: by then no entity has it and it knows no row, and what it
comes to know is a row of its own entity. A roster may grow with the links; what was on it stays on it, and
what was known stays known.
-/
namespace Chronicle

/-- Whether links know rows of their own entities, and nothing is said of links that are still to be made. -/
structure World.Bound [Regex.Library] (r : Roster) (w : World) : Prop where
  reachable : w.store.Reachable
  home : AtHome r w
  unmade : ∀ l : Link, w.links.made ≤ l.number → r l = none ∧ w.links.row? l = none

/-- Whether a roster and links came to be from others. -/
structure Grows (r : Roster) (ls : Links) (r' : Roster) (ls' : Links) : Prop where
  listed : ∀ l i, r l = some i → r' l = some i
  known : ∀ l id, ls.row? l = some id → ls'.row? l = some id

namespace Grows

variable {r r' r'' : Roster} {ls ls' ls'' : Links} {e : Event} {x : Entity}

theorem refl (r : Roster) (ls : Links) : Grows r ls r ls := ⟨fun _ _ h => h, fun _ _ h => h⟩

theorem trans (h : Grows r ls r' ls') (h' : Grows r' ls' r'' ls'') : Grows r ls r'' ls'' where
  listed l i hl := h'.listed l i (h.listed l i hl)
  known l id hl := h'.known l id (h.known l id hl)

theorem event_on (h : Grows r ls r' ls') (he : e.On r) : e.On r' := h.listed _ _ he

theorem on (h : Grows r ls r' ls') (hx : x.On r) : x.On r' := by
  cases x with
  | event e => exact h.event_on hx
  | catalogue c =>
    exact ⟨h.listed _ _ hx.1, fun e he => h.event_on (hx.2.1 e he), fun e he => h.event_on (hx.2.2 e he)⟩

end Grows

namespace Entity

/-- What an entity stands for. -/
def identity : Entity → Identity
  | event e => .event e.uuid
  | catalogue _ => .catalogue

/-- The events that are noted to be added or removed. -/
def pending : Entity → List Event
  | event _ => []
  | catalogue c => c.additions ++ c.removals

theorem on_iff {r : Roster} {x : Entity} : x.On r ↔ r x.link = some x.identity ∧ ∀ e ∈ x.pending, e.On r := by
  cases x with
  | event e => exact (and_iff_left (List.forall_mem_nil _)).symm
  | catalogue c => exact and_congr_right fun _ => List.forall_mem_append.symm

end Entity

namespace World.Bound

variable [Regex.Library] {r : Roster} {w : World} {i : Identity} {ls' : Links} {settings : Settings}
  {es saved : List Entity}
  {w' : World}

/-- All that is known of an entity is a row of its own. -/
theorem houses (h : w.Bound r) {x : Entity} (hx : x.On r) {id : RowId} (hid : w.links.row? x.link = some id) :
    w.store.Houses id x.identity := by
  cases x with
  | event e => exact h.home.event e hx id hid
  | catalogue c => exact h.home.catalogue c hx.1 id hid

/-! ## New links -/

/-- A link is made for an entity. Either it knows no row, or it knows one of the entity. -/
theorem made (h : w.Bound r) (i : Identity) (hmade : ls'.made = w.links.made + 1)
    (hrows : ∀ l, l ≠ ⟨w.links.made⟩ → ls'.row? l = w.links.row? l)
    (hnew : ∀ id, ls'.row? ⟨w.links.made⟩ = some id → w.store.Houses id i) :
    World.Bound (Function.update r ⟨w.links.made⟩ (some i)) { w with links := ls' } ∧
      Grows r w.links (Function.update r ⟨w.links.made⟩ (some i)) ls' := by
  obtain ⟨hunlisted, hunknown⟩ := h.unmade ⟨w.links.made⟩ (Nat.le_refl _)
  have hold {l : Link} (hl : r l ≠ none ∨ w.links.row? l ≠ none) : l ≠ ⟨w.links.made⟩ := by
    rintro rfl
    exact hl.elim (absurd hunlisted) (absurd hunknown)
  refine ⟨⟨h.reachable, ⟨?_, ?_⟩, ?_⟩, ⟨fun l j hl => ?_, fun l id hl => ?_⟩⟩
  · intro x hx id hid
    by_cases hl : x.link = ⟨w.links.made⟩
    · rw [Event.On, hl, Function.update_self, Option.some.injEq] at hx
      rw [hl] at hid
      subst hx
      exact hnew id hid
    · rw [Event.On, Function.update_of_ne hl] at hx
      exact h.home.event x hx id ((hrows _ hl).symm.trans hid)
  · intro c hc id hid
    by_cases hl : c.link = ⟨w.links.made⟩
    · rw [hl, Function.update_self, Option.some.injEq] at hc
      rw [hl] at hid
      subst hc
      exact hnew id hid
    · rw [Function.update_of_ne hl] at hc
      exact h.home.catalogue c hc id ((hrows _ hl).symm.trans hid)
  · intro l hl
    have hlater : w.links.made + 1 ≤ l.number := hmade ▸ hl
    have hne : l ≠ ⟨w.links.made⟩ := by
      rintro rfl
      exact absurd hlater (Nat.not_succ_le_self _)
    obtain ⟨hnone, hrow⟩ := h.unmade l (Nat.le_of_succ_le hlater)
    exact ⟨(Function.update_of_ne hne ..).trans hnone, (hrows l hne).trans hrow⟩
  · exact (Function.update_of_ne (hold (.inl (Option.ne_none_iff_exists'.2 ⟨j, hl⟩))) ..).trans hl
  · exact (hrows l (hold (.inr (Option.ne_none_iff_exists'.2 ⟨id, hl⟩)))).trans hl

theorem fresh (h : w.Bound r) (i : Identity) :
    World.Bound (Function.update r w.links.fresh.1 (some i)) { w with links := w.links.fresh.2 } ∧
      Grows r w.links (Function.update r w.links.fresh.1 (some i)) w.links.fresh.2 := by
  refine h.made i rfl (fun _ _ => rfl) fun id hid => ?_
  obtain ⟨-, hunknown⟩ := h.unmade ⟨w.links.made⟩ (Nat.le_refl _)
  cases hunknown.symm.trans hid

theorem freshTo (h : w.Bound r) {id : RowId} (hid : w.store.Houses id i) :
    World.Bound (Function.update r (w.links.freshTo id).1 (some i)) { w with links := (w.links.freshTo id).2 } ∧
      Grows r w.links (Function.update r (w.links.freshTo id).1 (some i)) (w.links.freshTo id).2 := by
  refine h.made i rfl (fun l hl => Links.row?_assign_of_ne _ _ (Ne.symm hl)) fun id' hid' => ?_
  rw [show id = id' from Option.some.inj ((Links.row?_assign_self ..).symm.trans hid')] at hid
  exact hid

/-! ## Entities that are read -/

/-- Every row that is read makes its link stand for the entity that it is a row of. -/
theorem restoreEach {α β : Type} {key : α → RowId} {make : α → Link → Except Error β}
    (entity : β → Entity) (h : w.Bound r) {rs : List α} {bs : List β}
    (hmake : ∀ a ∈ rs, ∀ l b, make a l = .ok b →
      (entity b).link = l ∧ (entity b).pending = [] ∧ w.store.Houses (key a) (entity b).identity)
    (hrun : Store.restoreEach key make w.links rs = .ok (bs, ls')) :
    ∃ r', World.Bound r' { w with links := ls' } ∧ Grows r w.links r' ls' ∧ ∀ x ∈ bs.map entity, x.On r' := by
  induction rs generalizing r w bs with
  | nil =>
    cases hrun
    exact ⟨r, h, .refl r _, List.forall_mem_nil _⟩
  | cons a rs ih =>
    rw [Store.restoreEach] at hrun
    obtain ⟨b, hb, hrun⟩ := except_bind_eq_ok.1 hrun
    obtain ⟨⟨bs', ls''⟩, hrest, hrun⟩ := except_bind_eq_ok.1 hrun
    cases hrun
    obtain ⟨hlink, hpending, hhoused⟩ := hmake a List.mem_cons_self _ b hb
    obtain ⟨hbound, hgrows⟩ := h.freshTo hhoused
    obtain ⟨r', hbound', hgrows', hon⟩ :=
      ih hbound (fun x hx => hmake x (List.mem_cons_of_mem _ hx)) hrest
    refine ⟨r', hbound', hgrows.trans hgrows', List.forall_mem_cons.2 ⟨hgrows'.on ?_, hon⟩⟩
    rw [Entity.on_iff, hlink, hpending]
    exact ⟨Function.update_self .., List.forall_mem_nil _⟩

end World.Bound

theorem Error.ofStore_eq_ok {α : Type} {x : Except StoreFault α} {a : α} (h : ofStore x = .ok a) : x = .ok a := by
  cases x with
  | error => cases h
  | ok => exact congrArg Except.ok (Except.ok.inj h)

namespace Store

variable [Regex.Library] {s : Store} {c : Condition}

theorem exists_of_mem_selectFrom {α β : Type} {candidate : RowId → α → Candidate}
    {read : RowId → α → Except StoreFault β} {rows : List (RowId × α)} {records : List β}
    (h : selectFrom candidate read c rows = .ok records) {b : β} (hb : b ∈ records) :
    ∃ x ∈ rows, read x.1 x.2 = .ok b := by
  induction rows generalizing records with
  | nil =>
    cases h
    cases hb
  | cons x rows ih =>
    rw [selectFrom] at h
    obtain ⟨holds, -, h⟩ := except_bind_eq_ok.1 h
    cases holds with
    | true =>
      obtain ⟨record, hread, h⟩ := except_bind_eq_ok.1 h
      obtain ⟨rest, hrest, h⟩ := except_bind_eq_ok.1 h
      cases h
      rcases List.mem_cons.1 hb with rfl | hb
      · exact ⟨x, List.mem_cons_self, hread⟩
      · obtain ⟨y, hy, hread⟩ := ih hrest hb
        exact ⟨y, List.mem_cons_of_mem _ hy, hread⟩
    | false =>
      obtain ⟨y, hy, hread⟩ := ih h hb
      exact ⟨y, List.mem_cons_of_mem _ hy, hread⟩

/-- A selected event is in a row with its uuid. -/
theorem uuid?_of_mem_selectEvents [Sql.Engine] (hc : c.Suits .event) {rs : List EventRecord}
    (h : s.selectEvents c = .ok rs) {a : EventRecord} (ha : a ∈ rs) : s.uuid? a.id = some (.text a.uuid) := by
  rw [s.selectEvents_eq hc] at h
  split at h
  case isTrue =>
    obtain ⟨⟨id, row⟩, hx, hread⟩ := exists_of_mem_selectFrom h ha
    obtain ⟨_, hid, hread⟩ := except_bind_eq_ok.1 hread
    cases hid
    obtain ⟨uuid, huuid, hread⟩ := except_bind_eq_ok.1 hread
    change row.uuid.cell.required Cell.text? 1 "uuid" = .ok uuid at huuid
    obtain ⟨_, -, hread⟩ := except_bind_eq_ok.1 hread
    obtain ⟨_, -, hread⟩ := except_bind_eq_ok.1 hread
    obtain ⟨_, -, hread⟩ := except_bind_eq_ok.1 hread
    cases hread
    have hcell : row.uuid = .text uuid := by
      cases hrow : row.uuid with
      | text t =>
        rw [hrow] at huuid
        cases huuid
        rfl
      | bytes b =>
        rw [hrow] at huuid
        cases huuid
    exact Option.map_eq_some_iff.2 ⟨row, SortedMap.get?_eq_some_iff.2 hx, hcell⟩
  case isFalse => cases h

theorem contains_of_mem_selectCatalogues [Sql.Engine] (hc : c.Suits .catalogue)
    {rs : List CatalogueRecord} (h : s.selectCatalogues c = .ok rs) {a : CatalogueRecord} (ha : a ∈ rs) :
    s.catalogues.contains a.id = true := by
  rw [s.selectCatalogues_eq hc] at h
  split at h
  case isTrue =>
    obtain ⟨⟨id, row⟩, hx, hread⟩ := exists_of_mem_selectFrom h ha
    obtain ⟨_, hid, hread⟩ := except_bind_eq_ok.1 hread
    cases hid
    obtain ⟨_, -, hread⟩ := except_bind_eq_ok.1 hread
    obtain ⟨_, -, hread⟩ := except_bind_eq_ok.1 hread
    obtain ⟨_, -, hread⟩ := except_bind_eq_ok.1 hread
    obtain ⟨_, -, hread⟩ := except_bind_eq_ok.1 hread
    cases hread
    rw [SortedMap.contains, SortedMap.get?_eq_some_iff.2 hx]
    rfl
  case isFalse => cases h

end Store

namespace Batch

/-- No link learns a row but those of a roster. -/
theorem Deeds.row?_of_unlisted {r : Roster} {ls : Links} {b b' : Batch} {l : Link}
    (h : Deeds ls (Deed.On r) b b') (hl : r l = none) : (b'.links ls).row? l = (b.links ls).row? l := by
  refine h.preserve (P := fun x => (x.links ls).row? l = (b.links ls).row? l)
    (fun d b₁ b₂ hd hdoes hkept => ?_) rfl
  refine (hdoes.row?_of_ne fun id hlearns => ?_).trans hkept
  cases d <;> cases hlearns <;> exact absurd (hl.symm.trans hd) nofun

theorem made_links (ls : Links) (b : Batch) : (b.links ls).made = ls.made := by
  unfold Batch.links Links.assignAll
  generalize b.assignments.reverse = assignments
  induction assignments generalizing ls with
  | nil => rfl
  | cons a assignments ih => exact ih (ls.assign a.1 a.2)

end Batch

namespace World.Bound

variable [Regex.Library] {r : Roster} {w w' : World} {ls' : Links} {settings : Settings} {es saved : List Entity}

/-- Whatever is asked for, each entity that is found comes with a link of its own. -/
theorem getEvents [Sql.Engine] (h : w.Bound r) {base : Option Base} {found : List Event}
    (hrun : Chronicle.getEvents base w = .ok (found, ls')) :
    ∃ r', World.Bound r' { w with links := ls' } ∧ Grows r w.links r' ls' ∧
      ∀ x ∈ found.map Entity.event, x.On r' := by
  obtain ⟨c, hcondition, hrun⟩ := except_bind_eq_ok.1 hrun
  obtain ⟨rs, hselect, hrun⟩ := except_bind_eq_ok.1 hrun
  refine h.restoreEach Entity.event (fun a ha l e he => ⟨w.store.link_of_event a l e he, rfl, ?_⟩) hrun
  have huuid := Store.uuid?_of_mem_selectEvents (suits_eventCondition hcondition)
    (Error.ofStore_eq_ok hselect) ha
  obtain ⟨_, -, he⟩ := except_bind_eq_ok.1 he
  obtain ⟨_, -, he⟩ := except_bind_eq_ok.1 he
  obtain ⟨_, -, he⟩ := except_bind_eq_ok.1 he
  cases he
  exact huuid

theorem getCatalogues [Sql.Engine] (h : w.Bound r) {base : Option Base} {found : List Catalogue}
    (hrun : Chronicle.getCatalogues base w = .ok (found, ls')) :
    ∃ r', World.Bound r' { w with links := ls' } ∧ Grows r w.links r' ls' ∧
      ∀ x ∈ found.map Entity.catalogue, x.On r' := by
  obtain ⟨c, hcondition, hrun⟩ := except_bind_eq_ok.1 hrun
  obtain ⟨rs, hselect, hrun⟩ := except_bind_eq_ok.1 hrun
  refine h.restoreEach Entity.catalogue (fun a ha l c hc => ?_) hrun
  have hcontains := Store.contains_of_mem_selectCatalogues (suits_catalogueCondition hcondition)
    (Error.ofStore_eq_ok hselect) ha
  obtain ⟨_, -, hc⟩ := except_bind_eq_ok.1 hc
  obtain ⟨_, -, hc⟩ := except_bind_eq_ok.1 hc
  cases hc
  exact ⟨rfl, rfl, hcontains⟩

/-! ## Saving -/

/-- After a save that goes well every entity of the batch knows a row, and what was known is known. -/
theorem save (h : w.Bound r) (hon : ∀ x ∈ es, x.On r)
    (hsave : Chronicle.save settings es w = .ok saved w') :
    w'.Bound r ∧ Grows r w.links r w'.links ∧ ∀ x ∈ es, ∃ id, w'.links.row? x.link = some id := by
  have hhome := h.home.save h.reachable.sound settings hon
  rw [hsave] at hhome
  have hreachable := h.reachable.save hsave
  obtain ⟨hchecks, b, hrun, -, rfl⟩ := save_eq_ok.1 hsave
  obtain ⟨hdeeds, -⟩ := Batch.deeds_on_of_forM (b := .begin w.store) h.reachable.sound hchecks hon hrun
  have hcoherent := Batch.coherent_begin r w.links w.store
  obtain ⟨hrows, -⟩ := Batch.records_lastAt? (Batch.tidy_begin h.reachable h.home) hcoherent hchecks hon hrun
  refine ⟨⟨hreachable, hhome, fun l hl => ?_⟩, ⟨fun _ _ hl => hl, fun l id hl => ?_⟩, hrows⟩
  · obtain ⟨hunlisted, hunknown⟩ := h.unmade l (Batch.made_links w.links b ▸ hl)
    exact ⟨hunlisted, (hdeeds.row?_of_unlisted hunlisted).trans hunknown⟩
  · exact hdeeds.row?_eq_some (fun _ hd => hd) hcoherent hl

theorem sameRows {s : Store} (h : w.Bound r) (hs : s.Reachable) (hrows : w.store.SameRows s) :
    World.Bound r { w with store := s } := ⟨hs, h.home.sameRows hrows, h.unmade⟩

end World.Bound

end Chronicle
