import Chronicle.Proofs.Save.Deeds
import Chronicle.Proofs.Store.Uuids

/-!
# What a batch finds and what links learn

A row that was found once is found again, and nothing is taken from the store. What a link has learnt is
the row in which the batch finds its entity, so no link learns twice.
-/
namespace Chronicle

/-- The link that learns a row, if it does not know it. -/
def Deed.learns : Deed → Option (Link × RowId)
  | overwrite e id => some (e.link, id)
  | insert e id => some (e.link, id)
  | catalogue c id => some (c.link, id)
  | members _ => none
  | attributes _ => none

/-- What becomes of a row of events. -/
def Deed.leaves (d : Deed) (k : RowId) (row : Option EventRow) : Option EventRow :=
  match d with
  | overwrite e id => if id = k then row.map fun _ => e.row else row
  | insert e id => if id = k then some e.row else row
  | _ => row

namespace Batch

/-- What was in a store when the batch began is there, and what the batch made was not in it. -/
structure Since (s : Store) (b : Batch) : Prop where
  events : ∀ id, s.events.contains id = true → b.store.events.contains id = true
  catalogues : ∀ id, s.catalogues.contains id = true → b.store.catalogues.contains id = true
  made : ∀ u id, b.events.get? u = some id →
    s.events.get? id = none ∧ b.store.events.contains id = true
  madeCatalogue : ∀ l id, (l, id) ∈ b.catalogues → s.catalogues.get? id = none

/-- What links know by now is where the batch finds the entities of a roster. -/
structure Coherent (r : Roster) (ls : Links) (b : Batch) : Prop where
  known : ∀ l id, ls.row? l = some id → (b.links ls).row? l = some id
  event : ∀ x : Event, x.On r → ∀ id, (b.links ls).row? x.link = some id → b.eventRow? ls x = some id
  catalogue : ∀ c : Catalogue, r c.link = some .catalogue →
    b.catalogueRow? ls c = (b.links ls).row? c.link

variable {r : Roster} {settings : Settings} {ls : Links} {b b' : Batch} {id : RowId} {d : Deed} {s : Store}

theorem since_begin (s : Store) : Since s (begin s) := ⟨fun _ h => h, fun _ h => h, nofun, nofun⟩

/-- A row that is free now was free when the batch began. -/
theorem Since.catalogues_eq_none (h : Since s b) (hid : b.store.catalogues.get? id = none) :
    s.catalogues.get? id = none := by
  cases hold : s.catalogues.get? id with
  | none => rfl
  | some row =>
    have hstill := h.catalogues id (by rw [SortedMap.contains, hold]; rfl)
    rw [SortedMap.contains, hid] at hstill
    cases hstill

theorem Since.events_eq_none (h : Since s b) (hid : b.store.events.get? id = none) :
    s.events.get? id = none := by
  cases hold : s.events.get? id with
  | none => rfl
  | some row =>
    have hstill := h.events id (by rw [SortedMap.contains, hold]; rfl)
    rw [SortedMap.contains, hid] at hstill
    cases hstill

theorem coherent_begin (r : Roster) (ls : Links) (s : Store) : Coherent r ls (begin s) where
  known _ _ h := h
  event _ _ _ h := eventRow?_of_row? h
  catalogue _ _ := by simp

namespace Does

/-- A row that was found is found again. -/
theorem eventRow?_eq_some (h : Does ls d b b') {x : Event} (hx : b.eventRow? ls x = some id) :
    b'.eventRow? ls x = some id := by
  cases h with
  | insert hnone =>
    obtain ⟨-, hunstaged⟩ := eventRow?_eq_none.1 hnone
    rw [eventRow?_insert rfl, if_neg, hx]
    rintro ⟨hnew, huuid⟩
    rw [eventRow?_of_new hnew, ← huuid, hunstaged] at hx
    cases hx
  | _ => exact hx

theorem catalogueRow?_eq_some (h : Does ls d b b') {c : Catalogue} (hc : b.catalogueRow? ls c = some id) :
    b'.catalogueRow? ls c = some id := by
  cases h with
  | insertCatalogue hnone =>
    rw [catalogueRow?_append hnone rfl, if_neg, hc]
    intro hlink
    rw [catalogueRow?, ← hlink] at hc
    cases hnone.symm.trans hc
  | _ => exact hc

theorem of_overwrite {e : Event} (h : Does ls (.overwrite e id) b b') : b.eventRow? ls e = some id := by
  cases h <;> assumption

/-- The rows of events that are not written stay as they are. -/
theorem get?_events (h : Does ls d b b') (k : RowId) :
    b'.store.events.get? k = d.leaves k (b.store.events.get? k) := by
  cases h with
  | @overwrite _ e id row _ hrow =>
    by_cases hk : id = k
    · subst hk
      simp [Deed.leaves, hrow]
    · simp [Deed.leaves, hk, SortedMap.get?_insert_of_ne _ _ hk]
  | @miss _ e id _ hrow =>
    by_cases hk : id = k
    · subst hk
      simp [Deed.leaves, hrow]
    · simp [Deed.leaves, hk]
  | @insert _ e id =>
    by_cases hk : id = k
    · subst hk
      simp [Deed.leaves]
    · simp [Deed.leaves, hk, SortedMap.get?_insert_of_ne _ _ hk]
  | updateCatalogue => simp [Deed.leaves, (Store.rewrites_updateCatalogue _).events_eq]
  | removeMember event => simp [Deed.leaves, (Store.rewrites_removeMember event).events_eq]
  | attributes a => simp [Deed.leaves, (Store.rewrites_withTable (.of a)).events_eq]
  | _ => rfl

theorem events_contains (h : Does ls d b b') (hid : b.store.events.contains id = true) :
    b'.store.events.contains id = true := by
  obtain ⟨row, hrow⟩ := Option.isSome_iff_exists.1 hid
  rw [SortedMap.contains, h.get?_events, hrow]
  unfold Deed.leaves
  split
  · split <;> rfl
  · split <;> rfl
  · rfl

theorem catalogues_contains (h : Does ls d b b') (hid : b.store.catalogues.contains id = true) :
    b'.store.catalogues.contains id = true := by
  cases h with
  | updateCatalogue => exact (Store.rewrites_updateCatalogue _).contains hid
  | insertCatalogue => exact SortedMap.contains_insert.2 (.inr hid)
  | removeMember event => exact (Store.rewrites_removeMember event).contains hid
  | addMember => exact SortedMap.contains_insert.2 (.inr hid)
  | attributes a => exact (Store.rewrites_withTable (.of a)).contains hid
  | _ => exact hid

/-- A row is made in a place that was free, for an event that was not found and whose link learns it. -/
theorem of_insert {e : Event} (h : Does ls (.insert e id) b b') : b.eventRow? ls e = none ∧
    b.store.events.get? id = none ∧ b'.store.events.get? id = some e.row ∧
      (b'.links ls).row? e.link = some id := by
  have hrow := h.get?_events id
  cases h with
  | insert hnone hid =>
    refine ⟨hnone, Store.get?_eq_none_of_nextId hid, hrow.trans (if_pos rfl), ?_⟩
    rw [links_note rfl, Links.row?_assign_self]

theorem made_or (h : Does ls d b b') {u : String} {k : RowId} (hk : b'.events.get? u = some k) :
    b.events.get? u = some k ∨ ∃ e, d = .insert e k ∧ e.uuid = u := by
  cases h with
  | @insert _ e id =>
    rcases SortedMap.get?_insert_eq_some.1 hk with ⟨hu, rfl⟩ | ⟨-, hk⟩
    · exact .inr ⟨e, rfl, hu⟩
    · exact .inl hk
  | _ => exact .inl hk

theorem since (h : Does ls d b b') (hb : Since s b) : Since s b' where
  events id hid := h.events_contains (hb.events id hid)
  catalogues id hid := h.catalogues_contains (hb.catalogues id hid)
  made u k hk := by
    rcases h.made_or hk with hk | ⟨e, rfl, -⟩
    · exact ⟨(hb.made u k hk).1, h.events_contains (hb.made u k hk).2⟩
    · obtain ⟨-, hfree, hrow, -⟩ := h.of_insert
      exact ⟨hb.events_eq_none hfree, by rw [SortedMap.contains, hrow]; rfl⟩
  madeCatalogue l k hk := by
    cases h with
    | insertCatalogue hnone hid =>
      rcases List.mem_append.1 hk with hk | hk
      · exact hb.madeCatalogue l k hk
      · cases List.mem_singleton.1 hk
        exact hb.catalogues_eq_none (Store.get?_eq_none_of_nextId hid)
    | _ => exact hb.madeCatalogue l k hk

/-- What a link learns. -/
theorem links_eq (h : Does ls d b b') : b'.links ls = b.links ls ∨
    ∃ l id, d.learns = some (l, id) ∧ ls.row? l = none ∧ b'.links ls = (b.links ls).assign l id := by
  have hnoted {e : Event} {id : RowId} {s : Store} :
      links ls { b with store := s, assignments := noted ls e id b.assignments } = b.links ls ∨
        ls.row? e.link = none ∧ links ls { b with store := s, assignments := noted ls e id b.assignments } =
          (b.links ls).assign e.link id := by
    by_cases hnew : (ls.row? e.link).isNone = true
    · exact .inr ⟨Option.isNone_iff_eq_none.1 hnew, links_note (if_pos hnew)⟩
    · exact .inl (links_congr (if_neg hnew))
  cases h with
  | overwrite => exact hnoted.imp_right fun ⟨hnew, hlinks⟩ => ⟨_, _, rfl, hnew, hlinks⟩
  | miss => exact hnoted.imp_right fun ⟨hnew, hlinks⟩ => ⟨_, _, rfl, hnew, hlinks⟩
  | insert hnone => exact .inr ⟨_, _, rfl, (eventRow?_eq_none.1 hnone).1, links_note rfl⟩
  | insertCatalogue hnone => exact .inr ⟨_, _, rfl, (Option.or_eq_none_iff.1 hnone).1, links_note rfl⟩
  | _ => exact .inl rfl

theorem row?_of_ne (h : Does ls d b b') {l : Link} (hl : ∀ id, d.learns ≠ some (l, id)) :
    (b'.links ls).row? l = (b.links ls).row? l := by
  rcases h.links_eq with hlinks | ⟨l', id, hlearns, -, hlinks⟩
  · rw [hlinks]
  · rw [hlinks, Links.row?_assign_of_ne]
    rintro rfl
    exact hl id hlearns

/-- What a link learns it learns for the first time. -/
theorem eq_of_learns (h : Does ls d b b') (hd : d.On r) (hb : Coherent r ls b) {l : Link} {k : RowId}
    (hlearns : d.learns = some (l, id)) (hl : (b.links ls).row? l = some k) : id = k := by
  cases h with
  | overwrite hid =>
    cases hlearns
    exact Option.some.inj (hid.symm.trans (hb.event _ hd k hl))
  | miss hid =>
    cases hlearns
    exact Option.some.inj (hid.symm.trans (hb.event _ hd k hl))
  | insert hnone =>
    cases hlearns
    cases hnone.symm.trans (hb.event _ hd k hl)
  | updateCatalogue hid =>
    cases hlearns
    exact Option.some.inj (hid.symm.trans ((hb.catalogue _ hd).trans hl))
  | insertCatalogue hnone =>
    cases hlearns
    cases hnone.symm.trans ((hb.catalogue _ hd).trans hl)
  | _ => cases hlearns

/-- What a link knows it knows for good. -/
theorem row?_eq_some (h : Does ls d b b') (hd : d.On r) (hb : Coherent r ls b) {l : Link}
    (hl : (b.links ls).row? l = some id) : (b'.links ls).row? l = some id := by
  rcases h.links_eq with hlinks | ⟨l', k, hlearns, -, hlinks⟩
  · rwa [hlinks]
  · rw [hlinks, Links.row?_assign]
    split
    case isTrue heq =>
      subst heq
      rw [h.eq_of_learns hd hb hlearns hl]
    case isFalse => exact hl

/-- An event whose link learns a row is found there. -/
theorem eventRow?_of_learns (h : Does ls d b b') (hd : d.On r) {x : Event} (hx : x.On r)
    (hnew : ls.row? x.link = none) (hlearns : d.learns = some (x.link, id)) :
    b'.eventRow? ls x = some id := by
  have hcopy {e : Event} (he : e.On r) (hlink : e.link = x.link) : b.eventRow? ls e = b.eventRow? ls x := by
    rw [eventRow?_eq, eventRow?_eq, hlink, he.uuid_eq hx hlink]
  cases d with
  | overwrite e k =>
    obtain ⟨hlink, rfl⟩ := Prod.mk.inj (Option.some.inj hlearns)
    cases h with
    | overwrite hid => exact (hcopy hd hlink).symm.trans hid
    | miss hid => exact (hcopy hd hlink).symm.trans hid
  | insert e k =>
    obtain ⟨hlink, rfl⟩ := Prod.mk.inj (Option.some.inj hlearns)
    cases h
    rw [eventRow?_insert rfl, if_pos ⟨hnew, hd.uuid_eq hx hlink⟩]
  | catalogue c k =>
    obtain ⟨hlink, rfl⟩ := Prod.mk.inj (Option.some.inj hlearns)
    exact absurd hlink.symm (hx.link_ne hd)
  | _ => cases hlearns

/-- After a deed the link that is to learn its row knows it. -/
theorem row?_of_learns (h : Does ls d b b') (hd : d.On r) (hb : Coherent r ls b) {l : Link}
    (hlearns : d.learns = some (l, id)) : (b'.links ls).row? l = some id := by
  have hnoted {e : Event} {k : RowId} {s : Store} (hfound : b.eventRow? ls e = some k) :
      (links ls { b with store := s, assignments := noted ls e k b.assignments }).row? e.link =
        some k := by
    cases hlink : ls.row? e.link with
    | none => rw [links_note (if_pos (by rw [hlink]; rfl)), Links.row?_assign_self]
    | some k' =>
      obtain rfl := Option.some.inj ((eventRow?_of_row? hlink).symm.trans hfound)
      rw [links_congr (if_neg (by rw [hlink]; nofun))]
      exact hb.known _ _ hlink
  cases h with
  | overwrite hfound =>
    cases hlearns
    exact hnoted hfound
  | miss hfound =>
    cases hlearns
    exact hnoted hfound
  | insert =>
    cases hlearns
    rw [links_note rfl, Links.row?_assign_self]
  | updateCatalogue hfound =>
    cases hlearns
    exact (hb.catalogue _ hd).symm.trans hfound
  | insertCatalogue =>
    cases hlearns
    rw [links_note rfl, Links.row?_assign_self]
  | _ => cases hlearns

theorem coherent (h : Does ls d b b') (hd : d.On r) (hb : Coherent r ls b) : Coherent r ls b' where
  known l id hl := h.row?_eq_some hd hb (hb.known l id hl)
  event x hx id hl := by
    rcases h.links_eq with hlinks | ⟨l, k, hlearns, hnew, hlinks⟩
    · rw [hlinks] at hl
      exact h.eventRow?_eq_some (hb.event x hx id hl)
    · rw [hlinks, Links.row?_assign] at hl
      split at hl
      case isTrue heq =>
        subst heq
        cases hl
        exact h.eventRow?_of_learns hd hx hnew hlearns
      case isFalse => exact h.eventRow?_eq_some (hb.event x hx id hl)
  catalogue c hc := by
    have hother {e : Event} {k : RowId} (he : e.On r) (hlearns : d.learns = some (e.link, k)) :
        (b'.links ls).row? c.link = (b.links ls).row? c.link :=
      h.row?_of_ne fun id hid => he.link_ne hc (congrArg Prod.fst (Option.some.inj (hlearns.symm.trans hid)))
    cases h with
    | insertCatalogue hnone => rw [catalogueRow?_append hnone rfl, links_note rfl, Links.row?_assign,
        hb.catalogue c hc]
    | overwrite => exact (hb.catalogue c hc).trans (hother hd rfl).symm
    | miss => exact (hb.catalogue c hc).trans (hother hd rfl).symm
    | insert => exact (hb.catalogue c hc).trans (hother hd rfl).symm
    | _ => exact hb.catalogue c hc

end Does

namespace Deeds

variable {q : Deed → Prop}

theorem eventRow?_eq_some (h : Deeds ls q b b') {x : Event} (hx : b.eventRow? ls x = some id) :
    b'.eventRow? ls x = some id :=
  h.preserve (P := fun b => b.eventRow? ls x = some id) (fun _ _ _ _ hdoes => hdoes.eventRow?_eq_some) hx

theorem catalogueRow?_eq_some (h : Deeds ls q b b') {c : Catalogue}
    (hc : b.catalogueRow? ls c = some id) : b'.catalogueRow? ls c = some id :=
  h.preserve (P := fun b => b.catalogueRow? ls c = some id)
    (fun _ _ _ _ hdoes => hdoes.catalogueRow?_eq_some) hc

theorem since (h : Deeds ls q b b') (hb : Since s b) : Since s b' :=
  h.preserve (fun _ _ _ _ hdoes => hdoes.since) hb

theorem coherent (h : Deeds ls q b b') (hq : ∀ d, q d → d.On r) (hb : Coherent r ls b) :
    Coherent r ls b' :=
  h.preserve (fun d _ _ hd hdoes => hdoes.coherent (hq d hd)) hb

theorem row?_eq_some (h : Deeds ls q b b') (hq : ∀ d, q d → d.On r) (hb : Coherent r ls b) {l : Link}
    (hl : (b.links ls).row? l = some id) : (b'.links ls).row? l = some id := by
  have hboth := h.preserve (P := fun b => Coherent r ls b ∧ (b.links ls).row? l = some id)
    (fun d _ _ hd hdoes hP => ⟨hdoes.coherent (hq d hd) hP.1, hdoes.row?_eq_some (hq d hd) hP.1 hP.2⟩)
    ⟨hb, hl⟩
  exact hboth.2

end Deeds

end Batch

end Chronicle
