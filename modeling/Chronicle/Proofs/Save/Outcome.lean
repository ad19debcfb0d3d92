import Chronicle.Proofs.Save.Cancelling

/-!
# What a batch makes of the events with a uuid

With links at home there is at most one row of events for a uuid. An event that stands in a batch directly
is written to it, whatever was there; an event that is added is written only if there is none. So the last
of the first kind decides, then what was stored, then the first of the second kind.
-/
namespace Chronicle

/-- The last event with a uuid among those that stand in a batch directly. -/
def lastDirect? (u : String) (es : List Entity) : Option Event :=
  ((es.flatMap Entity.direct).filter fun e => e.uuid == u).getLast?

/-- The additions of an entity, but for those it cancels by removals of new events. -/
def Entity.uncancelled (ls : Links) : Entity → List Event
  | event _ => []
  | catalogue c => c.additions.filter fun a => ¬ c.Cancels ls a.uuid

/-- The first event with a uuid among the additions of a batch that are not cancelled. -/
def firstAdded? (ls : Links) (u : String) (es : List Entity) : Option Event :=
  (es.flatMap (Entity.uncancelled ls)).find? fun e => e.uuid == u

theorem lastDirect?_cons (u : String) (x : Entity) (es : List Entity) :
    lastDirect? u (x :: es) = (lastDirect? u es).or (lastDirect? u [x]) := by
  simp [lastDirect?, List.filter_append, List.getLast?_append]

theorem firstAdded?_cons (ls : Links) (u : String) (x : Entity) (es : List Entity) :
    firstAdded? ls u (x :: es) = (firstAdded? ls u [x]).or (firstAdded? ls u es) := by
  simp [firstAdded?, List.find?_append]

theorem lastDirect?_event (u : String) (e : Event) :
    lastDirect? u [.event e] = if e.uuid = u then some e else none := by
  by_cases h : e.uuid = u <;> simp [lastDirect?, Entity.direct, h]

/-- The row for a uuid when an event was written. -/
def Deed.tells (u : String) (row : Option EventRow) : Deed → Option EventRow
  | overwrite e _ => if e.uuid = u then some e.row else row
  | insert e _ => if e.uuid = u then some e.row else row
  | _ => row

namespace Batch

/-- What holds while entities of a roster are written into a store with links at home. -/
structure Tidy [Regex.Library] (r : Roster) (ls : Links) (b : Batch) : Prop where
  sound : b.store.Sound
  placed : Placed r ls b
  distinct : b.store.Distinct

variable {r : Roster} {settings : Settings} {ls : Links} {b b' : Batch} {d : Deed} {q : Deed → Prop}
  {e : Event} {c : Catalogue} {x : Entity} {es : List Entity} {id : RowId} {s : Store} {u : String}

theorem tidy_begin [Regex.Library] (hs : s.Reachable) (hhome : AtHome r ⟨s, ls⟩) : Tidy r ls (begin s) :=
  ⟨hs.sound, placed_begin hhome, hs.distinct⟩

theorem Does.distinct (h : Does ls d b b') (hb : b.store.Distinct) : b'.store.Distinct := by
  cases h with
  | overwrite _ _ hfree =>
    refine hb.insert rfl fun k hk hu => Store.hasUuid_eq_false.1 hfree k ?_
    rw [SortedMap.get?_erase_of_ne _ hk]
    exact hu
  | insert _ _ hfree => exact hb.insert rfl fun k _ => Store.hasUuid_eq_false.1 hfree k
  | updateCatalogue => exact hb.of_events_eq (Store.rewrites_updateCatalogue _).events_eq
  | removeMember event => exact hb.of_events_eq (Store.rewrites_removeMember event).events_eq
  | attributes a => exact hb.of_events_eq (Store.rewrites_withTable (.of a)).events_eq
  | _ => exact hb

theorem Does.tidy [Regex.Library] (h : Does ls d b b') (hd : d.On r) (hb : Tidy r ls b) (hs : b'.store.Sound) :
    Tidy r ls b' :=
  ⟨hs, h.placed hd hb.placed, h.distinct hb.distinct⟩

theorem Deeds.tidy [Regex.Library] (h : Deeds ls q b b') (hq : ∀ d, q d → d.On r) (hb : Tidy r ls b)
    (hs : b'.store.Sound) : Tidy r ls b' :=
  ⟨hs, (h.mono hq).placed hb.placed, h.preserve (fun _ _ _ _ hdoes => hdoes.distinct) hb.distinct⟩

/-- A deed changes the row of the uuid that it writes, and no other. -/
theorem Does.rowOf? [Regex.Library] (h : Does ls d b b') (hd : d.On r) (hb : Tidy r ls b) (u : String) :
    b'.store.rowOf? u = d.tells u (b.store.rowOf? u) := by
  have hevents := h.get?_events
  have hdistinct := h.distinct hb.distinct
  have hsame (hleaves : ∀ k row, d.leaves k row = row) : b'.store.rowOf? u = b.store.rowOf? u :=
    Store.rowOf?_congr (SortedMap.ext_get? fun k => (hevents k).trans (hleaves k _))
  have hwritten {e : Event} (id : RowId) (hself : b'.store.events.get? id = some e.row)
      (hother : ∀ k, id ≠ k → b'.store.events.get? k = b.store.events.get? k)
      (hbefore : ∀ old, b.store.events.get? id = some old → old.uuid = .text e.uuid) :
      b'.store.rowOf? u = if e.uuid = u then some e.row else b.store.rowOf? u := by
    rw [hb.distinct.rowOf?_written hdistinct hself hother hbefore]
    simp [Event.row, Store.EventCells.over, Event.cells]
  cases d with
  | overwrite e id =>
    obtain ⟨row, hrow, hu⟩ := Option.map_eq_some_iff.1 (hb.placed.event e hd id h.of_overwrite)
    refine hwritten id ?_ (fun k hk => ?_) fun old hold => ?_
    · rw [hevents, hrow]
      exact if_pos rfl
    · rw [hevents]
      exact if_neg hk
    · rw [← Option.some.inj (hrow.symm.trans hold), hu]
  | insert e id =>
    obtain ⟨-, hfree, hself, -⟩ := h.of_insert
    refine hwritten id hself (fun k hk => ?_) fun old hold => ?_
    · rw [hevents]
      exact if_neg hk
    · cases hfree.symm.trans hold
  | _ => exact hsame fun _ _ => rfl

theorem Deeds.rowOf?_eq (h : Deeds ls q b b') (hq : ∀ d, q d → ∀ k row, d.leaves k row = row) :
    b'.store.rowOf? u = b.store.rowOf? u :=
  h.preserve (P := fun b'' => b''.store.rowOf? u = b.store.rowOf? u)
    (fun d _ _ hd hdoes hP => (Store.rowOf?_congr (SortedMap.ext_get? fun k =>
      (hdoes.get?_events k).trans (hq d hd k _))).trans hP) rfl

/-- An event that is saved is in the row of its uuid. -/
theorem rowOf?_saveEvent [Regex.Library] (hb : Tidy r ls b) (he : e.check settings = .ok ()) (hon : e.On r)
    (h : saveEvent settings ls e b = .ok id b') :
    (∀ u, b'.store.rowOf? u = if e.uuid = u then some e.row else b.store.rowOf? u) ∧ Tidy r ls b' := by
  obtain ⟨d, hd, hdoes⟩ := does_of_saveEvent hb.sound h
  have hdon : d.On r := Deed.Of.on (x := .event e) hd hon
  refine ⟨fun u => ?_, hdoes.tidy hdon hb ((changes_saveEvent he h).sound hb.sound)⟩
  rw [hdoes.rowOf? hdon hb]
  rcases hd with rfl | rfl <;> rfl

/-- What is found has a row with its uuid. -/
theorem Tidy.rowOf?_ne_none [Regex.Library] (hb : Tidy r ls b) (hon : e.On r) (h : b.eventRow? ls e = some id) :
    b.store.rowOf? e.uuid ≠ none := fun hnone =>
  Store.rowOf?_eq_none.1 hnone id (hb.placed.event e hon id h)

/-- An event that is added is written if its uuid has no row. -/
theorem rowOf?_additionRow [Regex.Library] (hb : Tidy r ls b) (he : e.check settings = .ok ()) (hon : e.On r)
    (h : additionRow settings ls e b = .ok id b') :
    (∀ u, b'.store.rowOf? u =
      (b.store.rowOf? u).or (if e.uuid = u then some e.row else none)) ∧ Tidy r ls b' := by
  rcases additionRow_eq_ok.1 h with ⟨hfound, rfl⟩ | ⟨hnone, hsave⟩
  · refine ⟨fun u => ?_, hb⟩
    split
    case isTrue hu =>
      obtain ⟨row, hrow⟩ := Option.ne_none_iff_exists'.1 (hb.rowOf?_ne_none hon hfound)
      rw [← hu, hrow, Option.some_or]
    case isFalse => rw [Option.or_none]
  · obtain ⟨hrow, hb'⟩ := rowOf?_saveEvent hb he hon hsave
    refine ⟨fun u => ?_, hb'⟩
    rw [hrow u]
    split
    case isTrue hu =>
      obtain ⟨d, rfl | rfl, hdoes⟩ := does_of_saveEvent hb.sound hsave
      · cases hnone.symm.trans hdoes.of_overwrite
      · cases hdoes with
        | insert _ _ hfree =>
          have hunstored : b.store.rowOf? e.uuid = none :=
            Store.rowOf?_eq_none.2 (Store.hasUuid_eq_false.1 hfree)
          rw [← hu, hunstored, Option.none_or]
    case isFalse => rw [Option.or_none]

theorem Tidy.addMember [Regex.Library] {new : Bool} {event : RowId} (hb : Tidy r ls b)
    (h : b.store.addMember id event = .ok (new, s)) :
    s.events = b.store.events ∧ Tidy r ls { b with store := s } := by
  have hstep : Store.Change .standard (.members id) b.store s := .addMember event h
  have hsound := hb.sound.change hstep
  obtain ⟨row, hrow, -, hevent, rfl⟩ := Store.addMember_eq_ok h
  have hcontains := hevent.elim (hb.sound.members id row hrow event) fun h => h
  exact ⟨rfl, (Does.addMember hrow hcontains).tidy trivial hb hsound⟩

/-- Of several additions with one uuid the first is written. -/
theorem rowOf?_applyAdditions [Regex.Library] {as : List Event} (hb : Tidy r ls b)
    (has : ∀ a ∈ as, a.check settings = .ok ()) (hon : ∀ a ∈ as, a.On r)
    (h : applyAdditions settings ls id as b = .ok () b') (u : String) :
    b'.store.rowOf? u = (b.store.rowOf? u).or ((as.find? fun a => a.uuid == u).map Event.row) := by
  induction as generalizing b with
  | nil =>
    obtain ⟨-, rfl⟩ := pure_eq_ok.1 h
    exact Option.or_none.symm
  | cons a as ih =>
    obtain ⟨event, b₁, new, s, hrow, hadd, hrest⟩ := applyAdditions_cons_eq_ok.1 h
    obtain ⟨hcheck, hchecks⟩ := List.forall_mem_cons.1 has
    obtain ⟨hona, hons⟩ := List.forall_mem_cons.1 hon
    obtain ⟨hfirst, hb₁⟩ := rowOf?_additionRow hb hcheck hona hrow
    obtain ⟨hevents, hb₂⟩ := hb₁.addMember hadd
    rw [ih hb₂ hchecks hons hrest, Store.rowOf?_congr hevents, hfirst u, Option.or_assoc]
    by_cases hu : a.uuid = u <;> simp [hu]

/-- Before an event with a uuid is written, which additions with it are cancelled depends on the links
alone. -/
theorem filter_uncancelled (hunmade : ∀ a ∈ c.additions, a.uuid = u → b.events.get? u = none) :
    ((c.additions.filter fun a => ¬ Cancels ls c.removals b a.uuid).filter fun a => a.uuid == u) =
      ((Entity.catalogue c).uncancelled ls).filter fun a => a.uuid == u := by
  simp only [Entity.uncancelled, List.filter_filter]
  refine List.filter_congr fun a ha => ?_
  by_cases hu : a.uuid = u
  · simp [cancels_iff, hu, hunmade a ha hu]
  · rw [beq_false_of_ne hu, Bool.false_and, Bool.false_and]

variable [Regex.Library]

/-- If a uuid has no row, the first addition with it counts that the catalogue does not cancel. -/
theorem find?_uncancelled (hb : Tidy r ls b) (hc : c.On r) (hnone : b.store.rowOf? u = none) :
    (c.additions.filter fun a => ¬ Cancels ls c.removals b a.uuid).find? (fun a => a.uuid == u) =
      firstAdded? ls u [.catalogue c] := by
  have hunmade (a : Event) (ha : a ∈ c.additions) (hu : a.uuid = u) : b.events.get? u = none := by
    refine Option.eq_none_iff_forall_ne_some.2 fun k hk => ?_
    have hfound : ∃ k, b.eventRow? ls a = some k := by
      rw [eventRow?_eq, hu, hk]
      cases ls.row? a.link with
      | none => exact ⟨k, rfl⟩
      | some k' => exact ⟨k', rfl⟩
    obtain ⟨k', hk'⟩ := hfound
    exact hb.rowOf?_ne_none (hc.2.1 a ha) hk' (hu ▸ hnone)
  rw [firstAdded?, List.flatMap_singleton, ← List.head?_filter, ← List.head?_filter,
    filter_uncancelled hunmade]

theorem rowOf?_saveCatalogue (hb : Tidy r ls b) (hc : c.check settings = .ok ()) (hon : c.On r)
    (h : saveCatalogue settings ls c b = .ok id b') (u : String) : b'.store.rowOf? u =
      (b.store.rowOf? u).or ((firstAdded? ls u [.catalogue c]).map Event.row) := by
  obtain ⟨b₁, rest, b₂, b₃, s, hwrite, hremove, hadd, hsync, rfl⟩ := saveCatalogue_eq_ok.1 h
  obtain ⟨-, -, hadditions⟩ := Catalogue.check_eq_ok.1 hc
  obtain ⟨hsound, hsound'⟩ := sound_of_saveCatalogue_steps hb.sound hc hwrite hremove hadd
  have hwritten := does_of_writeCatalogue hwrite
  have hb₁ := hwritten.tidy hon.1 hb (hb.sound.change (change_of_writeCatalogue hc hwrite))
  have hremoved := deeds_of_applyRemovals hremove
  have hb₂ := hremoved.tidy (fun d hd => by rw [hd]; trivial) hb₁ hsound
  obtain ⟨hrest, -⟩ := of_applyRemovals hremove
  have hsub := applyRemovals_subset hremove
  -- neither the catalogue nor its members touch the rows of events
  have hrow₁ : b₁.store.rowOf? u = b.store.rowOf? u := hwritten.rowOf? hon.1 hb u
  have hrow₂ : b₂.store.rowOf? u = b₁.store.rowOf? u :=
    hremoved.rowOf?_eq fun d hd k row => by rw [hd]; rfl
  have hrow₃ := rowOf?_applyAdditions hb₂ (fun a ha => hadditions a (hsub a ha))
    (fun a ha => hon.2.1 a (hsub a ha)) hadd u
  obtain ⟨a, ha, hattributes⟩ := hsound'.exists_attributes .catalogue id
  obtain ⟨-, -, rfl⟩ := (Store.syncAttributes_eq_ok ha hattributes).1 hsync
  have hrow₄ : (b₃.store.withTable .catalogue id (.of c.attributes)).rowOf? u = b₃.store.rowOf? u :=
    Store.rowOf?_congr (Store.rewrites_withTable _).events_eq
  rw [hrow₄, hrow₃, hrow₂, hrow₁, hrest]
  cases hrow : b.store.rowOf? u with
  | some row => rfl
  | none => rw [find?_uncancelled hb₁ hon (hrow₁.trans hrow)]

/-- What an entity makes of the row with a uuid. -/
theorem rowOf?_saveEntity (hb : Tidy r ls b) (hx : x.check settings = .ok ()) (hon : x.On r)
    (h : saveEntity settings ls x b = .ok () b') :
    (∀ u, b'.store.rowOf? u = ((lastDirect? u [x]).map Event.row).or
      ((b.store.rowOf? u).or ((firstAdded? ls u [x]).map Event.row))) ∧ Tidy r ls b' := by
  obtain ⟨hdeeds, hsound⟩ := deeds_on_of_saveEntity hb.sound hx hon h
  refine ⟨fun u => ?_, hdeeds.tidy (fun _ hd => hd) hb hsound⟩
  cases x with
  | event e =>
    obtain ⟨id, h⟩ := saveEntity_event_eq_ok.1 h
    obtain ⟨hrow, -⟩ := rowOf?_saveEvent hb hx hon h
    rw [hrow u, lastDirect?_event]
    by_cases hu : e.uuid = u <;> simp [hu, firstAdded?, Entity.uncancelled]
  | catalogue c =>
    obtain ⟨id, h⟩ := saveEntity_catalogue_eq_ok.1 h
    rw [rowOf?_saveCatalogue hb hx hon h u]
    rfl

/-- What a batch makes of the row with a uuid: the last event that stands in it directly counts, then what
there was, then the first addition that is not cancelled. -/
theorem rowOf?_forM (hb : Tidy r ls b) (hes : ∀ x ∈ es, x.check settings = .ok ())
    (hon : ∀ x ∈ es, x.On r) (h : es.forM (saveEntity settings ls) b = .ok () b') :
    (∀ u, b'.store.rowOf? u = ((lastDirect? u es).map Event.row).or
      ((b.store.rowOf? u).or ((firstAdded? ls u es).map Event.row))) ∧ Tidy r ls b' := by
  induction es generalizing b with
  | nil =>
    obtain ⟨-, rfl⟩ := pure_eq_ok.1 h
    exact ⟨fun u => by simp [lastDirect?, firstAdded?], hb⟩
  | cons x es ih =>
    obtain ⟨_, b₁, hx, hrest⟩ := bind_eq_ok.1 h
    obtain ⟨hcheck, hchecks⟩ := List.forall_mem_cons.1 hes
    obtain ⟨honx, hons⟩ := List.forall_mem_cons.1 hon
    obtain ⟨hfirst, hb₁⟩ := rowOf?_saveEntity hb hcheck honx hx
    obtain ⟨hlater, hb'⟩ := ih hb₁ hchecks hons hrest
    refine ⟨fun u => ?_, hb'⟩
    rw [hlater u, hfirst u, lastDirect?_cons u x es, firstAdded?_cons ls u x es, Option.map_or,
      Option.map_or]
    simp only [Option.or_assoc]

end Batch

end Chronicle
