import Chronicle.Regex.Standard
import Chronicle.Proofs.Save.Failures

/-!
# New events with one uuid

Links learn their rows when a batch is done. Until then a new event is known by its uuid, so all new events
of a batch with one uuid come to one row, also when they are not copies of one event. One that stands in the
batch directly is written to this row and its link learns it. One that is added is written, and its link
learns the row, only if it is the first of them.
-/
namespace Chronicle

/-- The new events that an entity has to be saved: those that stand in the batch directly, and additions
that are not cancelled. -/
def Entity.news (ls : Links) (x : Entity) : List Event :=
  (x.direct ++ x.uncancelled ls).filter fun e => ls.row? e.link = none

/-- The first new event with a uuid. -/
def firstNew? (ls : Links) (u : String) (es : List Entity) : Option Event :=
  (es.flatMap (Entity.news ls)).find? fun e => e.uuid == u

section News

variable {ls : Links} {u : String} {x : Entity} {es : List Entity} {e : Event}

theorem Entity.mem_news : e ∈ x.news ls ↔ (e ∈ x.direct ∨ e ∈ x.uncancelled ls) ∧ ls.row? e.link = none := by
  simp [news, or_and_right]

/-- An entity introduces the uuids of its new events. -/
theorem Entity.introduces_iff : x.Introduces ls u ↔ ∃ e ∈ x.news ls, e.uuid = u := by
  cases x with
  | event e => simp [Introduces, mem_news, direct, uncancelled]
  | catalogue c =>
    simp only [mem_news, direct, uncancelled, List.not_mem_nil, false_or, List.mem_filter, decide_eq_true_iff]
    constructor
    · rintro ⟨⟨a, ha, hnew, rfl⟩, hkept⟩
      exact ⟨a, ⟨⟨ha, hkept⟩, hnew⟩, rfl⟩
    · rintro ⟨a, ⟨⟨ha, hkept⟩, hnew⟩, rfl⟩
      exact ⟨⟨a, ha, hnew, rfl⟩, hkept⟩

theorem firstNew?_cons (ls : Links) (u : String) (x : Entity) (es : List Entity) :
    firstNew? ls u (x :: es) = (firstNew? ls u [x]).or (firstNew? ls u es) := by
  simp [firstNew?, List.find?_append]

theorem firstNew?_eq_none : firstNew? ls u es = none ↔ ¬ ∃ x ∈ es, x.Introduces ls u := by
  constructor
  · rintro h ⟨x, hx, hintroduces⟩
    obtain ⟨e, he, hu⟩ := Entity.introduces_iff.1 hintroduces
    exact List.find?_eq_none.1 h e (List.mem_flatMap.2 ⟨x, hx, he⟩) (beq_iff_eq.2 hu)
  · refine fun h => List.find?_eq_none.2 fun e he hu => h ?_
    obtain ⟨x, hx, hex⟩ := List.mem_flatMap.1 he
    exact ⟨x, hx, Entity.introduces_iff.2 ⟨e, hex, beq_iff_eq.1 hu⟩⟩

end News

namespace Batch

variable {r : Roster} {settings : Settings} {ls : Links} {b b' : Batch} {e : Event} {c : Catalogue}
  {x : Entity} {es : List Entity} {id : RowId} {l : Link} {u : String}

/-- No links know rows but those that did before and the one that was to learn. -/
theorem Does.row?_ne_none {d : Deed} (h : Does ls d b b') {l' : Link} (hlearns : d.learns = some (l', id))
    (hknown : (b'.links ls).row? l' = some id) :
    (b'.links ls).row? l ≠ none ↔ (b.links ls).row? l ≠ none ∨ l' = l := by
  by_cases hl : l' = l
  · subst hl
    simp [hknown]
  · rw [h.row?_of_ne fun k hk => hl (congrArg Prod.fst (Option.some.inj (hlearns.symm.trans hk)))]
    simp [hl]

variable [Regex.Library]

/-- The link of an event that stands in a batch directly learns its row. -/
theorem row?_saveEvent (hb : Tidy r ls b) (hcoherent : Coherent r ls b) (hon : e.On r)
    (h : saveEvent settings ls e b = .ok id b') :
    (b'.links ls).row? l ≠ none ↔ (b.links ls).row? l ≠ none ∨ e.link = l := by
  obtain ⟨d, hd, hdoes⟩ := does_of_saveEvent hb.sound h
  have hdon : d.On r := Deed.Of.on (x := .event e) hd hon
  have hlearns : d.learns = some (e.link, id) := by rcases hd with rfl | rfl <;> rfl
  exact hdoes.row?_ne_none hlearns (hdoes.row?_of_learns hdon hcoherent hlearns)

/-- The link of an addition learns a row if its uuid has none. -/
theorem row?_additionRow (hb : Tidy r ls b) (hon : e.On r) (hl : r l = some (.event u))
    (h : additionRow settings ls e b = .ok id b') :
    (b'.links ls).row? l ≠ none ↔ (b.links ls).row? l ≠ none ∨
      b.events.get? u = none ∧ (ls.row? e.link = none ∧ e.uuid = u) ∧ e.link = l := by
  rcases additionRow_eq_ok.1 h with ⟨hfound, rfl⟩ | ⟨hnone, hsave⟩
  · refine (or_iff_left ?_).symm
    rintro ⟨hunmade, ⟨hnew, rfl⟩, -⟩
    cases hfound.symm.trans (eventRow?_eq_none.2 ⟨hnew, hunmade⟩)
  · obtain ⟨d, rfl | rfl, hdoes⟩ := does_of_saveEvent hb.sound hsave
    · cases hnone.symm.trans hdoes.of_overwrite
    · obtain ⟨-, -, -, hknown⟩ := hdoes.of_insert
      rw [hdoes.row?_ne_none rfl hknown]
      refine or_congr_right ⟨fun hlink => ?_, fun h => h.2.2⟩
      obtain ⟨hnew, hunmade⟩ := eventRow?_eq_none.1 hnone
      have hu : e.uuid = u := by
        rw [Event.On, hlink, hl] at hon
        simpa using hon.symm
      exact ⟨hu ▸ hunmade, ⟨hnew, hu⟩, hlink⟩

/-- Of several additions the first new one with a uuid has its link learn the row, if the batch has made
none before. -/
theorem row?_applyAdditions {as : List Event} (hb : Tidy r ls b)
    (has : ∀ a ∈ as, a.check settings = .ok ()) (hon : ∀ a ∈ as, a.On r) (hl : r l = some (.event u))
    (h : applyAdditions settings ls id as b = .ok () b') :
    (b'.links ls).row? l ≠ none ↔ (b.links ls).row? l ≠ none ∨ b.events.get? u = none ∧
      ∃ a, (as.find? fun a => ls.row? a.link = none ∧ a.uuid = u) = some a ∧ a.link = l := by
  induction as generalizing b with
  | nil =>
    obtain ⟨-, rfl⟩ := pure_eq_ok.1 h
    simp
  | cons a as ih =>
    obtain ⟨event, b₁, new, s, hrow, hadd, hrest⟩ := applyAdditions_cons_eq_ok.1 h
    obtain ⟨hcheck, hchecks⟩ := List.forall_mem_cons.1 has
    obtain ⟨hona, hons⟩ := List.forall_mem_cons.1 hon
    obtain ⟨-, -, -, hmade⟩ := of_additionRow hb.sound hcheck hrow
    obtain ⟨-, hb₁⟩ := rowOf?_additionRow hb hcheck hona hrow
    obtain ⟨-, hb₂⟩ := hb₁.addMember hadd
    have hlater := ih (b := { b₁ with store := s }) hb₂ hchecks hons hrest
    have hunmade : b₁.events.get? u = none ↔
        b.events.get? u = none ∧ ¬ (ls.row? a.link = none ∧ a.uuid = u) := by
      rw [← not_iff_not, ← Ne, hmade u, not_and_or, not_not]
    rw [hlater]
    change (b₁.links ls).row? l ≠ none ∨ b₁.events.get? u = none ∧ _ ↔ _
    rw [row?_additionRow hb hona hl hrow, hunmade, List.find?_cons]
    by_cases hfirst : ls.row? a.link = none ∧ a.uuid = u
    · simp [hfirst]
    · simp [hfirst]

theorem row?_saveCatalogue (hb : Tidy r ls b) (hc : c.check settings = .ok ()) (hon : c.On r)
    (hl : r l = some (.event u)) (h : saveCatalogue settings ls c b = .ok id b') :
    (b'.links ls).row? l ≠ none ↔ (b.links ls).row? l ≠ none ∨ b.events.get? u = none ∧
      ∃ a, firstNew? ls u [.catalogue c] = some a ∧ a.link = l := by
  obtain ⟨b₁, rest, b₂, b₃, s, hwrite, hremove, hadd, hsync, rfl⟩ := saveCatalogue_eq_ok.1 h
  obtain ⟨-, -, hadditions⟩ := Catalogue.check_eq_ok.1 hc
  obtain ⟨hsound, -⟩ := sound_of_saveCatalogue_steps hb.sound hc hwrite hremove hadd
  have hwritten := does_of_writeCatalogue hwrite
  have hb₁ := hwritten.tidy hon.1 hb (hb.sound.change (change_of_writeCatalogue hc hwrite))
  have hb₂ := (deeds_of_applyRemovals hremove).tidy (fun d hd => by rw [hd]; trivial) hb₁ hsound
  have hsub := applyRemovals_subset hremove
  obtain ⟨hrest, s₂, rfl, -⟩ := of_applyRemovals hremove
  obtain ⟨hevents, -, -⟩ := of_writeCatalogue hwrite
  have hadded := row?_applyAdditions hb₂ (fun a ha => hadditions a (hsub a ha))
    (fun a ha => hon.2.1 a (hsub a ha)) hl hadd
  -- the link of the catalogue learns a row, which is none of an event
  have hrow₁ : (b₁.links ls).row? l = (b.links ls).row? l := by
    refine hwritten.row?_of_ne fun k hk => ?_
    have hlink : c.link = l := congrArg Prod.fst (Option.some.inj hk)
    cases (hlink ▸ hl).symm.trans hon.1
  change (b₃.links ls).row? l ≠ none ↔ _
  rw [hadded]
  change (b₁.links ls).row? l ≠ none ∨ b₁.events.get? u = none ∧ _ ↔ _
  rw [hrow₁, hevents]
  refine or_congr_right (and_congr_right fun hunmade => ?_)
  have hfirst : (rest.find? fun a => ls.row? a.link = none ∧ a.uuid = u) = firstNew? ls u [.catalogue c] :=
    calc rest.find? (fun a => ls.row? a.link = none ∧ a.uuid = u)
      _ = (rest.filter fun a => a.uuid == u).find? fun a => ls.row? a.link = none := by
        rw [List.find?_filter]
        exact congrArg (rest.find? ·) (funext fun a => by simp [and_comm, beq_eq_decide])
      _ = (((Entity.catalogue c).uncancelled ls).filter fun a => a.uuid == u).find?
          fun a => ls.row? a.link = none := by
        rw [hrest, filter_uncancelled fun _ _ _ => hevents ▸ hunmade]
      _ = firstNew? ls u [.catalogue c] := by
        simp only [firstNew?, List.flatMap_singleton, Entity.news, Entity.direct, List.nil_append,
          List.find?_filter, and_comm]
  rw [hfirst]

/-- The links of an entity's events learn rows if they stand in the batch directly or come first. -/
theorem row?_saveEntity (hb : Tidy r ls b) (hcoherent : Coherent r ls b) (hx : x.check settings = .ok ())
    (hon : x.On r) (hl : r l = some (.event u)) (h : saveEntity settings ls x b = .ok () b') :
    (b'.links ls).row? l ≠ none ↔ (b.links ls).row? l ≠ none ∨ (∃ e ∈ x.direct, e.link = l) ∨
      b.events.get? u = none ∧ ∃ e, firstNew? ls u [x] = some e ∧ e.link = l := by
  cases x with
  | event e =>
    obtain ⟨id, h⟩ := saveEntity_event_eq_ok.1 h
    rw [row?_saveEvent hb hcoherent hon h]
    have hdirect : (∃ e' ∈ (Entity.event e).direct, e'.link = l) ↔ e.link = l := by simp [Entity.direct]
    rw [hdirect]
    refine or_congr_right (or_iff_left_of_imp ?_).symm
    rintro ⟨-, f, hf, hlink⟩
    have hmem := List.mem_of_find?_eq_some hf
    rw [List.flatMap_singleton, Entity.mem_news] at hmem
    obtain ⟨hfe | hfe, -⟩ := hmem
    · rwa [← List.mem_singleton.1 hfe]
    · cases hfe
  | catalogue c =>
    obtain ⟨id, h⟩ := saveEntity_catalogue_eq_ok.1 h
    rw [row?_saveCatalogue hb hx hon hl h]
    simp [Entity.direct]

theorem row?_forM (hb : Tidy r ls b) (hcoherent : Coherent r ls b)
    (hes : ∀ x ∈ es, x.check settings = .ok ()) (hon : ∀ x ∈ es, x.On r) (hl : r l = some (.event u))
    (h : es.forM (saveEntity settings ls) b = .ok () b') :
    (b'.links ls).row? l ≠ none ↔ (b.links ls).row? l ≠ none ∨ (∃ e ∈ es.flatMap Entity.direct, e.link = l) ∨
      b.events.get? u = none ∧ ∃ e, firstNew? ls u es = some e ∧ e.link = l := by
  induction es generalizing b with
  | nil =>
    obtain ⟨-, rfl⟩ := pure_eq_ok.1 h
    simp [firstNew?]
  | cons x es ih =>
    obtain ⟨_, b₁, hx, hrest⟩ := bind_eq_ok.1 h
    obtain ⟨hcheck, hchecks⟩ := List.forall_mem_cons.1 hes
    obtain ⟨honx, hons⟩ := List.forall_mem_cons.1 hon
    obtain ⟨hdeeds, hsound⟩ := deeds_on_of_saveEntity hb.sound hcheck honx hx
    have hb₁ := hdeeds.tidy (fun _ hd => hd) hb hsound
    have hcoherent₁ := hdeeds.coherent (fun _ hd => hd) hcoherent
    have hunmade : b₁.events.get? u = none ↔ b.events.get? u = none ∧ firstNew? ls u [x] = none := by
      rw [← not_iff_not, ← Ne, made_saveEntity hb.sound hcheck hx u, not_and_or, firstNew?_eq_none]
      simp
    rw [ih hb₁ hcoherent₁ hchecks hons hrest, row?_saveEntity hb hcoherent hcheck honx hl hx, hunmade,
      firstNew?_cons ls u x es, List.flatMap_cons]
    simp only [List.mem_append, or_and_right, exists_or]
    cases firstNew? ls u [x] with
    | none => simp [or_assoc]
    | some f => simp [or_assoc, or_comm]

end Batch

namespace World

variable (r : Roster) (w : World) (es : List Entity) (w' : World)

/-- Whether a batch has the link of a new event learn a row: a copy of the event stands in the batch
directly or is the first new event with its uuid. -/
def Learns (e : Event) : Prop :=
  (∃ d ∈ es.flatMap Entity.direct, d.link = e.link) ∨
    ∃ f, firstNew? w.links e.uuid es = some f ∧ f.link = e.link

/-- The row to which all new events of a batch with a uuid have come. -/
structure SharedRow (u : String) (k : RowId) : Prop where
  new : w.store.events.get? k = none
  only : ∀ k', w'.store.uuid? k' = some (.text u) ↔ k' = k
  /-- It holds the last of them that stands in the batch directly, or else the first that is added. -/
  content : w'.store.events.get? k = ((lastDirect? u es).or (firstAdded? w.links u es)).map Event.row
  known : ∀ e ∈ es.flatMap (Entity.news w.links), e.uuid = u →
    ∀ k', w'.links.row? e.link = some k' → k' = k

/-- What a save that went well has come to for the new events of the batch. -/
structure Gathered [Regex.Library] : Prop where
  shared : ∀ e ∈ es.flatMap (Entity.news w.links), ∃ k, SharedRow w es w' e.uuid k
  learns : ∀ e : Event, e.On r →
    (w'.links.row? e.link ≠ none ↔ w.links.row? e.link ≠ none ∨ w.Learns es e)
  /-- A new event with the uuid of one of them cannot be saved later. -/
  refuses : ∀ (settings : Settings) (later : List Entity), (∀ y ∈ later, y.On r) →
    (∃ e ∈ es.flatMap (Entity.news w.links), ∃ f ∈ later.flatMap (Entity.news w'.links), e.uuid = f.uuid) →
    ∃ err, save settings later w' = .error err w' ∧
      ((∀ y ∈ later, y.Valid settings) → w'.store.Fits later → err = .store Store.uuidTaken)

end World

section Saves

variable {r : Roster} {settings : Settings} {w w' : World} {es saved : List Entity} {e : Event} {err : Error}

/-- A save gives a result or leaves the world as it was. -/
theorem save_ok_or_error [Regex.Library] (settings : Settings) (es : List Entity) (w : World) :
    (∃ saved w', save settings es w = .ok saved w') ∨ ∃ err, save settings es w = .error err w := by
  cases h : save settings es w with
  | ok saved w' => exact .inl ⟨saved, w', rfl⟩
  | error err w' =>
    obtain ⟨rfl, -⟩ := save_eq_error.1 h
    exact .inr ⟨err, rfl⟩

/-- When entities are valid, a save fails because a uuid is taken. -/
theorem clashes_of_valid [Regex.Library] (hw : w.Reachable r) (hon : ∀ x ∈ es, x.On r) (hfits : w.store.Fits es)
    (hvalid : ∀ x ∈ es, x.Valid settings) (h : save settings es w = .error err w') :
    w.Clashes es ∧ err = .store Store.uuidTaken := by
  obtain ⟨hs, hhome⟩ := hw.atHome
  obtain ⟨-, hfailure⟩ := save_eq_error.1 h
  cases hfailure with
  | check before x after split passed fault =>
    have hcheck := Entity.valid_iff.1 (hvalid x (by simp [split]))
    cases hcheck.symm.trans fault
  | write before x after b b' split passed written fault =>
    have hadvances := advances_begin hs hhome passed hon hfits
    have hall := forM_eq_error_of_split after written fault
    rw [← split] at hall
    rw [hall] at hadvances
    exact ⟨hadvances.2, hadvances.1⟩

theorem save_eq_error_of_clashes [Regex.Library] (hw : w.Reachable r) (hon : ∀ x ∈ es, x.On r)
    (h : w.Clashes es) :
    ∃ err, save settings es w = .error err w ∧
      ((∀ x ∈ es, x.Valid settings) → w.store.Fits es → err = .store Store.uuidTaken) := by
  rcases save_ok_or_error settings es w with ⟨saved, w', hsave⟩ | ⟨err, hsave⟩
  · obtain ⟨hs, hhome⟩ := hw.atHome
    obtain ⟨hchecks, b, hrun, -⟩ := save_eq_ok.1 hsave
    exact absurd h (not_clashes_of_forM hs hhome hchecks hon hrun)
  · exact ⟨err, hsave, fun hvalid hfits => (clashes_of_valid hw hon hfits hvalid hsave).2⟩

theorem Entity.On.of_mem_news {ls : Links} {x : Entity} (hx : x.On r) (he : e ∈ x.news ls) : e.On r := by
  refine hx.of_mem_events ?_
  cases x with
  | event => simpa [Entity.direct, Entity.uncancelled, Entity.events] using (Entity.mem_news.1 he).1
  | catalogue c =>
    rcases (Entity.mem_news.1 he).1 with h | h
    · cases h
    · exact List.mem_append_left _ (List.mem_filter.1 h).1

variable [Regex.Library]

theorem World.Reachable.save (hw : w.Reachable r) (hon : ∀ x ∈ es, x.On r)
    (h : Chronicle.save settings es w = .ok saved w') : w'.Reachable r := by
  have hstep := World.Step.saved (w := w) settings hon
  rw [h] at hstep
  exact hw.tail hstep

theorem sharedRow_of_save (hw : w.Reachable r) (hon : ∀ x ∈ es, x.On r)
    (h : save settings es w = .ok saved w') (he : e ∈ es.flatMap (Entity.news w.links)) :
    ∃ k, w.SharedRow es w' e.uuid k := by
  obtain ⟨hs, hhome⟩ := hw.atHome
  obtain ⟨hchecks, b, hrun, -, rfl⟩ := save_eq_ok.1 h
  have htidy := Batch.tidy_begin hs hhome
  obtain ⟨hdeeds, -⟩ := Batch.deeds_on_of_forM htidy.sound hchecks hon hrun
  obtain ⟨hrow, hb⟩ := Batch.rowOf?_forM htidy hchecks hon hrun
  have hcoherent := hdeeds.coherent (fun _ hd => hd) (Batch.coherent_begin r w.links w.store)
  obtain ⟨x, hx, hex⟩ := List.mem_flatMap.1 he
  have hintroduces : x.Introduces w.links e.uuid := Entity.introduces_iff.2 ⟨e, hex, rfl⟩
  -- the batch has made a row for the uuid, of which nothing was stored
  have hmade := (Batch.made_forM htidy.sound hchecks hon hrun e.uuid).2 (.inr ⟨x, hx, hintroduces⟩)
  obtain ⟨k, hk⟩ := Option.ne_none_iff_exists'.1 hmade
  obtain ⟨hfree, -⟩ := (hdeeds.since (Batch.since_begin w.store)).made _ k hk
  have hunstored : w.store.rowOf? e.uuid = none := by
    by_contra hstored
    exact not_clashes_of_forM hs hhome hchecks hon hrun
      ⟨x, hx, e.uuid, hintroduces, Store.hasUuid_iff_rowOf?.2 hstored⟩
  have hnew := (Entity.mem_news.1 hex).2
  have huuid := hb.placed.event e ((hon x hx).of_mem_news hex) k ((Batch.eventRow?_of_new hnew).trans hk)
  have honly (k' : RowId) : b.store.uuid? k' = some (.text e.uuid) ↔ k' = k :=
    ⟨fun hk' => hb.distinct k' k _ hk' huuid, fun hk' => hk' ▸ huuid⟩
  refine ⟨k, hfree, honly, ?_, fun f hf hu k' hk' => (honly k').1 ?_⟩
  · obtain ⟨row, hget, hu⟩ := Option.map_eq_some_iff.1 huuid
    have hfound := hb.distinct.rowOf?_eq_some.2 ⟨k, hget, hu⟩
    have hbefore : (Batch.begin w.store).store.rowOf? e.uuid = none := hunstored
    rw [hrow, hbefore, Option.none_or] at hfound
    rw [hget, ← hfound, Option.map_or]
  · obtain ⟨y, hy, hfy⟩ := List.mem_flatMap.1 hf
    have honf := (hon y hy).of_mem_news hfy
    rw [← hu]
    exact hb.placed.event f honf k' (hcoherent.event f honf k' hk')

theorem row?_of_save (hw : w.Reachable r) (hon : ∀ x ∈ es, x.On r)
    (h : save settings es w = .ok saved w') (he : e.On r) :
    w'.links.row? e.link ≠ none ↔ w.links.row? e.link ≠ none ∨ w.Learns es e := by
  obtain ⟨hs, hhome⟩ := hw.atHome
  obtain ⟨hchecks, b, hrun, -, rfl⟩ := save_eq_ok.1 h
  have hrows := Batch.row?_forM (Batch.tidy_begin hs hhome) (Batch.coherent_begin r w.links w.store) hchecks
    hon he hrun
  have hunmade : (Batch.begin w.store).events.get? e.uuid = none := rfl
  rw [Batch.links_begin, hunmade, eq_self_iff_true, true_and] at hrows
  exact hrows

/-- Twins make no difference to whether a save goes well: it fails when an entity is not valid or a new event
is to be written whose uuid is stored, and leaves all as it was. When it goes well, all new events with one
uuid have come to one row, with the content of one of them; an event that was only added and is not the first
of them does not know it. In separate saves all but the first are refused. -/
theorem save_gathers (hw : w.Reachable r) (hon : ∀ x ∈ es, x.On r) :
    (w.store.Fits es → ((∃ err w', save settings es w = .error err w') ↔
      (∃ x ∈ es, ¬ x.Valid settings) ∨ w.Clashes es)) ∧
    (∀ err w', save settings es w = .error err w' → w' = w) ∧
    ∀ saved w', save settings es w = .ok saved w' → w.Gathered r es w' := by
  refine ⟨fun hfits => ⟨?_, ?_⟩, fun err w' h => (save_eq_error.1 h).1, fun saved w' h => ?_⟩
  · rintro ⟨err, w', h⟩
    by_contra hneither
    simp only [not_or, not_exists, not_and, not_not] at hneither
    exact hneither.2 (clashes_of_valid hw hon hfits hneither.1 h).1
  · rintro (⟨x, hx, hinvalid⟩ | hclashes)
    · rcases save_ok_or_error settings es w with ⟨saved, w', h⟩ | ⟨err, h⟩
      · exact absurd (Entity.valid_iff.2 ((save_eq_ok.1 h).1 x hx)) hinvalid
      · exact ⟨err, w, h⟩
    · obtain ⟨err, h, -⟩ := save_eq_error_of_clashes hw hon hclashes
      exact ⟨err, w, h⟩
  · exact {
      shared := fun e he => sharedRow_of_save hw hon h he
      learns := fun e he => row?_of_save hw hon h he
      refuses := by
        rintro settings' later hlater ⟨e, he, f, hf, hu⟩
        obtain ⟨y, hy, hfy⟩ := List.mem_flatMap.1 hf
        obtain ⟨k, hshared⟩ := sharedRow_of_save hw hon h he
        refine save_eq_error_of_clashes (hw.save hon h) hlater ⟨y, hy, f.uuid, ?_, ?_⟩
        · exact Entity.introduces_iff.2 ⟨f, hfy, rfl⟩
        · exact Store.hasUuid_iff.2 ⟨k, hu ▸ (hshared.only k).2 rfl⟩ }

end Saves

/-- Two new events of a batch that have one uuid and are not copies of each other. -/
def World.Twins (w : World) (es : List Entity) (e f : Event) : Prop :=
  e ∈ es.flatMap (Entity.news w.links) ∧ f ∈ es.flatMap (Entity.news w.links) ∧ e.uuid = f.uuid ∧
    e.link ≠ f.link

/-- An event that is no copy of the one with the link `0`, though it has its uuid. -/
def impostor : Event := { tremor "u" 1 with author := "dave" }

/-- Both in one batch, with a catalogue that adds a third event with the uuid. -/
def overlay : List Entity :=
  [.event (tremor "u" 0), .event impostor,
    .catalogue ⟨"overlay", "carol", none, .empty, [tremor "u" 2, tremor "v" 3], [], ⟨4⟩⟩]

/-- What the links of the batch stand for. -/
def overlayRoster : Roster := fun l =>
  match l.number with
  | 3 => some (.event "v")
  | 4 => some .catalogue
  | _ => some (.event "u")

def overlaid : World := left (save .standard overlay ⟨.empty, .none⟩)

theorem save_gathers_overlay :
    ((∃ err w', save .standard overlay ⟨.empty, .none⟩ = .error err w') ↔
      (∃ x ∈ overlay, ¬ x.Valid .standard) ∨ World.Clashes ⟨.empty, .none⟩ overlay) ∧
    (∃ saved, save .standard overlay ⟨.empty, .none⟩ = .ok saved overlaid) ∧
    World.Gathered overlayRoster ⟨.empty, .none⟩ overlay overlaid := by
  have hreachable : World.Reachable overlayRoster ⟨.empty, .none⟩ := .refl
  have hon : ∀ x ∈ overlay, x.On overlayRoster := by decide
  have hfits : Store.empty.Fits overlay := by decide
  have hsave : save .standard overlay ⟨.empty, .none⟩ = .ok _ overlaid := save_of_succeeds (by decide +kernel)
  obtain ⟨hfails, -, hgathers⟩ := save_gathers hreachable hon
  exact ⟨hfails hfits, ⟨_, hsave⟩, hgathers _ _ hsave⟩

/-- In one batch the second event is written over the first, whose link knows the row, and the third is
neither written nor linked. In a save of its own the second is refused. -/
theorem not_refused_overlay :
    (World.Twins ⟨.empty, .none⟩ overlay (tremor "u" 0) impostor ∧
      World.Twins ⟨.empty, .none⟩ overlay impostor (tremor "u" 2)) ∧
    (∃ saved, save .standard overlay ⟨.empty, .none⟩ = .ok saved overlaid) ∧
    (overlaid.store.rowOf? "u" = some impostor.row ∧ impostor.row ≠ (tremor "u" 0).row) ∧
    (overlaid.links.row? (tremor "u" 0).link = some 1 ∧ overlaid.links.row? (tremor "u" 2).link = none) ∧
    (∃ saved, save .standard [.event (tremor "u" 0)] ⟨.empty, .none⟩ = .ok saved shaken) ∧
      save .standard [.event impostor] shaken = .error (.store Store.uuidTaken) shaken := by
  have hnews : overlay.flatMap (Entity.news .none) =
      [tremor "u" 0, impostor, tremor "u" 2, tremor "v" 3] := rfl
  refine ⟨⟨?_, ?_⟩, ⟨_, save_of_succeeds (by decide +kernel)⟩, ⟨by decide +kernel, by decide +kernel⟩,
    ⟨by decide +kernel, by decide +kernel⟩, ⟨_, save_of_succeeds (by decide +kernel)⟩, rfl⟩
  · exact ⟨by simp [hnews], by simp [hnews], rfl, by decide⟩
  · exact ⟨by simp [hnews], by simp [hnews], rfl, by decide⟩

end Chronicle
