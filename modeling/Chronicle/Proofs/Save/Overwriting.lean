import Chronicle.Proofs.Save.AtHome
import Chronicle.Proofs.Save.Reconciled

/-!
# Rows that are overwritten

An event that stands in a batch directly is written over the row its link knows, whatever is there. So a
row that was stored holds the last such event in the end, or what it held before.
-/
namespace Chronicle

/-- The last event of a batch, among those that stand in it directly, whose link knew a row. -/
def lastLinked? (ls : Links) (id : RowId) (es : List Entity) : Option Event :=
  ((es.flatMap Entity.direct).filter fun x => ls.row? x.link == some id).getLast?

theorem lastLinked?_cons (ls : Links) (id : RowId) (x : Entity) (es : List Entity) :
    lastLinked? ls id (x :: es) = (lastLinked? ls id es).or (lastLinked? ls id [x]) := by
  simp [lastLinked?, List.filter_append, List.getLast?_append]

theorem lastLinked?_event (ls : Links) (id : RowId) (e : Event) :
    lastLinked? ls id [.event e] = if ls.row? e.link = some id then some e else none := by
  by_cases h : ls.row? e.link = some id <;> simp [lastLinked?, Entity.direct, h]

theorem of_lastLinked? {ls : Links} {id : RowId} {es : List Entity} {x : Event}
    (h : lastLinked? ls id es = some x) : .event x ∈ es ∧ ls.row? x.link = some id := by
  obtain ⟨hx, hlink⟩ := List.mem_filter.1 (List.mem_of_getLast? h)
  obtain ⟨y, hy, hxy⟩ := List.mem_flatMap.1 hx
  cases y with
  | event e =>
    obtain rfl := List.mem_singleton.1 hxy
    exact ⟨hy, by simpa using hlink⟩
  | catalogue => cases hxy

theorem lastLinked?_eq_none {ls : Links} {id : RowId} {es : List Entity} :
    lastLinked? ls id es = none ↔ ∀ x, .event x ∈ es → ls.row? x.link ≠ some id := by
  induction es with
  | nil => simp [lastLinked?]
  | cons y es ih =>
    rw [lastLinked?_cons, Option.or_eq_none_iff, ih]
    cases y with
    | event e =>
      rw [lastLinked?_event]
      simp [and_comm]
    | catalogue c => simp [lastLinked?, Entity.direct]

namespace Batch

variable {r : Roster} {settings : Settings} {s : Store} {ls : Links} {b b' : Batch} {x : Entity}
  {es : List Entity} {id : RowId} {row : EventRow}

/-- What an entity leaves of a row that was stored when the batch began. -/
theorem row_saveEntity [Regex.Library] (hb : b.store.Sound) (hx : x.check settings = .ok ())
    (h : saveEntity settings ls x b = .ok () b') (hsince : Since s b) (hold : s.events.get? id ≠ none)
    (hrow : b.store.events.get? id = some row) :
    b'.store.events.get? id = some ((lastLinked? ls id [x]).elim row Event.row) := by
  cases x with
  | event e =>
    obtain ⟨k, h⟩ := saveEntity_event_eq_ok.1 h
    obtain ⟨d, hd, hdoes⟩ := does_of_saveEvent hb h
    rw [hdoes.get?_events, hrow, lastLinked?_event]
    rcases hd with rfl | rfl
    · have hfound := hdoes.of_overwrite
      have hlink : k = id ↔ ls.row? e.link = some id := by
        constructor
        · rintro rfl
          cases hnew : ls.row? e.link with
          | some k' => exact (eventRow?_of_row? hnew).symm.trans hfound
          | none =>
            rw [eventRow?_of_new hnew] at hfound
            exact absurd (hsince.made _ _ hfound).1 hold
        · intro h
          exact Option.some.inj (hfound.symm.trans (eventRow?_of_row? h))
      by_cases hk : k = id
      · simp [Deed.leaves, hk, hlink.1 hk]
      · simp [Deed.leaves, hk, mt hlink.2 hk]
    · obtain ⟨hnone, hfree, -⟩ := hdoes.of_insert
      have hk : k ≠ id := by
        rintro rfl
        cases hfree.symm.trans hrow
      simp [Deed.leaves, hk, (eventRow?_eq_none.1 hnone).1]
  | catalogue c =>
    obtain ⟨k, h⟩ := saveEntity_catalogue_eq_ok.1 h
    exact (reconciles_saveCatalogue hb hx h).deeds.preserve (P := fun b => b.store.events.get? id = some row)
      (fun _ _ _ hd hdoes => hdoes.get?_events_of_catalogue hd) hrow

/-- What a batch leaves of a row that was stored when it began. -/
theorem row_forM [Regex.Library] (hb : b.store.Sound) (hes : ∀ x ∈ es, x.check settings = .ok ())
    (h : es.forM (saveEntity settings ls) b = .ok () b') (hsince : Since s b) (hold : s.events.get? id ≠ none)
    (hrow : b.store.events.get? id = some row) :
    b'.store.events.get? id = some ((lastLinked? ls id es).elim row Event.row) := by
  induction es generalizing b row with
  | nil =>
    obtain ⟨-, rfl⟩ := pure_eq_ok.1 h
    exact hrow
  | cons x es ih =>
    obtain ⟨_, b₁, hx, hrest⟩ := bind_eq_ok.1 h
    obtain ⟨hcheck, hchecks⟩ := List.forall_mem_cons.1 hes
    obtain ⟨⟨_, hdeeds⟩, hsound⟩ := deeds_of_saveEntity hb hcheck hx
    have hrow₁ := row_saveEntity hb hcheck hx hsince hold hrow
    rw [ih hsound hchecks hrest (hdeeds.since hsince) hrow₁, lastLinked?_cons ls id x es]
    cases lastLinked? ls id es <;> rfl

/-- The link of an event that stands in the batch knows a row in the end. -/
theorem exists_row?_of_forM [Regex.Library] (hb : b.store.Sound) (hes : ∀ x ∈ es, x.check settings = .ok ())
    (hon : ∀ x ∈ es, x.On r) (hcoherent : Coherent r ls b)
    (h : es.forM (saveEntity settings ls) b = .ok () b') {e : Event} (he : .event e ∈ es) :
    ∃ id, (b'.links ls).row? e.link = some id := by
  induction es generalizing b with
  | nil => cases he
  | cons x es ih =>
    obtain ⟨_, b₁, hx, hrest⟩ := bind_eq_ok.1 h
    obtain ⟨hcheck, hchecks⟩ := List.forall_mem_cons.1 hes
    obtain ⟨honx, hons⟩ := List.forall_mem_cons.1 hon
    obtain ⟨hfirst, hsound⟩ := deeds_on_of_saveEntity hb hcheck honx hx
    have hcoherent₁ := hfirst.coherent (fun _ hd => hd) hcoherent
    rcases List.mem_cons.1 he with rfl | he
    · obtain ⟨id, hsave⟩ := saveEntity_event_eq_ok.1 hx
      obtain ⟨d, hd, hdoes⟩ := does_of_saveEvent hb hsave
      obtain ⟨hlater, -⟩ := deeds_on_of_forM hsound hchecks hons hrest
      have hdon : d.On r := Deed.Of.on (x := .event e) hd honx
      have hlearns : d.learns = some (e.link, id) := by rcases hd with rfl | rfl <;> rfl
      exact ⟨id, hlater.row?_eq_some (fun _ hd => hd) hcoherent₁
        (hdoes.row?_of_learns hdon hcoherent hlearns)⟩
    · exact ih hsound hchecks hons hcoherent₁ hrest he

/-- The rows with the uuid of an event that is the only one with it in a batch: its own and those that
were stored before. -/
def HoldsOnly (s : Store) (ls : Links) (e : Event) (b : Batch) : Prop :=
  ∀ k row, b.store.events.get? k = some row → row.uuid = .text e.uuid →
    row = e.row ∧ b.eventRow? ls e = some k ∨ s.events.get? k = some row

theorem Does.holdsOnly {d : Deed} {e : Event} (h : Does ls d b b')
    (hd : ∀ x k, d.OfEvent x k → x.uuid = e.uuid → x = e) (hb : HoldsOnly s ls e b) :
    HoldsOnly s ls e b' := by
  intro k row hrow hu
  have hkept (hold : b.store.events.get? k = some row) :
      row = e.row ∧ b'.eventRow? ls e = some k ∨ s.events.get? k = some row :=
    (hb k row hold hu).imp_left fun ⟨hsame, hfound⟩ => ⟨hsame, h.eventRow?_eq_some hfound⟩
  rw [h.get?_events] at hrow
  cases d with
  | overwrite x id =>
    by_cases hk : id = k
    · subst hk
      simp only [Deed.leaves, if_true] at hrow
      obtain ⟨-, -, rfl⟩ := Option.map_eq_some_iff.1 hrow
      obtain rfl := hd x id (.inl rfl) (StoredText.text.inj hu)
      exact .inl ⟨rfl, h.eventRow?_eq_some h.of_overwrite⟩
    · exact hkept (by simpa [Deed.leaves, hk] using hrow)
  | insert x id =>
    by_cases hk : id = k
    · subst hk
      simp only [Deed.leaves, if_true, Option.some.injEq] at hrow
      subst hrow
      obtain rfl := hd x id (.inr rfl) (StoredText.text.inj hu)
      obtain ⟨hnone, -⟩ := h.of_insert
      obtain ⟨hnew, -⟩ := eventRow?_eq_none.1 hnone
      cases h with
      | insert => exact .inl ⟨rfl, by rw [eventRow?_insert rfl, if_pos ⟨hnew, rfl⟩]⟩
    · exact hkept (by simpa [Deed.leaves, hk] using hrow)
  | _ => exact hkept hrow

end Batch

/-- All events that a batch has written are among those it may write. -/
theorem Deed.Of.mem_written {x : Entity} {id k : RowId} {d : Deed} {e : Event} (hd : d.Of x id)
    (he : d.OfEvent e k) : e ∈ x.written := by
  cases x with
  | event e' =>
    have hsame : e = e' := by rcases hd with rfl | rfl <;> rcases he with he | he <;> cases he <;> rfl
    exact List.mem_singleton.2 hsame
  | catalogue c =>
    rcases he with rfl | rfl
    · exact hd.elim
    · exact hd

/-- What a batch that went well has made of events, when the store was `s` and the links `ls` before and
they are `s'` and `ls'` after. -/
structure Written (s : Store) (ls : Links) (es : List Entity) (s' : Store) (ls' : Links) : Prop where
  /-- An event that stands in the batch has a row, as far as its link knows. -/
  linked : ∀ e, .event e ∈ es → ∃ id, ls'.row? e.link = some id
  /-- It is stored if this is a row with its uuid, or if it was stored and nothing was written over it. -/
  stored : ∀ e, .event e ∈ es → (es.flatMap Entity.written).countP (·.uuid == e.uuid) = 1 →
    ((∃ id, s'.events.get? id = some e.row) ↔
      (∃ id, ls'.row? e.link = some id ∧ s'.uuid? id = some (.text e.uuid)) ∨
      ∃ id, s.events.get? id = some e.row ∧ ∀ x, .event x ∈ es → ls.row? x.link ≠ some id)
  /-- A row that was stored holds the last event of the batch whose link knew it. -/
  overwritten : ∀ id row, s.events.get? id = some row →
    s'.events.get? id = some ((lastLinked? ls id es).elim row Event.row)
  /-- Its uuid stays if this event has it too. -/
  sameUuid : ∀ id row, s.events.get? id = some row → (s'.uuid? id = some row.uuid ↔
    ∀ x, lastLinked? ls id es = some x → StoredText.text x.uuid = row.uuid)
  /-- A row with a uuid that is not in the batch is kept if no link of an event in it knew it. -/
  kept : ∀ id row, s.events.get? id = some row →
    (∀ x ∈ es.flatMap Entity.written, row.uuid ≠ .text x.uuid) →
    (s'.events.get? id = some row ↔ ∀ x, .event x ∈ es → ls.row? x.link ≠ some id)

theorem mem_written_of_event {es : List Entity} {e : Event} (he : .event e ∈ es) :
    e ∈ es.flatMap Entity.written :=
  List.mem_flatMap.2 ⟨.event e, he, List.mem_singleton_self e⟩

theorem eq_of_countP_eq_one {α : Type} {l : List α} {p : α → Bool} (h : l.countP p = 1) {x y : α}
    (hx : x ∈ l) (hpx : p x = true) (hy : y ∈ l) (hpy : p y = true) : x = y := by
  rw [List.countP_eq_length_filter] at h
  obtain ⟨z, hz⟩ := List.length_eq_one_iff.1 h
  have heq (w : α) (hw : w ∈ l) (hpw : p w = true) : w = z := by
    rw [← List.mem_singleton, ← hz]
    exact List.mem_filter.2 ⟨hw, hpw⟩
  rw [heq x hx hpx, heq y hy hpy]

theorem Event.row_uuid (e : Event) : e.row.uuid = .text e.uuid := rfl

/-- A link that has come to know a row which was stored before knew it before. -/
theorem Batch.row?_of_stored {r : Roster} {s : Store} {ls : Links} {b : Batch} {e : Event} {id : RowId}
    {row : EventRow} (hcoherent : Coherent r ls b) (hsince : Since s b) (hon : e.On r)
    (hlink : (b.links ls).row? e.link = some id) (hold : s.events.get? id = some row) :
    ls.row? e.link = some id := by
  cases hnew : ls.row? e.link with
  | some k => rw [← hlink, hcoherent.known _ _ hnew]
  | none =>
    have hmade := hcoherent.event e hon id hlink
    rw [eventRow?_of_new hnew] at hmade
    cases hold.symm.trans (hsince.made _ _ hmade).1

/-- Whether an event is stored when a batch ends, if no other that it may write has its uuid. -/
theorem Batch.stored_iff {r : Roster} {s : Store} {ls : Links} {es : List Entity} {b : Batch} {e : Event}
    (he : .event e ∈ es) (hon : e.On r) (honly : ∀ x ∈ es.flatMap Entity.written, x.uuid = e.uuid → x = e)
    (hholds : HoldsOnly s ls e b) (hcoherent : Coherent r ls b) (hsince : Since s b)
    (hlinked : ∃ id, (b.links ls).row? e.link = some id)
    (hrow : ∀ id row, s.events.get? id = some row →
      b.store.events.get? id = some ((lastLinked? ls id es).elim row Event.row)) :
    (∃ id, b.store.events.get? id = some e.row) ↔
      (∃ id, (b.links ls).row? e.link = some id ∧ b.store.uuid? id = some (.text e.uuid)) ∨
      ∃ id, s.events.get? id = some e.row ∧ ∀ x, .event x ∈ es → ls.row? x.link ≠ some id := by
  -- what is written with the uuid is the event itself
  have hlast {id : RowId} {x : Event} (hx : lastLinked? ls id es = some x) (hu : x.uuid = e.uuid) : x = e :=
    honly x (mem_written_of_event (of_lastLinked? hx).1) hu
  constructor
  · rintro ⟨id, hid⟩
    rcases hholds id e.row hid rfl with ⟨-, hfound⟩ | hold
    · obtain ⟨k, hk⟩ := hlinked
      obtain rfl := Option.some.inj ((hcoherent.event e hon k hk).symm.trans hfound)
      exact .inl ⟨k, hk, by rw [Store.uuid?, hid]; rfl⟩
    · cases hx : lastLinked? ls id es with
      | none => exact .inr ⟨id, hold, lastLinked?_eq_none.1 hx⟩
      | some x =>
        have hsame := hrow id e.row hold
        rw [hx, hid] at hsame
        have hu : e.uuid = x.uuid := StoredText.text.inj (congrArg EventRow.uuid (Option.some.inj hsame))
        obtain rfl := hlast hx hu.symm
        exact .inl ⟨id, hcoherent.known _ _ (of_lastLinked? hx).2, by rw [Store.uuid?, hid]; rfl⟩
  · rintro (⟨id, hlink, huuid⟩ | ⟨id, hold, hnone⟩)
    · obtain ⟨row, hid, hu⟩ := Option.map_eq_some_iff.1 huuid
      rcases hholds id row hid hu with ⟨rfl, -⟩ | hold
      · exact ⟨id, hid⟩
      · have hknew := row?_of_stored hcoherent hsince hon hlink hold
        obtain ⟨x, hx⟩ := Option.ne_none_iff_exists'.1 fun hx => lastLinked?_eq_none.1 hx e he hknew
        have hsame := hrow id row hold
        rw [hx, hid, Option.elim_some, Option.some.injEq] at hsame
        subst hsame
        obtain rfl := hlast hx (StoredText.text.inj hu)
        exact ⟨id, hid⟩
    · rw [← lastLinked?_eq_none] at hnone
      exact ⟨id, by rw [hrow id _ hold, hnone]; rfl⟩

/-- What a save that goes well makes of the rows of events, whatever links know. -/
theorem written_of_save [Regex.Library] {r : Roster} {settings : Settings} {es saved : List Entity}
    {w w' : World} (hs : w.store.Sound) (hon : ∀ x ∈ es, x.On r) (h : save settings es w = .ok saved w') :
    Written w.store w.links es w'.store w'.links := by
  obtain ⟨s, ls⟩ := w
  obtain ⟨hchecks, b, hrun, -, rfl⟩ := save_eq_ok.1 h
  dsimp only at hs hrun ⊢
  have hcoherent := Batch.coherent_begin r ls s
  obtain ⟨hdeeds, -⟩ := Batch.deeds_of_forM (b := .begin s) hs hchecks hrun
  obtain ⟨hdeedsOn, -⟩ := Batch.deeds_on_of_forM (b := .begin s) hs hchecks hon hrun
  have hafter := hdeedsOn.coherent (fun _ hd => hd) hcoherent
  have hsince := hdeeds.since (Batch.since_begin s)
  have hlinked (e : Event) (he : .event e ∈ es) : ∃ id, (b.links ls).row? e.link = some id :=
    Batch.exists_row?_of_forM (b := .begin s) hs hchecks hon hcoherent hrun he
  have hrow (id : RowId) (row : EventRow) (hrow : s.events.get? id = some row) :
      b.store.events.get? id = some ((lastLinked? ls id es).elim row Event.row) :=
    Batch.row_forM (b := .begin s) hs hchecks hrun (Batch.since_begin s) (by rw [hrow]; nofun) hrow
  exact {
    linked := hlinked
    stored := fun e he hcount => by
      have honly (x : Event) (hx : x ∈ es.flatMap Entity.written) (hu : x.uuid = e.uuid) : x = e :=
        eq_of_countP_eq_one hcount hx (by simp [hu]) (mem_written_of_event he) (by simp)
      have hholds : Batch.HoldsOnly s ls e b := by
        refine hdeeds.preserve (P := Batch.HoldsOnly s ls e) ?_ fun _ _ hrow _ => .inr hrow
        rintro d _ _ ⟨x, hx, id, hd⟩ hdoes
        exact hdoes.holdsOnly fun y k hy => honly y (List.mem_flatMap.2 ⟨x, hx, hd.mem_written hy⟩)
      exact Batch.stored_iff he (hon _ he) honly hholds hafter hsince (hlinked e he) hrow
    overwritten := hrow
    sameUuid := fun id row hid => by
      rw [Store.uuid?, hrow id row hid]
      cases lastLinked? ls id es with
      | none => simp
      | some x => simp [Event.row_uuid]
    kept := fun id row hid hfree => by
      rw [hrow id row hid, ← lastLinked?_eq_none]
      cases hx : lastLinked? ls id es with
      | none => simp
      | some x =>
        have hne := hfree x (mem_written_of_event (of_lastLinked? hx).1)
        simp only [Option.elim_some, Option.some.injEq, reduceCtorEq, iff_false]
        rintro rfl
        exact hne rfl }

/-- With links at home an event is stored wherever it is saved, and nothing is written over another event:
a row keeps its uuid. -/
theorem AtHome.written [Regex.Library] {r : Roster} {settings : Settings} {es saved : List Entity}
    {w w' : World} (hhome : AtHome r w) (hs : w.store.Sound) (hon : ∀ x ∈ es, x.On r)
    (h : Chronicle.save settings es w = .ok saved w') :
    (∀ e, .event e ∈ es → (es.flatMap Entity.written).countP (·.uuid == e.uuid) = 1 →
      ∃ id, w'.store.events.get? id = some e.row) ∧
    (∀ id row, w.store.events.get? id = some row →
      (∀ x ∈ es.flatMap Entity.written, row.uuid ≠ .text x.uuid) → w'.store.events.get? id = some row) ∧
    ∀ id u, w.store.uuid? id = some u → w'.store.uuid? id = some u := by
  have hwritten := written_of_save hs hon h
  have hafter : AtHome r w' := by
    have hsaved := hhome.save hs settings hon
    rwa [h] at hsaved
  refine ⟨fun e he hcount => ?_, fun id row hrow hfree => ?_, fun id u hu => ?_⟩
  · obtain ⟨id, hid⟩ := hwritten.linked e he
    exact (hwritten.stored e he hcount).2 (.inl ⟨id, hid, hafter.event e (hon _ he) id hid⟩)
  · refine (hwritten.kept id row hrow hfree).2 fun x hx hlink => ?_
    have huuid := hhome.event x (hon _ hx) id hlink
    rw [Store.uuid?, hrow] at huuid
    exact hfree x (mem_written_of_event hx) (Option.some.inj huuid)
  · obtain ⟨row, hrow, rfl⟩ := Option.map_eq_some_iff.1 hu
    refine (hwritten.sameUuid id row hrow).2 fun x hx => ?_
    obtain ⟨hmem, hlink⟩ := of_lastLinked? hx
    exact Option.some.inj ((hhome.event x (hon _ hmem) id hlink).symm.trans hu)

end Chronicle
