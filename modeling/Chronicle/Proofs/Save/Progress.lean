import Chronicle.Proofs.Save.Outcome
import Chronicle.Proofs.Store.Counted

/-!
# Batches that go on

With links at home and ids left, entities that passed their checks are written, and only one thing can get
in the way: a new event is to be written whose uuid was stored before the batch began.
-/
namespace Chronicle

theorem Store.addMember_of_contains {s : Store} {catalogue event : RowId}
    (hcatalogue : s.catalogues.contains catalogue = true) (hevent : s.events.contains event = true) :
    ∃ new s', s.addMember catalogue event = .ok (new, s') := by
  obtain ⟨row, hrow⟩ := Option.isSome_iff_exists.1 hcatalogue
  cases hmember : row.members.contains event with
  | true => exact ⟨_, _, by simp only [addMember, hrow, hmember, if_true]; rfl⟩
  | false => exact ⟨_, _, by simp only [addMember, hrow, hmember, hevent, if_true]; rfl⟩

theorem Store.insertEvent_of_hasUuid {s : Store} {cells : EventCells} {id : RowId}
    (hid : nextId s.lastEvent s.events = .ok id) (h : hasUuid s.events (.text cells.uuid) = true) :
    s.insertEvent cells = .error uuidTaken :=
  except_bind_eq_error.2 (.inr ⟨id, hid, if_pos h⟩)

/-- Attributes that may be stored are brought in line when their owner exists. -/
theorem Store.Sound.syncAttributes_eq [Regex.Library] {s : Store} {kind : EntityKind} {owner : RowId}
    {p : KeyPolicy} {a : Attributes} (hs : s.Sound) (howner : s.ownerExists kind owner = true)
    (ha : p.Admits a) :
    syncAttributes p kind owner a s = .ok () (s.withTable kind owner (.of a)) := by
  obtain ⟨stored, hstored, hattributes⟩ := hs.exists_attributes kind owner
  exact Store.syncAttributes_eq howner ha hstored hattributes

namespace Deed

/-- How many rows of events a deed makes at most. -/
def newEvents : Deed → Nat
  | insert _ _ => 1
  | _ => 0

def newCatalogues : Deed → Nat
  | catalogue _ _ => 1
  | _ => 0

end Deed

namespace Batch

/-- Whether rows of events have the uuids that they had in a store or that the batch made them for. -/
def Accounted (s : Store) (b : Batch) : Prop :=
  ∀ k u, b.store.uuid? k = some (.text u) → s.uuid? k = some (.text u) ∨ b.events.get? u = some k

/-- What holds while entities are written, with ids for so many more rows. -/
structure Fit [Regex.Library] (r : Roster) (ls : Links) (s : Store) (events catalogues : Nat) (b : Batch) :
    Prop where
  tidy : Tidy r ls b
  room : b.store.Room events catalogues
  accounted : Accounted s b

/-- Whether an event is new and its uuid, for which the batch made no row, was stored before it began. -/
def Taken (s : Store) (ls : Links) (b : Batch) (e : Event) : Prop :=
  ls.row? e.link = none ∧ b.events.get? e.uuid = none ∧ Store.hasUuid s.events (.text e.uuid) = true

/-- Work that goes well, or is refused because a uuid is taken. -/
def Advances {α : Type} (after : α → Batch → Prop) (taken : Prop) : EStateM.Result Error Batch α → Prop
  | .ok a b => after a b
  | .error e _ => e = .store Store.uuidTaken ∧ taken

section Advances

variable {α β : Type} {after : α → Batch → Prop} {after' : β → Batch → Prop} {taken taken' : Prop} {b : Batch}

theorem Advances.bind {x : BatchWork α} {f : α → BatchWork β} (hx : Advances after taken (x b))
    (hf : ∀ a b', x b = .ok a b' → after a b' → Advances after' taken (f a b')) :
    Advances after' taken ((x >>= f) b) := by
  cases h : x b with
  | ok a b' =>
    rw [h] at hx
    have hbind : (x >>= f) b = f a b' := by simp [Bind.bind, EStateM.bind, h]
    rw [hbind]
    exact hf a b' h hx
  | error e b' =>
    rw [h] at hx
    have hbind : (x >>= f) b = .error e b' := by simp [Bind.bind, EStateM.bind, h]
    rw [hbind]
    exact hx

theorem Advances.mono {result : EStateM.Result Error Batch α} (h : Advances after taken result)
    {after' : α → Batch → Prop} (hafter : ∀ a b, after a b → after' a b) (htaken : taken → taken') :
    Advances after' taken' result := by
  cases result with
  | ok a b => exact hafter a b h
  | error e b => exact ⟨h.1, htaken h.2⟩

end Advances

variable {r : Roster} {settings : Settings} {ls : Links} {b b' : Batch} {d : Deed} {q : Deed → Prop}
  {e : Event} {c : Catalogue} {x : Entity} {es : List Entity} {id : RowId} {s : Store} {m n : Nat}
  {u : String}

theorem Does.room (h : Does ls d b b') (hb : b.store.Room (m + d.newEvents) (n + d.newCatalogues)) :
    b'.store.Room m n := by
  cases h with
  | overwrite _ hrow => exact hb.overEvent (Store.contains_of_get? hrow) _
  | insert _ hid => exact hb.newEvent hid _
  | updateCatalogue =>
    have hb := hb.mono (Nat.le_refl m) (Nat.le_succ n)
    refine Store.updateCatalogue_induction hb fun row hrow => ?_
    exact hb.overCatalogue (Store.contains_of_get? hrow) _
  | insertCatalogue _ hid => exact hb.newCatalogue hid _
  | removeMember event =>
    refine Store.removeMember_induction hb fun row hrow => ?_
    exact hb.overCatalogue (Store.contains_of_get? hrow) _
  | addMember hrow => exact hb.overCatalogue (Store.contains_of_get? hrow) _
  | attributes a =>
    unfold Store.withTable
    refine Store.withAttributes_induction hb nofun fun row _ hrow => ?_
    exact hb.overCatalogue (Store.contains_of_get? hrow) _
  | _ => exact hb

theorem Does.accounted (h : Does ls d b b') (hd : d.On r) (hb : Placed r ls b) (ha : Accounted s b) :
    Accounted s b' := by
  intro k u hu
  rw [Store.uuid?, h.get?_events] at hu
  have hsame (hevents : b'.events = b.events) (hleaves : d.leaves k (b.store.events.get? k) =
      b.store.events.get? k) : s.uuid? k = some (.text u) ∨ b'.events.get? u = some k := by
    rw [hleaves] at hu
    rw [hevents]
    exact ha k u hu
  cases d with
  | overwrite e id =>
    by_cases hk : id = k
    · subst hk
      obtain ⟨row', hrow', huuid⟩ := Option.map_eq_some_iff.1 hu
      simp only [Deed.leaves, if_true] at hrow'
      obtain ⟨row, hrow, rfl⟩ := Option.map_eq_some_iff.1 hrow'
      have hold := hb.event e hd id h.of_overwrite
      obtain rfl := StoredText.text.inj huuid
      cases h with
      | overwrite => exact ha _ _ hold
      | miss => exact ha _ _ hold
    · have hevents : b'.events = b.events := by cases h <;> rfl
      exact hsame hevents (if_neg hk)
  | insert e id =>
    cases h with
    | insert hnone =>
      obtain ⟨-, hunmade⟩ := eventRow?_eq_none.1 hnone
      by_cases hk : id = k
      · subst hk
        simp only [Deed.leaves, if_true, Option.map_some, Option.some.injEq] at hu
        obtain rfl := StoredText.text.inj hu
        exact .inr (SortedMap.get?_insert_self ..)
      · simp only [Deed.leaves, hk, if_false] at hu
        refine (ha k u hu).imp_right fun hmade => ?_
        have hne : e.uuid ≠ u := by
          rintro rfl
          cases hunmade.symm.trans hmade
        rw [SortedMap.get?_insert_of_ne _ _ hne, hmade]
  | _ =>
    have hevents : b'.events = b.events := by cases h <;> rfl
    exact hsame hevents rfl

theorem fit_begin [Regex.Library] (hs : s.Reachable) (hhome : AtHome r ⟨s, ls⟩)
    (hm : s.events.entries.length + m < Store.idLimit)
    (hn : s.catalogues.entries.length + n < Store.idLimit) : Fit r ls s m n (begin s) :=
  ⟨tidy_begin hs hhome, ⟨hs.counted, hm, hn⟩, fun _ _ hu => .inl hu⟩

theorem Does.fit [Regex.Library] (h : Does ls d b b') (hd : d.On r) (hs : b'.store.Sound)
    (hb : Fit r ls s (m + d.newEvents) (n + d.newCatalogues) b) : Fit r ls s m n b' :=
  ⟨h.tidy hd hb.tidy hs, h.room hb.room, h.accounted hd hb.tidy.placed hb.accounted⟩

theorem Fit.mono [Regex.Library] {m' n' : Nat} (h : Fit r ls s m' n' b) (hm : m ≤ m') (hn : n ≤ n') :
    Fit r ls s m n b :=
  ⟨h.tidy, h.room.mono hm hn, h.accounted⟩

/-- A uuid that is taken and was not given away by the batch was taken before. -/
theorem Accounted.hasUuid (h : Accounted s b) (hunmade : b.events.get? u = none)
    (hu : Store.hasUuid b.store.events (.text u) = true) : Store.hasUuid s.events (.text u) = true := by
  obtain ⟨k, hk⟩ := Store.hasUuid_iff.1 hu
  rcases h k u hk with hold | hmade
  · exact Store.hasUuid_iff.2 ⟨k, hold⟩
  · cases hunmade.symm.trans hmade

variable [Regex.Library]

/-- A row with the uuid of an event may be overwritten with it. -/
theorem Tidy.exists_updateEvent (hb : Tidy r ls b) (hon : e.On r) (hrow : b.eventRow? ls e = some id) :
    ∃ s, b.store.updateEvent id e.cells = .ok s ∧ s.events.contains id = true := by
  have huuid := hb.placed.event e hon id hrow
  obtain ⟨row, hget, -⟩ := Option.map_eq_some_iff.1 huuid
  exact ⟨_, Store.updateEvent_eq_ok.2 (.inr ⟨row, hget, hb.distinct.hasUuid_erase huuid, rfl⟩),
    SortedMap.contains_insert.2 (.inl rfl)⟩

theorem fit_saveEvent (hb : Fit r ls s (m + 1) n b) (he : e.check settings = .ok ()) (hon : e.On r)
    (h : saveEvent settings ls e b = .ok id b') : Fit r ls s m n b' ∧ b'.eventRow? ls e = some id := by
  obtain ⟨d, hd, hdoes⟩ := does_of_saveEvent hb.tidy.sound h
  have hdon : d.On r := Deed.Of.on (x := .event e) hd hon
  have hsound := (changes_saveEvent he h).sound hb.tidy.sound
  refine ⟨hdoes.fit hdon hsound ?_, (of_saveEvent hb.tidy.sound h).1⟩
  rcases hd with rfl | rfl
  · exact hb.mono (Nat.le_succ m) (Nat.le_refl n)
  · exact hb

/-- An event is saved unless it is new and its uuid is taken. -/
theorem advances_saveEvent (hb : Fit r ls s (m + 1) n b) (he : e.check settings = .ok ())
    (hon : e.On r) : Advances (fun id b' => Fit r ls s m n b' ∧ b'.eventRow? ls e = some id)
      (Taken s ls b e) (saveEvent settings ls e b) := by
  obtain ⟨hadmits, -⟩ := Event.check_eq_ok.1 he
  -- what was written gets its attributes
  have hwritten {id : RowId} {b₁ : Batch} (hwrite : writeEvent ls e b = .ok id b₁)
      (hsound : b₁.store.Sound) (hcontains : b₁.store.events.contains id = true) :
      Advances (fun id b' => Fit r ls s m n b' ∧ b'.eventRow? ls e = some id)
        (Taken s ls b e) (saveEvent settings ls e b) := by
    have howner : b₁.store.ownerExists .event id = true := hcontains
    have hsave := saveEvent_eq_ok.2 ⟨b₁, _, hwrite, hsound.syncAttributes_eq howner hadmits, rfl⟩
    rw [hsave]
    exact fit_saveEvent hb he hon hsave
  cases hrow : b.eventRow? ls e with
  | some id =>
    obtain ⟨s₁, hupdate, hcontains⟩ := hb.tidy.exists_updateEvent hon hrow
    exact hwritten (writeEvent_eq_ok.2 (.inl ⟨hrow, s₁, hupdate, rfl⟩))
      (hb.tidy.sound.change (.updateEvent e he hupdate)) hcontains
  | none =>
    obtain ⟨hnew, hunmade⟩ := eventRow?_eq_none.1 hrow
    have hroom := hb.room.events
    obtain ⟨id, hid⟩ := hb.room.counted.events.exists_nextId (by omega)
    cases htaken : Store.hasUuid b.store.events (.text e.uuid) with
    | true =>
      have herror : onStore (Work.change fun s => s.insertEvent e.cells) b =
          .error (.store Store.uuidTaken) b :=
        onStore_eq_error.2 ⟨b.store, Work.change_eq_error.2
          ⟨_, Store.insertEvent_of_hasUuid hid htaken, rfl, rfl⟩, rfl⟩
      have hwrite : writeEvent ls e b = .error (.store Store.uuidTaken) b := by
        rw [writeEvent, get_bind_apply, hrow]
        exact bind_eq_error.2 (.inl herror)
      have hsave : saveEvent settings ls e b = .error (.store Store.uuidTaken) b :=
        bind_eq_error.2 (.inl hwrite)
      rw [hsave]
      exact ⟨rfl, hnew, hunmade, hb.accounted.hasUuid hunmade htaken⟩
    | false =>
      have hinsert := (Store.insertEvent_eq_ok (c := e.cells)).2 ⟨hid, htaken, rfl⟩
      exact hwritten (writeEvent_eq_ok.2 (.inr ⟨hrow, _, hinsert, rfl⟩))
        (hb.tidy.sound.change (.insertEvent e he hinsert)) (SortedMap.contains_insert.2 (.inl rfl))

theorem advances_additionRow (hb : Fit r ls s (m + 1) n b) (he : e.check settings = .ok ())
    (hon : e.On r) : Advances (fun id b' => Fit r ls s m n b' ∧ b'.eventRow? ls e = some id)
      (Taken s ls b e) (additionRow settings ls e b) := by
  rw [additionRow, get_bind_apply]
  cases hrow : b.eventRow? ls e with
  | some id => exact ⟨hb.mono (Nat.le_succ m) (Nat.le_refl n), hrow⟩
  | none => exact advances_saveEvent hb he hon

theorem advances_applyRemovals {taken : Prop} {removals additions : List Event}
    (hb : Fit r ls s m n b) : Advances (fun _ b' => Fit r ls s m n b') taken
      (applyRemovals ls id removals additions b) := by
  induction removals generalizing additions b with
  | nil => exact hb
  | cons x removals ih =>
    rw [applyRemovals_cons]
    cases b.eventRow? ls x with
    | some event =>
      have hdoes : Does ls (.members id) b { b with store := (b.store.removeMember id event).2 } :=
        .removeMember event
      have hchange : Store.Change .standard (.members id) b.store (b.store.removeMember id event).2 :=
        .removeMember event
      exact ih (hdoes.fit trivial (hb.tidy.sound.change hchange) hb)
    | none => exact ih hb

theorem advances_addMember {taken : Prop} {event : RowId} (hb : Fit r ls s m n b)
    (hid : b.store.catalogues.contains id = true) (hevent : b.store.events.contains event = true) :
    Advances (fun _ b' => Fit r ls s m n b' ∧ b'.events = b.events ∧
      b'.store.catalogues.contains id = true) taken
      (onStore (Work.change fun s => s.addMember id event) b) := by
  obtain ⟨new, s', hadd⟩ := Store.addMember_of_contains hid hevent
  rw [onStore_change_eq_ok.2 ⟨s', hadd, rfl⟩]
  obtain ⟨-, htidy⟩ := hb.tidy.addMember hadd
  obtain ⟨row, hrow, -, -, rfl⟩ := Store.addMember_eq_ok hadd
  exact ⟨⟨htidy, hb.room.overCatalogue (Store.contains_of_get? hrow) _, hb.accounted⟩, rfl,
    SortedMap.contains_insert.2 (.inl rfl)⟩

/-- Additions are applied unless one of them is new and its uuid is taken. -/
theorem advances_applyAdditions {as : List Event} (hb : Fit r ls s (m + as.length) n b)
    (has : ∀ a ∈ as, a.check settings = .ok ()) (hon : ∀ a ∈ as, a.On r)
    (hid : b.store.catalogues.contains id = true) :
    Advances (fun _ b' => Fit r ls s m n b' ∧ b'.store.catalogues.contains id = true)
      (∃ a ∈ as, Taken s ls b a) (applyAdditions settings ls id as b) := by
  induction as generalizing b with
  | nil => exact ⟨hb, hid⟩
  | cons a as ih =>
    obtain ⟨hcheck, hchecks⟩ := List.forall_mem_cons.1 has
    obtain ⟨hona, hons⟩ := List.forall_mem_cons.1 hon
    have hrow := advances_additionRow (m := m + as.length) hb hcheck hona
    refine (hrow.mono (fun _ _ h => h) fun htaken => ⟨a, List.mem_cons_self, htaken⟩).bind ?_
    rintro event b₁ hrow ⟨hb₁, hevent⟩
    have hkept : b₁.store.catalogues.contains id = true := by
      rcases additionRow_eq_ok.1 hrow with ⟨-, rfl⟩ | ⟨-, hsave⟩
      · exact hid
      · rw [SortedMap.contains, get?_saveEvent hcheck hsave]
        exact hid
    obtain ⟨row, hget, -⟩ := Option.map_eq_some_iff.1 (hb₁.tidy.placed.event a hona event hevent)
    refine (advances_addMember hb₁ hkept (Store.contains_of_get? hget)).bind ?_
    rintro new b₂ - ⟨hb₂, hevents, hid₂⟩
    refine (ih hb₂ hchecks hons hid₂).mono (fun _ _ h => h) ?_
    -- what was not made after the first addition was not made before it
    rintro ⟨x, hx, hnew, hunmade, htaken⟩
    obtain ⟨-, -, -, hmade⟩ := of_additionRow hb.tidy.sound hcheck hrow
    rw [hevents] at hunmade
    exact ⟨x, List.mem_cons_of_mem a hx, hnew, not_not.1 fun h => (hmade x.uuid).2 (.inl h) hunmade, htaken⟩

/-- A catalogue is always written. -/
theorem advances_writeCatalogue {taken : Prop} (hb : Fit r ls s m (n + 1) b)
    (hc : c.check settings = .ok ()) (hon : c.On r) :
    Advances (fun id b' => Fit r ls s m n b' ∧ b'.store.catalogues.contains id = true) taken
      (writeCatalogue ls c b) := by
  have hwritten {id : RowId} {b₁ : Batch} (hwrite : writeCatalogue ls c b = .ok id b₁) :
      Advances (fun id b' => Fit r ls s m n b' ∧ b'.store.catalogues.contains id = true) taken
        (writeCatalogue ls c b) := by
    have hsound := hb.tidy.sound.change (change_of_writeCatalogue hc hwrite)
    have hb₁ := (does_of_writeCatalogue hwrite).fit hon.1 hsound hb
    obtain ⟨-, hrow, -⟩ := of_writeCatalogue hwrite
    rw [hwrite]
    exact ⟨hb₁, hb₁.tidy.placed.catalogue c hon.1 id hrow⟩
  cases hrow : b.catalogueRow? ls c with
  | some id => exact hwritten (writeCatalogue_eq_ok.2 (.inl ⟨hrow, rfl⟩))
  | none =>
    have hroom := hb.room.catalogues
    obtain ⟨id, hid⟩ := hb.room.counted.catalogues.exists_nextId (by omega)
    have hinsert := (Store.insertCatalogue_eq_ok (c := c.cells)).2 ⟨hid, rfl⟩
    exact hwritten (writeCatalogue_eq_ok.2 (.inr ⟨hrow, _, hinsert, rfl⟩))

theorem advances_syncAttributes {taken : Prop} {a : Attributes} (hb : Fit r ls s m n b)
    (hid : b.store.catalogues.contains id = true) (ha : settings.keyPolicy.Admits a) :
    Advances (fun _ b' => Fit r ls s m n b') taken
      (onStore (Store.syncAttributes settings.keyPolicy .catalogue id a) b) := by
  have howner : b.store.ownerExists .catalogue id = true := hid
  have hsync := hb.tidy.sound.syncAttributes_eq howner ha
  have hdoes : Does ls (.attributes id) b
      { b with store := b.store.withTable .catalogue id (.of a) } := .attributes a
  rw [onStore_eq_ok.2 ⟨_, hsync, rfl⟩]
  exact hdoes.fit trivial ((Store.changes_syncAttributes hsync).sound hb.tidy.sound) hb

/-- A catalogue is saved unless it introduces a uuid that is taken. -/
theorem advances_saveCatalogue (hb : Fit r ls s (m + c.additions.length) (n + 1) b)
    (hc : c.check settings = .ok ()) (hon : c.On r) :
    Advances (fun _ b' => Fit r ls s m n b')
      (∃ u, (Entity.catalogue c).Introduces ls u ∧ Store.hasUuid s.events (.text u) = true)
      (saveCatalogue settings ls c b) := by
  obtain ⟨hadmits, -, hadditions⟩ := Catalogue.check_eq_ok.1 hc
  refine (advances_writeCatalogue hb hc hon).bind ?_
  rintro id b₁ hwrite ⟨hb₁, hid₁⟩
  refine (advances_applyRemovals hb₁).bind ?_
  intro rest b₂ hremove hb₂
  obtain ⟨hrest, s₂, rfl, -⟩ := of_applyRemovals hremove
  have hsub := applyRemovals_subset hremove
  have hlength : rest.length ≤ c.additions.length := by
    rw [hrest]
    exact List.length_filter_le _ _
  have hid₂ : s₂.catalogues.contains id = true :=
    (deeds_of_applyRemovals hremove).preserve (P := fun b => b.store.catalogues.contains id = true)
      (fun _ _ _ _ hdoes => hdoes.catalogues_contains) hid₁
  have hadd := advances_applyAdditions (m := m) (hb₂.mono (by omega) (Nat.le_refl n))
    (fun a ha => hadditions a (hsub a ha)) (fun a ha => hon.2.1 a (hsub a ha)) hid₂
  refine (hadd.mono (fun _ _ h => h) ?_).bind ?_
  · rintro ⟨a, ha, hnew, hunmade, htaken⟩
    rw [hrest, List.mem_filter, decide_eq_true_iff, cancels_iff] at ha
    exact ⟨a.uuid, ⟨⟨a, ha.1, hnew, rfl⟩, fun hcancels => ha.2 ⟨hunmade, hcancels⟩⟩, htaken⟩
  · rintro _ b₃ - ⟨hb₃, hid₃⟩
    exact (advances_syncAttributes hb₃ hid₃ hadmits).bind fun _ b₄ _ hb₄ => hb₄

/-- An entity is saved unless it introduces a uuid that is taken. -/
theorem advances_saveEntity (hb : Fit r ls s (m + x.written.length) (n + 1) b)
    (hx : x.check settings = .ok ()) (hon : x.On r) : Advances (fun _ b' => Fit r ls s m n b')
      (∃ u, x.Introduces ls u ∧ Store.hasUuid s.events (.text u) = true)
      (saveEntity settings ls x b) := by
  cases x with
  | event e =>
    have hsave := advances_saveEvent hb hx hon
    refine (hsave.mono (fun _ _ h => h) ?_).bind fun id b' _ hb' => hb'.1.mono (Nat.le_refl m) (Nat.le_succ n)
    rintro ⟨hnew, -, htaken⟩
    exact ⟨e.uuid, ⟨hnew, rfl⟩, htaken⟩
  | catalogue c => exact (advances_saveCatalogue hb hx hon).bind fun id b' _ hb' => hb'

/-- A batch is saved unless one of its entities introduces a uuid that is taken. -/
theorem advances_forM (hb : Fit r ls s (m + (es.flatMap Entity.written).length) (n + es.length) b)
    (hes : ∀ x ∈ es, x.check settings = .ok ()) (hon : ∀ x ∈ es, x.On r) :
    Advances (fun _ b' => Fit r ls s m n b')
      (∃ x ∈ es, ∃ u, x.Introduces ls u ∧ Store.hasUuid s.events (.text u) = true)
      (es.forM (saveEntity settings ls) b) := by
  induction es generalizing b with
  | nil => exact hb
  | cons x es ih =>
    obtain ⟨hcheck, hchecks⟩ := List.forall_mem_cons.1 hes
    obtain ⟨honx, hons⟩ := List.forall_mem_cons.1 hon
    have hfirst : Fit r ls s (m + (es.flatMap Entity.written).length + x.written.length)
        (n + es.length + 1) b := by
      refine hb.mono ?_ (Nat.le_refl _)
      simp only [List.flatMap_cons, List.length_append]
      omega
    refine ((advances_saveEntity hfirst hcheck honx).mono (fun _ _ h => h) fun htaken =>
      ⟨x, List.mem_cons_self, htaken⟩).bind fun _ b₁ _ hb₁ => ?_
    exact (ih hb₁ hchecks hons).mono (fun _ _ h => h) fun ⟨y, hy, htaken⟩ =>
      ⟨y, List.mem_cons_of_mem x hy, htaken⟩

end Batch

end Chronicle
