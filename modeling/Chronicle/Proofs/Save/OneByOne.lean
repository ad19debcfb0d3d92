import Chronicle.Regex.Standard
import Chronicle.Proofs.Save.Roster

/-!
# Batches and single saves

Within a batch a row that was made earlier is found by a uuid or a link, and across calls by what links
have learnt. Both find the same rows as long as no two new events with links of their own have one uuid. So
a batch does what saving its entities one after the other does.
-/
namespace Chronicle

/-- Saves entities one call after the other; the first error ends it. -/
def saveEach [Regex.Library] (settings : Settings) : List Entity → EStateM Error World (List Entity)
  | [] => pure []
  | x :: es => do
    let saved ← save settings [x]
    let rest ← saveEach settings es
    pure (saved ++ rest)

/-- Whether new events with links of their own have uuids of their own. -/
def Links.TellApart (ls : Links) (events : List Event) : Prop :=
  ∀ x ∈ events, ∀ y ∈ events, ls.row? x.link = .none → ls.row? y.link = .none →
    x.uuid = y.uuid → x.link = y.link

instance (ls : Links) (events : List Event) : Decidable (ls.TellApart events) :=
  inferInstanceAs (Decidable (∀ x ∈ events, ∀ y ∈ events, _ → _ → _ → _))

namespace Batch

/-- Whether a batch finds the entities in the rows that their links are going to know. -/
structure Knows (es : List Entity) (ls : Links) (b : Batch) : Prop where
  apart : ls.TellApart (es.flatMap Entity.events)
  event : ∀ x ∈ es.flatMap Entity.events, b.eventRow? ls x = (b.links ls).row? x.link
  catalogue : ∀ c, .catalogue c ∈ es → b.catalogueRow? ls c = (b.links ls).row? c.link

variable {r : Roster} {settings : Settings} {all : List Entity} {ls ls₁ ls₂ : Links}
  {b b' b₁ b₂ b₁' : Batch} {id : RowId} {e : Event} {c : Catalogue}

theorem knows_begin (s : Store) (h : ls.TellApart (all.flatMap Entity.events)) :
    Knows all ls (begin s) where
  apart := h
  event x _ := by simp
  catalogue c _ := by simp

namespace Knows

theorem withStore (h : Knows all ls b) (s : Store) : Knows all ls { b with store := s } :=
  ⟨h.apart, h.event, h.catalogue⟩

/-- What is new to the links of a batch is new to the links before it. -/
theorem row?_eq_none (h : Knows all ls b) {x : Event} (hx : x ∈ all.flatMap Entity.events)
    (hnone : (b.links ls).row? x.link = none) : ls.row? x.link = none := by
  rw [← h.event x hx] at hnone
  exact (eventRow?_eq_none.1 hnone).1

theorem begin_again (h : Knows all ls b) (s : Store) : Knows all (b.links ls) (begin s) := by
  refine knows_begin s fun x hx y hy hxnone hynone => ?_
  exact h.apart x hx y hy (h.row?_eq_none hx hxnone) (h.row?_eq_none hy hynone)

theorem on_of_mem (hall : ∀ x ∈ all, x.On r) {x : Event} (hx : x ∈ all.flatMap Entity.events) :
    x.On r := by
  obtain ⟨y, hy, hxy⟩ := List.mem_flatMap.1 hx
  exact (hall y hy).of_mem_events hxy

/-- An event that was saved is in the row that its link is going to know. -/
theorem saveEvent (hall : ∀ x ∈ all, x.On r) (h : Knows all ls b) (he : e ∈ all.flatMap Entity.events)
    (hsave : saveEvent settings ls e b = .ok id b') :
    Knows all ls b' ∧ b'.links ls = (b.links ls).assign e.link id := by
  obtain ⟨b₁, s, hwrite, -, rfl⟩ := saveEvent_eq_ok.1 hsave
  rcases writeEvent_eq_ok.1 hwrite with ⟨hrow, s₁, -, rfl⟩ | ⟨hrow, s₁, -, rfl⟩
  · -- the link knows the row, or is going to
    have hsame := Links.assign_of_row? ((h.event e he).symm.trans hrow)
    have hlinks : links ls { b with store := s, assignments := noted ls e id b.assignments } =
        b.links ls := by
      by_cases hnew : (ls.row? e.link).isNone = true
      · rw [links_note (b := b) (if_pos hnew), hsame]
      · exact links_congr (if_neg hnew)
    refine ⟨⟨h.apart, fun x hx => ?_, fun c hc => ?_⟩, hlinks.trans hsame.symm⟩
    · rw [hlinks, ← h.event x hx]
      rfl
    · rw [hlinks, ← h.catalogue c hc]
      rfl
  · obtain ⟨hnew, hunstaged⟩ := eventRow?_eq_none.1 hrow
    have hlinks : links ls { b with
          store := s
          events := b.events.insert e.uuid id
          assignments := noted ls e id b.assignments } = (b.links ls).assign e.link id :=
      links_note (if_pos (by rw [hnew]; rfl))
    refine ⟨⟨h.apart, fun x hx => ?_, fun c hc => ?_⟩, hlinks⟩
    · have hlink : ls.row? x.link = none ∧ e.uuid = x.uuid ↔ e.link = x.link :=
        ⟨fun hx' => h.apart e he x hx hnew hx'.1 hx'.2,
          fun hlink => ⟨hlink ▸ hnew, (on_of_mem hall he).uuid_eq (on_of_mem hall hx) hlink⟩⟩
      rw [hlinks, Links.row?_assign, eventRow?_insert rfl, ← h.event x hx]
      simp only [hlink]
    · have hlink := (on_of_mem hall he).link_ne (hall _ hc).1
      rw [hlinks, Links.row?_assign, if_neg hlink, ← h.catalogue c hc]
      rfl

theorem additionRow (hall : ∀ x ∈ all, x.On r) (h : Knows all ls b) (he : e ∈ all.flatMap Entity.events)
    (hrow : additionRow settings ls e b = .ok id b') :
    Knows all ls b' ∧ b'.links ls = (b.links ls).assign e.link id := by
  rcases additionRow_eq_ok.1 hrow with ⟨hrow, rfl⟩ | ⟨-, hsave⟩
  · exact ⟨h, (Links.assign_of_row? ((h.event e he).symm.trans hrow)).symm⟩
  · exact h.saveEvent hall he hsave

theorem writeCatalogue (hall : ∀ x ∈ all, x.On r) (h : Knows all ls b) (hc : .catalogue c ∈ all)
    (hwrite : writeCatalogue ls c b = .ok id b') :
    Knows all ls b' ∧ b'.links ls = (b.links ls).assign c.link id := by
  rcases writeCatalogue_eq_ok.1 hwrite with ⟨hrow, rfl⟩ | ⟨hrow, s, -, rfl⟩
  · exact ⟨h.withStore _, (Links.assign_of_row? ((h.catalogue c hc).symm.trans hrow)).symm⟩
  · have hlinks : links ls { b with
          store := s
          catalogues := b.catalogues ++ [(c.link, id)]
          assignments := (c.link, id) :: b.assignments } = (b.links ls).assign c.link id :=
      links_note rfl
    refine ⟨⟨h.apart, fun x hx => ?_, fun d hd => ?_⟩, hlinks⟩
    · have hlink := ((on_of_mem hall hx).link_ne (hall _ hc).1).symm
      rw [hlinks, Links.row?_assign, if_neg hlink, ← h.event x hx]
      rfl
    · rw [hlinks, Links.row?_assign, catalogueRow?_append hrow rfl, h.catalogue d hd]

end Knows

/-- Batches that find the same entities in the same rows of the same store, and have the same to tell
their links, though they may know it from elsewhere. -/
structure Alike (all : List Entity) (ls₁ : Links) (b₁ : Batch) (ls₂ : Links) (b₂ : Batch) : Prop where
  store : b₂.store = b₁.store
  links : b₂.links ls₂ = b₁.links ls₁
  knows : Knows all ls₁ b₁
  knows' : Knows all ls₂ b₂

namespace Alike

theorem symm (h : Alike all ls₁ b₁ ls₂ b₂) : Alike all ls₂ b₂ ls₁ b₁ :=
  ⟨h.store.symm, h.links.symm, h.knows', h.knows⟩

theorem eventRow? (h : Alike all ls₁ b₁ ls₂ b₂) (he : e ∈ all.flatMap Entity.events) :
    b₂.eventRow? ls₂ e = b₁.eventRow? ls₁ e := by
  rw [h.knows.event e he, h.knows'.event e he, h.links]

theorem catalogueRow? (h : Alike all ls₁ b₁ ls₂ b₂) (hc : .catalogue c ∈ all) :
    b₂.catalogueRow? ls₂ c = b₁.catalogueRow? ls₁ c := by
  rw [h.knows.catalogue c hc, h.knows'.catalogue c hc, h.links]

theorem withStore (h : Alike all ls₁ b₁ ls₂ b₂) (s : Store) :
    Alike all ls₁ { b₁ with store := s } ls₂ { b₂ with store := s } :=
  ⟨rfl, h.links, h.knows.withStore s, h.knows'.withStore s⟩

theorem saveEvent (hall : ∀ x ∈ all, x.On r) (h : Alike all ls₁ b₁ ls₂ b₂)
    (he : e ∈ all.flatMap Entity.events) (hsave : saveEvent settings ls₁ e b₁ = .ok id b₁') :
    ∃ b₂', Batch.saveEvent settings ls₂ e b₂ = .ok id b₂' ∧ Alike all ls₁ b₁' ls₂ b₂' := by
  have hsame : ∃ b₂', Batch.saveEvent settings ls₂ e b₂ = .ok id b₂' ∧ b₂'.store = b₁'.store := by
    obtain ⟨b₁'', s, hwrite, hsync, rfl⟩ := saveEvent_eq_ok.1 hsave
    rcases writeEvent_eq_ok.1 hwrite with ⟨hrow, s₁, hs, rfl⟩ | ⟨hrow, s₁, hs, rfl⟩
    · rw [← h.eventRow? he] at hrow
      rw [← h.store] at hs
      exact ⟨_, saveEvent_eq_ok.2 ⟨_, s, writeEvent_eq_ok.2 (.inl ⟨hrow, s₁, hs, rfl⟩), hsync, rfl⟩, rfl⟩
    · rw [← h.eventRow? he] at hrow
      rw [← h.store] at hs
      exact ⟨_, saveEvent_eq_ok.2 ⟨_, s, writeEvent_eq_ok.2 (.inr ⟨hrow, s₁, hs, rfl⟩), hsync, rfl⟩, rfl⟩
  obtain ⟨b₂', hsave', hstore⟩ := hsame
  obtain ⟨hknows, hlinks⟩ := h.knows.saveEvent hall he hsave
  obtain ⟨hknows', hlinks'⟩ := h.knows'.saveEvent hall he hsave'
  exact ⟨b₂', hsave', hstore, by rw [hlinks, hlinks', h.links], hknows, hknows'⟩

theorem additionRow (hall : ∀ x ∈ all, x.On r) (h : Alike all ls₁ b₁ ls₂ b₂)
    (he : e ∈ all.flatMap Entity.events) (hrow : additionRow settings ls₁ e b₁ = .ok id b₁') :
    ∃ b₂', Batch.additionRow settings ls₂ e b₂ = .ok id b₂' ∧ Alike all ls₁ b₁' ls₂ b₂' := by
  rcases additionRow_eq_ok.1 hrow with ⟨hrow, rfl⟩ | ⟨hrow, hsave⟩
  · rw [← h.eventRow? he] at hrow
    exact ⟨b₂, additionRow_eq_ok.2 (.inl ⟨hrow, rfl⟩), h⟩
  · rw [← h.eventRow? he] at hrow
    obtain ⟨b₂', hsave', h'⟩ := h.saveEvent hall he hsave
    exact ⟨b₂', additionRow_eq_ok.2 (.inr ⟨hrow, hsave'⟩), h'⟩

theorem writeCatalogue (hall : ∀ x ∈ all, x.On r) (h : Alike all ls₁ b₁ ls₂ b₂) (hc : .catalogue c ∈ all)
    (hwrite : writeCatalogue ls₁ c b₁ = .ok id b₁') :
    ∃ b₂', Batch.writeCatalogue ls₂ c b₂ = .ok id b₂' ∧ Alike all ls₁ b₁' ls₂ b₂' := by
  have hsame : ∃ b₂', Batch.writeCatalogue ls₂ c b₂ = .ok id b₂' ∧ b₂'.store = b₁'.store := by
    rcases writeCatalogue_eq_ok.1 hwrite with ⟨hrow, rfl⟩ | ⟨hrow, s, hs, rfl⟩
    · rw [← h.catalogueRow? hc] at hrow
      rw [← h.store]
      exact ⟨_, writeCatalogue_eq_ok.2 (.inl ⟨hrow, rfl⟩), rfl⟩
    · rw [← h.catalogueRow? hc] at hrow
      rw [← h.store] at hs
      exact ⟨_, writeCatalogue_eq_ok.2 (.inr ⟨hrow, s, hs, rfl⟩), rfl⟩
  obtain ⟨b₂', hwrite', hstore⟩ := hsame
  obtain ⟨hknows, hlinks⟩ := h.knows.writeCatalogue hall hc hwrite
  obtain ⟨hknows', hlinks'⟩ := h.knows'.writeCatalogue hall hc hwrite'
  exact ⟨b₂', hwrite', hstore, by rw [hlinks, hlinks', h.links], hknows, hknows'⟩

theorem applyRemovals {es additions rest : List Event} (h : Alike all ls₁ b₁ ls₂ b₂)
    (hes : ∀ e ∈ es, e ∈ all.flatMap Entity.events)
    (hremove : applyRemovals ls₁ id es additions b₁ = .ok rest b₁') :
    ∃ b₂', Batch.applyRemovals ls₂ id es additions b₂ = .ok rest b₂' ∧ Alike all ls₁ b₁' ls₂ b₂' := by
  induction es generalizing additions b₁ b₂ with
  | nil =>
    obtain ⟨rfl, rfl⟩ := pure_eq_ok.1 hremove
    exact ⟨b₂, rfl, h⟩
  | cons e es ih =>
    have hlater := fun x hx => hes x (List.mem_cons_of_mem e hx)
    rw [applyRemovals_cons] at hremove ⊢
    rw [h.eventRow? (hes e List.mem_cons_self), h.store]
    split at hremove
    · exact ih (h.withStore _) hlater hremove
    · exact ih h hlater hremove

theorem applyAdditions {es : List Event} (hall : ∀ x ∈ all, x.On r) (h : Alike all ls₁ b₁ ls₂ b₂)
    (hes : ∀ e ∈ es, e ∈ all.flatMap Entity.events)
    (hadd : applyAdditions settings ls₁ id es b₁ = .ok () b₁') :
    ∃ b₂', Batch.applyAdditions settings ls₂ id es b₂ = .ok () b₂' ∧ Alike all ls₁ b₁' ls₂ b₂' := by
  induction es generalizing b₁ b₂ with
  | nil =>
    obtain ⟨-, rfl⟩ := pure_eq_ok.1 hadd
    exact ⟨b₂, rfl, h⟩
  | cons e es ih =>
    obtain ⟨event, b₁'', new, s, hrow, hmember, hrest⟩ := applyAdditions_cons_eq_ok.1 hadd
    obtain ⟨b₂'', hrow', h'⟩ := h.additionRow hall (hes e List.mem_cons_self) hrow
    have hlater := fun x hx => hes x (List.mem_cons_of_mem e hx)
    obtain ⟨b₂', hrest', hend⟩ := ih (h'.withStore s) hlater hrest
    rw [← h'.store] at hmember
    exact ⟨b₂', applyAdditions_cons_eq_ok.2 ⟨event, b₂'', new, s, hrow', hmember, hrest'⟩, hend⟩

theorem saveCatalogue (hall : ∀ x ∈ all, x.On r) (h : Alike all ls₁ b₁ ls₂ b₂) (hc : .catalogue c ∈ all)
    (hsave : saveCatalogue settings ls₁ c b₁ = .ok id b₁') :
    ∃ b₂', Batch.saveCatalogue settings ls₂ c b₂ = .ok id b₂' ∧ Alike all ls₁ b₁' ls₂ b₂' := by
  obtain ⟨b₁₁, rest, b₁₂, b₁₃, s, hwrite, hremove, hadd, hsync, rfl⟩ := saveCatalogue_eq_ok.1 hsave
  have hevents (x : Event) (hx : x ∈ c.additions ++ c.removals) : x ∈ all.flatMap Entity.events :=
    List.mem_flatMap.2 ⟨_, hc, hx⟩
  obtain ⟨b₂₁, hwrite', h₁⟩ := h.writeCatalogue hall hc hwrite
  obtain ⟨b₂₂, hremove', h₂⟩ :=
    h₁.applyRemovals (fun x hx => hevents x (List.mem_append_right _ hx)) hremove
  have hrest : ∀ x ∈ rest, x ∈ all.flatMap Entity.events :=
    fun x hx => hevents x (List.mem_append_left _ (applyRemovals_subset hremove x hx))
  obtain ⟨b₂₃, hadd', h₃⟩ := h₂.applyAdditions hall hrest hadd
  rw [← h₃.store] at hsync
  exact ⟨_, saveCatalogue_eq_ok.2 ⟨b₂₁, rest, b₂₂, b₂₃, s, hwrite', hremove', hadd', hsync, rfl⟩,
    h₃.withStore s⟩

/-- Batches that are alike do the same to an entity and stay alike. -/
theorem saveEntity {x : Entity} (hall : ∀ x ∈ all, x.On r) (h : Alike all ls₁ b₁ ls₂ b₂) (hx : x ∈ all)
    (hsave : saveEntity settings ls₁ x b₁ = .ok () b₁') :
    ∃ b₂', Batch.saveEntity settings ls₂ x b₂ = .ok () b₂' ∧ Alike all ls₁ b₁' ls₂ b₂' := by
  cases x with
  | event e =>
    obtain ⟨id, hsave⟩ := saveEntity_event_eq_ok.1 hsave
    have he : e ∈ all.flatMap Entity.events := List.mem_flatMap.2 ⟨_, hx, List.mem_singleton_self e⟩
    obtain ⟨b₂', hsave', h'⟩ := h.saveEvent hall he hsave
    exact ⟨b₂', saveEntity_event_eq_ok.2 ⟨id, hsave'⟩, h'⟩
  | catalogue c =>
    obtain ⟨id, hsave⟩ := saveEntity_catalogue_eq_ok.1 hsave
    obtain ⟨b₂', hsave', h'⟩ := h.saveCatalogue hall hx hsave
    exact ⟨b₂', saveEntity_catalogue_eq_ok.2 ⟨id, hsave'⟩, h'⟩

end Alike

/-- A batch that is under way is like one that begins where it would end now. -/
theorem Knows.alike_begin (h : Knows all ls b) : Alike all ls b (b.links ls) (begin b.store) :=
  ⟨rfl, rfl, h, h.begin_again b.store⟩

end Batch

section Sequences

variable {r : Roster} {settings : Settings} {all : List Entity} {ls : Links} {b : Batch}

theorem saveEach_cons_eq_ok [Regex.Library] {x : Entity} {es saved : List Entity} {w w' : World} :
    saveEach settings (x :: es) w = .ok saved w' ↔ ∃ first rest w₁, save settings [x] w = .ok first w₁ ∧
      saveEach settings es w₁ = .ok rest w' ∧ saved = first ++ rest := by
  simp only [saveEach, bind_eq_ok, pure_eq_ok]
  constructor
  · rintro ⟨first, w₁, hfirst, rest, _, hrest, rfl, rfl⟩
    exact ⟨first, rest, w₁, hfirst, hrest, rfl⟩
  · rintro ⟨first, rest, w₁, hfirst, hrest, rfl⟩
    exact ⟨first, w₁, hfirst, rest, w', hrest, rfl, rfl⟩

/-- From where a batch is under way, the rest of it does what its entities do one after the other. -/
theorem saveEach_eq_ok [Regex.Library] {es saved : List Entity} {w : World} (hall : ∀ x ∈ all, x.On r)
    (hes : ∀ x ∈ es, x ∈ all) (hknows : Batch.Knows all ls b) :
    saveEach settings es ⟨b.store, b.links ls⟩ = .ok saved w ↔ (∀ x ∈ es, x.check settings = .ok ()) ∧
      ∃ b', es.forM (Batch.saveEntity settings ls) b = .ok () b' ∧ saved = es.map Entity.saved ∧
        w = ⟨b'.store, b'.links ls⟩ := by
  induction es generalizing b saved with
  | nil =>
    rw [saveEach, pure_eq_ok]
    constructor
    · rintro ⟨rfl, rfl⟩
      exact ⟨by simp, b, rfl, rfl, rfl⟩
    · rintro ⟨-, b', hb', rfl, rfl⟩
      obtain ⟨-, rfl⟩ := pure_eq_ok.1 hb'
      exact ⟨rfl, rfl⟩
  | cons x es ih =>
    have hx := hes x List.mem_cons_self
    have hlater := fun y hy => hes y (List.mem_cons_of_mem x hy)
    rw [saveEach_cons_eq_ok, List.forall_mem_cons]
    constructor
    · rintro ⟨first, rest, w₁, hfirst, hrest, rfl⟩
      obtain ⟨hcheck, b₂, hsave, rfl, rfl⟩ := save_singleton_eq_ok.1 hfirst
      -- the call began anew where the batch is under way
      obtain ⟨b₁, hsave', halike⟩ := hknows.alike_begin.symm.saveEntity hall hx hsave
      rw [← halike.store, ← halike.links, ih hlater halike.knows'] at hrest
      obtain ⟨hchecks, b', hforM, rfl, rfl⟩ := hrest
      exact ⟨⟨hcheck, hchecks⟩, b', bind_eq_ok.2 ⟨(), b₁, hsave', hforM⟩, rfl, rfl⟩
    · rintro ⟨⟨hcheck, hchecks⟩, b', hforM, rfl, rfl⟩
      obtain ⟨_, b₁, hsave, hrest⟩ := bind_eq_ok.1 hforM
      obtain ⟨b₂, hsave', halike⟩ := hknows.alike_begin.saveEntity hall hx hsave
      refine ⟨[x.saved], es.map Entity.saved, ⟨b₂.store, b₂.links (b.links ls)⟩,
        save_singleton_eq_ok.2 ⟨hcheck, b₂, hsave', rfl, rfl⟩, ?_, rfl⟩
      rw [halike.store, halike.links, ih hlater halike.knows]
      exact ⟨hchecks, b', hrest, rfl, rfl⟩

end Sequences

/-- Saving a batch goes well just when saving its entities one after the other does. Then both give the
same entities, with nothing pending, and leave the same store and the same links. -/
theorem save_eq_ok_iff_saveEach [Regex.Library] {r : Roster} {settings : Settings} {es : List Entity}
    {w : World} (hes : ∀ x ∈ es, x.On r) (hapart : w.links.TellApart (es.flatMap Entity.events)) :
    (∀ saved w', save settings es w = .ok saved w' ↔ saveEach settings es w = .ok saved w') ∧
      ∀ saved w', save settings es w = .ok saved w' → ∀ c, .catalogue c ∈ saved →
        c.additions = [] ∧ c.removals = [] := by
  refine ⟨fun saved w' => ?_, fun saved w' h c hc => ?_⟩
  · rw [save_eq_ok]
    exact (saveEach_eq_ok hes (fun _ hx => hx) (Batch.knows_begin w.store hapart)).symm
  · obtain ⟨-, b, -, rfl, -⟩ := save_eq_ok.1 h
    obtain ⟨x, -, hx⟩ := List.mem_map.1 hc
    cases x with
    | event e => cases hx
    | catalogue d =>
      cases hx
      exact ⟨rfl, rfl⟩

/-- Two catalogues that add one new event, a copy of the first of them, and the event itself. -/
def sharing : List Entity :=
  let quake : Event := ⟨⟨⟨2022, 5, 6, 7, 0, 0, 0⟩, by decide⟩, ⟨⟨2022, 5, 6, 8, 0, 0, 0⟩, by decide⟩, "bob",
    "u", .empty, ⟨0⟩⟩
  let other : Event := { quake with uuid := "v", link := ⟨1⟩ }
  let near : Catalogue := ⟨"near", "bob", none, .empty, [quake, quake], [], ⟨2⟩⟩
  let far : Catalogue := ⟨"far", "bob", none, .empty, [other, quake], [other], ⟨3⟩⟩
  [.catalogue near, .event quake, .catalogue far, .catalogue { near with additions := [other] }]

theorem save_eq_ok_iff_saveEach_sharing :
    saveEach .standard sharing ⟨.empty, ⟨4, .empty⟩⟩ =
      .ok (sharing.map Entity.saved) (left (save .standard sharing ⟨.empty, ⟨4, .empty⟩⟩)) := by
  let r : Roster := fun l =>
    match l.number with
    | 0 => some (.event "u")
    | 1 => some (.event "v")
    | _ => some .catalogue
  exact ((save_eq_ok_iff_saveEach (r := r) (by decide) (by decide)).1 _ _).1
    (save_of_succeeds (by decide +kernel))

end Chronicle
