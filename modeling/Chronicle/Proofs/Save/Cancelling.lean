import Chronicle.Regex.Standard
import Chronicle.Proofs.Save.AtHome
import Chronicle.Proofs.Save.Reconciled

/-!
# Removals of new events in a batch

Whether the removal of an event that was never saved cancels its addition depends on whether the batch has
written an event with its uuid by then, so on the order of the batch.
-/
namespace Chronicle

/-- Whether an entity has a new event with this uuid written, if there is none yet. -/
def Entity.Introduces (ls : Links) (u : String) : Entity → Prop
  | event e => ls.row? e.link = none ∧ e.uuid = u
  | catalogue c => (∃ a ∈ c.additions, ls.row? a.link = none ∧ a.uuid = u) ∧ ¬ c.Cancels ls u

namespace Batch

variable {r : Roster} {settings : Settings} {ls : Links} {b b' : Batch} {c : Catalogue} {x : Entity}
  {es : List Entity} {row : RowId} {u : String}

theorem cancels_iff : Cancels ls c.removals b u ↔ b.events.get? u = none ∧ c.Cancels ls u := by
  constructor
  · rintro ⟨x, hx, hnone, rfl⟩
    obtain ⟨hnew, hunmade⟩ := eventRow?_eq_none.1 hnone
    exact ⟨hunmade, x, hx, hnew, rfl⟩
  · rintro ⟨hunmade, x, hx, hnew, rfl⟩
    exact ⟨x, hx, eventRow?_eq_none.2 ⟨hnew, hunmade⟩, rfl⟩

/-- Rows are made for the uuids that an entity introduces. -/
theorem made_saveEntity [Regex.Library] (hb : b.store.Sound) (hx : x.check settings = .ok ())
    (h : saveEntity settings ls x b = .ok () b') (u : String) :
    b'.events.get? u ≠ none ↔ b.events.get? u ≠ none ∨ x.Introduces ls u := by
  cases x with
  | event e =>
    obtain ⟨id, h⟩ := saveEntity_event_eq_ok.1 h
    exact (of_saveEvent hb h).2 u
  | catalogue c =>
    obtain ⟨id, h⟩ := saveEntity_catalogue_eq_ok.1 h
    rw [(reconciles_saveCatalogue hb hx h).made u]
    refine or_congr_right' fun hunmade => ?_
    simp only [Adds, cancels_iff]
    constructor
    · rintro ⟨a, ⟨ha, hkept⟩, hnew, rfl⟩
      exact ⟨⟨a, ha, hnew, rfl⟩, fun hcancels => hkept ⟨not_not.1 hunmade, hcancels⟩⟩
    · rintro ⟨⟨a, ha, hnew, rfl⟩, hkept⟩
      exact ⟨a, ⟨ha, fun hcancels => hkept hcancels.2⟩, hnew, rfl⟩

theorem made_forM [Regex.Library] (hb : b.store.Sound) (hes : ∀ x ∈ es, x.check settings = .ok ())
    (hon : ∀ x ∈ es, x.On r)
    (h : es.forM (saveEntity settings ls) b = .ok () b') (u : String) :
    b'.events.get? u ≠ none ↔ b.events.get? u ≠ none ∨ ∃ x ∈ es, x.Introduces ls u := by
  induction es generalizing b with
  | nil =>
    obtain ⟨-, rfl⟩ := pure_eq_ok.1 h
    simp
  | cons x es ih =>
    obtain ⟨_, b₁, hx, hrest⟩ := bind_eq_ok.1 h
    obtain ⟨hcheck, hchecks⟩ := List.forall_mem_cons.1 hes
    obtain ⟨honx, hons⟩ := List.forall_mem_cons.1 hon
    obtain ⟨-, hsound⟩ := deeds_on_of_saveEntity hb hcheck honx hx
    rw [ih hsound hchecks hons hrest, made_saveEntity hb hcheck hx u]
    simp only [List.mem_cons, exists_eq_or_imp, or_assoc]

/-- Entities that are not saved in the row of a catalogue leave its members alone. -/
theorem members_saveEntity [Regex.Library] (hb : b.store.Sound) (hx : x.check settings = .ok ()) (hon : x.On r)
    (hcoherent : Coherent r ls b) (h : saveEntity settings ls x b = .ok () b')
    (hrow : ∀ d, x = .catalogue d → (b'.links ls).row? d.link ≠ some row) :
    b'.store.members row = b.store.members row := by
  cases x with
  | event e =>
    obtain ⟨id, h⟩ := saveEntity_event_eq_ok.1 h
    rw [Store.members, get?_saveEvent hx h, Store.members]
  | catalogue d =>
    obtain ⟨id, hsave⟩ := saveEntity_catalogue_eq_ok.1 h
    obtain ⟨hdeeds, -⟩ := deeds_on_of_saveEntity hb hx hon h
    have hlink := (hdeeds.coherent (fun _ hd => hd) hcoherent).catalogue d hon.1
    have hid : id ≠ row := by
      rintro rfl
      exact hrow d rfl (hlink.symm.trans (reconciles_saveCatalogue hb hx hsave).row)
    rw [Store.members, get?_saveCatalogue_of_ne hx hid hsave, Store.members]

theorem members_forM [Regex.Library] (hb : b.store.Sound) (hes : ∀ x ∈ es, x.check settings = .ok ())
    (hon : ∀ x ∈ es, x.On r) (hcoherent : Coherent r ls b)
    (h : es.forM (saveEntity settings ls) b = .ok () b')
    (hrow : ∀ d, .catalogue d ∈ es → (b'.links ls).row? d.link ≠ some row) :
    b'.store.members row = b.store.members row := by
  induction es generalizing b with
  | nil =>
    obtain ⟨-, rfl⟩ := pure_eq_ok.1 h
    rfl
  | cons x es ih =>
    obtain ⟨_, b₁, hx, hrest⟩ := bind_eq_ok.1 h
    obtain ⟨hcheck, hchecks⟩ := List.forall_mem_cons.1 hes
    obtain ⟨honx, hons⟩ := List.forall_mem_cons.1 hon
    obtain ⟨hfirst, hsound⟩ := deeds_on_of_saveEntity hb hcheck honx hx
    have hcoherent₁ := hfirst.coherent (fun _ hd => hd) hcoherent
    obtain ⟨hlater, -⟩ := deeds_on_of_forM hsound hchecks hons hrest
    rw [ih hsound hchecks hons hcoherent₁ hrest fun d hd => hrow d (List.mem_cons_of_mem x hd)]
    refine members_saveEntity hb hcheck honx hcoherent hx fun d hd hlink => ?_
    exact hrow d (hd ▸ List.mem_cons_self) (hlater.row?_eq_some (fun _ hd => hd) hcoherent₁ hlink)

/-- A catalogue that is saved in a row in the middle of a batch, where no other is. -/
structure Midway (r : Roster) (s : Store) (ls : Links) (c : Catalogue) (id : RowId) (b₁ b₂ b₃ : Batch) :
    Prop where
  home : AtHome r ⟨s, ls⟩
  since : Since s b₁
  before : b₁.store.members id = s.members id
  reconciles : Reconciles ls c id b₁ b₂
  later : Deeds ls (Deed.On r) b₂ b₃
  after : b₃.store.members id = b₂.store.members id
  kept : ∀ k v, s.uuid? k = some v → b₃.store.uuid? k = some v
  placed : Placed r ls b₃
  distinct : b₃.store.Distinct

end Batch

/-- Whether a catalogue has a member with a uuid. -/
def Store.HasMember (s : Store) (catalogue : RowId) (u : String) : Prop :=
  ∃ k, (s.members catalogue).contains k = true ∧ s.uuid? k = some (.text u)

namespace Batch.Midway

variable {r : Roster} {ls : Links} {s : Store} {b₁ b₂ b₃ : Batch} {c : Catalogue} {id k : RowId} {u : String}
  {a e : Event}

theorem eventRow?_eq_some (h : Midway r s ls c id b₁ b₂ b₃) {x : Event} (hx : b₁.eventRow? ls x = some k) :
    b₃.eventRow? ls x = some k :=
  h.later.eventRow?_eq_some (h.reconciles.deeds.eventRow?_eq_some hx)

/-- What was made before the catalogue is no row of the store in which the batch began. -/
theorem uuid?_of_made (h : Midway r s ls c id b₁ b₂ b₃) (hmade : b₁.events.get? u = some k) :
    s.uuid? k = none := by
  rw [Store.uuid?, (h.since.made u k hmade).1]
  rfl

/-- A member that the catalogue adds with the uuid of a new event that it removes. -/
theorem introduced_of_added (h : Midway r s ls c id b₁ b₂ b₃) (hc : c.On r) (he : e ∈ c.removals)
    (hnew : ls.row? e.link = none) (ha : Adds ls c b₁ a) (hfound : b₂.eventRow? ls a = some k)
    (hk : b₃.store.uuid? k = some (.text e.uuid)) :
    b₁.events.get? e.uuid ≠ none ∧ ls.row? a.link = none ∧ a.uuid = e.uuid := by
  have hstill := h.later.eventRow?_eq_some hfound
  have hau : a.uuid = e.uuid := by
    have huuid := h.placed.event a (hc.2.1 a ha.1) k hstill
    exact StoredText.text.inj (Option.some.inj (huuid.symm.trans hk))
  cases hmade : b₁.events.get? e.uuid with
  | none => exact absurd (cancels_iff.2 ⟨hau ▸ hmade, e, he, hnew, hau.symm⟩) ha.2
  | some k' =>
    refine ⟨nofun, ?_, hau⟩
    cases hlink : ls.row? a.link with
    | none => rfl
    | some k'' =>
      -- two rows would have the uuid, one of them new
      obtain rfl := Option.some.inj (hstill.symm.trans (eventRow?_of_row? hlink))
      have hold := h.home.event a (hc.2.1 a ha.1) k hlink
      have hmade' : b₁.eventRow? ls e = some k' := (eventRow?_of_new hnew).trans hmade
      have hk' := h.placed.event e (hc.2.2 e he) k' (h.eventRow?_eq_some hmade')
      rw [h.distinct k k' _ hk hk', h.uuid?_of_made hmade] at hold
      cases hold

theorem hasMember_iff [Regex.Library] (h : Midway r s ls c id b₁ b₂ b₃) (hs : s.Sound) (hc : c.On r)
    (he : e ∈ c.removals)
    (hnew : ls.row? e.link = none) : b₃.store.HasMember id e.uuid ↔
      (b₁.events.get? e.uuid ≠ none ∧ ∃ a ∈ c.additions, ls.row? a.link = none ∧ a.uuid = e.uuid) ∨
      ∃ k, (s.members id).contains k = true ∧
        s.uuid? k = some (.text e.uuid) ∧ ∀ x ∈ c.removals, ls.row? x.link ≠ some k := by
  unfold Store.HasMember
  simp only [h.after, h.reconciles.members, h.before]
  constructor
  · rintro ⟨k, ⟨hmember, hremovals⟩ | ⟨a, ha, hfound⟩, hk⟩
    · obtain ⟨row, hrow⟩ := Option.isSome_iff_exists.1 (hs.contains_event hmember)
      have hold : s.uuid? k = some row.uuid := by rw [Store.uuid?, hrow]; rfl
      rw [h.kept k _ hold] at hk
      exact .inr ⟨k, hmember, hold.trans hk, fun x hx hlink => hremovals x hx (eventRow?_of_row? hlink)⟩
    · obtain ⟨hmade, hanew, hau⟩ := h.introduced_of_added hc he hnew ha hfound hk
      exact .inl ⟨hmade, a, ha.1, hanew, hau⟩
  · rintro (⟨hmade, a, ha, hanew, hau⟩ | ⟨k, hmember, hk, hremovals⟩)
    · obtain ⟨k, hk⟩ := Option.ne_none_iff_exists'.1 hmade
      have hfound : b₁.eventRow? ls a = some k := by rw [eventRow?_of_new hanew, hau, hk]
      have hadds : Adds ls c b₁ a := ⟨ha, fun hcancels => hmade (hau ▸ (cancels_iff.1 hcancels).1)⟩
      refine ⟨k, .inr ⟨a, hadds, h.reconciles.deeds.eventRow?_eq_some hfound⟩, ?_⟩
      rw [← hau]
      exact h.placed.event a (hc.2.1 a ha) k (h.eventRow?_eq_some hfound)
    · refine ⟨k, .inl ⟨hmember, fun x hx hfound => ?_⟩, h.kept k _ hk⟩
      rw [Batch.eventRow?_eq] at hfound
      rcases Option.or_eq_some_iff.1 hfound with hlink | ⟨-, hmade⟩
      · exact hremovals x hx hlink
      · rw [h.uuid?_of_made hmade] at hk
        cases hk

end Batch.Midway

/-- The catalogue that stands between two parts of a batch. -/
theorem Batch.midway [Regex.Library] {r : Roster} {settings : Settings} {s : Store} {ls : Links}
    {before after : List Entity} {c : Catalogue} {id : RowId} {b₁ b₂ b₃ : Batch} (hs : s.Sound)
    (hhome : AtHome r ⟨s, ls⟩) (hchecks : ∀ x ∈ before ++ .catalogue c :: after, x.check settings = .ok ())
    (hon : ∀ x ∈ before ++ .catalogue c :: after, x.On r)
    (hbefore : before.forM (saveEntity settings ls) (begin s) = .ok () b₁)
    (hsave : saveCatalogue settings ls c b₁ = .ok id b₂)
    (hafter : after.forM (saveEntity settings ls) b₂ = .ok () b₃)
    (halone : ∀ d, .catalogue d ∈ before ++ after → (b₃.links ls).row? d.link ≠ (b₃.links ls).row? c.link)
    (hdistinct : b₃.store.Distinct) :
    Midway r s ls c id b₁ b₂ b₃ ∧ (b₃.links ls).row? c.link = some id := by
  simp only [List.forall_mem_append, List.forall_mem_cons] at hchecks hon
  obtain ⟨hcheck₁, hcheck, hcheck₃⟩ := hchecks
  obtain ⟨hon₁, hc, hon₃⟩ := hon
  obtain ⟨hdeeds₁, hsound₁⟩ := deeds_on_of_forM (b := begin s) hs hcheck₁ hon₁ hbefore
  obtain ⟨hdeeds₂, hsound₂⟩ :=
    deeds_on_of_saveEntity hsound₁ hcheck hc (saveEntity_catalogue_eq_ok.2 ⟨id, hsave⟩)
  obtain ⟨hdeeds₃, -⟩ := deeds_on_of_forM hsound₂ hcheck₃ hon₃ hafter
  have hcoherent₁ := hdeeds₁.coherent (fun _ hd => hd) (coherent_begin r ls s)
  have hcoherent₂ := hdeeds₂.coherent (fun _ hd => hd) hcoherent₁
  have hrec := reconciles_saveCatalogue hsound₁ hcheck hsave
  have hlater : Deeds ls (Deed.On r) b₁ b₃ := hdeeds₂.trans hdeeds₃
  have hrun : Deeds ls (Deed.On r) (begin s) b₃ := hdeeds₁.trans hlater
  have hplaced := placed_begin hhome
  have hlink : (b₃.links ls).row? c.link = some id :=
    hdeeds₃.row?_eq_some (fun _ hd => hd) hcoherent₂ ((hcoherent₂.catalogue c hc.1).symm.trans hrec.row)
  rw [hlink] at halone
  refine ⟨?_, hlink⟩
  exact {
    home := hhome
    since := hdeeds₁.since (since_begin s)
    before := by
      refine members_forM (b := begin s) hs hcheck₁ hon₁ (coherent_begin r ls s) hbefore fun d hd hrow => ?_
      refine halone d (List.mem_append_left _ hd) ?_
      exact hlater.row?_eq_some (fun _ hd => hd) hcoherent₁ hrow
    reconciles := hrec
    later := hdeeds₃
    after := members_forM hsound₂ hcheck₃ hon₃ hcoherent₂ hafter fun d hd =>
      halone d (List.mem_append_right _ hd)
    kept := fun k v hv => hrun.uuid?_eq_some hplaced hv
    placed := hrun.placed hplaced
    distinct := hdistinct }

/-- The removal of a new event leaves a catalogue without members of its uuid but in two cases: the batch
has written an event with this uuid before the catalogue, which has such an addition too, or a member with
this uuid is stored that no removal is linked to. -/
theorem hasMember_removed_iff [Regex.Library] {r : Roster} {settings : Settings} {before after : List Entity}
    {c : Catalogue} {w w' : World} {saved : List Entity} {e : Event} (hs : w.store.Reachable)
    (hhome : AtHome r w) (hon : ∀ x ∈ before ++ .catalogue c :: after, x.On r)
    (h : save settings (before ++ .catalogue c :: after) w = .ok saved w')
    (halone : ∀ d, .catalogue d ∈ before ++ after → w'.links.row? d.link ≠ w'.links.row? c.link)
    (he : e ∈ c.removals) (hnew : w.links.row? e.link = none) :
    ∃ id, w'.links.row? c.link = some id ∧ (w'.store.HasMember id e.uuid ↔
      ((∃ x ∈ before, x.Introduces w.links e.uuid) ∧
        ∃ a ∈ c.additions, w.links.row? a.link = none ∧ a.uuid = e.uuid) ∨
      ∃ k, (c.storedMembers w.links w.store).contains k = true ∧
        w.store.uuid? k = some (.text e.uuid) ∧ ∀ x ∈ c.removals, w.links.row? x.link ≠ some k) := by
  have hdistinct := (hs.save h).distinct
  obtain ⟨hchecks, b₃, hrun, rfl, rfl⟩ := save_eq_ok.1 h
  obtain ⟨b₁, hbefore, hrest⟩ := forM_append_eq_ok.1 hrun
  obtain ⟨_, b₂, hentity, hafter⟩ := bind_eq_ok.1 hrest
  obtain ⟨id, hsave⟩ := Batch.saveEntity_catalogue_eq_ok.1 hentity
  obtain ⟨hmidway, hrow⟩ :=
    Batch.midway hs.sound hhome hchecks hon hbefore hsave hafter halone hdistinct
  have hc : c.On r := hon (.catalogue c) (by simp)
  have hmade := Batch.made_forM (b := .begin w.store) hs.sound
    (fun x hx => hchecks x (List.mem_append_left _ hx)) (fun x hx => hon x (List.mem_append_left _ hx))
    hbefore e.uuid
  refine ⟨id, hrow, ?_⟩
  rw [hmidway.reconciles.storedMembers_eq hmidway.since, hmidway.hasMember_iff hs.sound hc he hnew, hmade]
  simp [Batch.begin]

/-- A catalogue to which a new event was added and from which it was removed again. -/
def doubtful : Catalogue := ⟨"doubtful", "carol", none, .empty, [tremor "u" 0], [tremor "u" 0], ⟨1⟩⟩

/-- The world after the event and the catalogue were saved in this order. -/
def eventFirst : World :=
  left (save .standard [.event (tremor "u" 0), .catalogue doubtful] ⟨.empty, ⟨2, .empty⟩⟩)

def catalogueFirst : World :=
  left (save .standard [.catalogue doubtful, .event (tremor "u" 0)] ⟨.empty, ⟨2, .empty⟩⟩)

theorem hasMember_removed_iff_doubtful :
    ∃ id, eventFirst.links.row? doubtful.link = some id ∧ eventFirst.store.HasMember id "u" := by
  let r : Roster := fun l => if l.number = 0 then some (.event "u") else some .catalogue
  have hsave : save .standard ([.event (tremor "u" 0)] ++ .catalogue doubtful :: []) ⟨.empty, ⟨2, .empty⟩⟩ =
      .ok _ eventFirst := save_of_succeeds (by decide +kernel)
  obtain ⟨id, hrow, hiff⟩ := hasMember_removed_iff (r := r) (e := tremor "u" 0)
    (w := ⟨.empty, ⟨2, .empty⟩⟩) (show Store.empty.Reachable from .refl) (.empty r 2) (by decide)
    hsave (by simp) (List.mem_singleton_self _) rfl
  exact ⟨id, hrow, hiff.2 (.inl ⟨⟨_, List.mem_singleton_self _, rfl, rfl⟩, _, List.mem_singleton_self _,
    rfl, rfl⟩)⟩

/-- The order of the batch decides: after the event the catalogue has it as a member in spite of the
removal, before the event it has not. -/
theorem not_cancelled_eventFirst :
    (tremor "u" 0 ∈ doubtful.removals ∧ (⟨2, .empty⟩ : Links).row? (tremor "u" 0).link = none) ∧
    (∃ saved, save .standard [.event (tremor "u" 0), .catalogue doubtful] ⟨.empty, ⟨2, .empty⟩⟩ =
      .ok saved eventFirst) ∧
    (∃ saved, save .standard [.catalogue doubtful, .event (tremor "u" 0)] ⟨.empty, ⟨2, .empty⟩⟩ =
      .ok saved catalogueFirst) ∧
    (eventFirst.links.row? doubtful.link = some 1 ∧ eventFirst.store.HasMember 1 (tremor "u" 0).uuid) ∧
    catalogueFirst.links.row? doubtful.link = some 1 ∧
      ¬ catalogueFirst.store.HasMember 1 (tremor "u" 0).uuid := by
  refine ⟨⟨List.mem_singleton_self _, rfl⟩, ⟨_, save_of_succeeds (by decide +kernel)⟩,
    ⟨_, save_of_succeeds (by decide +kernel)⟩, ⟨by decide +kernel, 1, by decide +kernel, by decide +kernel⟩,
    by decide +kernel, ?_⟩
  rintro ⟨k, hmember, -⟩
  have hnone : catalogueFirst.store.members 1 = .empty := by decide +kernel
  rw [hnone] at hmember
  cases hmember

end Chronicle
