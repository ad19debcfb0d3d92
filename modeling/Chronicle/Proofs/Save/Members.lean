import Chronicle.Proofs.Query.Membership
import Chronicle.Proofs.Save.Lookups

/-!
# The members that a catalogue is saved with

Removals take away the rows in which the batch finds them, and cancel additions with the uuids of those
that it does not find. The additions that are left are made members in the rows in which they are found in
the end.
-/
namespace Chronicle

namespace SortedMap

variable {κ α : Type} [Ord κ] [Std.TransOrd κ] [Std.LawfulEqOrd κ] {m : SortedMap κ α} {k k' : κ}

theorem contains_erase_iff : (m.erase k).contains k' = true ↔ k' ≠ k ∧ m.contains k' = true := by
  unfold contains
  by_cases h : k = k'
  · subst h
    simp
  · simp [get?_erase_of_ne m h, Ne.symm h]

end SortedMap

namespace Store

variable {s s' : Store} {id event : RowId}

theorem members_removeMember :
    (s.removeMember id event).2.members id = (s.members id).erase event := by
  cases hrow : s.catalogues.get? id with
  | none =>
    rw [removeMember_snd_of_get?_eq_none hrow, members, hrow]
    exact (SortedMap.erase_of_get?_eq_none rfl).symm
  | some row =>
    rw [removeMember_snd hrow, members, members, hrow]
    simp

theorem members_addMember {new : Bool} (h : s.addMember id event = .ok (new, s')) :
    s'.members id = (s.members id).insert event () := by
  obtain ⟨row, hrow, -, -, rfl⟩ := addMember_eq_ok h
  rw [members, members, hrow]
  simp

end Store

namespace Batch

variable {settings : Settings} {ls : Links} {b b' : Batch} {id k : RowId}

/-- Whether one of some removals cancels the addition of events with a uuid: it is not found and has that
uuid. -/
def Cancels (ls : Links) (removals : List Event) (b : Batch) (u : String) : Prop :=
  ∃ x ∈ removals, b.eventRow? ls x = none ∧ x.uuid = u

instance (removals : List Event) (u : String) : Decidable (Cancels ls removals b u) :=
  inferInstanceAs (Decidable (∃ x ∈ removals, _ ∧ _))

theorem cancels_cons {x : Event} {es : List Event} {u : String} : Cancels ls (x :: es) b u ↔
    (b.eventRow? ls x = none ∧ x.uuid = u) ∨ Cancels ls es b u := by
  simp [Cancels]

/-- What removals leave of the additions, and of the members. -/
theorem of_applyRemovals {es additions rest : List Event}
    (h : applyRemovals ls id es additions b = .ok rest b') :
    (rest = additions.filter fun a => ¬ Cancels ls es b a.uuid) ∧
      ∃ s, b' = { b with store := s } ∧ ∀ k, (s.members id).contains k = true ↔
        (b.store.members id).contains k = true ∧ ∀ x ∈ es, b.eventRow? ls x ≠ some k := by
  induction es generalizing additions b with
  | nil =>
    obtain ⟨rfl, rfl⟩ := pure_eq_ok.1 h
    exact ⟨by simp [Cancels], b'.store, rfl, fun k => by simp⟩
  | cons x es ih =>
    rw [applyRemovals_cons] at h
    cases hx : b.eventRow? ls x with
    | some event =>
      rw [hx] at h
      obtain ⟨hrest, s, hs, hmembers⟩ := ih h
      refine ⟨?_, s, hs, fun k => ?_⟩
      · simp only [hrest, cancels_cons, hx, reduceCtorEq, false_and, false_or]
        rfl
      · have hevent : k ≠ event ↔ some event ≠ some k := by simp [eq_comm]
        rw [hmembers k, Store.members_removeMember, SortedMap.contains_erase_iff, List.forall_mem_cons, hx,
          hevent, and_comm (a := some event ≠ some k), and_assoc]
        exact Iff.rfl
    | none =>
      rw [hx] at h
      obtain ⟨hrest, s, hs, hmembers⟩ := ih h
      refine ⟨?_, s, hs, fun k => ?_⟩
      · rw [hrest, List.filter_filter]
        refine List.filter_congr fun a _ => ?_
        simp only [cancels_cons, hx, true_and, eq_comm (a := x.uuid), not_or, bne, Bool.decide_and,
          Bool.and_comm, decide_not, beq_eq_decide]
      · rw [hmembers k, List.forall_mem_cons, hx]
        simp

/-- What is found needs no row. -/
theorem made_of_found {e : Event} (h : b.eventRow? ls e = some id) (u : String) :
    b.events.get? u ≠ none ↔ b.events.get? u ≠ none ∨ ls.row? e.link = none ∧ e.uuid = u := by
  refine ⟨.inl, ?_⟩
  rintro (hu | ⟨hnew, rfl⟩)
  · exact hu
  · rw [← eventRow?_of_new hnew, h]
    nofun

/-- An event that was saved is found, and if its link was new then so are others with its uuid. -/
theorem of_saveEvent [Regex.Library] {e : Event} (hb : b.store.Sound)
    (h : saveEvent settings ls e b = .ok id b') :
    b'.eventRow? ls e = some id ∧ ∀ u, b'.events.get? u ≠ none ↔
      b.events.get? u ≠ none ∨ ls.row? e.link = none ∧ e.uuid = u := by
  obtain ⟨d, rfl | rfl, hd⟩ := does_of_saveEvent hb h
  · cases hd with
    | overwrite hid => exact ⟨hid, made_of_found hid⟩
    | miss hid => exact ⟨hid, made_of_found hid⟩
  · cases hd with
    | insert hnone =>
      obtain ⟨hnew, -⟩ := eventRow?_eq_none.1 hnone
      refine ⟨?_, fun u => ?_⟩
      · rw [eventRow?_insert rfl, if_pos ⟨hnew, rfl⟩]
      · by_cases hu : e.uuid = u
        · simp [hu, hnew]
        · simp [hu, SortedMap.get?_insert_of_ne _ _ hu]

/-- An addition leaves the members alone until it is made one. -/
theorem of_additionRow [Regex.Library] {e : Event} (hb : b.store.Sound) (he : e.check settings = .ok ())
    (h : additionRow settings ls e b = .ok id b') : b'.store.Sound ∧
      (∀ row, b'.store.members row = b.store.members row) ∧ b'.eventRow? ls e = some id ∧
        ∀ u, b'.events.get? u ≠ none ↔ b.events.get? u ≠ none ∨ ls.row? e.link = none ∧ e.uuid = u := by
  rcases additionRow_eq_ok.1 h with ⟨hrow, rfl⟩ | ⟨-, hsave⟩
  · exact ⟨hb, fun _ => rfl, hrow, made_of_found hrow⟩
  · have hmembers (row : RowId) : b'.store.members row = b.store.members row := by
      rw [Store.members, get?_saveEvent he hsave, Store.members]
    exact ⟨(changes_saveEvent he hsave).sound hb, hmembers, of_saveEvent hb hsave⟩

/-- What additions make of the members, and which rows they make. -/
theorem of_applyAdditions [Regex.Library] {es : List Event} (hb : b.store.Sound)
    (hes : ∀ e ∈ es, e.check settings = .ok ()) (h : applyAdditions settings ls id es b = .ok () b') :
    (∀ a ∈ es, ∃ k, b'.eventRow? ls a = some k) ∧
      (∀ k, (b'.store.members id).contains k = true ↔
        (b.store.members id).contains k = true ∨ ∃ a ∈ es, b'.eventRow? ls a = some k) ∧
      ∀ u, b'.events.get? u ≠ none ↔
        b.events.get? u ≠ none ∨ ∃ a ∈ es, ls.row? a.link = none ∧ a.uuid = u := by
  induction es generalizing b with
  | nil =>
    obtain ⟨-, rfl⟩ := pure_eq_ok.1 h
    simp
  | cons e es ih =>
    obtain ⟨event, b₁, new, s, hrow, hadd, hrest⟩ := applyAdditions_cons_eq_ok.1 h
    have hlater := fun x hx => hes x (List.mem_cons_of_mem e hx)
    obtain ⟨hsound, hmembers₁, hevent, hmade₁⟩ := of_additionRow hb (hes e List.mem_cons_self) hrow
    have hstep : Store.Change settings (.members id) b₁.store s := .addMember event hadd
    have hafter := hsound.change hstep
    obtain ⟨hfound, hmembers, hmade⟩ := ih (b := { b₁ with store := s }) hafter hlater hrest
    have hstill : b'.eventRow? ls e = some event :=
      (deeds_of_applyAdditions (b := { b₁ with store := s }) hafter hlater hrest).eventRow?_eq_some hevent
    refine ⟨List.forall_mem_cons.2 ⟨⟨event, hstill⟩, hfound⟩, fun k => ?_, fun u => ?_⟩
    · rw [hmembers k, Store.members_addMember hadd, SortedMap.contains_insert, hmembers₁ id]
      simp only [List.mem_cons, exists_eq_or_imp, hstill, Option.some.injEq]
      rw [or_left_comm, or_assoc]
    · rw [hmade u]
      simp only [List.mem_cons, exists_eq_or_imp]
      rw [hmade₁ u, or_assoc]

/-- What a catalogue adds: of its additions those that are not cancelled. -/
def Adds (ls : Links) (c : Catalogue) (b : Batch) (a : Event) : Prop :=
  a ∈ c.additions ∧ ¬ Cancels ls c.removals b a.uuid

/-- What saving a catalogue comes to in its row: which row this is, which events the catalogue adds, which
members it has, which rows are made. -/
structure Reconciles (ls : Links) (c : Catalogue) (id : RowId) (b b' : Batch) : Prop where
  place : b.catalogueRow? ls c = some id ∨
    b.catalogueRow? ls c = none ∧ b.store.catalogues.get? id = none
  row : b'.catalogueRow? ls c = some id
  deeds : Deeds ls (Deed.OfCatalogue (Adds ls c b) c id) b b'
  found : ∀ a, Adds ls c b a → ∃ k, b'.eventRow? ls a = some k
  members : ∀ k, (b'.store.members id).contains k = true ↔
    ((b.store.members id).contains k = true ∧ ∀ x ∈ c.removals, b.eventRow? ls x ≠ some k) ∨
      ∃ a, Adds ls c b a ∧ b'.eventRow? ls a = some k
  made : ∀ u, b'.events.get? u ≠ none ↔
    b.events.get? u ≠ none ∨ ∃ a, Adds ls c b a ∧ ls.row? a.link = none ∧ a.uuid = u

theorem of_writeCatalogue {c : Catalogue} (h : writeCatalogue ls c b = .ok id b') :
    b'.events = b.events ∧ b'.catalogueRow? ls c = some id ∧ (b.catalogueRow? ls c = some id ∨
      b.catalogueRow? ls c = none ∧ b.store.catalogues.get? id = none) := by
  rcases writeCatalogue_eq_ok.1 h with ⟨hrow, rfl⟩ | ⟨hnone, s, hinsert, rfl⟩
  · exact ⟨rfl, hrow, .inl hrow⟩
  · obtain ⟨hid, -⟩ := Store.insertCatalogue_eq_ok.1 hinsert
    refine ⟨rfl, ?_, .inr ⟨hnone, Store.get?_eq_none_of_nextId hid⟩⟩
    rw [catalogueRow?_append hnone rfl, if_pos rfl]

theorem reconciles_saveCatalogue [Regex.Library] {c : Catalogue} (hb : b.store.Sound)
    (hc : c.check settings = .ok ())
    (h : saveCatalogue settings ls c b = .ok id b') : Reconciles ls c id b b' := by
  obtain ⟨b₁, rest, b₂, hwrite, hremove, hdeeds⟩ := deeds_of_saveCatalogue hb hc h
  obtain ⟨b₁', rest', b₂', b₃, s, hwrite', hremove', hadd, hsync, rfl⟩ := saveCatalogue_eq_ok.1 h
  cases hwrite.symm.trans hwrite'
  cases hremove.symm.trans hremove'
  obtain ⟨-, -, hadditions⟩ := Catalogue.check_eq_ok.1 hc
  obtain ⟨hsound, -⟩ := sound_of_saveCatalogue_steps hb hc hwrite hremove hadd
  obtain ⟨hevents, hrow, hplace⟩ := of_writeCatalogue hwrite
  -- writing the catalogue makes no difference to where events are found
  have hfind (x : Event) : b₁.eventRow? ls x = b.eventRow? ls x := by
    rw [eventRow?_eq, hevents, eventRow?_eq]
  obtain ⟨hrest, s₂, rfl, hremoved⟩ := of_applyRemovals hremove
  have hadds (a : Event) : a ∈ rest ↔ Adds ls c b a := by
    rw [hrest, List.mem_filter, decide_eq_true_iff]
    simp only [Adds, Cancels, hfind]
  obtain ⟨hfound, hadded, hmade⟩ := of_applyAdditions (b := { b₁ with store := s₂ }) hsound
    (fun e he => hadditions e ((hadds e).1 he).1) hadd
  have hsynced : s.members id = b₃.store.members id :=
    (Store.changes_syncAttributes hsync).eq (f := (Store.members · id)) fun p s s' hp hchange =>
      hchange.members_eq fun heq => by simp [heq] at hp
  have hwritten : b₁.store.members id = b.store.members id :=
    (change_of_writeCatalogue hc hwrite).members_eq (by simp)
  simp only [hadds] at hfound hadded hmade
  have hlater := hdeeds.mono fun d => Deed.OfCatalogue.mono fun e => (hadds e).1
  exact {
    place := hplace
    row := hdeeds.catalogueRow?_eq_some hrow
    deeds := hlater.head ⟨.catalogue c id, ⟨rfl, rfl⟩, does_of_writeCatalogue hwrite⟩
    found := hfound
    members := fun k => by
      dsimp only
      rw [hsynced, hadded k, hremoved k, hwritten]
      simp only [hfind]
      rfl
    made := fun u => by
      rw [← hevents]
      exact hmade u }

end Batch

end Chronicle
