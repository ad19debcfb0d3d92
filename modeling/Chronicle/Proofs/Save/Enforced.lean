import Chronicle.Regex.Standard
import Chronicle.Proofs.Query.Listed
import Chronicle.Proofs.Save.Reconciled
import Chronicle.Proofs.Store.Keys

/-!
# Stores under fixed settings

As long as the settings stay the same, every event that is stored was checked against them: a change leaves
the columns of an event as they are or writes those of an event that was just checked, whichever copy of the
event that is. So no event ends before it starts where that is enforced.
-/
namespace Chronicle

/-- Whether the columns are those of an event that passed its check; attributes have a life of their own. -/
def EventRow.Checked (settings : Settings) (r : EventRow) : Prop :=
  ∃ e : Event, e.check settings = .ok () ∧ r = e.cells.over r.attributes

namespace Store

variable {settings : Settings} {s s' : Store} {id : RowId} {row : EventRow}

/-! ## What a change does to events -/

theorem old_of_get?_withAttributes {kind : EntityKind} {owner : RowId} {k : AttributeTable → AttributeTable}
    (h : (s.withAttributes kind owner k).events.get? id = some row) :
    ∃ old, s.events.get? id = some old ∧ row = { old with attributes := row.attributes } := by
  revert h
  apply withAttributes_induction (motive := fun s' => s'.events.get? id = some row →
    ∃ old, s.events.get? id = some old ∧ row = { old with attributes := row.attributes })
  case absent =>
    intro h
    exact ⟨row, h, rfl⟩
  case event =>
    intro old _ hold h
    rcases SortedMap.get?_insert_eq_some.1 h with ⟨rfl, rfl⟩ | ⟨-, h⟩
    · exact ⟨old, hold, rfl⟩
    · exact ⟨row, h, rfl⟩
  case catalogue =>
    intro _ _ _ h
    exact ⟨row, h, rfl⟩

section

variable [Regex.Library]

/-- A row that a change leaves has the columns of an event that was checked, or had its columns before. -/
theorem Change.checked_or_old {f : Footprint} (h : Change settings f s s')
    (hrow : s'.events.get? id = some row) : row.Checked settings ∨
      ∃ old, s.events.get? id = some old ∧ row = { old with attributes := row.attributes } := by
  cases h with
  | insertEvent e he h =>
    obtain ⟨-, -, rfl⟩ := insertEvent_eq_ok.1 h
    rcases SortedMap.get?_insert_eq_some.1 hrow with ⟨-, rfl⟩ | ⟨-, hrow⟩
    · exact .inl ⟨e, he, rfl⟩
    · exact .inr ⟨row, hrow, rfl⟩
  | updateEvent e he h =>
    rcases updateEvent_eq_ok.1 h with ⟨-, rfl⟩ | ⟨old, -, -, rfl⟩
    · exact .inr ⟨row, hrow, rfl⟩
    · rcases SortedMap.get?_insert_eq_some.1 hrow with ⟨-, rfl⟩ | ⟨-, hrow⟩
      · exact .inl ⟨e, he, rfl⟩
      · exact .inr ⟨row, hrow, rfl⟩
  | insertCatalogue c hc h =>
    obtain ⟨-, rfl⟩ := insertCatalogue_eq_ok.1 h
    exact .inr ⟨row, hrow, rfl⟩
  | updateCatalogue c hc =>
    rw [(rewrites_updateCatalogue _).events_eq] at hrow
    exact .inr ⟨row, hrow, rfl⟩
  | addMember event h =>
    obtain ⟨added, -, -, -, rfl⟩ := addMember_eq_ok h
    exact .inr ⟨row, hrow, rfl⟩
  | removeMember event =>
    rw [(rewrites_removeMember event).events_eq] at hrow
    exact .inr ⟨row, hrow, rfl⟩
  | putAttribute key v hv h =>
    obtain ⟨-, rfl⟩ := putAttribute_eq_ok.1 h
    exact .inr (old_of_get?_withAttributes hrow)
  | removeAttribute key =>
    rw [removeAttribute_snd] at hrow
    exact .inr (old_of_get?_withAttributes hrow)

/-! ## Work under fixed settings -/

/-- What can be done to a store under the settings it was opened with: entities are saved, whatever their
links know, and attributes are set, removed and brought in line on their own. All of it may fail. -/
inductive StepWith (settings : Settings) : Store → Store → Prop
  | save (ls : Links) (es : List Entity) (s : Store) :
      StepWith settings s (left (Chronicle.save settings es ⟨s, ls⟩)).store
  | setAttribute (kind : EntityKind) (owner : RowId) (key : String) (v : Value) (s : Store) :
      StepWith settings s (left (setAttribute settings.keyPolicy kind owner key v s))
  | dropAttribute (kind : EntityKind) (owner : RowId) (key : String) (s : Store) :
      StepWith settings s (left (dropAttribute kind owner key s))
  | syncAttributes (kind : EntityKind) (owner : RowId) (a : Attributes) (s : Store) :
      StepWith settings s (left (syncAttributes settings.keyPolicy kind owner a s))

def ReachableWith (settings : Settings) (s : Store) : Prop :=
  Relation.ReflTransGen (StepWith settings) empty s

theorem StepWith.changes (h : StepWith settings s s') :
    Relation.ReflTransGen (fun s s' => ∃ f, Change settings f s s') s s' := by
  cases h with
  | save ls es => exact save_changes settings es ⟨s, ls⟩
  | setAttribute kind owner key v => exact moves_setAttribute (fun _ _ h => ⟨_, h⟩) key v s
  | dropAttribute kind owner key => exact moves_dropAttribute (fun _ _ h => ⟨_, h⟩) key s
  | syncAttributes kind owner a => exact moves_syncAttributes (fun _ _ h => ⟨_, h⟩) a s

theorem StepWith.stepUnder (h : StepWith settings s s') : StepUnder settings.keyPolicy s s' := by
  cases h with
  | save ls es => exact .save settings rfl ls es s
  | setAttribute kind owner key v => exact .setAttribute kind owner key v s
  | dropAttribute kind owner key => exact .dropAttribute kind owner key s
  | syncAttributes kind owner a => exact .syncAttributes kind owner a s

theorem ReachableWith.reachableUnder (h : s.ReachableWith settings) :
    s.ReachableUnder settings.keyPolicy :=
  Relation.ReflTransGen.mono (fun _ _ hstep => hstep.stepUnder) _ _ h

/-- Every event that is stored was checked against the settings. -/
theorem ReachableWith.checked (h : s.ReachableWith settings) :
    ∀ id row, s.events.get? id = some row → row.Checked settings := by
  induction h with
  | refl =>
    intro id row hrow
    cases hrow
  | tail _ hstep ih =>
    have hchanges := hstep.changes
    clear hstep
    induction hchanges with
    | refl => exact ih
    | tail _ hchange ih =>
      obtain ⟨f, hf⟩ := hchange
      intro id row hrow
      rcases hf.checked_or_old hrow with hchecked | ⟨old, hold, hsame⟩
      · exact hchecked
      · obtain ⟨e, he, hcells⟩ := ih id old hold
        refine ⟨e, he, ?_⟩
        rw [hsame, hcells]
        rfl

end

/-- The event that is read from a row has the times of the event that was checked. -/
theorem RecallsEvent.forward {ls : Links} {x : RowId × EventRow} {e : Event} (h : RecallsEvent ls x e)
    (hx : x.2.Checked settings) (henforce : settings.enforceInterval = true) :
    compare e.startTime e.endTime ≠ .gt := by
  obtain ⟨checked, hcheck, hcells⟩ := hx
  obtain ⟨-, stored, -, hrow, he⟩ := h
  obtain ⟨-, -, -, hforward⟩ := Event.check_eq_ok.1 hcheck
  rw [hrow] at hcells
  have hstart : stored.startTime = checked.startTime :=
    Timestamp.storedText_injective (StoredText.text.inj (congrArg EventRow.startTime hcells))
  have hend : stored.endTime = checked.endTime :=
    Timestamp.storedText_injective (StoredText.text.inj (congrArg EventRow.endTime hcells))
  rw [he, hstart, hend]
  intro hgt
  exact hforward ⟨henforce, hgt⟩

/-- Where intervals are enforced, all events can be read, and none of them ends before it starts. -/
theorem ReachableWith.events_forward [Regex.Library] [Sql.Engine] (h : s.ReachableWith settings)
    (henforce : settings.enforceInterval = true)
    (ls : Links) : ∃ es ls', getEvents none ⟨s, ls⟩ = .ok (es, ls') ∧
      List.Forall₂ (fun x e => RecallsEvent ls' x e ∧ compare e.startTime e.endTime ≠ .gt)
        s.events.entries es := by
  obtain ⟨es, ls', hes, hrecalls⟩ := h.reachableUnder.reachable.sound.exists_getEvents ls
  have hchecked : ∀ x ∈ s.events.entries, x.2.Checked settings := by
    intro x hx
    exact h.checked x.1 x.2 (SortedMap.get?_eq_some_iff.2 hx)
  refine ⟨es, ls', hes, ((List.forall₂_and_left _ _).2 ⟨hchecked, hrecalls⟩).imp ?_⟩
  rintro x e ⟨hx, hrecalls⟩
  exact ⟨hrecalls, hrecalls.forward hx henforce⟩

def enforcing : Settings := { Settings.standard with enforceInterval := true }

/-- An event that was turned around after it was saved. -/
def reversed : Event :=
  let e := tremor "u" 0
  { e with startTime := e.endTime, endTime := e.startTime }

/-- Two events were stored by way of a catalogue. -/
def guarded : Store := (left (save enforcing [.catalogue tremors] ⟨.empty, ⟨5, .empty⟩⟩)).store

/-- Then a batch was saved in which one of them is turned around. -/
def watched : Store :=
  (left (save enforcing [.event (tremor "w" 3), .event reversed] ⟨guarded, surveyedLinks⟩)).store

theorem events_forward_watched : watched.ReachableWith enforcing ∧ watched = guarded ∧
    watched.events.keys = [1, 2] ∧ ∃ es ls', getEvents none ⟨watched, surveyedLinks⟩ = .ok (es, ls') ∧
      List.Forall₂ (fun x e => RecallsEvent ls' x e ∧ compare e.startTime e.endTime ≠ .gt)
        watched.events.entries es := by
  have hguarded : guarded.ReachableWith enforcing := .single (.save _ _ .empty)
  have hwatched : watched.ReachableWith enforcing := hguarded.tail (.save _ _ guarded)
  exact ⟨hwatched, by decide +kernel, by decide +kernel, hwatched.events_forward rfl surveyedLinks⟩

end Store

end Chronicle
