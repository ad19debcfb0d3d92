import Chronicle.Regex.Standard
import Chronicle.Proofs.Save.Contents
import Chronicle.Proofs.Store.AllOrNothing

/-!
# Attributes as typed maps

Calls on the attributes of owners are answered as if there were one map from keys to values for each owner
of each kind. Each call looks at the map of its own owner and changes this map alone, and a call that is
refused changes nothing at all.
-/
namespace Chronicle

/-- What is asked of the attributes of an owner. -/
inductive AttributeCall
  | set (key : String) (v : Value)
  | remove (key : String)
  | has (key : String)
  | getAll
  | sync (a : Attributes)

inductive AttributeAnswer
  | done
  | flag (b : Bool)
  | attributes (a : Attributes)
deriving DecidableEq

/-- A call with the owner whose attributes it is about. -/
structure AttributeRequest where
  kind : EntityKind
  owner : RowId
  call : AttributeCall

/-! ## Calls on a store -/

namespace AttributeRequest

def run (p : KeyPolicy) (r : AttributeRequest) : Work AttributeAnswer :=
  match r.call with
  | .set key v => do
    Store.setAttribute p r.kind r.owner key v
    pure .done
  | .remove key => do
    let found ← Store.dropAttribute r.kind r.owner key
    pure (.flag found)
  | .has key => Work.look fun s => .ok (.flag (s.hasAttribute r.kind r.owner key))
  | .getAll => Work.look fun s => (s.loadAttributes r.kind r.owner).map .attributes
  | .sync a => do
    Store.syncAttributes p r.kind r.owner a
    pure .done

end AttributeRequest

/-- What work came to, without the state that it left. -/
def outcome {ε σ α : Type} : EStateM.Result ε σ α → Except ε α
  | .ok a _ => .ok a
  | .error e _ => .error e

/-- Runs requests one after the other, whether they fail or not. -/
def Store.serve (p : KeyPolicy) (s : Store) :
    List AttributeRequest → List (Except Error AttributeAnswer) × Store
  | [] => ([], s)
  | r :: rs =>
    let (answers, s') := Store.serve p (left (r.run p s)) rs
    (outcome (r.run p s) :: answers, s')

/-! ## Calls on maps -/

namespace AttributeCall

/-- Whether a call is granted, where the owner is present or not. -/
def Granted (p : KeyPolicy) (present : Bool) : AttributeCall → Prop
  | set key v => (p.accepts key = true ∧ v.Storable) ∧ present = true
  | sync a => p.Admits a ∧ (present = true ∨ a = .empty)
  | remove _ | has _ | getAll => True

instance (p : KeyPolicy) (a : Attributes) : Decidable (p.Admits a) :=
  decidable_of_iff (p.checkAttributes a = .ok ()) KeyPolicy.checkAttributes_eq_ok

instance (p : KeyPolicy) (present : Bool) (c : AttributeCall) : Decidable (c.Granted p present) :=
  match c with
  | set key v => decidable_of_iff (p.checkAttribute key v = .ok () ∧ present = true)
      (and_congr_left fun _ => KeyPolicy.checkAttribute_eq_ok)
  | sync a => inferInstanceAs (Decidable (p.Admits a ∧ (present = true ∨ a = .empty)))
  | remove _ | has _ | getAll => .isTrue trivial

def answer (a : Attributes) : AttributeCall → AttributeAnswer
  | set _ _ | sync _ => .done
  | remove key | has key => .flag (a.contains key)
  | getAll => .attributes a

def effect (a : Attributes) : AttributeCall → Attributes
  | set key v => a.insert key v
  | remove key => a.erase key
  | sync b => b
  | has _ | getAll => a

end AttributeCall

/-- One map for each owner of each kind. -/
abbrev AttributeMaps := EntityKind → RowId → Attributes

namespace AttributeMaps

def update (m : AttributeMaps) (kind : EntityKind) (owner : RowId) (a : Attributes) : AttributeMaps :=
  fun k o => if (kind, owner) = (k, o) then a else m k o

theorem update_self (m : AttributeMaps) (kind : EntityKind) (owner : RowId) (a : Attributes) :
    m.update kind owner a kind owner = a :=
  if_pos rfl

theorem update_of_ne {m : AttributeMaps} {kind k : EntityKind} {owner o : RowId} {a : Attributes}
    (h : (kind, owner) ≠ (k, o)) : m.update kind owner a k o = m k o :=
  if_neg h

/-- There is no answer to a call that is not granted. -/
def step (p : KeyPolicy) (present : EntityKind → RowId → Bool) (m : AttributeMaps)
    (r : AttributeRequest) : Option AttributeAnswer × AttributeMaps :=
  let a := m r.kind r.owner
  if r.call.Granted p (present r.kind r.owner) then
    (some (r.call.answer a), m.update r.kind r.owner (r.call.effect a))
  else (none, m)

def serve (p : KeyPolicy) (present : EntityKind → RowId → Bool) (m : AttributeMaps) :
    List AttributeRequest → List (Option AttributeAnswer) × AttributeMaps
  | [] => ([], m)
  | r :: rs =>
    let (answers, m') := serve p present (m.step p present r).2 rs
    ((m.step p present r).1 :: answers, m')

end AttributeMaps

/-- Whether an answer is the expected one. Attributes are the expected ones when they have the same keys
and equal values, each of the same kind. -/
def AttributeAnswer.Agrees : AttributeAnswer → AttributeAnswer → Prop
  | attributes a, attributes b => a.agrees b = true
  | x, y => x = y

/-- Whether a request came to what was expected: an answer, or a failure. -/
inductive Meets : Option AttributeAnswer → Except Error AttributeAnswer → Prop
  | answer {x y : AttributeAnswer} (h : x.Agrees y) : Meets (some x) (.ok y)
  | failure (e : Error) : Meets none (.error e)

namespace Store

variable {s s' : Store} {m : AttributeMaps} {p : KeyPolicy} {r : AttributeRequest} {kind : EntityKind}
  {owner : RowId} {a b : Attributes}

/-- Whether these maps are read from a store. -/
def Carries (s : Store) (m : AttributeMaps) : Prop :=
  ∀ kind owner, ∃ a, s.loadAttributes kind owner = .ok a ∧ (m kind owner).agrees a = true

/-! ## One request -/

theorem setAttribute_refused {key : String} {v : Value}
    (h : ¬((p.accepts key = true ∧ v.Storable) ∧ s.ownerExists kind owner = true)) :
    ∃ e, setAttribute p kind owner key v s = .error e s := by
  cases hcheck : p.checkAttribute key v with
  | error e => exact ⟨e, bind_eq_error.2 (.inl (Work.check_eq_error.2 ⟨hcheck, rfl⟩))⟩
  | ok =>
    have hgranted := KeyPolicy.checkAttribute_eq_ok.1 hcheck
    have howner : ¬s.ownerExists kind owner = true := fun howner => h ⟨hgranted, howner⟩
    refine ⟨.store .missingReference, bind_eq_error.2 (.inr ⟨(), s, ?_, ?_⟩)⟩
    · exact Work.check_eq_ok.2 ⟨hcheck, rfl⟩
    · apply Work.change_eq_error.2
      refine ⟨.missingReference, ?_, rfl, rfl⟩
      rw [putAttribute, if_neg howner]
      rfl

theorem dropAttribute_eq (s : Store) (kind : EntityKind) (owner : RowId) (key : String) :
    dropAttribute kind owner key s = .ok (s.hasAttribute kind owner key)
      (s.withTable kind owner (SortedMap.erase (s.attributes kind owner) (.text key))) := by
  have hfst : (s.removeAttribute kind owner key).1 = s.hasAttribute kind owner key := by
    unfold removeAttribute
    cases s.hasAttribute kind owner key <;> rfl
  have hsame : s.withTable kind owner (SortedMap.erase (s.attributes kind owner) (.text key)) =
      s.withAttributes kind owner (·.erase (.text key)) := withAttributes_congr rfl
  apply Work.change_eq_ok.2
  rw [hsame, ← removeAttribute_snd, ← hfst]

/-- Where there is no owner, nothing is taken away. -/
theorem attributes_withTable_erase (key : String) :
    (s.withTable kind owner (SortedMap.erase (s.attributes kind owner) (.text key))).attributes kind owner =
      SortedMap.erase (s.attributes kind owner) (.text key) := by
  cases howner : s.ownerExists kind owner with
  | true => exact attributes_withAttributes howner
  | false =>
    rw [withTable, withAttributes_of_not_ownerExists howner, attributes_of_not_ownerExists howner]
    rfl

theorem syncAttributes_refused (h : ¬(p.Admits a ∧ (s.ownerExists kind owner = true ∨ a = .empty))) :
    ∃ e, syncAttributes p kind owner a s = .error e s := by
  rcases syncFault_or_reads p kind owner a s with ⟨e, hfault⟩ | ⟨t, b, hrun, -, -⟩
  · exact ⟨e, hfault.syncAttributes_eq⟩
  · refine absurd ⟨syncAttributes_admits hrun, ?_⟩ h
    cases howner : s.ownerExists kind owner with
    | true => exact .inl rfl
    | false => exact .inr (syncAttributes_of_not_ownerExists howner hrun).1

theorem run_refused (h : ¬r.call.Granted p (s.ownerExists r.kind r.owner)) :
    ∃ e, r.run p s = .error e s := by
  obtain ⟨kind, owner, call⟩ := r
  cases call with
  | set key v =>
    obtain ⟨e, he⟩ := setAttribute_refused h
    exact ⟨e, bind_eq_error.2 (.inl he)⟩
  | sync a =>
    obtain ⟨e, he⟩ := syncAttributes_refused h
    exact ⟨e, bind_eq_error.2 (.inl he)⟩
  | _ => exact absurd trivial h

/-- A request that is granted is answered from the map of its owner, and then the new map is read. -/
theorem run_granted (h : r.call.Granted p (s.ownerExists r.kind r.owner))
    (hb : (s.attributes r.kind r.owner).Reads b) (hab : a.Agree b) :
    ∃ y t b', r.run p s = .ok y (s.withTable r.kind r.owner t) ∧ (r.call.answer a).Agrees y ∧
      ((s.withTable r.kind r.owner t).attributes r.kind r.owner).Reads b' ∧ (r.call.effect a).Agree b' := by
  obtain ⟨kind, owner, call⟩ := r
  have hself : s.withTable kind owner (s.attributes kind owner) = s := withTable_self
  have hhas (key : String) : s.hasAttribute kind owner key = a.contains key :=
    (hb.contains_eq key).trans (hab.contains_eq key).symm
  cases call with
  | set key v =>
    obtain ⟨hv, howner⟩ := h
    have hrun := setAttribute_withTable howner hv (s.attributes kind owner)
    rw [hself] at hrun
    refine ⟨.done, _, b.insert key v.settled, bind_eq_ok.2 ⟨(), _, hrun, rfl⟩, rfl, ?_, ?_⟩
    · rw [withTable, attributes_withAttributes howner]
      exact hb.insert hv.2 key
    · exact hab.insert hv.2.agrees_settled key
  | remove key =>
    have hrun := dropAttribute_eq s kind owner key
    refine ⟨.flag (s.hasAttribute kind owner key), _, b.erase key, bind_eq_ok.2 ⟨_, _, hrun, rfl⟩, ?_, ?_, ?_⟩
    · exact congrArg AttributeAnswer.flag (hhas key).symm
    · rw [attributes_withTable_erase]
      exact hb.erase key
    · exact hab.erase key
  | has key =>
    refine ⟨.flag (s.hasAttribute kind owner key), s.attributes kind owner, b, ?_, ?_, ?_, hab⟩
    · rw [hself]
      rfl
    · exact congrArg AttributeAnswer.flag (hhas key).symm
    · rw [hself]
      exact hb
  | getAll =>
    have hload : s.loadAttributes kind owner = .ok b := AttributeTable.read_eq_ok.2 hb
    refine ⟨.attributes b, s.attributes kind owner, b, ?_, Attributes.agrees_iff.2 hab, ?_, hab⟩
    · have hrun : Work.look (fun s => (s.loadAttributes kind owner).map AttributeAnswer.attributes) s =
          .ok (.attributes b) s := by
        apply Work.look_eq_ok.2
        rw [hload]
        exact ⟨rfl, rfl⟩
      rw [hself]
      exact hrun
    · rw [hself]
      exact hb
  | sync c =>
    obtain ⟨hc, hpresent⟩ := h
    rcases syncFault_or_reads p kind owner c s with ⟨e, hfault⟩ | ⟨t, b', hrun, hload, hagrees⟩
    · cases hfault with
      | refused hcheck =>
        rw [KeyPolicy.checkAttributes_eq_ok.2 hc] at hcheck
        cases hcheck
      | unreadable _ hload =>
        rw [loadAttributes, AttributeTable.read_eq_ok.2 hb] at hload
        cases hload
      | ownerless _ howner hne => exact absurd (hpresent.resolve_left (by simp [howner])) hne
    · exact ⟨.done, t, b', bind_eq_ok.2 ⟨(), _, hrun, rfl⟩, rfl, AttributeTable.read_eq_ok.1 hload,
        Attributes.agrees_iff.1 hagrees⟩

/-! ## Any requests -/

/-- One request: it is answered as expected, the maps that are then read are the expected ones, and only the
table of its owner has changed, which has not if it failed. -/
theorem Carries.step (h : s.Carries m) (p : KeyPolicy) (r : AttributeRequest) :
    Meets (m.step p s.ownerExists r).1 (outcome (r.run p s)) ∧
    (left (r.run p s)).Carries (m.step p s.ownerExists r).2 ∧
    ∃ t, left (r.run p s) = s.withTable r.kind r.owner t := by
  obtain ⟨b, hload, hab⟩ := h r.kind r.owner
  have hb := AttributeTable.read_eq_ok.1 hload
  unfold AttributeMaps.step
  by_cases hgranted : r.call.Granted p (s.ownerExists r.kind r.owner)
  · obtain ⟨y, t, b', hrun, hanswer, hb', heffect⟩ := run_granted hgranted hb (Attributes.agrees_iff.1 hab)
    rw [if_pos hgranted, hrun]
    refine ⟨.answer hanswer, ?_, t, rfl⟩
    change (s.withTable r.kind r.owner t).Carries (m.update r.kind r.owner _)
    intro kind owner
    by_cases hsame : (r.kind, r.owner) = (kind, owner)
    · obtain ⟨rfl, rfl⟩ := Prod.mk.inj hsame
      rw [AttributeMaps.update_self]
      exact ⟨b', AttributeTable.read_eq_ok.2 hb', Attributes.agrees_iff.2 heffect⟩
    · obtain ⟨c, hc, hagrees⟩ := h kind owner
      rw [AttributeMaps.update_of_ne hsame, loadAttributes, withTable, attributes_withAttributes_of_ne _ hsame]
      exact ⟨c, hc, hagrees⟩
  · obtain ⟨e, hrun⟩ := run_refused hgranted
    rw [if_neg hgranted, hrun]
    exact ⟨.failure e, h, s.attributes r.kind r.owner, withTable_self.symm⟩

/-- The owners that exist stay the same. -/
theorem ownerExists_run (h : s.Carries m) (p : KeyPolicy) (r : AttributeRequest) :
    (left (r.run p s)).ownerExists = s.ownerExists := by
  obtain ⟨-, -, t, ht⟩ := h.step p r
  rw [ht]
  funext kind owner
  exact ownerExists_withAttributes kind owner

/-- Any requests: they are answered as expected, the maps that are read in the end are the expected ones, and
the tables of all owners that no request is about are as they were. -/
theorem Carries.serve (h : s.Carries m) (p : KeyPolicy) (rs : List AttributeRequest) :
    List.Forall₂ Meets (m.serve p s.ownerExists rs).1 (s.serve p rs).1 ∧
    (s.serve p rs).2.Carries (m.serve p s.ownerExists rs).2 ∧
    ∀ kind owner, (∀ r ∈ rs, (r.kind, r.owner) ≠ (kind, owner)) →
      (s.serve p rs).2.attributes kind owner = s.attributes kind owner := by
  induction rs generalizing s m with
  | nil => exact ⟨.nil, h, fun _ _ _ => rfl⟩
  | cons r rs ih =>
    obtain ⟨hmeets, hcarries, t, ht⟩ := h.step p r
    obtain ⟨hanswers, hlast, hkept⟩ := ih hcarries
    rw [ownerExists_run h p r] at hanswers hlast
    refine ⟨.cons hmeets hanswers, hlast, ?_⟩
    intro kind owner hother
    obtain ⟨hr, hrs⟩ := List.forall_mem_cons.1 hother
    change (Store.serve p (left (r.run p s)) rs).2.attributes kind owner = s.attributes kind owner
    rw [hkept kind owner hrs, ht, withTable, attributes_withAttributes_of_ne _ hr]

end Store

end Chronicle
