import Chronicle.Proofs.Work

/-!
# What the checks before a save establish

A batch passes exactly when each entity does, and otherwise it is the first entity at fault that is
reported. What passes has storable times and attributes.
-/
namespace Chronicle

namespace Value

/-- Years of four digits and finite numbers. -/
def Storable (v : Value) : Prop := v.fault? = none

theorem check_eq_ok {v : Value} {operand : String} : v.check operand = .ok () ↔ v.Storable := by
  unfold check Storable
  cases v.fault? <;> simp

theorem storable_float_iff {x : Binary64} : (float x).Storable ↔ x.isFinite = true := by
  simp [Storable, fault?]

end Value

namespace Timestamp

def Storable (t : Timestamp) : Prop := Value.timestampFault? t = none

theorem check_eq_ok {t : Timestamp} {operand : String} : t.check operand = .ok () ↔ t.Storable :=
  Value.check_eq_ok

theorem storable_iff {t : Timestamp} : t.Storable ↔ 0 ≤ t.year ∧ t.year ≤ 9999 := by
  unfold Storable Value.timestampFault? Value.firstStorableYear Value.lastStorableYear
  split <;> simp_all

end Timestamp

namespace KeyPolicy

theorem check_eq_ok {p : KeyPolicy} {key : String} : p.check key = .ok () ↔ p.accepts key = true := by
  unfold check
  cases p.accepts key <;> simp

theorem checkAttribute_eq_ok {p : KeyPolicy} {key : String} {v : Value} :
    p.checkAttribute key v = .ok () ↔ p.accepts key = true ∧ v.Storable := by
  simp [checkAttribute, unit_bind_eq_ok, check_eq_ok, Value.check_eq_ok]

theorem checkEntries_eq_ok {p : KeyPolicy} {l : List (String × Value)} :
    p.checkEntries l = .ok () ↔ ∀ e ∈ l, p.accepts e.1 = true ∧ e.2.Storable := by
  induction l with
  | nil => simp [checkEntries]
  | cons e l ih =>
    obtain ⟨key, v⟩ := e
    simp [checkEntries, unit_bind_eq_ok, checkAttribute_eq_ok, ih]

/-- Attributes that a policy lets be stored. -/
def Admits (p : KeyPolicy) (a : Attributes) : Prop :=
  ∀ e ∈ a.entries, p.accepts e.1 = true ∧ e.2.Storable

theorem checkAttributes_eq_ok {p : KeyPolicy} {a : Attributes} :
    p.checkAttributes a = .ok () ↔ p.Admits a :=
  checkEntries_eq_ok

end KeyPolicy

theorem Event.check_eq_ok {e : Event} {settings : Settings} : e.check settings = .ok () ↔
    settings.keyPolicy.Admits e.attributes ∧ e.startTime.Storable ∧ e.endTime.Storable ∧
      ¬(settings.enforceInterval = true ∧ compare e.startTime e.endTime = .gt) := by
  simp only [check, unit_bind_eq_ok, KeyPolicy.checkAttributes_eq_ok, Timestamp.check_eq_ok,
    Bool.and_eq_true, beq_iff_eq]
  split <;> simp_all

theorem Event.checkEach_eq_ok {settings : Settings} {es : List Event} :
    checkEach settings es = .ok () ↔ ∀ e ∈ es, e.check settings = .ok () := by
  induction es with
  | nil => simp [checkEach]
  | cons e es ih => simp [checkEach, unit_bind_eq_ok, ih]

theorem Catalogue.checkPredicate_eq_ok [Regex.Library] {c : Catalogue} : c.checkPredicate = .ok () ↔
    ∀ p, c.predicate = some p →
      c.additions = [] ∧ c.removals = [] ∧ ∃ condition, p.compile .event = .ok condition := by
  unfold checkPredicate
  cases c.predicate with
  | none => simp
  | some p =>
    have hmap : (p.compile .event).map (fun _ => ()) = .ok () ↔
        ∃ condition, p.compile .event = .ok condition := by
      cases p.compile .event <;> simp [Except.map]
    cases ha : c.additions <;> cases hr : c.removals <;> simp [hasPendingEdits, ha, hr, hmap]

theorem Catalogue.check_eq_ok [Regex.Library] {c : Catalogue} {settings : Settings} : c.check settings = .ok
    () ↔
    settings.keyPolicy.Admits c.attributes ∧ c.checkPredicate = .ok () ∧
      ∀ e ∈ c.additions, e.check settings = .ok () := by
  simp [check, unit_bind_eq_ok, KeyPolicy.checkAttributes_eq_ok, Event.checkEach_eq_ok]

namespace Entity

theorem checkEach_eq_ok [Regex.Library] {settings : Settings} {es : List Entity} :
    checkEach settings es = .ok () ↔ ∀ e ∈ es, e.check settings = .ok () := by
  induction es with
  | nil => simp [checkEach]
  | cons e es ih => simp [checkEach, unit_bind_eq_ok, ih]

/-- The fault that is reported is that of the first entity with one. -/
theorem checkEach_eq_error [Regex.Library] {settings : Settings} {es : List Entity} {err : Error}
    (h : checkEach settings es = .error err) :
    ∃ before e after, es = before ++ e :: after ∧ (∀ x ∈ before, x.check settings = .ok ()) ∧
      e.check settings = .error err := by
  induction es with
  | nil => simp [checkEach] at h
  | cons e es ih =>
    rcases except_bind_eq_error.1 h with he | ⟨_, he, hrest⟩
    · exact ⟨[], e, es, rfl, by simp, he⟩
    · obtain ⟨before, x, after, rfl, hbefore, hx⟩ := ih hrest
      refine ⟨e :: before, x, after, rfl, fun y hy => ?_, hx⟩
      rcases List.mem_cons.1 hy with rfl | hy
      · exact he
      · exact hbefore y hy

end Entity

end Chronicle
