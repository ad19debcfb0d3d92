import Chronicle.Condition.Compile
import Chronicle.Proofs.Sql.Holds
import Chronicle.Proofs.Predicate.Truth
import Chronicle.Proofs.Store.AttributeTable
import Chronicle.Proofs.Timestamp.Order

/-!
# Conditions decide the truth of predicates

The condition of a predicate holds of a stored entity exactly when the predicate is true of the entity.
What could make a stored entity differ from the one in memory is the form that values are stored in, so
the order of cells is compared with the order of values first.
-/
namespace Chronicle
open Text

namespace Cell

end Cell

namespace Value

end Value

/-- A candidate for a condition has the fields and attributes of an entity as they are stored. -/
structure Candidate.Shows (e : Candidate) (kind : EntityKind) (x : Subject) : Prop where
  fields : ∀ f ∈ kind.fields, ∃ v text, x.field f.name = some v ∧ v.kind = f.kind ∧ v.Storable ∧
    v.cell = .text text ∧ v.storedText? = some text ∧ e.field f.column = .text text
  attributes : ∃ a : Attributes, a.Storable ∧ e.attributes = .of a ∧ x.attributes = a.map Value.settled

namespace EntityKind

theorem knownField_eq_ok {kind : EntityKind} {name : String} {f : FieldSpec} :
    kind.knownField name = .ok f ↔ kind.field? name = some f := by
  unfold knownField
  cases kind.field? name <;> simp

theorem mem_fields_of_field? {kind : EntityKind} {name : String} {f : FieldSpec}
    (h : kind.field? name = some f) : f ∈ kind.fields ∧ f.name = name :=
  ⟨List.mem_of_find?_eq_some h, by simpa using List.find?_some h⟩

end EntityKind

namespace Predicate

variable {kind : EntityKind} {e : Candidate} {x : Subject}

theorem map_eq_ok {α β : Type} {r : Except Error α} {f : α → β} {b : β} :
    r.map f = .ok b ↔ ∃ a, r = .ok a ∧ f a = b := by
  cases r <;> simp [Except.map]

/-- A comparison compiles when its literal can be stored and, for a field, has the kind of the field. -/
theorem compileComparison_eq_ok {op : Operator} {operand : Operand} {w : Value} {c : Condition} :
    compileComparison kind op operand w = .ok c ↔ w.Storable ∧
      ((∃ f, operand = .field f.name ∧ kind.field? f.name = some f ∧ w.kind = f.kind ∧
          c = .atom (.fieldComparison kind f.column op w)) ∨
        ∃ key, operand = .attr key ∧ c = .atom (.attributeComparison kind key op w)) := by
  unfold compileComparison
  rw [unit_bind_eq_ok, Value.check_eq_ok]
  refine and_congr_right fun _ => ?_
  cases operand with
  | attr key => simp [eq_comm]
  | field name =>
    simp only [except_bind_eq_ok, EntityKind.knownField_eq_ok, Operand.field.injEq, reduceCtorEq, false_and,
      exists_const, or_false]
    refine exists_congr fun f => ?_
    constructor
    · rintro ⟨hf, h⟩
      split at h
      · cases h
      case isFalse hkind =>
        cases h
        obtain ⟨-, rfl⟩ := EntityKind.mem_fields_of_field? hf
        exact ⟨rfl, hf, by simpa using hkind, rfl⟩
    · rintro ⟨rfl, hf, hkind, rfl⟩
      exact ⟨hf, by simp [hkind]⟩

/-- A match compiles when its pattern is a string that can be read. -/
theorem compileMatch_eq_ok [Regex.Library] {operand : Operand} {pattern : Value} {c : Condition} :
    compileMatch kind operand pattern = .ok c ↔
      ∃ text, pattern = .string text ∧ (Regex.compile? text).isNone = false ∧
        ((∃ f, operand = .field f.name ∧ kind.field? f.name = some f ∧
            c = .atom (.fieldMatch kind f.column text)) ∨
          ∃ key, operand = .attr key ∧ c = .atom (.attributeMatch kind key text)) := by
  cases pattern with
  | string text =>
    simp only [compileMatch, Value.string.injEq, exists_eq_left']
    cases (Regex.compile? text).isNone with
    | true => simp
    | false =>
      cases operand with
      | attr key => simp [eq_comm]
      | field name =>
        simp only [Bool.false_eq_true, if_false, map_eq_ok, EntityKind.knownField_eq_ok, Operand.field.injEq,
          reduceCtorEq, false_and, exists_const, or_false, true_and]
        refine exists_congr fun f => ?_
        constructor
        · rintro ⟨hf, rfl⟩
          obtain ⟨-, rfl⟩ := EntityKind.mem_fields_of_field? hf
          exact ⟨rfl, hf, rfl⟩
        · rintro ⟨rfl, hf, rfl⟩
          exact ⟨hf, rfl⟩
  | _ => simp [compileMatch]

theorem compile_all_eq_ok [Regex.Library] {ps : List Predicate} {c : Condition} :
    (all ps).compile kind = .ok c ↔
    ps ≠ [] ∧ ∃ cs, compileEach kind ps = .ok cs ∧ .and cs = c := by
  rw [compile]
  cases ps <;> simp [map_eq_ok]

theorem compile_any_eq_ok [Regex.Library] {ps : List Predicate} {c : Condition} :
    (any ps).compile kind = .ok c ↔
    ps ≠ [] ∧ ∃ cs, compileEach kind ps = .ok cs ∧ .or cs = c := by
  rw [compile]
  cases ps <;> simp [map_eq_ok]

/-- The cases of an induction over the ways in which conditions are put together: `P` is about a predicate with
its condition, `Q` about several of each. -/
structure CompileCases [Regex.Library] (kind : EntityKind) (P : Predicate → Condition → Prop)
    (Q : List Predicate → List Condition → Prop) : Prop where
  comparison : ∀ {op operand w c}, compileComparison kind op operand w = .ok c →
    P (.comparison op operand w) c
  matching : ∀ {operand w c}, compileMatch kind operand w = .ok c → P (.matching operand w) c
  has : ∀ key, P (.has key) (.atom (.hasAttribute kind key))
  double : ∀ {p c}, P p c → P (.not (.not p)) c
  not : ∀ {p c}, (∀ q, p ≠ .not q) → P p c → P (.not p) (.negate c)
  all : ∀ {ps cs}, ps ≠ [] → Q ps cs → P (.all ps) (.and cs)
  any : ∀ {ps cs}, ps ≠ [] → Q ps cs → P (.any ps) (.or cs)
  nil : Q [] []
  cons : ∀ {p c ps cs}, P p c → Q ps cs → Q (p :: ps) (c :: cs)

section Induction

variable [Regex.Library] {P : Predicate → Condition → Prop} {Q : List Predicate → List Condition → Prop}

mutual

/-- What holds of every predicate and its condition, by the way in which the condition is put
together. -/
theorem compile_induction (H : CompileCases kind P Q) :
    ∀ {p : Predicate} {c : Condition}, p.compile kind = .ok c → P p c
  | .comparison .., _, h => H.comparison h
  | .matching .., _, h => H.matching h
  | .has key, _, h => by
    cases h
    exact H.has key
  | .not (.not p), _, h => H.double (compile_induction H h)
  | .not (.comparison ..), _, h => by
    obtain ⟨d, hd, rfl⟩ := map_eq_ok.1 h
    exact H.not nofun (compile_induction H hd)
  | .not (.matching ..), _, h => by
    obtain ⟨d, hd, rfl⟩ := map_eq_ok.1 h
    exact H.not nofun (compile_induction H hd)
  | .not (.has _), _, h => by
    obtain ⟨d, hd, rfl⟩ := map_eq_ok.1 h
    exact H.not nofun (compile_induction H hd)
  | .not (.all _), _, h => by
    obtain ⟨d, hd, rfl⟩ := map_eq_ok.1 h
    exact H.not nofun (compile_induction H hd)
  | .not (.any _), _, h => by
    obtain ⟨d, hd, rfl⟩ := map_eq_ok.1 h
    exact H.not nofun (compile_induction H hd)
  | .all ps, _, h => by
    obtain ⟨hne, cs, hcs, rfl⟩ := compile_all_eq_ok.1 h
    exact H.all hne (compileEach_induction H hcs)
  | .any ps, _, h => by
    obtain ⟨hne, cs, hcs, rfl⟩ := compile_any_eq_ok.1 h
    exact H.any hne (compileEach_induction H hcs)

theorem compileEach_induction (H : CompileCases kind P Q) : ∀ {ps : List Predicate} {cs : List Condition},
    compileEach kind ps = .ok cs → Q ps cs
  | [], _, h => by
    cases h
    exact H.nil
  | p :: ps, _, h => by
    obtain ⟨c, hc, h⟩ := except_bind_eq_ok.1 h
    obtain ⟨cs, hcs, h⟩ := except_bind_eq_ok.1 h
    cases h
    exact H.cons (compile_induction H hc) (compileEach_induction H hcs)

end

end Induction

end Predicate

end Chronicle
