import Chronicle.Regex.Standard
import Chronicle.Proofs.Predicate.Compiled

/-!
# What a user gives stays out of the text

The text of a condition depends on the skeleton of its predicate alone: on how it is put together, on
operators, fields and the kinds of literals. Keys, literals and patterns become parameters, in their order.
-/
namespace Chronicle

/-- The field that an operand names. The key of an attribute is forgotten. -/
def Operand.field? : Operand → Option String
  | field name => some name
  | attr _ => none

namespace Predicate

/-- A predicate without keys, patterns and the contents of literals. -/
inductive Skeleton
  | comparison (op : Operator) (field : Option String) (literal : Value.Kind)
  | matching (field : Option String)
  | not (s : Skeleton)
  | has
  | all (ss : List Skeleton)
  | any (ss : List Skeleton)

mutual

def skeleton : Predicate → Skeleton
  | comparison op operand literal => .comparison op operand.field? literal.kind
  | matching operand _ => .matching operand.field?
  | not p => .not p.skeleton
  | has _ => .has
  | all ps => .all (skeletonOfEach ps)
  | any ps => .any (skeletonOfEach ps)

def skeletonOfEach : List Predicate → List Skeleton
  | [] => []
  | p :: ps => p.skeleton :: skeletonOfEach ps

end

mutual

/-- The keys, tags, literals and patterns of a predicate, leaf by leaf from left to right. -/
def given : Predicate → List Value
  | comparison _ (.field _) literal => [literal]
  | comparison _ (.attr key) literal => [.string key, .string literal.kind.tag, literal]
  | matching (.field _) pattern => [pattern]
  | matching (.attr key) pattern => [.string key, .string "string", pattern]
  | not p => p.given
  | has key => [.string key]
  | all ps => givenOfEach ps
  | any ps => givenOfEach ps

def givenOfEach : List Predicate → List Value
  | [] => []
  | p :: ps => p.given ++ givenOfEach ps

end

variable {kind : EntityKind} {p q : Predicate} {ps qs : List Predicate} {c d : Condition}
  {cs ds : List Condition}

/-- Only negations that negate something else leave a trace. -/
theorem compile_not [Regex.Library] (h : ∀ q, p ≠ not q) : (not p).compile kind =
    (p.compile kind).map .negate := by
  cases p with
  | not q => exact absurd rfl (h q)
  | _ => rfl

theorem skeleton_eq_not {s : Skeleton} : q.skeleton = .not s ↔ ∃ q', q = not q' ∧ q'.skeleton = s := by
  cases q <;> simp [skeleton]

/-- Comparisons of one skeleton are written alike. -/
theorem sql_compileComparison [Regex.Library] {op : Operator} {operand : Operand} {w : Value}
    (hc : compileComparison kind op operand w = .ok c) (hd : q.compile kind = .ok d)
    (h : (comparison op operand w).skeleton = q.skeleton) : c.sql = d.sql := by
  cases q with
  | comparison op' operand' w' =>
    simp only [skeleton, Skeleton.comparison.injEq] at h
    obtain ⟨rfl, hfield, hkind⟩ := h
    obtain ⟨-, ⟨f, rfl, hf, -, rfl⟩ | ⟨key, rfl, rfl⟩⟩ := compileComparison_eq_ok.1 hc <;>
      obtain ⟨-, ⟨f', rfl, hf', -, rfl⟩ | ⟨key', rfl, rfl⟩⟩ := compileComparison_eq_ok.1 hd
    · rw [Option.some.inj hfield, hf'] at hf
      cases hf
      rfl
    · cases hfield
    · cases hfield
    · simp only [Condition.sql, Condition.Atom.sql, hkind]
  | _ => cases h

/-- So are matches. -/
theorem sql_compileMatch [Regex.Library] {operand : Operand} {w : Value}
    (hc : compileMatch kind operand w = .ok c)
    (hd : q.compile kind = .ok d) (h : (matching operand w).skeleton = q.skeleton) : c.sql = d.sql := by
  cases q with
  | matching operand' w' =>
    have hfield : operand.field? = operand'.field? := Skeleton.matching.inj h
    obtain ⟨text, -, -, ⟨f, rfl, hf, rfl⟩ | ⟨key, rfl, rfl⟩⟩ := compileMatch_eq_ok.1 hc <;>
      obtain ⟨text', -, -, ⟨f', rfl, hf', rfl⟩ | ⟨key', rfl, rfl⟩⟩ := compileMatch_eq_ok.1 hd
    · rw [Option.some.inj hfield, hf'] at hf
      cases hf
      rfl
    · cases hfield
    · cases hfield
    · rfl
  | _ => cases h

/-- Predicates of one skeleton are written alike. -/
theorem sql_eq_of_skeleton_eq [Regex.Library] (hc : p.compile kind = .ok c) (hd : q.compile kind = .ok d)
    (h : p.skeleton = q.skeleton) : c.sql = d.sql := by
  have hcases : CompileCases kind
      (fun p c => ∀ {q : Predicate} {d : Condition}, q.compile kind = .ok d →
        p.skeleton = q.skeleton → c.sql = d.sql)
      (fun ps cs => ∀ {qs : List Predicate} {ds : List Condition}, compileEach kind qs = .ok ds →
        skeletonOfEach ps = skeletonOfEach qs → Condition.sqls cs = Condition.sqls ds) := by
    constructor
    case comparison => exact fun hc _ _ => sql_compileComparison hc
    case matching => exact fun hc _ _ => sql_compileMatch hc
    case has =>
      intro key q d hd h
      cases q with
      | has key' =>
        cases hd
        rfl
      | _ => cases h
    case double =>
      intro p c ih q d hd h
      obtain ⟨q₁, rfl, h₁⟩ := skeleton_eq_not.1 h.symm
      obtain ⟨q₂, rfl, h₂⟩ := skeleton_eq_not.1 h₁
      have hd₂ : q₂.compile kind = .ok d := hd
      exact ih hd₂ h₂.symm
    case not =>
      intro p c hp ih q d hd h
      obtain ⟨q', rfl, h'⟩ := skeleton_eq_not.1 h.symm
      have hq' (q : Predicate) : q' ≠ not q := by
        rintro rfl
        obtain ⟨p', rfl, -⟩ := skeleton_eq_not.1 h'.symm
        exact hp p' rfl
      rw [compile_not hq'] at hd
      obtain ⟨d', hd', rfl⟩ := map_eq_ok.1 hd
      rw [Condition.sql, Condition.sql, ih hd' h'.symm]
    case all =>
      intro ps cs _ ih q d hd h
      cases q with
      | all qs =>
        obtain ⟨-, ds, hds, rfl⟩ := compile_all_eq_ok.1 hd
        rw [Condition.sql, Condition.sql, ih hds (Skeleton.all.inj h)]
      | _ => cases h
    case any =>
      intro ps cs _ ih q d hd h
      cases q with
      | any qs =>
        obtain ⟨-, ds, hds, rfl⟩ := compile_any_eq_ok.1 hd
        rw [Condition.sql, Condition.sql, ih hds (Skeleton.any.inj h)]
      | _ => cases h
    case nil =>
      intro qs ds hds h
      cases qs with
      | nil =>
        cases hds
        rfl
      | cons => cases h
    case cons =>
      intro p c ps cs ihp ihps qs ds hds h
      cases qs with
      | nil => cases h
      | cons q qs =>
        obtain ⟨d, hd, hrest⟩ := except_bind_eq_ok.1 hds
        obtain ⟨ds', hds', hrest⟩ := except_bind_eq_ok.1 hrest
        cases hrest
        obtain ⟨hq, hqs⟩ := List.cons.inj h
        rw [Condition.sqls, Condition.sqls, ihp hd hq, ihps hds' hqs]
  exact compile_induction hcases hc hd h

/-- What a user gives is what the question marks stand for, in its order. -/
theorem params_eq_given [Regex.Library] (hc : p.compile kind = .ok c) : c.params = p.given := by
  have hcases : CompileCases kind (fun p c => c.params = p.given)
      (fun ps cs => (Condition.atomsOfAll cs).flatMap Condition.Atom.params = givenOfEach ps) := by
    constructor
    case comparison =>
      intro op operand w c hc
      obtain ⟨-, ⟨f, rfl, -, -, rfl⟩ | ⟨key, rfl, rfl⟩⟩ := compileComparison_eq_ok.1 hc <;> rfl
    case matching =>
      intro operand w c hc
      obtain ⟨text, rfl, -, ⟨f, rfl, -, rfl⟩ | ⟨key, rfl, rfl⟩⟩ := compileMatch_eq_ok.1 hc <;> rfl
    case has => exact fun key => rfl
    case double => exact fun hp => hp
    case not => exact fun _ hp => hp
    case all => exact fun _ hps => hps
    case any => exact fun _ hps => hps
    case nil => rfl
    case cons =>
      intro p c ps cs hp hps
      rw [Condition.atomsOfAll, List.flatMap_append, hps, givenOfEach, ← hp, Condition.params]
  exact compile_induction hcases hc

/-- Two predicates that differ only in what a user gives are written alike, and the question marks of each
stand for what its own user gives. -/
theorem sql_eq_and_params_eq_of_compile [Regex.Library] (hp : p.compile kind = .ok c)
    (hq : q.compile kind = .ok d)
    (h : p.skeleton = q.skeleton) : c.sql = d.sql ∧ c.params = p.given ∧ d.params = q.given :=
  ⟨sql_eq_of_skeleton_eq hp hq h, params_eq_given hp, params_eq_given hq⟩

/-- Quotes, parentheses and question marks that a user gives are nowhere in the text. -/
theorem sql_eq_of_quotes_and_marks :
    let p := all [not (not (comparison .eq (.attr "' or 1 = 1)) --") (.string "?"))), has "a?"]
    let q := all [not (not (comparison .eq (.attr "?") (.string "'); drop table events"))), has "\""]
    ∃ c d, p.compile .event = .ok c ∧ q.compile .event = .ok d ∧ c.sql = d.sql ∧
      c.params = [.string "' or 1 = 1)) --", .string "string", .string "?", .string "a?"] ∧
      d.params = [.string "?", .string "string", .string "'); drop table events", .string "\""] := by
  intro p q
  exact ⟨_, _, rfl, rfl, sql_eq_and_params_eq_of_compile (p := p) (q := q) rfl rfl rfl⟩

end Predicate

end Chronicle
