import Chronicle.Proofs.Predicate.Compiled

/-!
# Which predicates compile

A predicate compiles exactly when it is well-formed. Otherwise the error is the first of its faults: a
predicate comes before its parts and these come from left to right, and what is wrong with one leaf has an
order of its own.
-/
namespace Chronicle

/-- The error of what failed. -/
def Error.raised? {α : Type} : Except Error α → Option Error
  | .ok _ => none
  | .error e => some e

namespace Error

variable {α β : Type} {r : Except Error α} {e : Error}

theorem raised?_eq_none : raised? r = none ↔ ∃ a, r = .ok a := by cases r <;> simp [raised?]

theorem raised?_eq_some : raised? r = some e ↔ r = .error e := by cases r <;> simp [raised?]

@[simp] theorem raised?_ok (a : α) : raised? (.ok a) = none := rfl

@[simp] theorem raised?_error : raised? (.error e : Except Error α) = some e := rfl

@[simp] theorem raised?_map (f : α → β) : raised? (r.map f) = raised? r := by cases r <;> rfl

/-- Of two things that are done one after the other the first that fails counts. -/
theorem raised?_bind {f : α → Except Error β} {o : Option Error} (h : ∀ a, raised? (f a) = o) :
    raised? (r >>= f) = (raised? r).or o := by
  cases r with
  | ok a => exact h a
  | error e => rfl

end Error

namespace EntityKind

/-- Fields of one kind differ in their names. -/
theorem field?_eq_some {kind : EntityKind} {name : String} {f : FieldSpec} :
    kind.field? name = some f ↔ f ∈ kind.fields ∧ f.name = name := by
  refine ⟨mem_fields_of_field?, ?_⟩
  rintro ⟨hf, rfl⟩
  have hall : ∀ f ∈ kind.fields, kind.field? f.name = some f := by cases kind <;> decide
  exact hall f hf

end EntityKind

/-- What is wrong with an operand that is matched. -/
def Operand.faults (kind : EntityKind) : Operand → List Error
  | field name => if (kind.field? name).isSome then [] else [.unknownField name kind]
  | attr _ => []

/-- What is wrong with an operand that is compared with a literal of a kind. -/
def Operand.faultsWith (kind : EntityKind) (literal : Value.Kind) : Operand → List Error
  | field name =>
    match kind.field? name with
    | some f => if literal = f.kind then [] else [.typeMismatch name f.kind literal]
    | none => [.unknownField name kind]
  | attr _ => []

/-- What is wrong with a pattern. -/
def Value.patternFaults [Regex.Library] (operand : Operand) : Value → List Error
  | string text => if (Regex.compile? text).isSome then [] else [.invalidPattern text]
  | v => [.patternNotString operand v.kind]

namespace Predicate

mutual

/-- A predicate and the predicates it is made of, the outer before the inner and from left to right. -/
def nodes : Predicate → List Predicate
  | not p => not p :: p.nodes
  | all ps => all ps :: nodesOfEach ps
  | any ps => any ps :: nodesOfEach ps
  | p => [p]

def nodesOfEach : List Predicate → List Predicate
  | [] => []
  | p :: ps => p.nodes ++ nodesOfEach ps

end

/-- What is wrong with a predicate itself, leaving aside what it is made of. -/
def ownFaults [Regex.Library] (kind : EntityKind) : Predicate → List Error
  | comparison _ operand literal =>
    (literal.fault?.map (.unstorable operand.name)).toList ++ operand.faultsWith kind literal.kind
  | matching operand pattern => pattern.patternFaults operand ++ operand.faults kind
  | all [] => [.emptyCombinator .all]
  | any [] => [.emptyCombinator .any]
  | _ => []

def faults [Regex.Library] (kind : EntityKind) (p : Predicate) : List Error := p.nodes.flatMap (ownFaults kind)

mutual

/-- Whether a predicate makes sense for a kind of entity. Any key of an attribute does. -/
def WellFormed [Regex.Library] (kind : EntityKind) : Predicate → Prop
  | comparison _ operand literal => literal.Storable ∧ ∀ name, operand = .field name →
      ∃ f ∈ kind.fields, f.name = name ∧ f.kind = literal.kind
  | matching operand pattern =>
      (∃ text, pattern = .string text ∧ (Regex.compile? text).isSome = true) ∧
        ∀ name, operand = .field name → ∃ f ∈ kind.fields, f.name = name
  | not p => p.WellFormed kind
  | has _ => True
  | all ps => ps ≠ [] ∧ EachWellFormed kind ps
  | any ps => ps ≠ [] ∧ EachWellFormed kind ps

def EachWellFormed [Regex.Library] (kind : EntityKind) : List Predicate → Prop
  | [] => True
  | p :: ps => p.WellFormed kind ∧ EachWellFormed kind ps

end

/-- What can be put around a predicate without a change of its meaning but for negation. -/
inductive Wrapping
  | not
  | all
  | any

/-- A predicate in wrappings, the first of which is outermost. -/
def wrapped (p : Predicate) : List Wrapping → Predicate
  | [] => p
  | .not :: ws => not (p.wrapped ws)
  | .all :: ws => all [p.wrapped ws]
  | .any :: ws => any [p.wrapped ws]

variable {kind : EntityKind}

open Error

theorem faults_comparison [Regex.Library] (op : Operator) (operand : Operand) (literal : Value) :
    (comparison op operand literal).faults kind =
      (literal.fault?.map (.unstorable operand.name)).toList ++ operand.faultsWith kind literal.kind :=
  List.append_nil _

theorem faults_matching [Regex.Library] (operand : Operand) (pattern : Value) :
    (matching operand pattern).faults kind = pattern.patternFaults operand ++ operand.faults kind :=
  List.append_nil _

theorem raised?_compileComparison [Regex.Library] (op : Operator) (operand : Operand) (literal : Value) :
    raised? (compileComparison kind op operand literal) =
      ((comparison op operand literal).faults kind).head? := by
  unfold compileComparison
  rw [faults_comparison, raised?_bind (o := (operand.faultsWith kind literal.kind).head?),
    List.head?_append]
  · congr 1
    unfold Value.check
    cases literal.fault? <;> rfl
  · intro _
    cases operand with
    | attr key => rfl
    | field name =>
      simp only [Operand.faultsWith, EntityKind.knownField]
      cases kind.field? name with
      | none => rfl
      | some f =>
        dsimp only [bind, Except.bind]
        by_cases h : literal.kind = f.kind <;> simp [h]

theorem raised?_compileMatch [Regex.Library] (operand : Operand) (pattern : Value) :
    raised? (compileMatch kind operand pattern) = ((matching operand pattern).faults kind).head? := by
  rw [faults_matching]
  cases pattern with
  | string text =>
    simp only [compileMatch, Value.patternFaults]
    cases Regex.compile? text with
    | none => rfl
    | some r =>
      cases operand with
      | attr key => rfl
      | field name =>
        simp only [Operand.faults, EntityKind.knownField]
        cases kind.field? name <;> rfl
  | _ => rfl

/-- A negation compiles when what it negates does, and fails in the same way. -/
theorem raised?_compile_not [Regex.Library] : ∀ p : Predicate, raised? ((not p).compile kind) = raised?
    (p.compile kind)
  | not q => (raised?_compile_not q).symm
  | comparison .. => raised?_map _
  | matching .. => raised?_map _
  | has _ => rfl
  | all _ => raised?_map _
  | any _ => raised?_map _

mutual

theorem raised?_compile [Regex.Library] : ∀ p : Predicate, raised? (p.compile kind) = (p.faults kind).head?
  | comparison op operand literal => raised?_compileComparison op operand literal
  | matching operand pattern => raised?_compileMatch operand pattern
  | has _ => rfl
  | not p => (raised?_compile_not p).trans (raised?_compile p)
  | all [] => rfl
  | any [] => rfl
  | all (p :: ps) => (raised?_map _).trans (raised?_compileEach (p :: ps))
  | any (p :: ps) => (raised?_map _).trans (raised?_compileEach (p :: ps))

theorem raised?_compileEach [Regex.Library] : ∀ ps : List Predicate,
    raised? (compileEach kind ps) = ((nodesOfEach ps).flatMap (ownFaults kind)).head?
  | [] => rfl
  | p :: ps => by
    rw [compileEach, raised?_bind (o := raised? (compileEach kind ps)), raised?_compile p,
      raised?_compileEach ps, nodesOfEach, List.flatMap_append, List.head?_append]
    · rfl
    · intro c
      rw [raised?_bind (o := none) fun _ => rfl, Option.or_none]

end

theorem raised?_compile_wrapped [Regex.Library] (p : Predicate) (ws : List Wrapping) :
    raised? ((p.wrapped ws).compile kind) = raised? (p.compile kind) := by
  induction ws with
  | nil => rfl
  | cons w ws ih =>
    have heach : raised? (compileEach kind [p.wrapped ws]) = raised? (p.compile kind) := by
      rw [compileEach, raised?_bind (o := none) fun _ => rfl, Option.or_none, ih]
    cases w with
    | not => exact (raised?_compile_not _).trans ih
    | all => exact (raised?_map _).trans heach
    | any => exact (raised?_map _).trans heach

theorem Operand.faults_eq_nil {operand : Operand} : operand.faults kind = [] ↔
    ∀ name, operand = .field name → ∃ f ∈ kind.fields, f.name = name := by
  cases operand with
  | attr key => exact ⟨fun _ => nofun, fun _ => rfl⟩
  | field name =>
    simp only [Operand.faults, Option.isSome_iff_exists, EntityKind.field?_eq_some, ite_eq_left_iff,
      Operand.field.injEq, forall_eq', List.cons_ne_self, imp_false, Classical.not_not]

theorem Operand.faultsWith_eq_nil {operand : Operand} {literal : Value.Kind} :
    operand.faultsWith kind literal = [] ↔
      ∀ name, operand = .field name → ∃ f ∈ kind.fields, f.name = name ∧ f.kind = literal := by
  cases operand with
  | attr key => exact ⟨fun _ => nofun, fun _ => rfl⟩
  | field name =>
    simp only [Operand.field.injEq, forall_eq', ← and_assoc, ← EntityKind.field?_eq_some, Operand.faultsWith]
    cases kind.field? name with
    | none => simp
    | some f => simp [eq_comm]

mutual

theorem wellFormed_iff [Regex.Library] : ∀ {p : Predicate}, p.WellFormed kind ↔ p.faults kind = []
  | comparison op operand literal => by
    rw [faults_comparison, List.append_eq_nil_iff, Operand.faultsWith_eq_nil, WellFormed, Value.Storable]
    cases literal.fault? <;> simp
  | matching operand pattern => by
    rw [faults_matching, List.append_eq_nil_iff, Operand.faults_eq_nil, WellFormed]
    cases pattern <;> simp [Value.patternFaults, Option.isSome_iff_ne_none]
  | has _ => by simp [WellFormed, faults, nodes, ownFaults]
  | not p => wellFormed_iff (p := p)
  | all [] => by simp [WellFormed, faults, nodes, ownFaults]
  | any [] => by simp [WellFormed, faults, nodes, ownFaults]
  | all (p :: ps) => by
    rw [WellFormed, eachWellFormed_iff]
    simp [faults, nodes, ownFaults]
  | any (p :: ps) => by
    rw [WellFormed, eachWellFormed_iff]
    simp [faults, nodes, ownFaults]

theorem eachWellFormed_iff [Regex.Library] : ∀ {ps : List Predicate},
    EachWellFormed kind ps ↔ (nodesOfEach ps).flatMap (ownFaults kind) = []
  | [] => by simp [EachWellFormed, nodesOfEach]
  | p :: ps => by
    rw [EachWellFormed, wellFormed_iff, eachWellFormed_iff, nodesOfEach, List.flatMap_append,
      List.append_eq_nil_iff]
    rfl

end

/-- A predicate compiles exactly when it is well-formed. If it does not, the error is the first of its
faults. To negate it or to put it alone into a combinator makes no difference to that. -/
theorem compile_eq_ok_iff_wellFormed [Regex.Library] (kind : EntityKind) (p : Predicate) :
    ((∃ c, p.compile kind = .ok c) ↔ p.WellFormed kind) ∧
    (∀ e, p.compile kind = .error e ↔ (p.faults kind).head? = some e) ∧
    ∀ ws, ((∃ c, (p.wrapped ws).compile kind = .ok c) ↔ ∃ c, p.compile kind = .ok c) ∧
      ∀ e, (p.wrapped ws).compile kind = .error e ↔ p.compile kind = .error e := by
  refine ⟨?_, fun e => ?_, fun ws => ⟨?_, fun e => ?_⟩⟩
  · rw [← raised?_eq_none, raised?_compile, List.head?_eq_none_iff, wellFormed_iff]
  · rw [← raised?_eq_some, raised?_compile]
  · rw [← raised?_eq_none, raised?_compile_wrapped, raised?_eq_none]
  · rw [← raised?_eq_some, raised?_compile_wrapped, raised?_eq_some]

end Predicate

end Chronicle
