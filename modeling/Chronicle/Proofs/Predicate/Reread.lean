import Chronicle.Proofs.Json.Range
import Chronicle.Proofs.Predicate.Codec
import Chronicle.Proofs.Predicate.Compiled

/-!
# Predicates that survive

What is read of a predicate agrees with it just when this is so of each of its literals. Literals that can
be stored survive but for some binary numbers. How deep a predicate nests is a matter of its bytes alone.
-/
namespace Chronicle

namespace Json

mutual

/-- Levels of brackets. -/
def depth : Json → Nat
  | array items => itemDepth items + 1
  | object members => memberDepth members + 1
  | _ => 0

def itemDepth : List Json → Nat
  | [] => 0
  | j :: rest => max j.depth (itemDepth rest)

def memberDepth : List (Literal × Json) → Nat
  | [] => 0
  | (_, j) :: rest => max j.depth (memberDepth rest)

end

theorem depth_tagged (name : String) (j : Json) : (tagged name j).depth = j.depth + 1 := by
  rw [tagged, depth, memberDepth, memberDepth, Nat.max_zero]

end Json

/-- Whether a number reads back from its shortest numeral as an equal one. -/
def Binary64.Survives (x : Binary64) : Prop :=
  ∃ y, (Json.Numeral.ofBinary64 x).toBinary64? = some y ∧ x.equals y = true

namespace Value

/-- Whether a value is written and read as one that agrees. -/
def Survives (v : Value) : Prop := ∃ w, v.reread? = some w ∧ v.agrees w = true

theorem survives_float_iff {x : Binary64} (hx : x.isFinite = true) :
    (float x).Survives ↔ x.Survives := by
  unfold Survives Binary64.Survives
  rw [reread?, if_pos hx]
  constructor
  · rintro ⟨w, hw, hagrees⟩
    obtain ⟨y, hy, rfl⟩ := Option.map_eq_some_iff.1 hw
    exact ⟨y, hy, hagrees⟩
  · rintro ⟨y, hy, hequals⟩
    exact ⟨float y, by rw [hy, Option.map_some], hequals⟩

theorem Storable.isSome_reread? {v : Value} (hv : v.Storable) : v.reread?.isSome = true := by
  cases v with
  | float x =>
    have hx := storable_float_iff.1 hv
    rw [reread?, if_pos hx, Option.isSome_map]
    exact Json.Numeral.isSome_toBinary64?_ofBinary64 hx
  | _ => rfl

theorem survives_of_kind_ne {v : Value} (hv : v.Storable) (h : v.kind ≠ .float) : v.Survives := by
  refine ⟨v, ?_, agrees_refl_of_fault?_eq_none hv⟩
  cases v with
  | float x => exact absurd rfl h
  | _ => rfl

/-- Of the values that can be stored only binary numbers are in danger. -/
theorem Storable.survives_iff {v : Value} (hv : v.Storable) :
    v.Survives ↔ ∀ x, v = float x → x.Survives := by
  constructor
  · rintro h x rfl
    exact (survives_float_iff (storable_float_iff.1 hv)).1 h
  · intro h
    cases v with
    | float x => exact (survives_float_iff (storable_float_iff.1 hv)).2 (h x rfl)
    | _ => exact survives_of_kind_ne hv nofun

end Value

namespace Predicate

mutual

/-- The values that a predicate compares with or matches by. -/
def literals : Predicate → List Value
  | comparison _ _ literal => [literal]
  | matching _ pattern => [pattern]
  | not p => p.literals
  | has _ => []
  | all ps => literalsOfEach ps
  | any ps => literalsOfEach ps

def literalsOfEach : List Predicate → List Value
  | [] => []
  | p :: ps => p.literals ++ literalsOfEach ps

end

/-- Whether all binary numbers in a predicate read back as equal ones. -/
def KeepsNumbers (p : Predicate) : Prop := ∀ x, Value.float x ∈ p.literals → x.Survives

/-- A predicate that makes sense has literals that can be stored. -/
theorem storable_of_compile [Regex.Library] {kind : EntityKind} {p : Predicate} {c : Condition}
    (h : p.compile kind = .ok c) : ∀ v ∈ p.literals, v.Storable := by
  have hcases : CompileCases kind (fun p _ => ∀ v ∈ p.literals, v.Storable)
      (fun ps _ => ∀ v ∈ literalsOfEach ps, v.Storable) := by
    constructor
    case comparison =>
      intro op operand w c h v hv
      obtain rfl := List.mem_singleton.1 hv
      exact (compileComparison_eq_ok.1 h).1
    case matching =>
      intro operand w c h v hv
      obtain rfl := List.mem_singleton.1 hv
      cases v with
      | string s => rfl
      | _ => cases h
    case has => exact fun _ v hv => nomatch hv
    case double => exact fun hp => hp
    case not => exact fun _ hp => hp
    case all => exact fun _ hps => hps
    case any => exact fun _ hps => hps
    case nil => exact fun v hv => nomatch hv
    case cons =>
      intro p c ps cs hp hps v hv
      rcases List.mem_append.1 hv with hv | hv
      · exact hp v hv
      · exact hps v hv
  exact compile_induction hcases h

mutual

theorem isSome_reread?_iff (p : Predicate) :
    p.reread?.isSome = true ↔ ∀ v ∈ p.literals, v.reread?.isSome = true := by
  cases p with
  | comparison op operand literal => simp [reread?, literals]
  | matching operand pattern => simp [reread?, literals]
  | not p => rw [reread?, literals, Option.isSome_map, isSome_reread?_iff p]
  | has key => simp [reread?, literals]
  | all ps => rw [reread?, literals, Option.isSome_map, isSome_rereadEach?_iff ps]
  | any ps => rw [reread?, literals, Option.isSome_map, isSome_rereadEach?_iff ps]

theorem isSome_rereadEach?_iff (ps : List Predicate) :
    (rereadEach? ps).isSome = true ↔ ∀ v ∈ literalsOfEach ps, v.reread?.isSome = true := by
  match ps with
  | [] => simp [rereadEach?, literalsOfEach]
  | p :: ps =>
    have hp := isSome_reread?_iff p
    have hps := isSome_rereadEach?_iff ps
    rw [literalsOfEach, List.forall_mem_append, ← hp, ← hps, rereadEach?]
    cases p.reread? <;> cases rereadEach? ps <;> simp

end

/-- The literals of a predicate that makes sense can all be read. -/
theorem isSome_reread?_of_compile [Regex.Library] {kind : EntityKind} {p : Predicate} {c : Condition}
    (h : p.compile kind = .ok c) : p.reread?.isSome = true :=
  (isSome_reread?_iff p).2 fun v hv => (storable_of_compile h v hv).isSome_reread?

mutual

theorem agrees_of_reread? (p : Predicate) {q : Predicate} (h : p.reread? = some q) :
    p.agrees q = true ↔ ∀ v ∈ p.literals, v.Survives := by
  cases p with
  | comparison op operand literal =>
    obtain ⟨w, hw, rfl⟩ := Option.map_eq_some_iff.1 h
    simp [agrees, literals, Value.Survives, hw]
  | matching operand pattern =>
    obtain ⟨w, hw, rfl⟩ := Option.map_eq_some_iff.1 h
    simp [agrees, literals, Value.Survives, hw]
  | not p =>
    obtain ⟨q, hq, rfl⟩ := Option.map_eq_some_iff.1 h
    rw [agrees, literals, agrees_of_reread? p hq]
  | has key =>
    cases h
    simp [agrees, literals]
  | all ps =>
    obtain ⟨qs, hqs, rfl⟩ := Option.map_eq_some_iff.1 h
    rw [agrees, literals, agreesEach_of_rereadEach? ps hqs]
  | any ps =>
    obtain ⟨qs, hqs, rfl⟩ := Option.map_eq_some_iff.1 h
    rw [agrees, literals, agreesEach_of_rereadEach? ps hqs]

theorem agreesEach_of_rereadEach? (ps : List Predicate) {qs : List Predicate}
    (h : rereadEach? ps = some qs) :
    agreesEach ps qs = true ↔ ∀ v ∈ literalsOfEach ps, v.Survives := by
  match ps with
  | [] =>
    cases h
    simp [agreesEach, literalsOfEach]
  | p :: ps =>
    obtain ⟨q, hq, hrest⟩ := Option.bind_eq_some_iff.1 h
    obtain ⟨qs, hqs, rfl⟩ := Option.map_eq_some_iff.1 hrest
    rw [agreesEach, Bool.and_eq_true, agrees_of_reread? p hq, agreesEach_of_rereadEach? ps hqs,
      literalsOfEach, List.forall_mem_append]

end

theorem depth_operand (operand : Operand) : operand.toJson.depth = 1 := by
  cases operand <;> exact Json.depth_tagged _ _

theorem depth_value (v : Value) : v.toJson.depth = 1 := by
  cases v with
  | float x =>
    rw [Value.toJson, Json.depth_tagged]
    split <;> rfl
  | _ => exact Json.depth_tagged _ _

mutual

theorem depth_toJson (p : Predicate) : p.toJson.depth = p.nesting := by
  cases p with
  | comparison op operand literal =>
    have hop : op.toJson.depth = 0 := rfl
    rw [toJson, Json.depth_tagged, nesting]
    simp [Json.depth, Json.memberDepth, hop, depth_operand, depth_value]
  | matching operand pattern =>
    rw [toJson, Json.depth_tagged, nesting]
    simp [Json.depth, Json.memberDepth, depth_operand, depth_value]
  | not p => rw [toJson, Json.depth_tagged, nesting, depth_toJson p]
  | has key => exact Json.depth_tagged _ _
  | all ps => rw [toJson, Json.depth_tagged, Json.depth, nesting, itemDepth_toJsons ps]
  | any ps => rw [toJson, Json.depth_tagged, Json.depth, nesting, itemDepth_toJsons ps]

theorem itemDepth_toJsons (ps : List Predicate) : Json.itemDepth (toJsons ps) = greatestNesting ps := by
  match ps with
  | [] => rfl
  | p :: ps => rw [toJsons, Json.itemDepth, greatestNesting, depth_toJson p, itemDepth_toJsons ps]

end

theorem toJson_of_toBytes_eq {p q : Predicate} (h : p.toBytes = q.toBytes) : p.toJson = q.toJson := by
  have hp := Json.parse?_encode p.wellFormed_toJson
  have hq := Json.parse?_encode q.wellFormed_toJson
  unfold toBytes at h
  rw [h, hq] at hp
  exact (Option.some.inj hp).symm

theorem nesting_of_toBytes_eq {p q : Predicate} (h : p.toBytes = q.toBytes) : p.nesting = q.nesting := by
  rw [← depth_toJson, ← depth_toJson, toJson_of_toBytes_eq h]

end Predicate

end Chronicle
