import Chronicle.Predicate.Stored
import Chronicle.Proofs.Json.Tree
import Chronicle.Proofs.Timestamp.Text

/-!
# Predicates read back

A predicate is read from its durable bytes as it was written, but for two things: more levels of brackets
than there are to be had are not read, and a binary number becomes what the reader makes of its numeral.
-/
namespace Chronicle
open Text

namespace Json

@[simp] theorem enter?_zero {α : Type} (read : Nat → Option α) : enter? 0 read = none := rfl

@[simp] theorem enter?_succ {α : Type} (levels : Nat) (read : Nat → Option α) :
    enter? (levels + 1) read = read levels := rfl

theorem text?_ofText (s : String) : (ofText s).text? = some s := Literal.toText?_ofText s

theorem tagged?_tagged (name : String) (j : Json) : (tagged name j).tagged? = some (name, j) := by
  rw [tagged, tagged?, Literal.toText?_ofText]
  rfl

theorem wellFormed_ofText (s : String) : (ofText s).WellFormed := by
  refine wellFormed_text fun p hp => ?_
  obtain ⟨c, -, rfl⟩ := List.mem_map.1 hp
  exact Literal.wellFormed_ofChar c

/-- An object whose keys are texts. -/
theorem wellFormed_record (members : List (String × Json)) (h : ∀ m ∈ members, m.2.WellFormed) :
    (object (members.map fun m => (.ofText m.1, m.2))).WellFormed := by
  refine wellFormed_object fun m hm => ?_
  obtain ⟨⟨name, j⟩, hmem, rfl⟩ := List.mem_map.1 hm
  refine ⟨fun p hp => ?_, h _ hmem⟩
  obtain ⟨c, -, rfl⟩ := List.mem_map.1 hp
  exact Literal.wellFormed_ofChar c

theorem wellFormed_tagged (name : String) {j : Json} (h : j.WellFormed) : (tagged name j).WellFormed :=
  wellFormed_record [(name, j)] fun m hm => by
    obtain rfl := List.mem_singleton.1 hm
    exact h

end Json

theorem Operator.ofJson?_toJson (levels : Nat) (op : Operator) : ofJson? levels op.toJson = some op := by
  have htagged : op.toJson.tagged? = none := rfl
  have hvariant : ofVariant? op.variant = some op := by cases op <;> decide
  rw [ofJson?, htagged]
  dsimp only
  rw [toJson, Json.text?_ofText, Option.bind_some, hvariant]

theorem Operand.ofJson?_toJson (levels : Nat) (operand : Operand) :
    ofJson? (levels + 1) operand.toJson = some operand := by
  cases operand with
  | field name =>
    rw [ofJson?, Json.enter?_succ, toJson, Json.tagged?_tagged]
    simp only [Json.text?_ofText, Option.map_some]
  | attr key =>
    rw [ofJson?, Json.enter?_succ, toJson, Json.tagged?_tagged]
    simp only [Json.text?_ofText, Option.map_some]

theorem Operand.wellFormed_toJson (operand : Operand) : operand.toJson.WellFormed := by
  cases operand <;> exact Json.wellFormed_tagged _ (Json.wellFormed_ofText _)

namespace Value

/-- What is read of a value that was written. -/
def reread? : Value → Option Value
  | float x => if x.isFinite then (Json.Numeral.ofBinary64 x).toBinary64?.map float else none
  | v => some v

theorem ofJson?_toJson (levels : Nat) (v : Value) : ofJson? (levels + 1) v.toJson = v.reread? := by
  rw [ofJson?, Json.enter?_succ]
  cases v with
  | integer i =>
    rw [toJson, Json.tagged?_tagged]
    simp only [Json.Numeral.toInt64?_ofInt, Option.map_some]
    rfl
  | string s =>
    rw [toJson, Json.tagged?_tagged]
    simp only [Json.text?_ofText, Option.map_some]
    rfl
  | boolean b =>
    rw [toJson, Json.tagged?_tagged]
    rfl
  | timestamp t =>
    rw [toJson, Json.tagged?_tagged]
    simp only [Json.text?_ofText, Option.bind_some, Timestamp.ofInterchangeText?_interchangeText, Option.map_some]
    rfl
  | float x =>
    rw [toJson, Json.tagged?_tagged, reread?]
    by_cases hx : x.isFinite = true
    · simp only [hx, if_true]
    · simp only [hx, if_false, Bool.false_eq_true]
      rfl

theorem wellFormed_toJson (v : Value) : v.toJson.WellFormed := by
  cases v with
  | integer i => exact Json.wellFormed_tagged _ (Json.wellFormed_number (Json.Numeral.wellFormed_ofInt _))
  | string s => exact Json.wellFormed_tagged _ (Json.wellFormed_ofText s)
  | boolean b =>
    refine Json.wellFormed_tagged _ fun t ht => ?_
    obtain rfl := List.mem_singleton.1 ht
    trivial
  | timestamp t => exact Json.wellFormed_tagged _ (Json.wellFormed_ofText _)
  | float x =>
    refine Json.wellFormed_tagged _ ?_
    split
    · exact Json.wellFormed_number (Json.Numeral.wellFormed_ofBinary64 x)
    · intro t ht
      obtain rfl := List.mem_singleton.1 ht
      trivial

end Value

namespace Predicate

mutual

/-- Levels of brackets in the durable bytes. -/
def nesting : Predicate → Nat
  | comparison _ _ _ => 3
  | matching _ _ => 3
  | not p => p.nesting + 1
  | has _ => 1
  | all ps => greatestNesting ps + 2
  | any ps => greatestNesting ps + 2

def greatestNesting : List Predicate → Nat
  | [] => 0
  | p :: ps => max p.nesting (greatestNesting ps)

end

mutual

/-- What is read of a predicate that was written, as far as its literals go. -/
def reread? : Predicate → Option Predicate
  | comparison op operand literal => literal.reread?.map (comparison op operand)
  | matching operand pattern => pattern.reread?.map (matching operand)
  | not p => p.reread?.map not
  | has key => some (has key)
  | all ps => (rereadEach? ps).map all
  | any ps => (rereadEach? ps).map any

def rereadEach? : List Predicate → Option (List Predicate)
  | [] => some []
  | p :: ps => p.reread?.bind fun q => (rereadEach? ps).map (q :: ·)

end

theorem comparisonOf?_toJson (levels : Nat) (op : Operator) (operand : Operand) (literal : Value) :
    comparisonOf? (levels + 1) [op.toJson, operand.toJson, literal.toJson] =
      literal.reread?.map (comparison op operand) := by
  simp only [comparisonOf?, Operator.ofJson?_toJson, Operand.ofJson?_toJson, Value.ofJson?_toJson]
  cases literal.reread? <;> rfl

theorem matchOf?_toJson (levels : Nat) (operand : Operand) (pattern : Value) :
    matchOf? (levels + 1) [operand.toJson, pattern.toJson] = pattern.reread?.map (matching operand) := by
  simp only [matchOf?, Operand.ofJson?_toJson, Value.ofJson?_toJson]
  cases pattern.reread? <;> rfl

theorem record?_comparison (op operand literal : Json) :
    Json.record? comparisonNames (.object [(.ofText "op", op), (.ofText "operand", operand),
      (.ofText "literal", literal)]) = some [op, operand, literal] := by
  simp [Json.record?, Json.members?, comparisonNames, Json.Literal.toText?_ofText]

theorem record?_match (operand pattern : Json) :
    Json.record? matchNames (.object [(.ofText "operand", operand), (.ofText "pattern", pattern)]) =
      some [operand, pattern] := by
  simp [Json.record?, Json.members?, matchNames, Json.Literal.toText?_ofText]

mutual

/-- A predicate is read with as many levels as it has. -/
theorem ofJson?_toJson (levels : Nat) (p : Predicate) :
    ofJson? levels p.toJson = if p.nesting ≤ levels then p.reread? else none := by
  cases p with
  | comparison op operand literal =>
    rw [toJson, Json.tagged, nesting, reread?]
    unfold ofJson?
    rcases levels with - | - | - | levels
    · rfl
    · simp [Json.Literal.toText?_ofText]
    · simp [Json.Literal.toText?_ofText, record?_comparison, comparisonOf?, Operand.ofJson?]
    · simp [Json.Literal.toText?_ofText, record?_comparison, comparisonOf?_toJson]
  | matching operand pattern =>
    rw [toJson, Json.tagged, nesting, reread?]
    unfold ofJson?
    rcases levels with - | - | - | levels
    · rfl
    · simp [Json.Literal.toText?_ofText]
    · simp [Json.Literal.toText?_ofText, record?_match, matchOf?, Operand.ofJson?]
    · simp [Json.Literal.toText?_ofText, record?_match, matchOf?_toJson]
  | not p =>
    rw [toJson, Json.tagged, nesting, reread?]
    unfold ofJson?
    rcases levels with - | levels
    · rfl
    · simp only [Json.enter?_succ, Json.Literal.toText?_ofText, ofJson?_toJson levels p,
        Nat.add_le_add_iff_right]
      split <;> rfl
  | has key =>
    rw [toJson, Json.tagged, nesting, reread?]
    unfold ofJson?
    rcases levels with - | levels
    · rfl
    · simp [Json.Literal.toText?_ofText, Json.text?_ofText]
  | all ps =>
    rw [toJson, Json.tagged, nesting, reread?]
    unfold ofJson?
    rcases levels with - | - | levels
    · rfl
    · simp [Json.Literal.toText?_ofText]
    · simp only [Json.enter?_succ, Json.Literal.toText?_ofText, ofJsons?_toJsons levels ps,
        Nat.add_le_add_iff_right]
      split <;> rfl
  | any ps =>
    rw [toJson, Json.tagged, nesting, reread?]
    unfold ofJson?
    rcases levels with - | - | levels
    · rfl
    · simp [Json.Literal.toText?_ofText]
    · simp only [Json.enter?_succ, Json.Literal.toText?_ofText, ofJsons?_toJsons levels ps,
        Nat.add_le_add_iff_right]
      split <;> rfl

theorem ofJsons?_toJsons (levels : Nat) (ps : List Predicate) :
    ofJsons? levels (toJsons ps) = if greatestNesting ps ≤ levels then rereadEach? ps else none := by
  match ps with
  | [] => rfl
  | p :: ps =>
    rw [toJsons, ofJsons?, ofJson?_toJson levels p, ofJsons?_toJsons levels ps, rereadEach?,
      greatestNesting]
    by_cases hle : max p.nesting (greatestNesting ps) ≤ levels
    · obtain ⟨hp, hps⟩ := Nat.max_le.1 hle
      rw [if_pos hle, if_pos hp, if_pos hps]
    · rw [if_neg hle]
      by_cases hp : p.nesting ≤ levels
      · have hps : ¬ greatestNesting ps ≤ levels := fun hps => hle (Nat.max_le.2 ⟨hp, hps⟩)
        simp only [if_neg hps, Option.map_none, Option.bind_fun_none]
      · rw [if_neg hp, Option.bind_none]

end

mutual

theorem wellFormed_toJson (p : Predicate) : p.toJson.WellFormed := by
  cases p with
  | comparison op operand literal =>
    refine Json.wellFormed_tagged _ (Json.wellFormed_record
      [("op", op.toJson), ("operand", operand.toJson), ("literal", literal.toJson)] fun m hm => ?_)
    simp only [List.mem_cons, List.not_mem_nil, or_false] at hm
    rcases hm with rfl | rfl | rfl
    · exact Json.wellFormed_ofText _
    · exact operand.wellFormed_toJson
    · exact literal.wellFormed_toJson
  | matching operand pattern =>
    refine Json.wellFormed_tagged _ (Json.wellFormed_record
      [("operand", operand.toJson), ("pattern", pattern.toJson)] fun m hm => ?_)
    simp only [List.mem_cons, List.not_mem_nil, or_false] at hm
    rcases hm with rfl | rfl
    · exact operand.wellFormed_toJson
    · exact pattern.wellFormed_toJson
  | not p => exact Json.wellFormed_tagged _ (wellFormed_toJson p)
  | has key => exact Json.wellFormed_tagged _ (Json.wellFormed_ofText key)
  | all ps => exact Json.wellFormed_tagged _ (Json.wellFormed_array (wellFormed_toJsons ps))
  | any ps => exact Json.wellFormed_tagged _ (Json.wellFormed_array (wellFormed_toJsons ps))

theorem wellFormed_toJsons (ps : List Predicate) : ∀ j ∈ toJsons ps, j.WellFormed := by
  match ps with
  | [] => exact fun _ hj => nomatch hj
  | p :: ps =>
    intro j hj
    rcases List.mem_cons.1 hj with rfl | hj
    · exact wellFormed_toJson p
    · exact wellFormed_toJsons ps j hj

end

/-- What is read from the durable bytes of a predicate. -/
theorem ofBytes?_toBytes (p : Predicate) :
    ofBytes? p.toBytes = if p.nesting ≤ nestingLimit then p.reread? else none := by
  rw [ofBytes?, toBytes, Json.parse?_encode p.wellFormed_toJson, Option.bind_some, ofJson?_toJson]

/-- What becomes of a predicate that is stored and read again. -/
theorem Stored.read_of (p : Option Predicate) (name : String) : (Stored.of p).read name =
    match p with
    | none => .ok none
    | some p =>
      match ofBytes? p.toBytes with
      | some p' => .ok (some p')
      | none => .error (.corruptRow (.unreadablePredicate name)) := by
  cases p with
  | none => rfl
  | some p => exact if_neg fun h => h rfl

end Predicate

end Chronicle
