import Chronicle.Proofs.Predicate.Reread

/-!
# Predicates and their bytes

Bytes of a predicate bring it back exactly when there are levels enough for it and its binary numbers
survive. Whatever else is read, from an array without names or from among members that do not count, nests
no deeper and has finite numbers. So it is brought back by its own bytes.
-/
namespace Chronicle
open Text

namespace Binary64

variable {x y : Binary64}

/-- Of two equal numbers that are not zero one is the other. -/
theorem eq_of_equals (h : x.equals y = true) (hx : x.pattern ≠ 0) : x = y := by
  simp only [equals, Bool.and_eq_true, decide_eq_true_eq] at h
  obtain ⟨-, hplace⟩ := h
  have hsame : x.negative = y.negative ∧ x.pattern = y.pattern := by
    unfold place at hplace
    cases hxn : x.negative <;> cases hyn : y.negative <;>
      simp only [hxn, hyn, if_true, if_false, Bool.false_eq_true] at hplace
    · exact ⟨rfl, by omega⟩
    · omega
    · omega
    · exact ⟨rfl, by omega⟩
  rw [← ofPattern_eta x, ← ofPattern_eta y, hsame.1, hsame.2]

/-- A number that survives is read as the same number, also with the sign of a zero. -/
theorem Survives.toBinary64?_eq (h : x.Survives) :
    (Json.Numeral.ofBinary64 x).toBinary64? = some x := by
  by_cases hzero : x.pattern = 0
  · rw [← ofPattern_eta x, hzero]
    cases x.negative <;> decide +kernel
  · obtain ⟨y, hy, hequals⟩ := h
    rw [hy, eq_of_equals hequals hzero]

theorem Survives.isFinite (h : x.Survives) : x.isFinite = true :=
  Json.Numeral.isFinite_of_toBinary64? h.toBinary64?_eq

end Binary64

theorem Value.reread?_eq_some {v : Value} (h : ∀ x, v = float x → x.Survives) : v.reread? = some v := by
  cases v with
  | float x =>
    have hx := h x rfl
    rw [reread?, if_pos hx.isFinite, hx.toBinary64?_eq, Option.map_some]
  | _ => rfl

theorem Json.enter?_eq_some {α : Type} {levels : Nat} {read : Nat → Option α} {a : α} :
    enter? levels read = some a ↔ ∃ n, levels = n + 1 ∧ read n = some a := by
  cases levels <;> simp

/-- Reading a value takes a level, and a number that is read is finite. -/
theorem Value.of_ofJson? {levels : Nat} {j : Json} {v : Value} (h : ofJson? levels j = some v) :
    0 < levels ∧ ∀ x, float x ∈ [v] → x.isFinite = true := by
  rw [ofJson?, Json.enter?_eq_some] at h
  obtain ⟨n, rfl, h⟩ := h
  refine ⟨Nat.succ_pos n, fun x hx => ?_⟩
  obtain rfl := List.mem_singleton.1 hx
  split at h
  case h_3 | h_6 => cases h
  case h_5 =>
    obtain ⟨y, hy, heq⟩ := Option.map_eq_some_iff.1 h
    cases heq
    exact Json.Numeral.isFinite_of_toBinary64? hy
  all_goals
    obtain ⟨w, -, hne⟩ := Option.map_eq_some_iff.1 h
    cases hne

namespace Predicate

mutual

theorem reread?_eq_some (p : Predicate) (h : p.KeepsNumbers) : p.reread? = some p := by
  cases p with
  | comparison op operand literal =>
    have hliteral := Value.reread?_eq_some fun x hx => h x (hx ▸ List.mem_singleton_self literal)
    rw [reread?, hliteral, Option.map_some]
  | matching operand pattern =>
    have hpattern := Value.reread?_eq_some fun x hx => h x (hx ▸ List.mem_singleton_self pattern)
    rw [reread?, hpattern, Option.map_some]
  | not p => rw [reread?, reread?_eq_some p h, Option.map_some]
  | has key => rfl
  | all ps => rw [reread?, rereadEach?_eq_some ps h, Option.map_some]
  | any ps => rw [reread?, rereadEach?_eq_some ps h, Option.map_some]

theorem rereadEach?_eq_some (ps : List Predicate)
    (h : ∀ x, Value.float x ∈ literalsOfEach ps → x.Survives) : rereadEach? ps = some ps := by
  match ps with
  | [] => rfl
  | p :: ps =>
    have hp := reread?_eq_some p fun x hx => h x (List.mem_append_left _ hx)
    have hps := rereadEach?_eq_some ps fun x hx => h x (List.mem_append_right _ hx)
    rw [rereadEach?, hp, hps, Option.bind_some, Option.map_some]

end

/-- What a predicate is like that was read: it has no more levels than there were, and finite numbers. -/
structure Legible (levels : Nat) (p : Predicate) : Prop where
  nesting : p.nesting ≤ levels
  finite : ∀ x, .float x ∈ p.literals → x.isFinite = true

theorem legible_of_comparisonOf? {levels : Nat} {parts : List Json} {p : Predicate}
    (h : comparisonOf? levels parts = some p) : Legible (levels + 2) p := by
  unfold comparisonOf? at h
  split at h
  case h_2 => cases h
  obtain ⟨op, -, h⟩ := Option.bind_eq_some_iff.1 h
  obtain ⟨operand, -, h⟩ := Option.bind_eq_some_iff.1 h
  obtain ⟨v, hv, h⟩ := Option.bind_eq_some_iff.1 h
  cases h
  obtain ⟨hpos, hfinite⟩ := Value.of_ofJson? hv
  exact ⟨Nat.add_le_add_right hpos 2, hfinite⟩

theorem legible_of_matchOf? {levels : Nat} {parts : List Json} {p : Predicate}
    (h : matchOf? levels parts = some p) : Legible (levels + 2) p := by
  unfold matchOf? at h
  split at h
  case h_2 => cases h
  obtain ⟨operand, -, h⟩ := Option.bind_eq_some_iff.1 h
  obtain ⟨v, hv, h⟩ := Option.bind_eq_some_iff.1 h
  cases h
  obtain ⟨hpos, hfinite⟩ := Value.of_ofJson? hv
  exact ⟨Nat.add_le_add_right hpos 2, hfinite⟩

theorem of_ofJsons? {levels : Nat} (hread : ∀ j p, ofJson? levels j = some p → Legible levels p)
    {js : List Json} {ps : List Predicate} (h : ofJsons? levels js = some ps) :
    greatestNesting ps ≤ levels ∧ ∀ x, .float x ∈ literalsOfEach ps → x.isFinite = true := by
  induction js generalizing ps with
  | nil =>
    cases h
    exact ⟨Nat.zero_le _, fun x hx => absurd hx List.not_mem_nil⟩
  | cons j js ih =>
    obtain ⟨p, hp, hrest⟩ := Option.bind_eq_some_iff.1 h
    obtain ⟨ps, hps, rfl⟩ := Option.map_eq_some_iff.1 hrest
    have hfirst := hread j p hp
    obtain ⟨hnesting, hfinite⟩ := ih hps
    refine ⟨Nat.max_le.2 ⟨hfirst.nesting, hnesting⟩, fun x hx => ?_⟩
    exact (List.mem_append.1 hx).elim (hfirst.finite x) (hfinite x)

/-- The induction is on the levels, since there are fewer of them inside. -/
theorem legible_of_ofJson? {levels : Nat} {j : Json} {p : Predicate} (h : ofJson? levels j = some p) :
    Legible levels p := by
  induction levels using Nat.strongRecOn generalizing j p with
  | ind levels ih =>
    unfold ofJson? at h
    split at h
    case h_2 => cases h
    rw [Json.enter?_eq_some] at h
    obtain ⟨n, rfl, h⟩ := h
    split at h
    case h_1 =>
      obtain ⟨m, rfl, h⟩ := Json.enter?_eq_some.1 h
      obtain ⟨parts, -, h⟩ := Option.bind_eq_some_iff.1 h
      exact legible_of_comparisonOf? h
    case h_2 =>
      obtain ⟨m, rfl, h⟩ := Json.enter?_eq_some.1 h
      obtain ⟨parts, -, h⟩ := Option.bind_eq_some_iff.1 h
      exact legible_of_matchOf? h
    case h_3 =>
      obtain ⟨q, hq, rfl⟩ := Option.map_eq_some_iff.1 h
      have hinner := ih n (Nat.lt_succ_self n) hq
      exact ⟨Nat.succ_le_succ hinner.nesting, hinner.finite⟩
    case h_4 =>
      obtain ⟨key, -, rfl⟩ := Option.map_eq_some_iff.1 h
      exact ⟨Nat.succ_pos n, fun x hx => absurd hx List.not_mem_nil⟩
    case h_5 | h_6 =>
      obtain ⟨m, rfl, h⟩ := Json.enter?_eq_some.1 h
      obtain ⟨ps, hps, rfl⟩ := Option.map_eq_some_iff.1 h
      obtain ⟨hnesting, hfinite⟩ := of_ofJsons? (fun _ _ => ih m (by omega)) hps
      exact ⟨Nat.add_le_add_right hnesting 2, hfinite⟩
    case h_7 => cases h

/-- The durable bytes of a predicate whose numbers survive bring it back unless it nests too deep, and so do
those that are stored. Whatever is read from bytes does not nest too deep and has finite numbers; if these
survive, its own bytes bring it back. -/
theorem ofBytes?_toBytes_of_keepsNumbers :
    (∀ p : Predicate, p.KeepsNumbers →
      (ofBytes? p.toBytes = if p.nesting ≤ 127 then some p else none) ∧
      ∀ name, (Stored.of (some p)).read name =
        if p.nesting ≤ 127 then .ok (some p) else .error (.corruptRow (.unreadablePredicate name))) ∧
    ∀ bytes p, ofBytes? bytes = some p →
      p.nesting ≤ 127 ∧ (∀ x, .float x ∈ p.literals → x.isFinite = true) ∧
        (p.KeepsNumbers → ofBytes? p.toBytes = some p) := by
  have hbytes (p : Predicate) (hp : p.KeepsNumbers) :
      ofBytes? p.toBytes = if p.nesting ≤ 127 then some p else none := by
    rw [ofBytes?_toBytes, reread?_eq_some p hp]
    rfl
  refine ⟨fun p hp => ⟨hbytes p hp, fun name => ?_⟩, fun bytes p h => ?_⟩
  · rw [Stored.read_of]
    dsimp only
    rw [hbytes p hp]
    by_cases hnesting : p.nesting ≤ 127
    · rw [if_pos hnesting, if_pos hnesting]
    · rw [if_neg hnesting, if_neg hnesting]
  · obtain ⟨j, -, hj⟩ := Option.bind_eq_some_iff.1 h
    obtain ⟨hnesting, hfinite⟩ := legible_of_ofJson? hj
    exact ⟨hnesting, hfinite, fun hp => (hbytes p hp).trans (if_pos hnesting)⟩

/-- A number, a text with characters to be escaped, and an empty alternative. -/
def mixed : Predicate :=
  .all [.comparison .lt (.attr "score") (.float ⟨0x3fe0000000000000⟩),
    .not (.matching (.field "author") (.string "\"\\d")), .any []]

/-- A comparison without names, and a match in another order with a member that does not count. -/
def lax : Json :=
  .tagged "All" (.array [
    .tagged "Comparison" (.array [.ofText "Gt", (Operand.attr "score").toJson, (Value.integer 5).toJson]),
    .tagged "Match" (.object [(.ofText "pattern", (Value.string "a").toJson),
      (.ofText "note", .array [.null]), (.ofText "operand", (Operand.field "author").toJson)])])

/-- What is read of that. -/
def strict : Predicate :=
  .all [.comparison .gt (.attr "score") (.integer 5), .matching (.field "author") (.string "a")]

set_option maxRecDepth 8000 in
theorem ofBytes?_toBytes_mixed : ofBytes? mixed.toBytes = some mixed ∧
    ofBytes? (Utf8.encode lax.chars) = some strict ∧ ofBytes? strict.toBytes = some strict := by
  have hkeeps : mixed.KeepsNumbers := by
    intro x hx
    obtain rfl : x = ⟨0x3fe0000000000000⟩ := by simpa [mixed, literals, literalsOfEach] using hx
    exact ⟨⟨0x3fe0000000000000⟩, by decide +kernel, by decide +kernel⟩
  have hlax : ofBytes? (Utf8.encode lax.chars) = some strict := by rfl
  have hstrict : strict.KeepsNumbers := by
    intro x hx
    simp [strict, literals, literalsOfEach] at hx
  refine ⟨(ofBytes?_toBytes_of_keepsNumbers.1 mixed hkeeps).1.trans (if_pos (by decide)), hlax, ?_⟩
  exact (ofBytes?_toBytes_of_keepsNumbers.2 _ strict hlax).2.2 hstrict

end Predicate

end Chronicle
