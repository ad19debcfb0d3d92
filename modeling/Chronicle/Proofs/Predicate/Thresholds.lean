import Chronicle.Proofs.Json.Recovered
import Chronicle.Proofs.Predicate.Exact

/-!
# Thresholds

A stored predicate is read with each of its binary numbers as its numeral is read. None is out of range and
none is more than three places away, but a number that is not recovered is another threshold.
-/
namespace Chronicle

/-- A finite number that is recovered reads back as an equal one, and no other does. -/
theorem Binary64.survives_iff_recovered {x : Binary64} (hx : x.isFinite = true) :
    x.Survives ↔ x.Recovered := by
  rw [← Json.Numeral.reread_eq_iff hx]
  have hread := Json.Numeral.toBinary64?_ofBinary64 hx
  constructor
  · intro h
    exact Option.some.inj (hread.symm.trans h.toBinary64?_eq)
  · intro h
    exact ⟨x, by rw [hread, h], Value.agrees_refl_of_fault?_eq_none (Value.storable_float_iff.2 hx)⟩

namespace Value

def mapFloat (f : Binary64 → Binary64) : Value → Value
  | float x => float (f x)
  | v => v

theorem reread?_eq (v : Value) (h : ∀ x, v = float x → x.isFinite = true) :
    v.reread? = some (v.mapFloat .reread) := by
  cases v with
  | float x =>
    have hx := h x rfl
    rw [reread?, if_pos hx, Json.Numeral.toBinary64?_ofBinary64 hx]
    rfl
  | _ => rfl

theorem isSome_reread?_iff (v : Value) :
    v.reread?.isSome = true ↔ ∀ x, v = float x → x.isFinite = true := by
  constructor
  · rintro h x rfl
    rw [reread?] at h
    split at h
    case isTrue hx => exact hx
    case isFalse => cases h
  · intro h
    rw [reread?_eq v h]
    rfl

end Value

namespace Predicate

mutual

/-- A predicate with its binary numbers replaced. -/
def mapFloats (f : Binary64 → Binary64) : Predicate → Predicate
  | comparison op operand literal => comparison op operand (literal.mapFloat f)
  | matching operand pattern => matching operand (pattern.mapFloat f)
  | not p => not (p.mapFloats f)
  | has key => has key
  | all ps => all (mapFloatsEach f ps)
  | any ps => any (mapFloatsEach f ps)

def mapFloatsEach (f : Binary64 → Binary64) : List Predicate → List Predicate
  | [] => []
  | p :: ps => p.mapFloats f :: mapFloatsEach f ps

end

mutual

theorem reread?_eq (p : Predicate) (h : ∀ x, .float x ∈ p.literals → x.isFinite = true) :
    p.reread? = some (p.mapFloats .reread) := by
  cases p with
  | comparison op operand literal =>
    rw [reread?, literal.reread?_eq fun x hx => h x (hx ▸ List.mem_singleton_self literal), Option.map_some,
      mapFloats]
  | matching operand pattern =>
    rw [reread?, pattern.reread?_eq fun x hx => h x (hx ▸ List.mem_singleton_self pattern), Option.map_some,
      mapFloats]
  | not p => rw [reread?, reread?_eq p h, Option.map_some, mapFloats]
  | has key => rfl
  | all ps => rw [reread?, rereadEach?_eq ps h, Option.map_some, mapFloats]
  | any ps => rw [reread?, rereadEach?_eq ps h, Option.map_some, mapFloats]

theorem rereadEach?_eq (ps : List Predicate) (h : ∀ x, .float x ∈ literalsOfEach ps → x.isFinite = true) :
    rereadEach? ps = some (mapFloatsEach .reread ps) := by
  match ps with
  | [] => rfl
  | p :: ps =>
    have hp := reread?_eq p fun x hx => h x (List.mem_append_left _ hx)
    have hps := rereadEach?_eq ps fun x hx => h x (List.mem_append_right _ hx)
    rw [rereadEach?, hp, hps, Option.bind_some, Option.map_some, mapFloatsEach]

end

/-- Whether all binary numbers in a predicate are finite. -/
def Finite (p : Predicate) : Prop := ∀ x, .float x ∈ p.literals → x.isFinite = true

theorem reread?_eq_some_iff {p q : Predicate} :
    p.reread? = some q ↔ p.Finite ∧ q = p.mapFloats .reread := by
  constructor
  · intro h
    have hfinite : p.Finite := fun x hx =>
      (Value.isSome_reread?_iff _).1 ((isSome_reread?_iff p).1 (by rw [h]; rfl) _ hx) x rfl
    exact ⟨hfinite, Option.some.inj (h.symm.trans (reread?_eq p hfinite))⟩
  · rintro ⟨hfinite, rfl⟩
    exact reread?_eq p hfinite

/-- Only binary numbers are in danger. -/
theorem agrees_mapFloats_iff {p : Predicate} (h : p.Finite) :
    p.agrees (p.mapFloats .reread) = true ↔ ∀ x, .float x ∈ p.literals → x.Recovered := by
  rw [agrees_of_reread? p (reread?_eq p h)]
  constructor
  · intro hsurvives x hx
    exact (Binary64.survives_iff_recovered (h x hx)).1
      ((Value.survives_float_iff (h x hx)).1 (hsurvives _ hx))
  · intro hrecovered v hv
    cases v with
    | float x =>
      exact (Value.survives_float_iff (h x hv)).2
        ((Binary64.survives_iff_recovered (h x hv)).2 (hrecovered x hv))
    | _ => exact ⟨_, rfl, by simp [Value.agrees]⟩

theorem mapFloats_eq_self {p : Predicate} (hfinite : p.Finite)
    (h : ∀ x, .float x ∈ p.literals → x.Recovered) : p.mapFloats .reread = p := by
  have hkeeps : p.KeepsNumbers := fun x hx =>
    (Binary64.survives_iff_recovered (hfinite x hx)).2 (h x hx)
  exact Option.some.inj ((reread?_eq p hfinite).symm.trans (reread?_eq_some p hkeeps))

variable {p : Predicate}

theorem ofBytes?_toBytes_eq_some_iff (hnesting : p.nesting ≤ 127) (q : Predicate) :
    ofBytes? p.toBytes = some q ↔ p.Finite ∧ q = p.mapFloats .reread := by
  rw [ofBytes?_toBytes, if_pos (show p.nesting ≤ nestingLimit from hnesting), reread?_eq_some_iff]

theorem Stored.of_read_eq_ok {name : String} {o : Option Predicate}
    (h : (Stored.of (some p)).read name = .ok o) : p.Finite ∧ o = some (p.mapFloats .reread) := by
  rw [Stored.read_of] at h
  dsimp only at h
  rw [ofBytes?_toBytes] at h
  by_cases hnesting : p.nesting ≤ nestingLimit
  · rw [if_pos hnesting] at h
    cases hread : p.reread? with
    | some q =>
      rw [hread] at h
      cases h
      obtain ⟨hfinite, rfl⟩ := reread?_eq_some_iff.1 hread
      exact ⟨hfinite, rfl⟩
    | none =>
      rw [hread] at h
      cases h
  · rw [if_neg hnesting] at h
    cases h

end Predicate

/-- What the numeral of a literal is read as. -/
theorem Binary64.reread_spec {x : Binary64} (hx : x.isFinite = true) :
    x.Near x.reread ∧ (x.equals x.reread = true ↔ x.Recovered) ∧ (x.Plain → x.Recovered) := by
  refine ⟨Json.Numeral.near_reread hx, ?_, Json.Numeral.recovered_of_plain hx⟩
  rw [← survives_iff_recovered hx, Survives, Json.Numeral.toBinary64?_ofBinary64 hx]
  simp

end Chronicle
