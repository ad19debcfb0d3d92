import Chronicle.Sql.Token
import Mathlib.Data.List.Count
import Mathlib.Data.List.SplitBy

/-!
# Lexemes and parameters

A text falls into the lexemes of its parts where the parts do not stick together, and a text that has tokens
has a question mark for each parameter.
-/
namespace Chronicle

namespace Sql

variable {c d : Char} {p : List Char} {s t : String}

theorem lexemes_append (h : ∀ x ∈ s.toList.getLast?, ∀ y ∈ t.toList.head?, glued x y = false) :
    lexemes (s ++ t) = lexemes s ++ lexemes t := by
  unfold lexemes pieces
  rw [String.toList_append, List.splitBy_append h, List.filter_append, List.map_append]

/-- Whether a text begins with a character that does not stick to what is before it. -/
def beginsLoose (s : String) : Bool := s.toList.head?.all fun c => !(CharClass.of c).sticks

/-- Whether a text ends in a character that does not stick to what comes after it. -/
def endsLoose (s : String) : Bool := s.toList.getLast?.all fun c => !(CharClass.of c).sticks

theorem lexemes_append_of_endsLoose (h : endsLoose s = true) :
    lexemes (s ++ t) = lexemes s ++ lexemes t := by
  refine lexemes_append fun x hx y _ => ?_
  rw [endsLoose, Option.mem_def.1 hx, Option.all_some, Bool.not_eq_true'] at h
  rw [glued, h, Bool.and_false]

theorem lexemes_append_of_beginsLoose (h : beginsLoose t = true) :
    lexemes (s ++ t) = lexemes s ++ lexemes t := by
  refine lexemes_append fun x _ y hy => ?_
  rw [beginsLoose, Option.mem_def.1 hy, Option.all_some, Bool.not_eq_true'] at h
  by_cases hclass : CharClass.of x = CharClass.of y
  · rw [glued, hclass, h, Bool.and_false]
  · rw [glued, beq_false_of_ne hclass, Bool.false_and]

theorem endsLoose_append (h : endsLoose t = true) (ht : t ≠ "") : endsLoose (s ++ t) = true := by
  rwa [endsLoose, String.toList_append, List.getLast?_append_of_ne_nil _ (by simpa using ht)]

theorem tokens?_append {ls ls' : List String} {vs vs' : List Value} {ts ts' : List Token}
    (h : tokens? ls vs = some ts) (h' : tokens? ls' vs' = some ts') :
    tokens? (ls ++ ls') (vs ++ vs') = some (ts ++ ts') := by
  fun_induction tokens? ls vs generalizing ts with
  | case1 =>
    cases h
    exact h'
  | case2 | case3 => cases h
  | case4 ls v vs ih =>
    obtain ⟨us, hus, rfl⟩ := Option.map_eq_some_iff.1 h
    simp [tokens?, ih hus]
  | case5 l ls vs hl ih =>
    obtain ⟨us, hus, rfl⟩ := Option.map_eq_some_iff.1 h
    simp [tokens?, hl, ih hus]

theorem count_of_tokens? {ls : List String} {vs : List Value} {ts : List Token}
    (h : tokens? ls vs = some ts) : ls.count "?" = vs.length := by
  fun_induction tokens? ls vs generalizing ts with
  | case1 => rfl
  | case2 | case3 => cases h
  | case4 ls v vs ih =>
    obtain ⟨us, hus, -⟩ := Option.map_eq_some_iff.1 h
    rw [List.count_cons_self, ih hus, List.length_cons]
  | case5 l ls vs hl ih =>
    obtain ⟨us, hus, -⟩ := Option.map_eq_some_iff.1 h
    rw [List.count_cons_of_ne hl, ih hus]

theorem ne_mark_of_glued (h : glued c d = true) : c ≠ '?' ∧ d ≠ '?' := by
  unfold glued at h
  constructor
  · rintro rfl
    simp [CharClass.of, CharClass.sticks] at h
  · rintro rfl
    simp at h
    rw [h.1] at h
    exact absurd h.2 (by decide)

/-- A question mark is never a part of something longer. -/
theorem count_mark_of_isChain (h : p.IsChain fun c d => glued c d = true) :
    p.count '?' = if p = ['?'] then 1 else 0 := by
  match p, h with
  | [], _ => rfl
  | [c], _ =>
    by_cases hc : c = '?'
    · subst hc
      rfl
    · rw [List.count_cons_of_ne hc, if_neg (by simpa using hc), List.count_nil]
  | c :: d :: p, h =>
    have hnot : '?' ∉ c :: d :: p := by
      clear * - h
      induction p generalizing c d with
      | nil =>
        obtain ⟨hc, hd⟩ := ne_mark_of_glued (List.isChain_cons_cons.1 h).1
        simp [hc.symm, hd.symm]
      | cons e p ih =>
        obtain ⟨hcd, hrest⟩ := List.isChain_cons_cons.1 h
        rw [List.mem_cons, not_or]
        exact ⟨(ne_mark_of_glued hcd).1.symm, ih _ _ hrest⟩
    rw [List.count_eq_zero.2 hnot, if_neg (by simp)]

theorem count_mark_flatten {ps : List (List Char)}
    (h : ∀ p ∈ ps, p.count '?' = if p = ['?'] then 1 else 0) : ps.flatten.count '?' = ps.count ['?'] := by
  induction ps with
  | nil => rfl
  | cons p ps ih =>
    rw [List.flatten_cons, List.count_append, h p List.mem_cons_self,
      ih fun q hq => h q (List.mem_cons_of_mem _ hq), List.count_cons, Nat.add_comm]
    simp

theorem count_lexemes (text : String) : (lexemes text).count "?" = text.toList.count '?' := by
  have hflatten : (pieces text).flatten = text.toList := List.flatten_splitBy _ _
  have hpieces : ∀ p ∈ pieces text, p.count '?' = if p = ['?'] then 1 else 0 :=
    fun p hp => count_mark_of_isChain (List.isChain_of_mem_splitBy hp)
  have hmark : "?" = String.ofList ['?'] := rfl
  rw [← hflatten, count_mark_flatten hpieces, lexemes, hmark,
    List.count_map_of_injective _ _ fun _ _ => String.ofList_inj.1]
  exact List.count_filter (by decide)

end Sql

end Chronicle
