import Chronicle.Sql.Verdict

/-!
# Chains of verdicts

A chain of parts says what its parts say together, however it is grouped, and a query looks for one row on
which something is true.
-/
namespace Chronicle

namespace Sql

/-- What a connective says of several verdicts together. -/
def Connective.joinAll (c : Connective) (vs : List Verdict) : Verdict := vs.foldr c.join
    (.ok (some !c.settling))

variable {c : Connective} {u v w : Verdict} {f : Row → Verdict} {row : Row} {rows rows' : List Row}

namespace Connective

@[simp] theorem join_neutral : c.join v (.ok (some !c.settling)) = v := by
  match v with
  | .error f => rfl
  | .ok none => cases c <;> rfl
  | .ok (some b) => cases c <;> cases b <;> rfl

theorem join_assoc : c.join (c.join u v) w = c.join u (c.join v w) := by
  match u, v, w with
  | .error _, _, _ => rfl
  | .ok none, .error _, _ => rfl
  | .ok none, .ok none, .error _ => rfl
  | .ok none, .ok none, .ok none => cases c <;> rfl
  | .ok none, .ok none, .ok (some b) => cases c <;> cases b <;> rfl
  | .ok none, .ok (some a), .error _ => cases c <;> cases a <;> rfl
  | .ok none, .ok (some a), .ok none => cases c <;> cases a <;> rfl
  | .ok none, .ok (some a), .ok (some b) => cases c <;> cases a <;> cases b <;> rfl
  | .ok (some a), _, _ => cases c <;> cases a <;> rfl

@[simp] theorem joinAll_nil : c.joinAll [] = .ok (some !c.settling) := rfl

@[simp] theorem joinAll_cons (vs : List Verdict) : c.joinAll (v :: vs) = c.join v (c.joinAll vs) := rfl

end Connective

/-- A chain that groups to the left says what all of its parts say together. -/
theorem Expr.verdict_foldl [Regex.Library] (t : Tables) (scopes : List Scope) (e : Expr) (es : List Expr) :
    (es.foldl (.join c) e).verdict t scopes =
      c.join (e.verdict t scopes) (c.joinAll (es.map (·.verdict t scopes))) := by
  induction es generalizing e with
  | nil => exact Connective.join_neutral.symm
  | cons e' es ih =>
    rw [List.foldl_cons, ih, verdict, Connective.join_assoc, List.map_cons, Connective.joinAll_cons]

theorem anyRow_of_false (h : ∀ row ∈ rows, f row = .ok (some false)) :
    anyRow f rows = .ok (some false) := by
  induction rows with
  | nil => rfl
  | cons row rows ih =>
    rw [anyRow, h row List.mem_cons_self, ih fun r hr => h r (List.mem_cons_of_mem _ hr)]
    rfl

/-- All that counts is the one row on which something can be true. -/
theorem anyRow_of_unique (hmem : row ∈ rows) (h : ∀ r ∈ rows, r = row ∨ f r = .ok (some false)) :
    anyRow f rows = (f row).map fun b => some (b == some true) := by
  induction rows with
  | nil => cases hmem
  | cons r rows ih =>
    have hrest := fun r' hr' => h r' (List.mem_cons_of_mem r hr')
    have hrows : row ∉ rows → anyRow f rows = .ok (some false) := fun hnot =>
      anyRow_of_false fun r' hr' => (hrest r' hr').resolve_left fun heq => hnot (heq ▸ hr')
    rw [anyRow]
    by_cases heq : r = row
    · subst heq
      have hagain : anyRow f rows = .ok (some false) ∨
          anyRow f rows = (f r).map fun b => some (b == some true) := by
        by_cases hr : r ∈ rows
        · exact .inr (ih hr hrest)
        · exact .inl (hrows hr)
      match hf : f r with
      | .error e => rfl
      | .ok (some true) => rfl
      | .ok (some false) | .ok none =>
        rw [hf] at hagain
        exact hagain.elim id id
    · rw [(h r List.mem_cons_self).resolve_left heq]
      exact ih ((List.mem_cons.1 hmem).resolve_left (Ne.symm heq)) hrest

theorem anyRow_eq_any {g : Row → Bool} (h : ∀ row ∈ rows, f row = .ok (some (g row))) :
    anyRow f rows = .ok (some (rows.any g)) := by
  induction rows with
  | nil => rfl
  | cons row rows ih =>
    rw [anyRow, h row List.mem_cons_self, ih fun r hr => h r (List.mem_cons_of_mem _ hr), List.any_cons]
    cases g row <;> rfl

end Sql

end Chronicle
