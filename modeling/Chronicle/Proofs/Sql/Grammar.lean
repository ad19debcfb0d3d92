import Chronicle.Proofs.Sql.Tokens
import Chronicle.Sql.Expr

/-!
# How conditions are read

The grammar of the expressions that conditions are written in. Negations bind closer than conjunctions, and
these closer than disjunctions; both of the latter group to the left. What some tokens stand for is unique:
from the end on, every step of a reading is forced.
-/
namespace Chronicle

namespace Sql

/-- The tests and queries of an expression, from left to right. -/
def Expr.leaves : Expr → List Expr
  | constant _ => []
  | test t l r => [test t l r]
  | query table name e => [query table name e]
  | not e => e.leaves
  | join _ l r => l.leaves ++ r.leaves

def Term.tokens : Term → List Token
  | column owner name => [.lexeme owner, .lexeme ".", .lexeme name]
  | bound v => [.bound v]

def Term.isNamed : Term → Bool
  | column owner name => isName owner && isName name
  | bound _ => true

/-- What stands before the condition of a query. -/
def queryStart (table : Table) (name : String) : List Token :=
  [.lexeme "exists", .lexeme "(", .lexeme "select", .lexeme "1", .lexeme "from", .lexeme table.name,
    .lexeme name, .lexeme "where"]

/-- How closely an expression binds. -/
inductive Level
  | chain (c : Connective)
  | negation
  | atom

/-- The level of what a connective joins. -/
def Connective.part : Connective → Level
  | or => .chain .and
  | and => .negation

/-- What tokens stand for at a level. -/
inductive Derives : Level → List Token → Expr → Prop
  | join (c : Connective) {l r : List Token} {a b : Expr} : Derives (.chain c) l a → Derives c.part r b →
      Derives (.chain c) (l ++ .lexeme c.text :: r) (.join c a b)
  | part (c : Connective) {ts : List Token} {e : Expr} : Derives c.part ts e → Derives (.chain c) ts e
  | not (n : Nat) {ts : List Token} {e : Expr} : Derives .atom ts e →
      Derives .negation (List.replicate n (.lexeme "not") ++ ts) (n.repeat .not e)
  | constant (b : Bool) : Derives .atom [.lexeme (if b then "1" else "0")] (.constant b)
  | test (t : Test) {l r : Term} (hl : l.isNamed = true) (hr : r.isNamed = true) :
      Derives .atom (l.tokens ++ .lexeme t.text :: r.tokens) (.test t l r)
  | query (table : Table) {name : String} (hname : isName name = true) {ts : List Token} {e : Expr} :
      Derives (.chain .or) ts e → Derives .atom (queryStart table name ++ ts ++ [.lexeme ")"])
        (.query table name e)
  | group {ts : List Token} {e : Expr} : Derives (.chain .or) ts e →
      Derives .atom ([.lexeme "("] ++ ts ++ [.lexeme ")"]) e

/-- The lexemes after which an expression of a level can begin. -/
def Level.openers : Level → List String
  | chain .or => ["(", "where"]
  | chain .and => ["or", "(", "where"]
  | negation => ["and", "or", "(", "where"]
  | atom => ["not", "and", "or", "(", "where"]

/-- Whether an expression of a level can begin after some tokens. -/
def Level.Opens (level : Level) (r : List Token) : Prop :=
  r = [] ∨ ∃ s, ∃ l ∈ level.openers, r = s ++ [.lexeme l]

variable {level : Level} {r r' ts ts' : List Token} {e e' : Expr} {l : String} {c : Connective}

theorem opens_append (h : l ∈ level.openers) : level.Opens (r ++ [.lexeme l]) :=
  .inr ⟨r, l, h, rfl⟩

theorem mem_openers_of_opens (h : level.Opens (r ++ [.lexeme l])) : l ∈ level.openers := by
  obtain h | ⟨s, k, hk, h⟩ := h
  · simp at h
  · obtain ⟨-, h⟩ := List.append_inj' h rfl
    simp only [List.cons.injEq, Token.lexeme.injEq, and_true] at h
    exact h ▸ hk

theorem Level.Opens.mono {finer : Level} (h : level.Opens r)
    (hsub : ∀ l ∈ level.openers, l ∈ finer.openers) : finer.Opens r :=
  h.imp_right fun ⟨s, l, hl, hr⟩ => ⟨s, l, hsub l hl, hr⟩

theorem Level.Opens.part (h : (Level.chain c).Opens r) : c.part.Opens r :=
  h.mono (by cases c <;> decide)

theorem opens_connective (c : Connective) : c.part.Opens (r ++ [.lexeme c.text]) :=
  opens_append (by cases c <;> decide)

theorem not_opens_connective (c : Connective) : ¬(Level.chain c).Opens (r ++ [.lexeme c.text]) :=
  fun h => absurd (mem_openers_of_opens h) (by cases c <;> decide)

theorem not_opens_not : ¬Level.negation.Opens (r ++ [.lexeme "not"]) :=
  fun h => absurd (mem_openers_of_opens h) (by decide)

theorem opens_replicate (n : Nat) (h : Level.negation.Opens r) :
    Level.atom.Opens (r ++ List.replicate n (.lexeme "not")) := by
  cases n with
  | zero =>
    rw [List.replicate_zero, List.append_nil]
    exact h.mono (by decide)
  | succ n =>
    rw [List.replicate_succ', ← List.append_assoc]
    exact opens_append (by decide)

theorem replicate_not_inj {n m : Nat} (h : Level.negation.Opens r) (h' : Level.negation.Opens r')
    (heq : r ++ List.replicate n (.lexeme "not") = r' ++ List.replicate m (.lexeme "not")) : n = m := by
  induction n generalizing m with
  | zero =>
    cases m with
    | zero => rfl
    | succ m =>
      rw [List.replicate_zero, List.append_nil, List.replicate_succ', ← List.append_assoc] at heq
      subst heq
      exact absurd h not_opens_not
  | succ n ih =>
    cases m with
    | zero =>
      rw [List.replicate_zero, List.append_nil, List.replicate_succ', ← List.append_assoc] at heq
      subst heq
      exact absurd h' not_opens_not
    | succ m =>
      rw [List.replicate_succ', List.replicate_succ', ← List.append_assoc, ← List.append_assoc] at heq
      rw [ih (List.append_inj' heq rfl).1]

theorem Term.tokens_inj {a b : Term} (h : r ++ a.tokens = r' ++ b.tokens) : r = r' ∧ a = b := by
  cases a with
  | column o n =>
    cases b with
    | column o' n' =>
      obtain ⟨h, h'⟩ := List.append_inj' h rfl
      simp only [tokens, List.cons.injEq, Token.lexeme.injEq] at h'
      exact ⟨h, by rw [h'.1, h'.2.2.1]⟩
    | bound w => simpa [tokens] using congrArg List.getLast? h
  | bound v =>
    cases b with
    | column o' n' => simpa [tokens] using congrArg List.getLast? h
    | bound w =>
      obtain ⟨h, h'⟩ := List.append_inj' h rfl
      simp only [tokens, List.cons.injEq, Token.bound.injEq, and_true] at h'
      exact ⟨h, by rw [h']⟩

theorem Test.text_injective {t t' : Test} (h : t.text = t'.text) : t = t' := by
  cases t with
  | compares op =>
    cases t' with
    | compares op' => cases op <;> cases op' <;> first | rfl | exact absurd h (by decide)
    | regexp => cases op <;> exact absurd h (by decide)
  | regexp =>
    cases t' with
    | compares op' => cases op' <;> exact absurd h (by decide)
    | regexp => rfl

theorem Table.name_injective {t t' : Table} (h : t.name = t'.name) : t = t' := by
  cases t <;> cases t' <;> first | rfl | exact absurd h (by decide)

/-- A test is read from its end: its right side, what is tested, its left side. -/
theorem test_inj {t t' : Test} {a b a' b' : Term}
    (h : r ++ (a.tokens ++ .lexeme t.text :: b.tokens) = r' ++ (a'.tokens ++ .lexeme t'.text :: b'.tokens)) :
    t = t' ∧ a = a' ∧ b = b' := by
  have hsplit : (r ++ a.tokens ++ [.lexeme t.text]) ++ b.tokens =
      (r' ++ a'.tokens ++ [.lexeme t'.text]) ++ b'.tokens := by
    simpa using h
  obtain ⟨hleft, hb⟩ := Term.tokens_inj hsplit
  obtain ⟨hleft, ht⟩ := List.append_inj' hleft rfl
  obtain ⟨-, ha⟩ := Term.tokens_inj hleft
  exact ⟨Test.text_injective (Token.lexeme.inj (List.cons.inj ht).1), ha, hb⟩

/-- What the last token of an atom says about the kind of the atom. -/
inductive Ending
  | constant
  | term
  | bracket

def ending (ts : List Token) : Ending :=
  match ts.getLast? with
  | some (.lexeme l) => if l = ")" then .bracket else if isName l then .term else .constant
  | _ => .term

theorem ending_constant (b : Bool) : ending (r ++ [.lexeme (if b then "1" else "0")]) = .constant := by
  have hname : isName "0" = false ∧ isName "1" = false := by decide
  cases b <;> simp [ending, hname]

theorem ending_test {t : Test} {a b : Term} (hb : b.isNamed = true) :
    ending (r ++ (a.tokens ++ .lexeme t.text :: b.tokens)) = .term := by
  cases b with
  | column o n =>
    have hname : isName n = true := (Bool.and_eq_true_iff.1 hb).2
    have hbracket : n ≠ ")" := by
      rintro rfl
      exact absurd hname (by decide)
    simp [ending, Term.tokens, hname, hbracket]
  | bound v => simp [ending, Term.tokens]

theorem ending_closed (s : List Token) : ending (r ++ (s ++ ts ++ [.lexeme ")"])) = .bracket := by
  rw [ending, ← List.append_assoc, List.getLast?_concat]
  rfl

theorem append_closed_inj {s s' : List Token}
    (h : r ++ (s ++ ts ++ [.lexeme ")"]) = r' ++ (s' ++ ts' ++ [.lexeme ")"])) :
    (r ++ s) ++ ts = (r' ++ s') ++ ts' := by
  simp only [← List.append_assoc] at h
  exact List.append_cancel_right h

theorem opens_queryStart (table : Table) (name : String) :
    (Level.chain .or).Opens (r ++ queryStart table name) := by
  have h : (Level.chain .or).Opens ((r ++ (queryStart table name).dropLast) ++ [.lexeme "where"]) :=
    opens_append (by decide)
  simpa [queryStart] using h

theorem queryStart_inj {table table' : Table} {name name' : String}
    (h : r ++ queryStart table name = r' ++ queryStart table' name') : table = table' ∧ name = name' := by
  have hstart := (List.append_inj' h rfl).2
  simp only [queryStart, List.cons.injEq, Token.lexeme.injEq, true_and, and_true] at hstart
  exact ⟨Table.name_injective hstart.1, hstart.2⟩

theorem append_queryStart_ne {table : Table} {name : String} :
    r ++ queryStart table name ≠ r' ++ [.lexeme "("] := by
  intro h
  simpa [queryStart] using congrArg List.getLast? h

/-- From the end on, every step of a reading is forced. -/
theorem Derives.unique_suffix (h : Derives level ts e) (h' : Derives level ts' e') (hr : level.Opens r)
    (hr' : level.Opens r') (heq : r ++ ts = r' ++ ts') : ts = ts' ∧ e = e' := by
  induction h generalizing r r' ts' e' with
  | @join c l x a b _ _ ihl ihx =>
    have hx : (r ++ l ++ [.lexeme c.text]) ++ x = r' ++ ts' := by simpa using heq
    cases h' with
    | @join _ l' x' a' b' hl' hx' =>
      have hsplit : (r ++ l ++ [.lexeme c.text]) ++ x = (r' ++ l' ++ [.lexeme c.text]) ++ x' := by
        simpa using heq
      obtain ⟨rfl, rfl⟩ := ihx hx' (opens_connective c) (opens_connective c) hsplit
      obtain ⟨rfl, rfl⟩ := ihl hl' hr hr' (List.append_cancel_right (List.append_cancel_right hsplit))
      exact ⟨rfl, rfl⟩
    | part _ h' =>
      obtain ⟨rfl, -⟩ := ihx h' (opens_connective c) hr'.part hx
      rw [← List.append_cancel_right hx] at hr'
      exact absurd hr' (not_opens_connective c)
  | @part c ts e _ ih =>
    cases h' with
    | @join _ l' x' a' b' hl' hx' =>
      have hx : r ++ ts = (r' ++ l' ++ [.lexeme c.text]) ++ x' := by simpa using heq
      obtain ⟨rfl, -⟩ := ih hx' hr.part (opens_connective c) hx
      rw [List.append_cancel_right hx] at hr
      exact absurd hr (not_opens_connective c)
    | part _ h' => exact ih h' hr.part hr'.part heq
  | @not n ts e _ ih =>
    cases h' with
    | @not m ts' e' h' =>
      rw [← List.append_assoc, ← List.append_assoc] at heq
      obtain ⟨rfl, rfl⟩ := ih h' (opens_replicate n hr) (opens_replicate m hr') heq
      obtain rfl := replicate_not_inj hr hr' (List.append_cancel_right heq)
      exact ⟨rfl, rfl⟩
  -- atoms of different kinds end differently
  | constant b =>
    have hends := congrArg ending heq
    rw [ending_constant] at hends
    cases h' with
    | constant b' =>
      have hlexeme := (List.append_inj' heq rfl).2
      cases b <;> cases b' <;> first | exact ⟨rfl, rfl⟩ | simp at hlexeme
    | test _ _ hb' => cases hends.trans (ending_test hb')
    | query => cases hends.trans (ending_closed _)
    | group => cases hends.trans (ending_closed _)
  | @test t a b ha hb =>
    have hends := congrArg ending heq
    rw [ending_test hb] at hends
    cases h' with
    | constant b' => cases hends.trans (ending_constant b')
    | test =>
      obtain ⟨rfl, rfl, rfl⟩ := test_inj heq
      exact ⟨rfl, rfl⟩
    | query => cases hends.trans (ending_closed _)
    | group => cases hends.trans (ending_closed _)
  | @query table name hname ts e _ ih =>
    have hends := congrArg ending heq
    rw [ending_closed] at hends
    cases h' with
    | constant b' => cases hends.trans (ending_constant b')
    | test _ _ hb' => cases hends.trans (ending_test hb')
    | @query table' name' hname' ts' e' h' =>
      have hsplit := append_closed_inj heq
      obtain ⟨rfl, rfl⟩ := ih h' (opens_queryStart ..) (opens_queryStart ..) hsplit
      obtain ⟨rfl, rfl⟩ := queryStart_inj (List.append_cancel_right hsplit)
      exact ⟨rfl, rfl⟩
    | group h' =>
      have hsplit := append_closed_inj heq
      obtain ⟨rfl, -⟩ := ih h' (opens_queryStart ..) (opens_append (by decide)) hsplit
      exact absurd (List.append_cancel_right hsplit) append_queryStart_ne
  | @group ts e _ ih =>
    have hends := congrArg ending heq
    rw [ending_closed] at hends
    cases h' with
    | constant b' => cases hends.trans (ending_constant b')
    | test _ _ hb' => cases hends.trans (ending_test hb')
    | query table' hname' h' =>
      have hsplit := append_closed_inj heq
      obtain ⟨rfl, -⟩ := ih h' (opens_append (by decide)) (opens_queryStart ..) hsplit
      exact absurd (List.append_cancel_right hsplit).symm append_queryStart_ne
    | group h' =>
      obtain ⟨rfl, rfl⟩ := ih h' (opens_append (by decide)) (opens_append (by decide))
        (append_closed_inj heq)
      exact ⟨rfl, rfl⟩

/-- Tokens stand for one expression at most. -/
theorem Derives.unique (h : Derives level ts e) (h' : Derives level ts e') : e = e' :=
  (h.unique_suffix h' (.inl rfl) (.inl rfl) rfl).2

end Sql

end Chronicle
