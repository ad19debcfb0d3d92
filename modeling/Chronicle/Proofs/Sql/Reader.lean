import Chronicle.Proofs.Sql.Grammar
import Chronicle.Sql.Reader

/-!
# The reader finds what tokens stand for

Where the grammar says that tokens stand for an expression, the reader comes to this expression. What it
keeps of the left sides of connectives depends on the level at which the tokens are read.
-/
namespace Chronicle.Sql

/-- Tokens lead from one reading to another. -/
def Reading.Leads (s : Reading) (ts : List Token) (s' : Reading) : Prop := ts.foldlM Reading.step s = some s'

variable {s s' s'' : Reading} {t : Token} {ts ts' : List Token} {outer : List (Frame × Bracket)} {f : Frame}
  {l r : Term} {e : Expr} {text name : String}

namespace Reading.Leads

theorem trans (h : s.Leads ts s') (h' : s'.Leads ts' s'') : s.Leads (ts ++ ts') s'' := by
  rw [Leads, List.foldlM_append, h]
  exact h'

theorem cons (s' : Reading) (h : s.step t = some s') (h' : s'.Leads ts s'') : s.Leads (t :: ts) s'' := by
  rw [Leads, List.foldlM_cons, h]
  exact h'

theorem single (h : s.step t = some s') : s.Leads [t] s' := cons s' h rfl

end Reading.Leads

theorem ne_of_isName (text : String) (hname : isName name = true) (htext : isName text = false) :
    name ≠ text := by
  rintro rfl
  rw [hname] at htext
  cases htext

theorem Test.ofText?_text (t : Test) : ofText? t.text = some t := by
  cases t with
  | compares op => cases op <;> decide +kernel
  | regexp => decide +kernel

theorem Table.ofName?_name (t : Table) : Table.ofName? t.name = some t := by cases t <;> decide +kernel

theorem Reading.step_owner (h : isName name = true) :
    (Reading.mk outer f .operand).step (.lexeme name) = some ⟨outer, f, .owner none name⟩ := by
  simp only [step, stepOperand, if_neg (ne_of_isName "not" h (by decide)),
    if_neg (ne_of_isName "(" h (by decide)), if_neg (ne_of_isName "exists" h (by decide)),
    if_neg (ne_of_isName "1" h (by decide)), if_neg (ne_of_isName "0" h (by decide)), h, if_true]

theorem Term.leads_left (hl : l.isNamed = true) :
    Reading.Leads ⟨outer, f, .operand⟩ l.tokens ⟨outer, f, .left l⟩ := by
  cases l with
  | column owner name =>
    obtain ⟨howner, hname⟩ := Bool.and_eq_true_iff.1 hl
    refine .cons _ (Reading.step_owner howner) (.cons ⟨outer, f, .point none owner⟩ rfl (.single ?_))
    simp only [Reading.step, hname, if_true, Reading.side]
  | bound v => exact .single rfl

theorem Term.leads_right (t : Test) (hr : r.isNamed = true) :
    Reading.Leads ⟨outer, f, .tested l t⟩ r.tokens ⟨outer, f, .complete (.test t l r)⟩ := by
  cases r with
  | column owner name =>
    obtain ⟨howner, hname⟩ := Bool.and_eq_true_iff.1 hr
    refine .cons ⟨outer, f, .owner (some (l, t)) owner⟩ ?_
      (.cons ⟨outer, f, .point (some (l, t)) owner⟩ rfl (.single ?_))
    · simp only [Reading.step, howner, if_true]
    · simp only [Reading.step, hname, if_true, Reading.side]
  | bound v => exact .single rfl

theorem leads_test (t : Test) (hl : l.isNamed = true) (hr : r.isNamed = true) :
    Reading.Leads ⟨outer, f, .operand⟩ (l.tokens ++ .lexeme t.text :: r.tokens)
      ⟨outer, f, .complete (.test t l r)⟩ := by
  refine (Term.leads_left hl).trans (.cons ⟨outer, f, .tested l t⟩ ?_ (Term.leads_right t hr))
  simp only [Reading.step, Test.ofText?_text, Option.map_some]

theorem leads_queryStart (table : Table) (hname : isName name = true) :
    Reading.Leads ⟨outer, f, .operand⟩ (queryStart table name)
      ⟨(f, .query table name) :: outer, .empty, .operand⟩ := by
  have hwords : Reading.Leads ⟨outer, f, .operand⟩
      [.lexeme "exists", .lexeme "(", .lexeme "select", .lexeme "1", .lexeme "from"] ⟨outer, f, .table⟩ := rfl
  refine hwords.trans (.cons ⟨outer, f, .alias table⟩ ?_
    (.cons ⟨outer, f, .condition table name⟩ ?_ (.single rfl)))
  · simp only [Reading.step, Table.ofName?_name, Option.map_some]
  · simp only [Reading.step, hname, if_true]

theorem leads_not (outer : List (Frame × Bracket)) (n m : Nat) (d c : Option Expr) :
    Reading.Leads ⟨outer, ⟨d, c, m⟩, .operand⟩ (List.replicate n (.lexeme "not"))
      ⟨outer, ⟨d, c, m + n⟩, .operand⟩ := by
  induction n generalizing m with
  | zero => rfl
  | succ n ih =>
    rw [Nat.add_comm n 1, ← Nat.add_assoc, Nat.add_comm 1 n]
    exact .cons ⟨outer, ⟨d, c, m + 1⟩, .operand⟩ rfl (ih (m + 1))

/-- The reader comes to an expression at a level, whatever is around it. -/
def Level.Leads : Level → List Token → Expr → Prop
  | .atom, ts, e => ∀ outer f, Reading.Leads ⟨outer, f, .operand⟩ ts ⟨outer, f, .complete e⟩
  | .negation, ts, e => ∀ outer d c, ∃ n x, e = n.repeat .not x ∧
      Reading.Leads ⟨outer, ⟨d, c, 0⟩, .operand⟩ ts ⟨outer, ⟨d, c, n⟩, .complete x⟩
  | .chain .and, ts, e => ∀ outer d, ∃ c n x, Frame.conjoin ⟨d, c, n⟩ x = e ∧
      Reading.Leads ⟨outer, ⟨d, none, 0⟩, .operand⟩ ts ⟨outer, ⟨d, c, n⟩, .complete x⟩
  | .chain .or, ts, e => ∀ outer, ∃ f x, Frame.disjoin f x = e ∧
      Reading.Leads ⟨outer, .empty, .operand⟩ ts ⟨outer, f, .complete x⟩

/-- What stands in a bracket is an atom of what stands around it. -/
theorem leads_closed {start : List Token} (b : Bracket)
    (hstart : ∀ outer f, Reading.Leads ⟨outer, f, .operand⟩ start ⟨(f, b) :: outer, .empty, .operand⟩)
    (h : (Level.chain .or).Leads ts e) : Level.atom.Leads (start ++ ts ++ [.lexeme ")"]) (b.close e) := by
  intro outer f
  obtain ⟨g, x, rfl, hx⟩ := h ((f, b) :: outer)
  exact ((hstart outer f).trans hx).trans (.single rfl)

theorem Derives.leads {level : Level} (h : Derives level ts e) : level.Leads ts e := by
  induction h with
  | @join c l r a b _ _ ihl ihr =>
    cases c with
    | and =>
      intro outer d
      obtain ⟨c, n, x, rfl, hl⟩ := ihl outer d
      obtain ⟨m, y, rfl, hr⟩ := ihr outer d (some (Frame.conjoin ⟨d, c, n⟩ x))
      exact ⟨_, m, y, rfl, hl.trans (.cons _ rfl hr)⟩
    | or =>
      intro outer
      obtain ⟨f, x, rfl, hl⟩ := ihl outer
      obtain ⟨c, n, y, rfl, hr⟩ := ihr outer (some (f.disjoin x))
      exact ⟨_, y, rfl, hl.trans (.cons _ rfl hr)⟩
  | part c _ ih =>
    cases c with
    | and =>
      intro outer d
      obtain ⟨n, x, rfl, h⟩ := ih outer d none
      exact ⟨none, n, x, rfl, h⟩
    | or =>
      intro outer
      obtain ⟨c, n, x, rfl, h⟩ := ih outer none
      exact ⟨_, x, rfl, h⟩
  | @not n ts e _ ih =>
    intro outer d c
    have hnot := leads_not outer n 0 d c
    rw [Nat.zero_add] at hnot
    exact ⟨n, e, rfl, hnot.trans (ih outer ⟨d, c, n⟩)⟩
  | constant b =>
    intro outer f
    cases b <;> exact .single rfl
  | test t hl hr => exact fun outer f => leads_test t hl hr
  | query table hname _ ih => exact leads_closed (.query table _) (fun _ _ => leads_queryStart table hname) ih
  | group _ ih => exact leads_closed .group (fun _ _ => .single rfl) ih

theorem readExpr?_eq_some (h : Derives (.chain .or) ts e) : readExpr? ts = some e := by
  obtain ⟨f, x, rfl, hleads⟩ := h.leads []
  have hread : ts.foldlM Reading.step .start = some ⟨[], f, .complete x⟩ := hleads
  rw [readExpr?, hread]
  rfl

theorem readCondition?_append (owner name : String) (h : readExpr? ts = some e) :
    readCondition? (ts ++ [.lexeme "order", .lexeme "by", .lexeme owner, .lexeme ".", .lexeme name]) =
      some (e, ⟨owner, name⟩) := by
  have hlength (order : List Token) (horder : order.length = orderLength) :
      (ts ++ order).length - orderLength = ts.length := by
    rw [List.length_append, horder, Nat.add_sub_cancel]
  rw [readCondition?, hlength _ rfl, List.drop_left, List.take_left, h]
  rfl

end Chronicle.Sql
