import Chronicle.Json.Tree
import Chronicle.Proofs.Json.Token

/-!
# Trees read back

A tree is built again from its tokens, however deep it is, and so from its text.
-/
namespace Chronicle.Json
open Text Utf8 Token

namespace Builder

/-- Where a value may stand. -/
def Takes (stage : Stage) : Prop := stage = .value ∨ stage = .firstItem

/-- Where a key may stand after some members. -/
def TakesKey (stage : Stage) (done : List (Literal × Json)) : Prop :=
  stage = .firstKey done ∨ stage = .key done

theorem run_cons {b b' : Builder} {t : Token} (h : b.step t = some b') (ts : List Token) :
    b.run (t :: ts) = b'.run ts := by
  rw [run, h]
  rfl

mutual

theorem run_tokens (j : Json) {stage : Stage} (hstage : Takes stage) (stack : List Frame)
    (ts : List Token) : run ⟨stack, stage⟩ (j.tokens ++ ts) = run ⟨stack, .closed j⟩ ts := by
  cases j with
  | null => rcases hstage with rfl | rfl <;> exact run_cons rfl ts
  | bool b => rcases hstage with rfl | rfl <;> exact run_cons rfl ts
  | number n => rcases hstage with rfl | rfl <;> exact run_cons rfl ts
  | text l => rcases hstage with rfl | rfl <;> exact run_cons rfl ts
  | array items =>
    have hopen : step ⟨stack, stage⟩ .openArray = some ⟨.items [] :: stack, .firstItem⟩ := by
      rcases hstage with rfl | rfl <;> rfl
    rw [tokens, List.cons_append, List.cons_append, List.append_assoc, run_cons hopen]
    by_cases hitems : items = []
    · rw [hitems]
      exact run_cons rfl ts
    · exact run_itemTokens items hitems (.inr rfl) [] stack ts
  | object members =>
    have hopen : step ⟨stack, stage⟩ .openObject = some ⟨stack, .firstKey []⟩ := by
      rcases hstage with rfl | rfl <;> rfl
    rw [tokens, List.cons_append, List.cons_append, List.append_assoc, run_cons hopen]
    by_cases hmembers : members = []
    · rw [hmembers]
      exact run_cons rfl ts
    · exact run_memberTokens members hmembers (.inl rfl) stack ts

theorem run_itemTokens (items : List Json) (hitems : items ≠ []) {stage : Stage}
    (hstage : Takes stage) (done : List Json) (stack : List Frame) (ts : List Token) :
    run ⟨.items done :: stack, stage⟩ (itemTokens items ++ ([.closeArray] ++ ts)) =
      run ⟨stack, .closed (.array (done.reverse ++ items))⟩ ts := by
  match items with
  | [] => exact absurd rfl hitems
  | [j] =>
    rw [itemTokens, run_tokens j hstage]
    refine (run_cons rfl ts).trans ?_
    rw [List.reverse_cons]
  | j :: k :: items =>
    have hcomma : step ⟨.items done :: stack, .closed j⟩ .comma =
        some ⟨.items (j :: done) :: stack, .value⟩ := rfl
    rw [itemTokens, List.append_assoc, run_tokens j hstage, List.cons_append, run_cons hcomma,
      run_itemTokens (k :: items) (List.cons_ne_nil _ _) (.inl rfl), List.reverse_cons,
      List.append_assoc]
    · rfl
    · simp

theorem run_memberTokens (members : List (Literal × Json)) (hmembers : members ≠ []) {stage : Stage}
    {done : List (Literal × Json)} (hstage : TakesKey stage done) (stack : List Frame)
    (ts : List Token) :
    run ⟨stack, stage⟩ (memberTokens members ++ ([.closeObject] ++ ts)) =
      run ⟨stack, .closed (.object (done.reverse ++ members))⟩ ts := by
  have hkey (key : Literal) : step ⟨stack, stage⟩ (.text key) = some ⟨stack, .colon done key⟩ := by
    rcases hstage with rfl | rfl <;> rfl
  have hcolon (key : Literal) :
      step ⟨stack, .colon done key⟩ .colon = some ⟨.members done key :: stack, .value⟩ := rfl
  match members with
  | [] => exact absurd rfl hmembers
  | [(key, j)] =>
    rw [memberTokens, List.cons_append, List.cons_append, run_cons (hkey key), run_cons (hcolon key),
      run_tokens j (.inl rfl)]
    refine (run_cons rfl ts).trans ?_
    rw [List.reverse_cons]
  | (key, j) :: m :: members =>
    have hcomma : step ⟨.members done key :: stack, .closed j⟩ .comma =
        some ⟨stack, .key ((key, j) :: done)⟩ := rfl
    rw [memberTokens, List.append_assoc, List.cons_append, List.cons_append, run_cons (hkey key),
      run_cons (hcolon key), run_tokens j (.inl rfl), List.cons_append, run_cons hcomma,
      run_memberTokens (m :: members) (List.cons_ne_nil _ _) (.inr rfl), List.reverse_cons,
      List.append_assoc]
    · rfl
    · simp

end

end Builder

theorem ofTokens?_tokens (j : Json) : ofTokens? j.tokens = some j := by
  have hrun := Builder.run_tokens j (.inl rfl) [] []
  rw [List.append_nil] at hrun
  rw [ofTokens?, hrun]
  rfl

mutual

/-- A tree leaves no numeral open. -/
theorem spaced_tokens (j : Json) {ts : List Token} (hts : Spaced ts) (hclosing : Closing ts) :
    Spaced (j.tokens ++ ts) := by
  cases j with
  | null => exact hts
  | bool b => exact hts
  | number n => exact ⟨hclosing, hts⟩
  | text l => exact hts
  | array items =>
    rw [tokens, List.cons_append, List.cons_append, List.append_assoc]
    exact spaced_itemTokens items hts
  | object members =>
    rw [tokens, List.cons_append, List.cons_append, List.append_assoc]
    exact spaced_memberTokens members hts

theorem spaced_itemTokens (items : List Json) {ts : List Token} (hts : Spaced ts) :
    Spaced (itemTokens items ++ ([.closeArray] ++ ts)) := by
  match items with
  | [] => exact hts
  | [j] => exact spaced_tokens j hts (.inr (.inl rfl))
  | j :: k :: items =>
    rw [itemTokens, List.append_assoc]
    · exact spaced_tokens j (spaced_itemTokens (k :: items) hts) (.inl rfl)
    · simp

theorem spaced_memberTokens (members : List (Literal × Json)) {ts : List Token} (hts : Spaced ts) :
    Spaced (memberTokens members ++ ([.closeObject] ++ ts)) := by
  match members with
  | [] => exact hts
  | [(key, j)] => exact spaced_tokens j hts (.inr (.inr rfl))
  | (key, j) :: m :: members =>
    rw [memberTokens, List.append_assoc]
    · exact spaced_tokens j (spaced_memberTokens (m :: members) hts) (.inl rfl)
    · simp

end

/-! ## Well-formed trees -/

/-- A tree whose text can be read. -/
def WellFormed (j : Json) : Prop := ∀ t ∈ j.tokens, t.WellFormed

theorem wellFormed_text {l : Literal} (h : ∀ p ∈ l, p.WellFormed) : (text l).WellFormed := by
  intro t ht
  obtain rfl := List.mem_singleton.1 ht
  exact h

theorem wellFormed_number {n : Numeral} (h : n.WellFormed) : (number n).WellFormed := by
  intro t ht
  obtain rfl := List.mem_singleton.1 ht
  exact h

theorem wellFormed_itemTokens {items : List Json} (h : ∀ j ∈ items, j.WellFormed) :
    ∀ t ∈ itemTokens items, t.WellFormed := by
  induction items with
  | nil => exact fun _ ht => nomatch ht
  | cons j items ih =>
    have hj := h j List.mem_cons_self
    cases items with
    | nil => exact hj
    | cons k items =>
      intro t ht
      rw [itemTokens] at ht
      · rcases List.mem_append.1 ht with ht | ht
        · exact hj t ht
        rcases List.mem_cons.1 ht with rfl | ht
        · trivial
        · exact ih (fun x hx => h x (List.mem_cons_of_mem _ hx)) t ht
      · simp

theorem wellFormed_memberTokens {members : List (Literal × Json)}
    (h : ∀ m ∈ members, (∀ p ∈ m.1, p.WellFormed) ∧ m.2.WellFormed) :
    ∀ t ∈ memberTokens members, t.WellFormed := by
  induction members with
  | nil => exact fun _ ht => nomatch ht
  | cons m members ih =>
    obtain ⟨key, j⟩ := m
    obtain ⟨hkey, hj⟩ := h (key, j) List.mem_cons_self
    have hmember : ∀ t ∈ Token.text key :: Token.colon :: j.tokens, t.WellFormed := by
      intro t ht
      rcases List.mem_cons.1 ht with rfl | ht
      · exact hkey
      rcases List.mem_cons.1 ht with rfl | ht
      · trivial
      · exact hj t ht
    cases members with
    | nil => exact hmember
    | cons m members =>
      intro t ht
      rw [memberTokens] at ht
      · rcases List.mem_append.1 ht with ht | ht
        · exact hmember t ht
        rcases List.mem_cons.1 ht with rfl | ht
        · trivial
        · exact ih (fun x hx => h x (List.mem_cons_of_mem _ hx)) t ht
      · simp

theorem wellFormed_array {items : List Json} (h : ∀ j ∈ items, j.WellFormed) :
    (array items).WellFormed := by
  intro t ht
  rcases List.mem_cons.1 ht with rfl | ht
  · trivial
  rcases List.mem_append.1 ht with ht | ht
  · exact wellFormed_itemTokens h t ht
  · obtain rfl := List.mem_singleton.1 ht
    trivial

theorem wellFormed_object {members : List (Literal × Json)}
    (h : ∀ m ∈ members, (∀ p ∈ m.1, p.WellFormed) ∧ m.2.WellFormed) : (object members).WellFormed := by
  intro t ht
  rcases List.mem_cons.1 ht with rfl | ht
  · trivial
  rcases List.mem_append.1 ht with ht | ht
  · exact wellFormed_memberTokens h t ht
  · obtain rfl := List.mem_singleton.1 ht
    trivial

/-- A well-formed tree is read back from its text. -/
theorem parse?_encode {j : Json} (h : j.WellFormed) : parse? (encode j.chars) = some j := by
  have hspaced : Spaced j.tokens := by
    have hnil : Spaced (j.tokens ++ []) := spaced_tokens j trivial trivial
    rwa [List.append_nil] at hnil
  rw [parse?, chars, lex?_encode h hspaced, Option.bind_some, ofTokens?_tokens]

end Chronicle.Json
