import Chronicle.Json.Token
import Chronicle.Proofs.Json.Numeral
import Chronicle.Proofs.Text.Utf8

/-!
# Tokens read back

A text of tokens is read as these tokens, as long as numerals are followed by something that ends them.
-/
namespace Chronicle.Json
open Text Utf8

/-! ## Text literals -/

/-- A piece that can be read again. -/
def Piece.WellFormed : Piece → Prop
  | .plain c => c ≠ '"' ∧ c ≠ '\\' ∧ 0x20 ≤ c.toNat
  | .stray => False
  | .short c => (shortMeaning? c).isSome = true
  | .unit n => n < 0x10000

namespace Literal

theorem wellFormed_ofChar (c : Char) : (ofChar c).WellFormed := by
  unfold ofChar
  cases h : shortName? c with
  | some d =>
    change (shortMeaning? d).isSome = true
    rw [shortMeaning?_shortName h]
    rfl
  | none =>
    dsimp only
    split
    case isTrue hlow =>
      change c.toNat < 0x10000
      omega
    case isFalse hlow =>
      refine ⟨?_, ?_, by omega⟩
      · rintro rfl
        cases h
      · rintro rfl
        cases h

theorem toChars?_ofChar_cons (c : Char) (l : Literal) :
    toChars? (ofChar c :: l) = (toChars? l).map (c :: ·) := by
  unfold ofChar
  cases h : shortName? c with
  | some d =>
    dsimp only
    rw [toChars?, shortMeaning?_shortName h]
    rfl
  | none =>
    dsimp only
    split
    case isFalse => rfl
    case isTrue hlow =>
      have hhigh : isHighSurrogate c.toNat = false := by
        simp only [isHighSurrogate, Bool.and_eq_false_iff, decide_eq_false_iff_not]
        omega
      have hlow : isLowSurrogate c.toNat = false := by
        simp only [isLowSurrogate, Bool.and_eq_false_iff, decide_eq_false_iff_not]
        omega
      -- The equation for a unit depends on whether another unit follows.
      cases l with
      | nil => simp only [toChars?, hhigh, hlow, Char.ofNat_toNat, Bool.or_self, Bool.false_eq_true, if_false]
      | cons p l =>
        cases p <;> simp only [toChars?, hhigh, hlow, Char.ofNat_toNat, Bool.or_self,
          Bool.false_eq_true, if_false]

theorem toText?_ofText (s : String) : (ofText s).toText? = some s := by
  have hchars (cs : List Char) : toChars? (cs.map ofChar) = some cs := by
    induction cs with
    | nil => rfl
    | cons c cs ih => rw [List.map_cons, toChars?_ofChar_cons, ih, Option.map_some]
  rw [toText?, ofText, hchars, Option.map_some, String.ofList_toList]

end Literal

namespace Token

/-! ## The lexer -/

variable {st st' : State} {s : Symbol}

theorem lexFrom?_of_step {ts : List Token} (h : step st s = some (ts, st')) (rest : List Symbol) :
    lexFrom? st (s :: rest) = (lexFrom? st' rest).map (ts ++ ·) := by
  rw [lexFrom?, h]
  rfl

theorem lexFrom?_of_silent (h : step st s = some ([], st')) (rest : List Symbol) :
    lexFrom? st (s :: rest) = lexFrom? st' rest := by
  rw [lexFrom?_of_step h]
  exact Option.map_id'

theorem hexValue?_digitChar {d : Nat} (h : d < 16) : hexValue? (Nat.digitChar d) = some d := by
  have hall : ∀ d < 16, hexValue? (Nat.digitChar d) = some d := by decide
  exact hall d h

theorem step_unit {ps : Literal} {d : Nat} (hd : d < 16) (missing value : Nat) :
    step (.unit ps missing value) (.char (Nat.digitChar d)) =
      if missing ≤ 1 then some ([], .literal (.unit (16 * value + d) :: ps))
      else some ([], .unit ps (missing - 1) (16 * value + d)) := by
  rw [step, hexValue?_digitChar hd]
  rfl

theorem lexFrom?_hexUnit {n : Nat} (h : n < 0x10000) (ps : Literal) (rest : List Symbol) :
    lexFrom? (.unit ps 4 0) ((hexUnit n).map .char ++ rest) =
      lexFrom? (.literal (.unit n :: ps)) rest := by
  have hvalue : 16 * (16 * (16 * (16 * 0 + n / 0x1000 % 16) + n / 0x100 % 16) + n / 0x10 % 16) +
      n % 16 = n := by omega
  have hdigit (m : Nat) : m % 16 < 16 := Nat.mod_lt _ (by decide)
  simp only [hexUnit, List.map_cons, List.map_nil, List.cons_append, List.nil_append]
  rw [lexFrom?_of_silent ((step_unit (hdigit _) 4 _).trans (if_neg (by decide))),
    lexFrom?_of_silent ((step_unit (hdigit _) 3 _).trans (if_neg (by decide))),
    lexFrom?_of_silent ((step_unit (hdigit _) 2 _).trans (if_neg (by decide))),
    lexFrom?_of_silent ((step_unit (hdigit _) 1 _).trans (if_pos (by decide))), hvalue]

theorem lexFrom?_piece {p : Piece} (hp : p.WellFormed) (ps : Literal) (rest : List Symbol) :
    lexFrom? (.literal ps) (p.chars.map .char ++ rest) = lexFrom? (.literal (p :: ps)) rest := by
  cases p with
  | plain c =>
    obtain ⟨hquote, hbackslash, hlow⟩ := hp
    refine lexFrom?_of_silent ?_ rest
    rw [step, if_neg hquote, if_neg hbackslash, if_neg (by omega)]
  | stray => exact hp.elim
  | short c =>
    obtain ⟨d, hd⟩ := Option.isSome_iff_exists.1 hp
    have hnot : c ≠ 'u' := by
      rintro rfl
      cases hd
    have hescape : step (.literal ps) (.char '\\') = some ([], .escape ps) := rfl
    refine (lexFrom?_of_silent hescape _).trans (lexFrom?_of_silent ?_ rest)
    rw [step, if_neg hnot, hd]
    rfl
  | unit n =>
    have hescape : step (.literal ps) (.char '\\') = some ([], .escape ps) := rfl
    have hunit : step (.escape ps) (.char 'u') = some ([], .unit ps 4 0) := rfl
    refine (lexFrom?_of_silent hescape _).trans ((lexFrom?_of_silent hunit _).trans ?_)
    exact lexFrom?_hexUnit hp ps rest

theorem lexFrom?_pieces {l : Literal} (hl : ∀ p ∈ l, p.WellFormed) (ps : Literal)
    (rest : List Symbol) : lexFrom? (.literal ps) ((l.flatMap Piece.chars).map .char ++ rest) =
      lexFrom? (.literal (l.reverse ++ ps)) rest := by
  induction l generalizing ps with
  | nil => rfl
  | cons p l ih =>
    have hrest := ih (fun q hq => hl q (List.mem_cons_of_mem _ hq)) (p :: ps)
    rw [List.flatMap_cons, List.map_append, List.append_assoc,
      lexFrom?_piece (hl p List.mem_cons_self), hrest, List.reverse_cons, List.append_assoc]
    rfl

theorem lexFrom?_literal {l : Literal} (hl : ∀ p ∈ l, p.WellFormed) (rest : List Symbol) :
    lexFrom? .between (l.chars.map .char ++ rest) = (lexFrom? .between rest).map (text l :: ·) := by
  have hopen : step .between (.char '"') = some ([], .literal []) := rfl
  have hclose (ps : Literal) : step (.literal ps) (.char '"') = some ([text ps.reverse], .between) := rfl
  simp only [Literal.chars, List.map_cons, List.map_append, List.map_nil, List.cons_append,
    List.append_assoc, List.nil_append]
  rw [lexFrom?_of_silent hopen, lexFrom?_pieces hl, lexFrom?_of_step (hclose _), List.append_nil,
    List.reverse_reverse]
  rfl

/-! ## Numerals -/

namespace OpenNumeral

/-- What ends a numeral in a tree. -/
def Ends (c : Char) : Prop := c = ',' ∨ c = ']' ∨ c = '\x7d'

theorem extend?_of_ends {c : Char} (h : Ends c) (o : OpenNumeral) : o.extend? c = none := by
  obtain ⟨part, negative, whole, fraction, exponentNegative, exponent⟩ := o
  rcases h with rfl | rfl | rfl <;> cases part <;> rfl

/-- Goes on with several characters. -/
def extendAll? (o : OpenNumeral) (cs : List Char) : Option OpenNumeral := cs.foldlM extend? o

theorem extendAll?_cons {o o' : OpenNumeral} {c : Char} (h : o.extend? c = some o') (cs : List Char) :
    o.extendAll? (c :: cs) = o'.extendAll? cs := by
  rw [extendAll?, List.foldlM_cons, h]
  rfl

/-- A part that takes digits takes all that come. -/
theorem extendAll?_digits {f : List Char → OpenNumeral}
    (hf : ∀ done d, d.isDigit = true → (f done).extend? d = some (f (d :: done))) {ds : List Char}
    (hds : ∀ c ∈ ds, c.isDigit = true) (done : List Char) :
    (f done).extendAll? ds = some (f (ds.reverse ++ done)) := by
  induction ds generalizing done with
  | nil => rfl
  | cons d ds ih =>
    have hstep := hf done d (hds d List.mem_cons_self)
    have hrest := ih (fun c hc => hds c (List.mem_cons_of_mem _ hc)) (d :: done)
    rw [extendAll?_cons hstep, hrest, List.reverse_cons, List.append_assoc]
    rfl

/-- A numeral whose digits before the point were read. -/
def afterWhole (part : NumeralPart) (n : Numeral) : OpenNumeral :=
  ⟨part, n.negative, n.whole.reverse, [], false, []⟩

theorem extendAll?_whole {d : Char} {ds : List Char} (hds : ∀ c ∈ ds, c.isDigit = true)
    (negative : Bool) : extendAll? ⟨.whole, negative, [d], [], false, []⟩ ds =
      some ⟨.whole, negative, (d :: ds).reverse, [], false, []⟩ := by
  have hread := extendAll?_digits (f := fun done => ⟨.whole, negative, done, [], false, []⟩)
    (fun done d hd => by simp only [extend?, hd, if_true]) hds [d]
  rw [hread, List.reverse_cons]

theorem extendAll?_fraction {n : Numeral} (hn : ∀ c ∈ n.fraction, c.isDigit = true) {part : NumeralPart}
    (hpart : part = .zero ∨ part = .whole) :
    ∃ part', (part' = .zero ∨ part' = .whole ∨ part' = .fraction) ∧
      (afterWhole part n).extendAll? (if n.fraction.isEmpty then [] else '.' :: n.fraction) =
        some { afterWhole part' n with fraction := n.fraction.reverse } := by
  cases hfraction : n.fraction with
  | nil => exact ⟨part, hpart.imp_right .inl, rfl⟩
  | cons d ds =>
    rw [hfraction] at hn
    have hd := hn d List.mem_cons_self
    have hpoint : (afterWhole part n).extend? '.' = some (afterWhole .point n) := by
      rcases hpart with rfl | rfl <;> rfl
    have hfirst : (afterWhole .point n).extend? d =
        some { afterWhole .fraction n with fraction := [d] } := by
      simp only [afterWhole, extend?, hd, if_true]
    have hread := extendAll?_digits (f := fun done => { afterWhole .fraction n with fraction := done })
      (fun done d hd => by simp only [afterWhole, extend?, hd, if_true])
      (fun c hc => hn c (List.mem_cons_of_mem _ hc)) [d]
    refine ⟨.fraction, .inr (.inr rfl), ?_⟩
    rw [List.isEmpty_cons, if_neg (by decide), extendAll?_cons hpoint, extendAll?_cons hfirst, hread,
      List.reverse_cons]

theorem extendAll?_exponent {o : OpenNumeral} (hpart : o.part = .zero ∨ o.part = .whole ∨ o.part = .fraction)
    (hnone : o.exponentNegative = false) (e : Int) :
    o.extendAll? ('e' :: (if e < 0 then '-' else '+') :: digits e.natAbs) =
      some { o with
        part := .exponent, exponentNegative := decide (e < 0), exponent := (digits e.natAbs).reverse } := by
  have hmark : o.extend? 'e' = some { o with part := .exponentMark } := by
    rcases hpart with h | h | h <;> simp [extend?, h]
  have hsign : extend? { o with part := .exponentMark } (if e < 0 then '-' else '+') =
      some { o with part := .exponentSign, exponentNegative := decide (e < 0) } := by
    by_cases he : e < 0
    · simp [extend?, he]
    · simp [extend?, he, hnone]
  have hdigits : ∀ c ∈ digits e.natAbs, c.isDigit = true := fun c hc => isDigit_of_mem_digits hc
  rw [extendAll?_cons hmark, extendAll?_cons hsign]
  cases h : digits e.natAbs with
  | nil =>
    have hpos := length_digits_pos e.natAbs
    rw [h] at hpos
    cases hpos
  | cons d ds =>
    rw [h] at hdigits
    have hd := hdigits d List.mem_cons_self
    have hfirst : extend? { o with part := .exponentSign, exponentNegative := decide (e < 0) } d =
        some { o with part := .exponent, exponentNegative := decide (e < 0), exponent := [d] } := by
      simp only [extend?, hd, if_true]
    have hread := extendAll?_digits
      (f := fun done =>
        { o with part := .exponent, exponentNegative := decide (e < 0), exponent := done })
      (fun done d hd => by simp only [extend?, hd, if_true])
      (fun c hc => hdigits c (List.mem_cons_of_mem _ hc)) [d]
    rw [extendAll?_cons hfirst, hread, List.reverse_cons]

end OpenNumeral

open OpenNumeral

theorem lexFrom?_extendAll? {o o' : OpenNumeral} {cs : List Char} (h : o.extendAll? cs = some o')
    (rest : List Symbol) :
    lexFrom? (.numeral o) (cs.map .char ++ rest) = lexFrom? (.numeral o') rest := by
  induction cs generalizing o with
  | nil =>
    cases h
    rfl
  | cons c cs ih =>
    cases hc : o.extend? c with
    | none =>
      rw [extendAll?, List.foldlM_cons, hc] at h
      cases h
    | some o₁ =>
      rw [extendAll?_cons hc] at h
      have hstep : step (.numeral o) (.char c) = some ([], .numeral o₁) := by
        rw [step, hc]
      exact (lexFrom?_of_silent hstep _).trans (ih h)

theorem start_of_isDigit {c : Char} (h : c.isDigit = true) (hzero : c ≠ '0') :
    start c = some ([], .numeral ⟨.whole, false, [c], [], false, []⟩) := by
  have hgap : isGap c = false := by
    rw [isGap, Bool.or_eq_false_iff, Bool.or_eq_false_iff, Bool.or_eq_false_iff]
    refine ⟨⟨⟨?_, ?_⟩, ?_⟩, ?_⟩ <;> rw [beq_eq_false_iff_ne] <;> rintro rfl <;> cases h
  have hminus : c ≠ '-' := by
    rintro rfl
    cases h
  have hbegin : OpenNumeral.begin c = some ⟨.whole, false, [c], [], false, []⟩ := by
    rw [OpenNumeral.begin, if_neg hminus, if_neg hzero, if_pos h]
  unfold start
  rw [hgap, if_neg (by decide), hbegin]
  split <;> first | cases h | rfl

theorem lexFrom?_whole {n : Numeral} (hn : n.WellFormed) :
    ∃ part, (part = .zero ∨ part = .whole) ∧ ∀ rest,
      lexFrom? .between (((if n.negative then ['-'] else []) ++ n.whole).map .char ++ rest) =
        lexFrom? (.numeral (afterWhole part n)) rest := by
  have hminus : step .between (.char '-') = some ([], .numeral ⟨.minus, true, [], [], false, []⟩) := rfl
  unfold afterWhole
  rcases hn.whole with hwhole | ⟨d, ds, hwhole, hd, hdigits⟩
  · refine ⟨.zero, .inl rfl, fun rest => ?_⟩
    rw [hwhole]
    cases n.negative with
    | false => exact lexFrom?_of_silent rfl rest
    | true =>
      refine (lexFrom?_of_silent hminus _).trans (lexFrom?_of_silent ?_ rest)
      rfl
  · have hfirst := hdigits d List.mem_cons_self
    have hds : ∀ c ∈ ds, c.isDigit = true := fun c hc => hdigits c (List.mem_cons_of_mem _ hc)
    refine ⟨.whole, .inr rfl, fun rest => ?_⟩
    rw [hwhole]
    cases n.negative with
    | false =>
      have hstart : step .between (.char d) = some ([], .numeral ⟨.whole, false, [d], [], false, []⟩) :=
        start_of_isDigit hfirst hd
      refine (lexFrom?_of_silent hstart _).trans ?_
      exact lexFrom?_extendAll? (extendAll?_whole hds false) rest
    | true =>
      have hstep : extend? ⟨.minus, true, [], [], false, []⟩ d =
          some ⟨.whole, true, [d], [], false, []⟩ := by
        simp only [extend?, hd, hfirst, if_true, if_false]
      have hread := (extendAll?_cons hstep ds).trans (extendAll?_whole hds true)
      exact (lexFrom?_of_silent hminus _).trans (lexFrom?_extendAll? hread rest)

/-- Either nothing follows a numeral, or what ends it. -/
def Ended : List Symbol → Prop
  | [] => True
  | .char c :: _ => Ends c
  | .stray :: _ => False

theorem lexFrom?_finished {o : OpenNumeral} {n : Numeral} (h : o.finish? = some n) {rest : List Symbol}
    (hrest : Ended rest) :
    lexFrom? (.numeral o) rest = (lexFrom? .between rest).map (number n :: ·) := by
  cases rest with
  | nil => 
    simp only [lexFrom?, finish?, h, Option.map_some]
  | cons s rest =>
    cases s with
    | stray => exact hrest.elim
    | char c =>
      have hstep : step (.numeral o) (.char c) =
          (start c).map fun e => (number n :: e.1, e.2) := by
        rw [step, extend?_of_ends hrest, h]
        cases start c <;> rfl
      have hbetween : step .between (.char c) = start c := rfl
      rw [lexFrom?, lexFrom?, hstep, hbetween]
      cases start c with
      | none => rfl
      | some e =>
        change (lexFrom? e.2 rest).map ((number n :: e.1) ++ ·) =
          ((lexFrom? e.2 rest).map (e.1 ++ ·)).map (number n :: ·)
        rw [Option.map_map]
        rfl

/-- A numeral is read as long as it is ended. -/
theorem lexFrom?_numeral {n : Numeral} (hn : n.WellFormed) {rest : List Symbol} (hrest : Ended rest) :
    lexFrom? .between (n.chars.map .char ++ rest) = (lexFrom? .between rest).map (number n :: ·) := by
  obtain ⟨part, hpart, hwhole⟩ := lexFrom?_whole hn
  obtain ⟨part', hpart', hfraction⟩ := extendAll?_fraction hn.fraction hpart
  unfold Numeral.chars
  rw [List.map_append, List.map_append, List.append_assoc, List.append_assoc, hwhole,
    lexFrom?_extendAll? hfraction]
  obtain ⟨negative, whole, fraction, exponent⟩ := n
  cases exponent with
  | none =>
    refine lexFrom?_finished ?_ hrest
    rcases hpart' with rfl | rfl | rfl <;>
      simp only [afterWhole, OpenNumeral.finish?, List.reverse_reverse]
  | some e =>
    refine (lexFrom?_extendAll? (extendAll?_exponent hpart' rfl e) rest).trans ?_
    refine lexFrom?_finished ?_ hrest
    have hsize : (if decide (e < 0) = true then -(e.natAbs : Int) else e.natAbs) = e := by
      by_cases hneg : e < 0
      · rw [if_pos (decide_eq_true hneg)]
        omega
      · rw [if_neg (by simpa using hneg)]
        omega
    simp only [afterWhole, OpenNumeral.finish?, List.reverse_reverse, natOfDigits_digits, hsize]

/-! ## Sequences of tokens -/

def WellFormed : Token → Prop
  | number n => n.WellFormed
  | text l => ∀ p ∈ l, p.WellFormed
  | _ => True

/-- Nothing follows, or a token that ends a numeral. -/
def Closing : List Token → Prop
  | [] => True
  | t :: _ => t = comma ∨ t = closeArray ∨ t = closeObject

/-- Every numeral is ended. -/
def Spaced : List Token → Prop
  | [] => True
  | number _ :: rest => Closing rest ∧ Spaced rest
  | _ :: rest => Spaced rest

theorem Spaced.tail {t : Token} {ts : List Token} (h : Spaced (t :: ts)) : Spaced ts := by
  cases t with
  | number n => exact h.2
  | _ => exact h

theorem ended_of_closing {ts : List Token} (h : Closing ts) : Ended ((ts.flatMap chars).map .char) := by
  cases ts with
  | nil => trivial
  | cons t ts =>
    rcases h with rfl | rfl | rfl
    · exact .inl rfl
    · exact .inr (.inl rfl)
    · exact .inr (.inr rfl)

theorem lexFrom?_emit {t : Token} (h : step st s = some ([t], st')) (rest : List Symbol) :
    lexFrom? st (s :: rest) = (lexFrom? st' rest).map (t :: ·) :=
  lexFrom?_of_step h rest

theorem lexFrom?_word {t : Token} {c : Char} {cs : List Char} (rest : List Symbol) :
    lexFrom? (.word (c :: cs) t) ((c :: cs).map .char ++ rest) = (lexFrom? .between rest).map (t :: ·) := by
  induction cs generalizing c with
  | nil =>
    have hstep : step (.word [c] t) (.char c) = some ([t], .between) := by
      rw [step, if_pos rfl]
      rfl
    exact lexFrom?_emit hstep rest
  | cons d ds ih =>
    have hstep : step (.word (c :: d :: ds) t) (.char c) = some ([], .word (d :: ds) t) := by
      rw [step, if_pos rfl]
      rfl
    exact (lexFrom?_of_silent hstep _).trans ih

theorem lexFrom?_token {t : Token} (ht : t.WellFormed) {rest : List Symbol}
    (hrest : ∀ n, t = number n → Ended rest) :
    lexFrom? .between (t.chars.map .char ++ rest) = (lexFrom? .between rest).map (t :: ·) := by
  have hmark {c : Char} {u : Token} (h : step .between (.char c) = some ([u], .between)) :
      lexFrom? .between (.char c :: rest) = (lexFrom? .between rest).map (u :: ·) :=
    lexFrom?_emit h rest
  have hword {c d : Char} {ds : List Char} {u : Token}
      (h : step .between (.char c) = some ([], .word (d :: ds) u)) :
      lexFrom? .between ((c :: d :: ds).map .char ++ rest) = (lexFrom? .between rest).map (u :: ·) :=
    (lexFrom?_of_silent h _).trans (lexFrom?_word rest)
  cases t with
  | openArray => exact hmark rfl
  | closeArray => exact hmark rfl
  | openObject => exact hmark rfl
  | closeObject => exact hmark rfl
  | comma => exact hmark rfl
  | colon => exact hmark rfl
  | null => exact hword rfl
  | bool b =>
    cases b with
    | true => exact hword rfl
    | false => exact hword rfl
  | number n => exact lexFrom?_numeral ht (hrest n rfl)
  | text l => exact lexFrom?_literal ht rest

/-- Well-formed tokens are read back from their text. -/
theorem lex?_encode {ts : List Token} (hts : ∀ t ∈ ts, t.WellFormed) (hspaced : Spaced ts) :
    lex? (encode (ts.flatMap chars)) = some ts := by
  rw [lex?, symbols_encode]
  induction ts with
  | nil => rfl
  | cons t ts ih =>
    have hrest := ih (fun u hu => hts u (List.mem_cons_of_mem _ hu)) hspaced.tail
    have hended : ∀ n, t = number n → Ended ((ts.flatMap chars).map .char) := by
      rintro n rfl
      exact ended_of_closing hspaced.1
    rw [List.flatMap_cons, List.map_append, lexFrom?_token (hts t List.mem_cons_self) hended, hrest]
    rfl

end Token

end Chronicle.Json
