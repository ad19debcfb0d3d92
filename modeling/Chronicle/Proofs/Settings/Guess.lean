import Chronicle.Proofs.Binary64.Text
import Chronicle.Settings.Setting

/-!
# Kinds that are guessed

A text that stands for a value of another kind is replaced by this value, and when a text is needed the value
is printed. So a text comes back as it was if it is not taken for a value at all, or if it is the one that the
value is printed as.
-/
namespace Chronicle

namespace Text

/-- Runs of equally many digits differ by their numbers. -/
theorem eq_of_natOfDigits_eq {a b : List Char} (ha : ∀ c ∈ a, c.isDigit = true) (hb : ∀ c ∈ b, c.isDigit = true)
    (hlength : a.length = b.length) (h : natOfDigits a = natOfDigits b) : a = b := by
  have hsame : compare a b = .eq := by
    rw [compare_digits ha hb hlength]
    exact Nat.compare_eq_eq.2 h
  exact Std.LawfulEqCmp.eq_of_compare hsame

theorem pow_length_le_natOfDigits {c : Char} {cs : List Char} (hdigit : c.isDigit = true) (hc : c ≠ '0') :
    10 ^ cs.length ≤ natOfDigits (c :: cs) := by
  have hvalue : 0 < digitValue c := by
    refine Nat.pos_of_ne_zero fun hzero => hc ?_
    have hsame : compare c '0' = .eq := by
      rw [compare_digit hdigit rfl, hzero]
      rfl
    exact Std.LawfulEqCmp.eq_of_compare hsame
  rw [natOfDigits_cons]
  exact Nat.le_add_right_of_le (Nat.le_mul_of_pos_right _ hvalue)

/-- Digits without a zero that could be left out are those of their number. -/
theorem digits_natOfDigits {ds : List Char} (h : ∀ c ∈ ds, c.isDigit = true)
    (hleading : ds = ['0'] ∨ ∃ c cs, ds = c :: cs ∧ c ≠ '0') : digits (natOfDigits ds) = ds := by
  rcases hleading with rfl | ⟨c, cs, rfl, hc⟩
  · rfl
  · have hdigits : ∀ d ∈ digits (natOfDigits (c :: cs)), d.isDigit = true := fun d hd => isDigit_of_mem_digits hd
    refine eq_of_natOfDigits_eq hdigits h ?_ (natOfDigits_digits _)
    -- there are as many digits as the size of the number asks for
    have hshort : (digits (natOfDigits (c :: cs))).length ≤ cs.length + 1 :=
      (Nat.length_toDigits_le_iff (by decide) (by simp)).2 (natOfDigits_lt h)
    have hlong : 10 ^ cs.length < 10 ^ (digits (natOfDigits (c :: cs))).length := by
      calc 10 ^ cs.length ≤ natOfDigits (c :: cs) := pow_length_le_natOfDigits (h c List.mem_cons_self) hc
        _ = natOfDigits (digits (natOfDigits (c :: cs))) := (natOfDigits_digits _).symm
        _ < _ := natOfDigits_lt hdigits
    have hlt := (Nat.pow_lt_pow_iff_right (by decide)).1 hlong
    rw [List.length_cons]
    omega

theorem toString_ofNat (n : Nat) : toString (Int.ofNat n) = String.ofList (digits n) := rfl

theorem toString_negSucc (n : Nat) : toString (Int.negSucc n) = String.ofList ('-' :: digits (n + 1)) := by
  change "-" ++ (n + 1).repr = String.ofList (['-'] ++ digits (n + 1))
  rw [String.ofList_append]
  rfl

end Text

namespace Setting
open Text Binary64

variable {s : String} {x : Binary64} {i : Int}

/-- A text that no truth value and no number is written with. -/
structure Plain (s : String) : Prop where
  not_true : small s ≠ "true"
  not_false : small s ≠ "false"
  no_number : ofText? s.toList = none

instance : Decidable (Plain s) :=
  decidable_of_iff (small s ≠ "true" ∧ small s ≠ "false" ∧ ofText? s.toList = none)
    ⟨fun h => ⟨h.1, h.2.1, h.2.2⟩, fun h => ⟨h.1, h.2, h.3⟩⟩

/-- The texts that the other values are printed as: truth values, integers of 64 bits, and numbers but for the
negative zero. -/
inductive Printed : String → Prop
  | yes : Printed "true"
  | no : Printed "false"
  | integer (i : Int64) : Printed (toString i.toInt)
  | float (x : Binary64) (h : x ≠ ofPattern true 0) : Printed x.text

/-- The small letters of a text begin with the small letter of its first one. -/
theorem exists_of_small_eq (c : Char) (cs : List Char) (h : small s = String.ofList (c :: cs)) :
    ∃ d rest, s.toList = d :: rest ∧ smallLetter d = c := by
  have hmap : s.toList.map smallLetter = c :: cs := String.ofList_injective h
  obtain ⟨d, rest, hs, hd, -⟩ := List.map_eq_cons_iff.1 hmap
  exact ⟨d, rest, hs, hd⟩

theorem toLower_of_smallLetter {c d : Char} (h : smallLetter d = c) (hc : c ≠ 'k') : d.toLower = c := by
  unfold smallLetter at h
  split at h
  · exact absurd h.symm hc
  · exact h

/-- A word that stands for a truth value is no number. -/
theorem ofText?_of_small (h : small s = "true" ∨ small s = "false") : ofText? s.toList = none := by
  rcases h with h | h
  · obtain ⟨d, rest, hs, hd⟩ := exists_of_small_eq 't' ['r', 'u', 'e'] h
    rw [hs, ofText?_of_toLower (.inl (toLower_of_smallLetter hd (by decide)))]
  · obtain ⟨d, rest, hs, hd⟩ := exists_of_small_eq 'f' ['a', 'l', 's', 'e'] h
    rw [hs, ofText?_of_toLower (.inr (toLower_of_smallLetter hd (by decide)))]

/-- An integer is a number, too. -/
theorem ofText?_of_integerOfText? (h : integerOfText? s.toList = some i) :
    ∃ x, ofText? s.toList = some x := by
  unfold integerOfText? at h
  split at h
  case h_1 n hread =>
    unfold ofText?
    dsimp only
    rw [hread]
    split <;> exact ⟨_, rfl⟩
  case h_2 => cases h

/-- What a text is taken for, and why. -/
inductive Guessed (s : String) : Setting → Prop
  | yes (h : small s = "true") : Guessed s (boolean true)
  | no (h : small s = "false") : Guessed s (boolean false)
  | integer {i : Int} (h : integerOfText? s.toList = some i) : Guessed s (integer i)
  | float {x : Binary64} (hinteger : integerOfText? s.toList = none) (h : ofText? s.toList = some x) :
      Guessed s (float x)
  | text (h : Plain s) : Guessed s (text s)

theorem guessed (s : String) : Guessed s (guess s) := by
  unfold guess
  split
  case h_1 htrue => exact .yes htrue
  case h_2 hfalse => exact .no hfalse
  case h_3 htrue hfalse =>
    cases hinteger : integerOfText? s.toList with
    | some i => exact .integer hinteger
    | none =>
      cases hnumber : ofText? s.toList with
      | some x => exact .float hinteger hnumber
      | none => exact .text ⟨htrue, hfalse, hnumber⟩

theorem guess_of_number (h : ofText? s.toList = some x) :
    guess s = match integerOfText? s.toList with
      | some i => integer i
      | none => float x := by
  have hguess := guessed s
  generalize guess s = t at hguess
  cases hguess with
  | yes hword =>
    rw [ofText?_of_small (.inl hword)] at h
    cases h
  | no hword =>
    rw [ofText?_of_small (.inr hword)] at h
    cases h
  | integer hi => rw [hi]
  | float hinteger hx =>
    rw [hinteger, Option.some.inj (hx.symm.trans h)]
  | text hplain =>
    rw [hplain.no_number] at h
    cases h

theorem guess_of_plain (h : Plain s) : guess s = .text s := by
  have hguess := guessed s
  generalize guess s = t at hguess
  cases hguess with
  | yes hword => exact absurd hword h.not_true
  | no hword => exact absurd hword h.not_false
  | integer hi =>
    obtain ⟨x, hx⟩ := ofText?_of_integerOfText? hi
    rw [h.no_number] at hx
    cases hx
  | float hinteger hx =>
    rw [h.no_number] at hx
    cases hx
  | text => rfl

/-! ## What is printed -/

/-- What is read of digits with a sign. -/
theorem integerOfText?_signed (negative : Bool) {ds : List Char} (hne : ds ≠ [])
    (hdigits : ∀ c ∈ ds, c.isDigit = true)
    (hi : i = if negative then -(natOfDigits ds : Int) else natOfDigits ds) :
    integerOfText? (if negative then '-' :: ds else ds) =
      if Int64.minValue.toInt ≤ i ∧ i ≤ Int64.maxValue.toInt then some i else none := by
  have hread := @read?_signed ds [] negative hne (by rwa [List.append_nil])
  rw [pointed, List.isEmpty_nil, if_pos rfl, List.append_nil] at hread
  unfold integerOfText?
  rw [hread, hi]
  simp [Numeral.toInt?, Option.filter]

theorem integerOfText?_toString (hlow : Int64.minValue.toInt ≤ i) (hhigh : i ≤ Int64.maxValue.toInt) :
    integerOfText? (toString i).toList = some i := by
  have hne (n : Nat) : digits n ≠ [] := List.ne_nil_of_length_pos (length_digits_pos n)
  cases i with
  | ofNat n =>
    have hread := integerOfText?_signed (i := n) false (hne n) (fun c hc => isDigit_of_mem_digits hc)
      (by rw [natOfDigits_digits]; rfl)
    rw [toString_ofNat, String.toList_ofList]
    exact hread.trans (if_pos ⟨hlow, hhigh⟩)
  | negSucc n =>
    have hread := integerOfText?_signed (i := .negSucc n) true (hne (n + 1))
      (fun c hc => isDigit_of_mem_digits hc) (by rw [natOfDigits_digits]; rfl)
    rw [toString_negSucc, String.toList_ofList]
    exact hread.trans (if_pos ⟨hlow, hhigh⟩)

theorem range_of_integerOfText? (h : integerOfText? s.toList = some i) :
    Int64.minValue.toInt ≤ i ∧ i ≤ Int64.maxValue.toInt := by
  unfold integerOfText? at h
  split at h
  case h_1 =>
    have hrange := (Option.filter_eq_some_iff.1 h).2
    rwa [Bool.and_eq_true, decide_eq_true_eq, decide_eq_true_eq] at hrange
  case h_2 => cases h

theorem asText?_guess_integer (i : Int64) : (guess (toString i.toInt)).asText? = some (toString i.toInt) := by
  have hread := integerOfText?_toString i.minValue_le_toInt i.toInt_le
  obtain ⟨x, hx⟩ := ofText?_of_integerOfText? hread
  rw [guess_of_number hx, hread]
  rfl

theorem integerOfText?_of_isNaN (hx : x.isNaN = true) : integerOfText? x.text.toList = none := by
  rw [text_of_isNaN hx]
  decide +kernel

theorem integerOfText?_of_isInfinite (hx : x.isInfinite = true) : integerOfText? x.text.toList = none := by
  rw [text_of_isInfinite hx]
  cases x.negative <;> decide +kernel

theorem isFinite_of_integerOfText? (h : integerOfText? x.text.toList = some i) : x.isFinite = true := by
  have hnan : ¬ infinityPattern < x.pattern := fun hlt => by
    rw [integerOfText?_of_isNaN (decide_eq_true hlt)] at h
    cases h
  have hinfinite : x.pattern ≠ infinityPattern := fun heq => by
    rw [integerOfText?_of_isInfinite (decide_eq_true heq)] at h
    cases h
  exact decide_eq_true (by omega)

/-- The negative zero is the only number whose text is that of an integer with another text. -/
theorem toString_of_integerOfText? (hx : x ≠ ofPattern true 0) (h : integerOfText? x.text.toList = some i) :
    toString i = x.text := by
  obtain ⟨whole, fraction, hwritten, htext, hread, hnumber⟩ := exists_text (isFinite_of_integerOfText? h)
  unfold integerOfText? at h
  rw [hread] at h
  cases fraction with
  | cons c cs => cases h
  | nil =>
    have hdigits : digits (natOfDigits whole) = whole :=
      digits_natOfDigits (fun c hc => hwritten.digits c (List.mem_append_left _ hc)) hwritten.leading
    rw [pointed, List.isEmpty_nil, if_pos rfl, List.append_nil] at htext
    have hi : (if x.negative then -(natOfDigits whole : Int) else natOfDigits whole) = i := by
      have hsome := (Option.filter_eq_some_iff.1 h).1
      rw [List.append_nil] at hsome
      exact Option.some.inj hsome
    rw [← hi, htext]
    cases hsign : x.negative with
    | false => exact (toString_ofNat _).trans (congrArg String.ofList hdigits)
    | true =>
      cases hvalue : natOfDigits whole with
      | zero =>
        -- the digits are those of zero, and what they are read as with a sign is the negative zero
        rw [hvalue] at hdigits
        rw [htext, hsign, ← hdigits, String.toList_ofList] at hnumber
        have hzero : ofText? ('-' :: digits 0) = some (ofPattern true 0) := by decide +kernel
        exact absurd (Option.some.inj (hnumber.symm.trans hzero)) hx
      | succ n =>
        rw [hvalue] at hdigits
        exact (toString_negSucc n).trans (congrArg (fun ds => String.ofList ('-' :: ds)) hdigits)

theorem asText?_guess_float (hx : x ≠ ofPattern true 0) : (guess x.text).asText? = some x.text := by
  obtain ⟨y, hy, htext⟩ : ∃ y, ofText? x.text.toList = some y ∧ y.text = x.text := by
    by_cases hnan : x.isNaN = true
    · have hread : ofText? "NaN".toList = some quietNaN := by decide +kernel
      rw [text_of_isNaN hnan]
      exact ⟨quietNaN, hread, rfl⟩
    · exact ⟨x, ofText?_text (by rwa [Bool.not_eq_true] at hnan), rfl⟩
  rw [guess_of_number hy]
  cases hinteger : integerOfText? x.text.toList with
  | none => exact congrArg some htext
  | some i => exact congrArg some (toString_of_integerOfText? hx hinteger)

theorem asText?_guess_of_printed (h : Printed s) : (guess s).asText? = some s := by
  cases h with
  | yes => decide +kernel
  | no => decide +kernel
  | integer i => exact asText?_guess_integer i
  | float x hx => exact asText?_guess_float hx

/-- A text comes back from its guess exactly when it stands for no other value or is the text of the value
that it stands for. -/
theorem asText?_guess_eq_self_iff : (guess s).asText? = some s ↔ Plain s ∨ Printed s := by
  constructor
  · have hguess := guessed s
    generalize guess s = t at hguess
    intro h
    cases hguess with
    | yes => exact .inr (Option.some.inj h ▸ .yes)
    | no => exact .inr (Option.some.inj h ▸ .no)
    | @integer i hi =>
      have hs : toString i = s := Option.some.inj h
      obtain ⟨hlow, hhigh⟩ := range_of_integerOfText? hi
      have hprinted := Printed.integer (.ofInt i)
      rw [Int64.toInt_ofInt_of_le hlow (Int.lt_add_one_of_le hhigh), hs] at hprinted
      exact .inr hprinted
    | @float x hinteger hx =>
      have hs : x.text = s := Option.some.inj h
      refine .inr (hs ▸ .float x ?_)
      rintro rfl
      rw [← hs] at hinteger
      exact absurd hinteger (by decide +kernel)
    | text hplain => exact .inl hplain
  · rintro (hplain | hprinted)
    · rw [guess_of_plain hplain]
      rfl
    · exact asText?_guess_of_printed hprinted

end Setting

end Chronicle
