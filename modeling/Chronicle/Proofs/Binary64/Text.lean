import Chronicle.Binary64.Numeral
import Chronicle.Binary64.Text
import Chronicle.Proofs.Json.Recovered
import Mathlib.Data.List.TakeWhile

/-!
# Texts of numbers

The text of a number is read as this number, whatever its size: no exponent is written, and the digits are in
the neighbourhood of the number. Before the point there is no zero that could be left out.
-/
namespace Chronicle

namespace Text

/-- Digits after the point, with the point; without such digits there is none. -/
def pointed (fraction : List Char) : List Char := if fraction.isEmpty then [] else '.' :: fraction

theorem isDigit_of_mem_replicate_zero {n : Nat} {c : Char} (h : c ∈ List.replicate n '0') :
    c.isDigit = true := by
  rw [List.eq_of_mem_replicate h]
  rfl

end Text

namespace Decimal
open Text

variable {d : Decimal} {whole fraction : List Char}

/-- Whether a decimal is written with these digits before and after the point. None of those before it could
be left out. -/
structure Written (d : Decimal) (whole fraction : List Char) : Prop where
  text : d.positional = whole ++ pointed fraction
  leading : whole = ['0'] ∨ ∃ c cs, whole = c :: cs ∧ c ≠ '0'
  digits : ∀ c ∈ whole ++ fraction, c.isDigit = true
  value : ∃ zeros : Nat, natOfDigits (whole ++ fraction) = d.coefficient * 10 ^ zeros ∧
    d.exponent - zeros = -(fraction.length : Int)

/-- All digits are behind the point. -/
theorem written_of_small (zeros : Nat) (h : ((digits d.coefficient).length : Int) + d.exponent = -zeros)
    (htext : d.positional = '0' :: '.' :: (List.replicate zeros '0' ++ digits d.coefficient)) :
    d.Written ['0'] (List.replicate zeros '0' ++ digits d.coefficient) where
  text := by
    have hpos := length_digits_pos d.coefficient
    have hne : (List.replicate zeros '0' ++ digits d.coefficient).isEmpty = false := by
      rw [List.isEmpty_eq_false_iff]
      exact List.append_ne_nil_of_right_ne_nil _ (List.ne_nil_of_length_pos hpos)
    rw [htext, pointed, hne]
    rfl
  leading := .inl rfl
  digits c hc := by
    rw [List.singleton_append] at hc
    rcases List.mem_cons.1 hc with rfl | hc
    · rfl
    · exact (List.mem_append.1 hc).elim isDigit_of_mem_replicate_zero isDigit_of_mem_digits
  value := by
    refine ⟨0, ?_, ?_⟩
    · have hvalue := natOfDigits_zeros_append (zeros + 1) (digits d.coefficient)
      exact hvalue.trans (by rw [natOfDigits_digits, Nat.pow_zero, Nat.mul_one])
    · rw [List.length_append, List.length_replicate]
      omega

/-- Zeros fill the places up to the point. -/
theorem written_of_large (zeros : Nat) (hbound : 0 < d.coefficient ∨ d.exponent = 0)
    (h : d.exponent = zeros)
    (htext : d.positional = digits d.coefficient ++ List.replicate zeros '0') :
    d.Written (digits d.coefficient ++ List.replicate zeros '0') [] where
  text := by rw [htext, pointed, List.isEmpty_nil, if_pos rfl, List.append_nil]
  leading := by
    rcases hbound with hpos | hexponent
    · obtain ⟨c, cs, hdigits, hc⟩ := exists_digits_of_pos hpos
      exact .inr ⟨c, cs ++ List.replicate zeros '0', by rw [hdigits, List.cons_append], hc⟩
    · obtain rfl : zeros = 0 := by omega
      rw [List.replicate_zero, List.append_nil]
      exact (digits_eq_cons _).imp_right fun ⟨c, cs, hdigits, hc⟩ => ⟨c, cs, hdigits, hc⟩
  digits c hc := by
    rw [List.append_nil] at hc
    exact (List.mem_append.1 hc).elim isDigit_of_mem_digits isDigit_of_mem_replicate_zero
  value := by
    refine ⟨zeros, ?_, ?_⟩
    · rw [List.append_nil, natOfDigits_append_zeros, natOfDigits_digits]
    · rw [h, List.length_nil]
      omega

/-- The point is among the digits. -/
theorem written_of_split {point : Nat} (hbound : 0 < d.coefficient ∨ d.exponent = 0) (hpos : 0 < point)
    (hlt : point < (digits d.coefficient).length)
    (h : ((digits d.coefficient).length : Int) + d.exponent = point)
    (htext : d.positional = (digits d.coefficient).take point ++ '.' :: (digits d.coefficient).drop point) :
    d.Written ((digits d.coefficient).take point) ((digits d.coefficient).drop point) where
  text := by
    have hne : ((digits d.coefficient).drop point).isEmpty = false := by
      rw [List.isEmpty_eq_false_iff]
      exact List.ne_nil_of_length_pos (by rw [List.length_drop]; omega)
    rw [htext, pointed, hne]
    rfl
  leading := by
    obtain ⟨c, cs, hdigits, hc⟩ := exists_digits_of_pos (hbound.resolve_right fun hexponent => by omega)
    obtain ⟨point, rfl⟩ := Nat.exists_eq_succ_of_ne_zero (Nat.ne_of_gt hpos)
    exact .inr ⟨c, cs.take point, by rw [hdigits, List.take_succ_cons], hc⟩
  digits c hc := by
    rw [List.take_append_drop] at hc
    exact isDigit_of_mem_digits hc
  value := by
    refine ⟨0, ?_, ?_⟩
    · rw [List.take_append_drop, natOfDigits_digits, Nat.pow_zero, Nat.mul_one]
    · rw [List.length_drop]
      omega

theorem exists_written (h : 0 < d.coefficient ∨ d.exponent = 0) :
    ∃ whole fraction, d.Written whole fraction := by
  cases hplace : ((digits d.coefficient).length : Int) + d.exponent with
  | ofNat point =>
    cases point with
    | zero =>
      have htext : d.positional = '0' :: '.' :: digits d.coefficient := by
        unfold positional
        dsimp only
        rw [hplace]
        rfl
      exact ⟨_, _, written_of_small 0 hplace htext⟩
    | succ point =>
      have hvalue : ((digits d.coefficient).length : Int) + d.exponent = (point + 1 : Nat) := hplace
      by_cases hle : (digits d.coefficient).length ≤ point + 1
      · refine ⟨_, _, written_of_large (point + 1 - (digits d.coefficient).length) h (by omega) ?_⟩
        unfold positional
        dsimp only
        rw [hplace]
        exact if_pos hle
      · refine ⟨_, _, written_of_split h (Nat.succ_pos point) (Nat.not_le.1 hle) hvalue ?_⟩
        unfold positional
        dsimp only
        rw [hplace]
        exact if_neg hle
  | negSucc zeros =>
    refine ⟨_, _, written_of_small (zeros + 1) ?_ ?_⟩
    · rw [hplace]
      rfl
    · unfold positional
      dsimp only
      rw [hplace]
      rfl

end Decimal

namespace Binary64
open Text

variable {whole fraction rest : List Char} {c : Char}

/-! ## Reading -/

theorem readSign_eq_self (hminus : c ≠ '-') (hplus : c ≠ '+') : readSign (c :: rest) = (false, c :: rest) := by
  unfold readSign
  split
  case h_1 heq => exact absurd (List.cons.inj heq).1 hminus
  case h_2 heq => exact absurd (List.cons.inj heq).1 hplus
  case h_3 => rfl

theorem readSign_of_isDigit (negative : Bool) (h : c.isDigit = true) :
    readSign (if negative then '-' :: c :: rest else c :: rest) = (negative, c :: rest) := by
  cases negative with
  | true => rfl
  | false =>
    refine readSign_eq_self ?_ ?_ <;>
    · rintro rfl
      cases h

theorem read?_signed (negative : Bool) (hwhole : whole ≠ [])
    (hdigits : ∀ c ∈ whole ++ fraction, c.isDigit = true) :
    Numeral.read? (if negative then '-' :: (whole ++ pointed fraction) else whole ++ pointed fraction) =
      some (⟨negative, whole ++ fraction, -fraction.length, fraction.isEmpty⟩, []) := by
  obtain ⟨c, cs, rfl⟩ := List.exists_cons_of_ne_nil hwhole
  have hc := hdigits c List.mem_cons_self
  have hcs : ∀ d ∈ c :: cs, d.isDigit = true := fun d hd => hdigits d (List.mem_append_left _ hd)
  have hfraction : ∀ d ∈ fraction, d.isDigit = true := fun d hd => hdigits d (List.mem_append_right _ hd)
  unfold Numeral.read?
  rw [List.cons_append, readSign_of_isDigit negative hc, ← List.cons_append]
  dsimp only
  rw [List.takeWhile_append_of_pos hcs, List.dropWhile_append_of_pos hcs]
  cases fraction with
  | nil => simp [pointed, readExponent?]
  | cons d ds =>
    have htake : (d :: ds).takeWhile Char.isDigit = d :: ds := List.takeWhile_eq_self_iff.2 hfraction
    have hdrop : (d :: ds).dropWhile Char.isDigit = [] := List.dropWhile_eq_nil_iff.2 hfraction
    simp [pointed, htake, hdrop, readExponent?]

variable {d : Decimal} {x : Binary64}

theorem toBinary64_of_written (negative whole' : Bool) (h : d.Written whole fraction) :
    Numeral.toBinary64 ⟨negative, whole ++ fraction, -fraction.length, whole'⟩ =
      ofQuotient negative (natOfDigits (whole ++ fraction)) (10 ^ fraction.length) := by
  unfold Numeral.toBinary64
  dsimp only
  have hreach : max (-(exponentBound + ((whole ++ fraction).length : Int)))
      (min (-(fraction.length : Int)) (exponentBound + (whole ++ fraction).length)) = -fraction.length := by
    rw [List.length_append]
    unfold exponentBound
    omega
  rw [hreach]
  cases fraction with
  | nil =>
    have hone : natOfDigits (whole ++ []) * Nat.pow 10 0 = natOfDigits (whole ++ []) := Nat.mul_one _
    exact congrArg (ofQuotient negative · 1) hone
  | cons c cs => rfl

/-- What is in the neighbourhood of a number is read as the number. -/
theorem ofQuotient_of_written (hx : x.isFinite = true) (h : (x.shortest .up).Written whole fraction) :
    ofQuotient x.negative (natOfDigits (whole ++ fraction)) (10 ^ fraction.length) = x := by
  obtain ⟨zeros, hvalue, hexponent⟩ := h.value
  rw [eq_iff_of_negative (negative_ofQuotient ..), pattern_ofQuotient_eq_iff _ hx (Nat.pow_pos (by decide))]
  refine holds_of_mul_eq (Nat.pow_pos (by decide)) (Nat.pow_pos (by decide)) ?_ (x.covers_shortest .up)
  have hpower : 10 ^ (x.shortest .up).exponent.toNat * 10 ^ fraction.length =
      10 ^ zeros * 10 ^ (-(x.shortest .up).exponent).toNat := by
    rw [← Nat.pow_add, ← Nat.pow_add]
    congr 1
    omega
  rw [hvalue]
  calc _ = (x.shortest .up).coefficient * (4 * unitsPerOne) *
        (10 ^ (x.shortest .up).exponent.toNat * 10 ^ fraction.length) := by ring
    _ = _ := by rw [hpower]; ring

theorem toLower_of_isDigit (h : c.isDigit = true) : c.toLower = c := by
  unfold Char.isDigit at h
  unfold Char.toLower
  simp only [Bool.and_eq_true, decide_eq_true_eq] at h
  rw [dif_neg]
  intro hupper
  exact absurd (UInt32.le_trans hupper.1 h.2) (by decide)

/-- A name begins with one of two letters, after its sign. -/
theorem ofText?_of_toLower_ne {cs : List Char} {negative : Bool} (hsign : readSign cs = (negative, c :: rest))
    (hi : c.toLower ≠ 'i') (hn : c.toLower ≠ 'n') :
    ofText? cs = match Numeral.read? cs with
      | some (n, []) => some n.toBinary64
      | _ => none := by
  have hname (d : Char) (ds : List Char) (hd : c.toLower ≠ d) :
      String.ofList ((c :: rest).map Char.toLower) ≠ String.ofList (d :: ds) :=
    fun heq => hd (List.cons.inj (String.ofList_injective heq)).1
  unfold ofText?
  rw [hsign]
  dsimp only
  split
  case h_1 heq => exact absurd heq (hname 'i' ['n', 'f'] hi)
  case h_2 heq => exact absurd heq (hname 'i' ['n', 'f', 'i', 'n', 'i', 't', 'y'] hi)
  case h_3 heq => exact absurd heq (hname 'n' ['a', 'n'] hn)
  case h_4 => rfl

/-- What begins with a digit, after its sign, is no name. -/
theorem ofText?_of_isDigit (negative : Bool) (h : c.isDigit = true) :
    ofText? (if negative then '-' :: c :: rest else c :: rest) =
      match Numeral.read? (if negative then '-' :: c :: rest else c :: rest) with
      | some (n, []) => some n.toBinary64
      | _ => none := by
  refine ofText?_of_toLower_ne (readSign_of_isDigit negative h) ?_ ?_ <;>
  · rw [toLower_of_isDigit h]
    rintro rfl
    cases h

/-- No number is written with a word that stands for a truth value. -/
theorem ofText?_of_toLower (h : c.toLower = 't' ∨ c.toLower = 'f') : ofText? (c :: rest) = none := by
  have hne {d : Char} (hd : ¬ (d.toLower = 't' ∨ d.toLower = 'f')) : c ≠ d := fun heq => hd (heq ▸ h)
  have hsign : readSign (c :: rest) = (false, c :: rest) :=
    readSign_eq_self (hne (by decide)) (hne (by decide))
  have hdigit : ¬ c.isDigit = true := fun hdigit => by
    rw [toLower_of_isDigit hdigit] at h
    rcases h with rfl | rfl <;> cases hdigit
  have hpoint : c ≠ '.' := hne (by decide)
  have hmark : ¬ (c = 'e' ∨ c = 'E') := not_or.2 ⟨hne (by decide), hne (by decide)⟩
  have hread : Numeral.read? (c :: rest) = none := by
    unfold Numeral.read?
    simp [hsign, hdigit, hpoint, hmark, readExponent?]
  rw [ofText?_of_toLower_ne hsign (by rcases h with h | h <;> rw [h] <;> decide)
    (by rcases h with h | h <;> rw [h] <;> decide), hread]

theorem text_of_isFinite (hx : x.isFinite = true) : x.text = String.ofList
    (if x.negative then '-' :: (x.shortest .up).positional else (x.shortest .up).positional) := by
  have hpattern : x.pattern < infinityPattern := of_decide_eq_true hx
  have hnan : x.isNaN = false := decide_eq_false (by omega)
  have hinfinite : x.isInfinite = false := decide_eq_false (by omega)
  unfold text
  rw [hnan, hinfinite]
  rfl

/-- The parts of the text of a finite number, and what is read of it. -/
theorem exists_text (hx : x.isFinite = true) : ∃ whole fraction, (x.shortest .up).Written whole fraction ∧
    x.text = String.ofList (if x.negative then '-' :: (whole ++ pointed fraction) else whole ++ pointed fraction) ∧
    Numeral.read? x.text.toList =
      some (⟨x.negative, whole ++ fraction, -fraction.length, fraction.isEmpty⟩, []) ∧
    ofText? x.text.toList = some x := by
  obtain ⟨whole, fraction, h⟩ := Decimal.exists_written (x.shortest_bound .up)
  have hne : whole ≠ [] := by
    rcases h.leading with hzero | ⟨c, cs, hcons, -⟩
    · rw [hzero]
      nofun
    · rw [hcons]
      nofun
  have htext : x.text = String.ofList
      (if x.negative then '-' :: (whole ++ pointed fraction) else whole ++ pointed fraction) := by
    rw [text_of_isFinite hx, h.text]
  have hread := read?_signed x.negative hne h.digits
  refine ⟨whole, fraction, h, htext, ?_, ?_⟩
  · rw [htext, String.toList_ofList, hread]
  · obtain ⟨c, cs, rfl⟩ := List.exists_cons_of_ne_nil hne
    rw [htext, String.toList_ofList, List.cons_append, ofText?_of_isDigit _ (h.digits c List.mem_cons_self),
      ← List.cons_append, hread]
    dsimp only
    rw [toBinary64_of_written _ _ h, ofQuotient_of_written hx h]

theorem text_of_isNaN (hx : x.isNaN = true) : x.text = "NaN" := if_pos hx

theorem text_of_isInfinite (hx : x.isInfinite = true) :
    x.text = String.ofList (if x.negative then ['-', 'i', 'n', 'f'] else ['i', 'n', 'f']) := by
  have hpattern : x.pattern = infinityPattern := of_decide_eq_true hx
  have hnan : x.isNaN = false := decide_eq_false (by omega)
  unfold text
  rw [hnan, hx]
  rfl

/-- The text of a number is read as the number. -/
theorem ofText?_text (hx : x.isNaN = false) : ofText? x.text.toList = some x := by
  by_cases hfinite : x.isFinite = true
  · obtain ⟨-, -, -, -, -, hread⟩ := exists_text hfinite
    exact hread
  · have hpattern : x.pattern = infinityPattern := by
      have hle : ¬ infinityPattern < x.pattern := of_decide_eq_false hx
      have hge : ¬ x.pattern < infinityPattern := fun hlt => hfinite (decide_eq_true hlt)
      omega
    rw [← ofPattern_eta x, hpattern]
    cases x.negative <;> rfl

end Binary64

end Chronicle
