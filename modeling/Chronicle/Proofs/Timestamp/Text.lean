import Chronicle.Proofs.Text.Digits
import Chronicle.Timestamp.Text

/-!
# Points in time read back

The stored and the interchange form of a point in time are read back as that point, whatever its year and
also during a leap second.
-/
namespace Chronicle.Timestamp
open Text

theorem skipBlanks_of_isDigit {cs : List Char} (rest : List Char) (hne : cs ≠ [])
    (h : ∀ c ∈ cs, c.isDigit = true) : skipBlanks (cs ++ rest) = cs ++ rest := by
  cases cs with
  | nil => exact absurd rfl hne
  | cons c cs =>
    have hc := h c List.mem_cons_self
    have hblank : isBlank c = false := by
      simp only [Char.isDigit, Bool.and_eq_true, decide_eq_true_eq] at hc
      have hlow : 48 ≤ c.toNat := hc.1
      have hhigh : c.toNat ≤ 57 := hc.2
      simp [isBlank, blankRanges]
      omega
    simp [skipBlanks, hblank]

theorem skipBlanks_cons {c : Char} (h : isBlank c = false) (cs : List Char) :
    skipBlanks (c :: cs) = c :: cs := by
  simp [skipBlanks, h]

/-- A number of two digits. -/
theorem readTwo {n : Nat} (h : n < 100) (rest : List Char) :
    readNat? 2 (skipBlanks (padded 2 n ++ rest)) = some (n, rest) := by
  rw [skipBlanks_of_isDigit _ (padded_ne_nil 2 n) fun c hc => isDigit_of_mem_padded hc]
  exact readNat?_padded (by decide) h rest

theorem readYear?_yearText (year : Int) (rest : List Char) :
    readYear? (skipBlanks (yearText year ++ '-' :: rest)) = some (year, '-' :: rest) := by
  have hsigned : readNat? (padded 4 year.natAbs ++ '-' :: rest).length
      (padded 4 year.natAbs ++ '-' :: rest) = some (year.natAbs, '-' :: rest) := by
    rw [readNat?_of_isDigit (fun c hc => isDigit_of_mem_padded hc) (padded_ne_nil 4 _) (by simp)
      (.inr (by simp)), natOfDigits_padded]
  unfold yearText
  split
  case isTrue h =>
    have hwidth : year.natAbs < 10 ^ 4 := by omega
    have hread := readNat?_padded (by decide) hwidth ('-' :: rest)
    rw [skipBlanks_of_isDigit _ (padded_ne_nil 4 _) fun c hc => isDigit_of_mem_padded hc]
    cases hp : padded 4 year.natAbs with
    | nil => exact absurd hp (padded_ne_nil 4 _)
    | cons c cs =>
      have hc : c.isDigit = true := isDigit_of_mem_padded (hp ▸ List.mem_cons_self)
      rw [hp] at hread
      unfold readYear?
      split
      · rename_i heq
        cases heq
        cases hc
      · rename_i heq
        cases heq
        cases hc
      · have habs : (year.natAbs : Int) = year := by omega
        simp only [hread, Option.map_some, habs]
  case isFalse h =>
    by_cases hneg : year < 0
    · have habs : -(year.natAbs : Int) = year := by omega
      simp only [hneg, if_true, List.cons_append]
      rw [skipBlanks_cons (by decide)]
      simp only [readYear?, hsigned, Option.map_some, habs]
    · have habs : (year.natAbs : Int) = year := by omega
      simp only [hneg, if_false, List.cons_append]
      rw [skipBlanks_cons (by decide)]
      simp only [readYear?, hsigned, Option.map_some, habs]

/-- The fields as they are written. -/
def shownFields (t : Timestamp) : Fields :=
  ⟨t.year, t.month, t.day, t.hour, t.minute, t.shownSecond, t.shownNanosecond⟩

theorem foldLeap_shownFields (t : Timestamp) : t.shownFields.foldLeap = t.toFields := by
  obtain ⟨⟨year, month, day, hour, minute, second, nanosecond⟩, exist⟩ := t
  have hsecond : second < 60 := exist.second_lt
  have hnano := exist.nanosecond_lt
  simp only [secondLength] at hnano
  by_cases h : second + nanosecond / 1000000000 = 60
  · simp only [shownFields, Fields.foldLeap, shownSecond, shownNanosecond, secondLength, h, if_true,
      Fields.mk.injEq, true_and]
    omega
  · simp only [shownFields, Fields.foldLeap, shownSecond, shownNanosecond, secondLength, h, if_false,
      Fields.mk.injEq, true_and]
    omega

theorem month_lt (t : Timestamp) : t.month < 100 := by
  have h := t.exist.month_mem
  omega

theorem day_lt (t : Timestamp) : t.day < 100 := by
  have h := t.exist.day_mem
  have hmonth : daysIn t.year t.month ≤ 31 := by
    unfold daysIn
    split
    · split <;> decide
    all_goals decide
  omega

theorem hour_lt (t : Timestamp) : t.hour < 100 := by
  have h := t.exist.hour_lt
  omega

theorem minute_lt (t : Timestamp) : t.minute < 100 := by
  have h := t.exist.minute_lt
  omega

theorem shownSecond_lt (t : Timestamp) : t.shownSecond < 100 := by
  have hsecond := t.exist.second_lt
  have hnano := t.exist.nanosecond_lt
  unfold shownSecond
  simp only [secondLength] at *
  omega

theorem shownNanosecond_lt (t : Timestamp) : t.shownNanosecond < 10 ^ 9 :=
  Nat.mod_lt _ (by decide)

/-! ## Steps of the readers -/

section Pieces

variable {f : Fields}

theorem readPieces?_cons {piece : Piece} {pieces : List Piece} {cs rest : List Char} {f' : Fields}
    (h : piece.read? f cs = some (f', rest)) :
    readPieces? (piece :: pieces) f cs = readPieces? pieces f' rest := by
  simp [readPieces?, h]

theorem read?_year (year : Int) (rest : List Char) :
    Piece.year.read? f (yearText year ++ '-' :: rest) = some ({ f with year }, '-' :: rest) := by
  simp [Piece.read?, readYear?_yearText]

theorem read?_mark (c : Char) (rest : List Char) : (Piece.mark c).read? f (c :: rest) = some (f, rest) := by
  simp [Piece.read?]

theorem read?_blanks {c : Char} (h : isBlank c = false) (rest : List Char) :
    Piece.blanks.read? f (c :: rest) = some (f, c :: rest) := by
  simp [Piece.read?, skipBlanks_cons h]

theorem read?_blanks_two (n : Nat) (rest : List Char) :
    Piece.blanks.read? f (' ' :: (padded 2 n ++ rest)) = some (f, padded 2 n ++ rest) := by
  have h := skipBlanks_of_isDigit rest (padded_ne_nil 2 n)
    fun c hc => isDigit_of_mem_padded hc
  have hspace : skipBlanks (' ' :: (padded 2 n ++ rest)) = skipBlanks (padded 2 n ++ rest) := rfl
  simp [Piece.read?, hspace, h]

theorem read?_two (set : Fields → Nat → Fields) {piece : Piece} {n : Nat}
    (hpiece : ∀ f cs, piece.read? f cs =
      (readNat? 2 (skipBlanks cs)).map fun (n, r) => (set f n, r)) (hn : n < 100) (rest : List Char) :
    piece.read? f (padded 2 n ++ rest) = some (set f n, rest) := by
  simp [hpiece, readTwo hn]

theorem read?_fullFraction {n : Nat} (hn : n < 10 ^ 9) :
    Piece.fullFraction.read? f ('.' :: padded 9 n) = some ({ f with nanosecond := n }, []) := by
  have hlength := length_padded (by decide) hn
  have hspan := spanDigits_of_isDigit []
    (fun c (hc : c ∈ padded 9 n) => isDigit_of_mem_padded hc) (Nat.le_of_eq hlength) (.inl hlength)
  rw [List.append_nil] at hspan
  simp [Piece.read?, hspan, hlength, natOfDigits_padded]

theorem nanosOfDigits_padded {width n : Nat} (hw : 0 < width) (hwidth : width ≤ 9)
    (hn : n < 10 ^ width) : nanosOfDigits (padded width n) = n * 10 ^ (9 - width) := by
  have hlength := length_padded hw hn
  unfold nanosOfDigits
  rw [List.take_of_length_le (by omega), hlength]
  change Nat.ofDigitChars 10 (_ ++ _) 0 = _
  rw [Nat.ofDigitChars_append, Nat.ofDigitChars_replicate_zero]
  change 10 ^ (9 - width) * natOfDigits (padded width n) = _
  rw [natOfDigits_padded, Nat.mul_comm]

theorem read?_looseFraction {width n : Nat} (hw : 0 < width) (hwidth : width ≤ 9)
    (hn : n < 10 ^ width) : Piece.looseFraction.read? f ('.' :: padded width n) =
      some ({ f with nanosecond := n * 10 ^ (9 - width) }, []) := by
  have hspan := spanDigits_of_isDigit []
    (fun c (hc : c ∈ padded width n) => isDigit_of_mem_padded hc) (Nat.le_refl _) (.inl rfl)
  rw [List.append_nil] at hspan
  simp [Piece.read?, hspan, padded_ne_nil, nanosOfDigits_padded hw hwidth hn]

/-- What a brief fraction leaves out are zeros. -/
theorem read?_briefFraction {n : Nat} (hf : f.nanosecond = 0) (hn : n < 10 ^ 9) :
    Piece.looseFraction.read? f (briefFraction n) = some ({ f with nanosecond := n }, []) := by
  unfold briefFraction
  split
  case isTrue h =>
    subst h
    simp [Piece.read?, ← hf]
  case isFalse =>
    split
    · have hwhole : n / 1000000 * 10 ^ (9 - 3) = n := by omega
      rw [read?_looseFraction (by decide) (by decide) (by omega), hwhole]
    · split
      · have hwhole : n / 1000 * 10 ^ (9 - 6) = n := by omega
        rw [read?_looseFraction (by decide) (by decide) (by omega), hwhole]
      · have hwhole : n * 10 ^ (9 - 9) = n := by omega
        rw [read?_looseFraction (by decide) (by decide) hn, hwhole]

end Pieces

theorem readPieces?_storedChars (t : Timestamp) :
    readPieces? storedPieces noFields t.storedChars = some (t.shownFields, []) := by
  simp only [storedPieces, storedChars, dateText, clockText, List.append_assoc, List.cons_append]
  rw [readPieces?_cons (read?_year t.year _), readPieces?_cons (read?_mark '-' _),
    readPieces?_cons (read?_two (fun f n => { f with month := n }) (fun _ _ => rfl) t.month_lt _),
    readPieces?_cons (read?_mark '-' _),
    readPieces?_cons (read?_two (fun f n => { f with day := n }) (fun _ _ => rfl) t.day_lt _),
    readPieces?_cons (read?_blanks_two _ _),
    readPieces?_cons (read?_two (fun f n => { f with hour := n }) (fun _ _ => rfl) t.hour_lt _),
    readPieces?_cons (read?_mark ':' _),
    readPieces?_cons (read?_two (fun f n => { f with minute := n }) (fun _ _ => rfl) t.minute_lt _),
    readPieces?_cons (read?_mark ':' _),
    readPieces?_cons
      (read?_two (fun f n => { f with second := n }) (fun _ _ => rfl) t.shownSecond_lt _),
    readPieces?_cons (read?_fullFraction t.shownNanosecond_lt)]
  rfl

/-- The stored text of a point in time is read back as that point. -/
theorem ofStoredText?_storedText (t : Timestamp) : ofStoredText? t.storedText = some t := by
  unfold ofStoredText? storedText read?
  rw [String.toList_ofList, readPieces?_storedChars]
  dsimp only
  rw [foldLeap_shownFields, ofFields?_toFields]

theorem storedText_injective {s t : Timestamp} (h : s.storedText = t.storedText) : s = t := by
  have hread := ofStoredText?_storedText s
  rw [h, ofStoredText?_storedText] at hread
  exact (Option.some.inj hread).symm

theorem readPieces?_interchange (t : Timestamp) : readPieces? interchangePieces noFields
    (t.dateText ++ 'T' :: t.clockText ++ briefFraction t.shownNanosecond) =
      some (t.shownFields, []) := by
  simp only [interchangePieces, dateText, clockText, List.append_assoc, List.cons_append]
  rw [readPieces?_cons (read?_year t.year _), readPieces?_cons (read?_blanks (by decide) _),
    readPieces?_cons (read?_mark '-' _),
    readPieces?_cons (read?_two (fun f n => { f with month := n }) (fun _ _ => rfl) t.month_lt _),
    readPieces?_cons (read?_blanks (by decide) _), readPieces?_cons (read?_mark '-' _),
    readPieces?_cons (read?_two (fun f n => { f with day := n }) (fun _ _ => rfl) t.day_lt _),
    readPieces?_cons (read?_blanks (by decide) _), readPieces?_cons (read?_mark 'T' _),
    readPieces?_cons (read?_two (fun f n => { f with hour := n }) (fun _ _ => rfl) t.hour_lt _),
    readPieces?_cons (read?_blanks (by decide) _), readPieces?_cons (read?_mark ':' _),
    readPieces?_cons (read?_two (fun f n => { f with minute := n }) (fun _ _ => rfl) t.minute_lt _),
    readPieces?_cons (read?_blanks (by decide) _), readPieces?_cons (read?_mark ':' _),
    readPieces?_cons
      (read?_two (fun f n => { f with second := n }) (fun _ _ => rfl) t.shownSecond_lt _),
    readPieces?_cons (read?_briefFraction rfl t.shownNanosecond_lt)]
  rfl

/-- The interchange text of a point in time is read back as that point. -/
theorem ofInterchangeText?_interchangeText (t : Timestamp) :
    ofInterchangeText? t.interchangeText = some t := by
  unfold ofInterchangeText? interchangeText read?
  rw [String.toList_ofList, readPieces?_interchange]
  dsimp only
  rw [foldLeap_shownFields, ofFields?_toFields]

end Chronicle.Timestamp
