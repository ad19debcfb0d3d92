import Chronicle.Text.Utf8

/-!
# Bytes read as text

The bytes of a text are read as its characters, none of them stray.
-/
namespace Chronicle.Text.Utf8

variable {b : Nat} {o : Open}

theorem symbolsFrom_lead (hb : b < 0x100) (h : lead b = .opens o) (rest : Bytes) :
    symbolsFrom none (UInt8.ofNat b :: rest) = symbolsFrom (some o) rest := by
  have hstep : step none b = ([], some o) := by
    unfold step start
    rw [h]
  rw [symbolsFrom, UInt8.toNat_ofNat_of_lt' hb, hstep]
  rfl

theorem symbolsFrom_next (hb : b < 0x100) (h : o.low ≤ b ∧ b ≤ o.high) (hmissing : o.missing ≠ 1)
    (rest : Bytes) : symbolsFrom (some o) (UInt8.ofNat b :: rest) =
      symbolsFrom (some ⟨o.missing - 1, 0x80, 0xbf, o.value * 0x40 + (b - 0x80)⟩) rest := by
  have hstep : step (some o) b =
      ([], some ⟨o.missing - 1, 0x80, 0xbf, o.value * 0x40 + (b - 0x80)⟩) := by
    unfold step
    simp only [h, and_self, if_true, hmissing, if_false]
  rw [symbolsFrom, UInt8.toNat_ofNat_of_lt' hb, hstep]
  rfl

theorem symbolsFrom_last (hb : b < 0x100) (h : o.low ≤ b ∧ b ≤ o.high) (hmissing : o.missing = 1)
    (rest : Bytes) : symbolsFrom (some o) (UInt8.ofNat b :: rest) =
      .char (.ofNat (o.value * 0x40 + (b - 0x80))) :: symbolsFrom none rest := by
  have hstep : step (some o) b = ([.char (.ofNat (o.value * 0x40 + (b - 0x80)))], none) := by
    unfold step
    simp only [h, and_self, if_true, hmissing]
  rw [symbolsFrom, UInt8.toNat_ofNat_of_lt' hb, hstep]
  rfl

theorem lead_two {n : Nat} (h : 0x80 ≤ n) (h' : n < 0x800) :
    lead (0xc0 + n / 0x40) = .opens ⟨1, 0x80, 0xbf, n / 0x40⟩ := by
  have hlow : ¬ 0xc0 + n / 0x40 < 0xc2 := by omega
  have hascii : ¬ 0xc0 + n / 0x40 < 0x80 := by omega
  have hhigh : 0xc0 + n / 0x40 < 0xe0 := by omega
  have hvalue : 0xc0 + n / 0x40 - 0xc0 = n / 0x40 := by omega
  simp only [lead, hascii, hlow, hhigh, if_false, if_true, hvalue]

/-- The bounds after the first of three bytes leave out surrogates and what fits in two bytes. -/
theorem lead_three {n : Nat} (h : 0x800 ≤ n) (h' : n < 0x10000) (hvalid : n < 0xd800 ∨ 0xdfff < n) :
    ∃ low high, lead (0xe0 + n / 0x1000) = .opens ⟨2, low, high, n / 0x1000⟩ ∧
      low ≤ 0x80 + n / 0x40 % 0x40 ∧ 0x80 + n / 0x40 % 0x40 ≤ high := by
  have hascii : ¬ 0xe0 + n / 0x1000 < 0x80 := by omega
  have hlow : ¬ 0xe0 + n / 0x1000 < 0xc2 := by omega
  have htwo : ¬ 0xe0 + n / 0x1000 < 0xe0 := by omega
  have hthree : 0xe0 + n / 0x1000 < 0xf0 := by omega
  have hvalue : 0xe0 + n / 0x1000 - 0xe0 = n / 0x1000 := by omega
  simp only [lead, hascii, hlow, htwo, hthree, if_false, if_true, hvalue]
  by_cases hfirst : 0xe0 + n / 0x1000 = 0xe0
  · have hzero : n / 0x1000 = 0 := by omega
    rw [if_pos hfirst, hzero]
    exact ⟨_, _, rfl, by omega, by omega⟩
  · rw [if_neg hfirst]
    by_cases hsurrogate : 0xe0 + n / 0x1000 = 0xed
    · have hd : n / 0x1000 = 0xd := by omega
      rw [if_pos hsurrogate, hd]
      exact ⟨_, _, rfl, by omega, by omega⟩
    · rw [if_neg hsurrogate]
      exact ⟨_, _, rfl, by omega, by omega⟩

theorem lead_four {n : Nat} (h : 0x10000 ≤ n) (h' : n < 0x110000) :
    ∃ low high, lead (0xf0 + n / 0x40000) = .opens ⟨3, low, high, n / 0x40000⟩ ∧
      low ≤ 0x80 + n / 0x1000 % 0x40 ∧ 0x80 + n / 0x1000 % 0x40 ≤ high := by
  have hascii : ¬ 0xf0 + n / 0x40000 < 0x80 := by omega
  have hlow : ¬ 0xf0 + n / 0x40000 < 0xc2 := by omega
  have htwo : ¬ 0xf0 + n / 0x40000 < 0xe0 := by omega
  have hthree : ¬ 0xf0 + n / 0x40000 < 0xf0 := by omega
  have hnot : 0xf0 + n / 0x40000 ≠ 0xe0 := by omega
  have hnot' : 0xf0 + n / 0x40000 ≠ 0xed := by omega
  have hvalue : 0xf0 + n / 0x40000 - 0xf0 = n / 0x40000 := by omega
  simp only [lead, hascii, hlow, htwo, hthree, hnot, hnot', if_false, hvalue]
  by_cases hfirst : 0xf0 + n / 0x40000 = 0xf0
  · have hzero : n / 0x40000 = 0 := by omega
    rw [if_pos hfirst, hzero]
    exact ⟨_, _, rfl, by omega, by omega⟩
  · rw [if_neg hfirst]
    by_cases hmiddle : 0xf0 + n / 0x40000 < 0xf4
    · rw [if_pos hmiddle]
      exact ⟨_, _, rfl, by omega, by omega⟩
    · have hlast : 0xf0 + n / 0x40000 = 0xf4 := by omega
      have hfour : n / 0x40000 = 4 := by omega
      rw [if_neg hmiddle, if_pos hlast, hfour]
      exact ⟨_, _, rfl, by omega, by omega⟩

theorem symbolsFrom_encodeChar (c : Char) (rest : Bytes) :
    symbolsFrom none (encodeChar c ++ rest) = .char c :: symbolsFrom none rest := by
  have hvalid : c.toNat < 0xd800 ∨ 0xdfff < c.toNat ∧ c.toNat < 0x110000 := c.valid
  have hchar {m : Nat} (hm : m = c.toNat) : Char.ofNat m = c := by rw [hm, Char.ofNat_toNat]
  unfold encodeChar
  dsimp only
  by_cases hone : c.toNat < 0x80
  · have hbyte : c.toNat < 0x100 := by omega
    have hstep : step none c.toNat = ([.char c], none) := by
      unfold step start lead
      rw [if_pos hone, Char.ofNat_toNat]
    rw [if_pos hone, List.singleton_append, symbolsFrom, UInt8.toNat_ofNat_of_lt' hbyte, hstep]
    rfl
  rw [if_neg hone]
  by_cases htwo : c.toNat < 0x800
  · rw [if_pos htwo, List.cons_append, List.singleton_append,
      symbolsFrom_lead (by omega) (lead_two (by omega) htwo),
      symbolsFrom_last (by omega) ⟨by dsimp only; omega, by dsimp only; omega⟩ rfl,
      hchar (by dsimp only; omega)]
  rw [if_neg htwo]
  by_cases hthree : c.toNat < 0x10000
  · obtain ⟨low, high, hlead, hsecond⟩ := lead_three (by omega) hthree (by omega)
    rw [if_pos hthree, List.cons_append, List.cons_append, List.singleton_append,
      symbolsFrom_lead (by omega) hlead, symbolsFrom_next (by omega) hsecond (by simp),
      symbolsFrom_last (by omega) ⟨by dsimp only; omega, by dsimp only; omega⟩ rfl,
      hchar (by dsimp only; omega)]
  · obtain ⟨low, high, hlead, hsecond⟩ := lead_four (n := c.toNat) (by omega) (by omega)
    rw [if_neg hthree, List.cons_append, List.cons_append, List.cons_append, List.singleton_append,
      symbolsFrom_lead (by omega) hlead, symbolsFrom_next (by omega) hsecond (by simp),
      symbolsFrom_next (by omega) ⟨by dsimp only; omega, by dsimp only; omega⟩ (by simp),
      symbolsFrom_last (by omega) ⟨by dsimp only; omega, by dsimp only; omega⟩ rfl,
      hchar (by dsimp only; omega)]

/-- What is written is read. -/
theorem symbols_encode (cs : List Char) : symbols (encode cs) = cs.map .char := by
  induction cs with
  | nil => rfl
  | cons c cs ih =>
    have hcons : encode (c :: cs) = encodeChar c ++ encode cs := List.flatMap_cons
    rw [symbols, hcons, symbolsFrom_encodeChar, List.map_cons, ← ih]
    rfl

end Chronicle.Text.Utf8
