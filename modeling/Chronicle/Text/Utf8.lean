/-! # Text as bytes

Characters are written as one to four bytes. Reading never fails: bytes that write no character are kept
as stray symbols, so a reader can refuse them where they matter. -/
namespace Chronicle.Text.Utf8

abbrev Bytes := List UInt8

def encodeChar (c : Char) : Bytes :=
  let n := c.toNat
  if n < 0x80 then [.ofNat n]
  else if n < 0x800 then [.ofNat (0xc0 + n / 0x40), .ofNat (0x80 + n % 0x40)]
  else if n < 0x10000 then
    [.ofNat (0xe0 + n / 0x1000), .ofNat (0x80 + n / 0x40 % 0x40), .ofNat (0x80 + n % 0x40)]
  else
    [.ofNat (0xf0 + n / 0x40000), .ofNat (0x80 + n / 0x1000 % 0x40), .ofNat (0x80 + n / 0x40 % 0x40),
      .ofNat (0x80 + n % 0x40)]

def encode (cs : List Char) : Bytes := cs.flatMap encodeChar

/-- What is read from bytes. -/
inductive Symbol
  | char (c : Char)
  | stray
deriving DecidableEq

/-- A character some bytes of which are still to come; the next one lies between the bounds. -/
structure Open where
  missing : Nat
  low : Nat
  high : Nat
  value : Nat

/-- What a byte that starts a character means. -/
inductive Lead
  | whole (c : Char)
  | opens (o : Open)
  | none

/-- The bounds of the second byte leave out spellings that are too long, surrogates and numbers beyond
the last code point. -/
def lead (b : Nat) : Lead :=
  if b < 0x80 then .whole (.ofNat b)
  else if b < 0xc2 then .none
  else if b < 0xe0 then .opens ⟨1, 0x80, 0xbf, b - 0xc0⟩
  else if b = 0xe0 then .opens ⟨2, 0xa0, 0xbf, 0⟩
  else if b = 0xed then .opens ⟨2, 0x80, 0x9f, 0xd⟩
  else if b < 0xf0 then .opens ⟨2, 0x80, 0xbf, b - 0xe0⟩
  else if b = 0xf0 then .opens ⟨3, 0x90, 0xbf, 0⟩
  else if b < 0xf4 then .opens ⟨3, 0x80, 0xbf, b - 0xf0⟩
  else if b = 0xf4 then .opens ⟨3, 0x80, 0x8f, 4⟩
  else .none

/-- A byte read between characters. -/
def start (b : Nat) : List Symbol × Option Open :=
  match lead b with
  | .whole c => ([.char c], none)
  | .opens o => ([], some o)
  | .none => ([.stray], none)

/-- A byte that does not go on with an open character makes it stray and is read on its own. -/
def step (state : Option Open) (b : Nat) : List Symbol × Option Open :=
  match state with
  | none => start b
  | some o =>
    if o.low ≤ b ∧ b ≤ o.high then
      let value := o.value * 0x40 + (b - 0x80)
      if o.missing = 1 then ([.char (.ofNat value)], none)
      else ([], some ⟨o.missing - 1, 0x80, 0xbf, value⟩)
    else ((.stray :: (start b).1), (start b).2)

def symbolsFrom (state : Option Open) : Bytes → List Symbol
  | [] => if state.isSome then [.stray] else []
  | b :: rest => (step state b.toNat).1 ++ symbolsFrom (step state b.toNat).2 rest

def symbols (bytes : Bytes) : List Symbol := symbolsFrom none bytes

def Symbol.char? : Symbol → Option Char
  | .char c => some c
  | .stray => none

/-- The text that the bytes write, unless one of them is stray. -/
def decode? (bytes : Bytes) : Option String :=
  ((symbols bytes).mapM Symbol.char?).map String.ofList

end Chronicle.Text.Utf8
