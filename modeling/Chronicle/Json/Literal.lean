import Chronicle.Text.Utf8

/-! # Text literals of interchange text

A literal keeps its pieces as they are written. Only when its text is asked for must the pieces stand
for characters. -/
namespace Chronicle.Json
open Text

/-- What stands between quotation marks. -/
inductive Piece
  | plain (c : Char)
  /-- A byte that writes no character. -/
  | stray
  /-- A backslash and a character that names another one. -/
  | short (c : Char)
  /-- A UTF-16 unit by its number. -/
  | unit (n : Nat)
deriving DecidableEq

abbrev Literal := List Piece

/-- The character that an escape with one letter stands for. -/
def shortMeaning? : Char → Option Char
  | '"' => some '"'
  | '\\' => some '\\'
  | '/' => some '/'
  | 'b' => some '\x08'
  | 'f' => some '\x0c'
  | 'n' => some '\n'
  | 'r' => some '\r'
  | 't' => some '\t'
  | _ => none

/-- The letter of the escape that a character is written with. -/
def shortName? : Char → Option Char
  | '"' => some '"'
  | '\\' => some '\\'
  | '\x08' => some 'b'
  | '\x0c' => some 'f'
  | '\n' => some 'n'
  | '\r' => some 'r'
  | '\t' => some 't'
  | _ => none

theorem shortMeaning?_shortName {c d : Char} (h : shortName? c = some d) :
    shortMeaning? d = some c := by
  unfold shortName? at h
  split at h <;> simp_all [shortMeaning?] <;> subst h <;> rfl

def isHighSurrogate (n : Nat) : Bool := decide (0xd800 ≤ n) && decide (n < 0xdc00)

def isLowSurrogate (n : Nat) : Bool := decide (0xdc00 ≤ n) && decide (n < 0xe000)

namespace Literal

def ofChar (c : Char) : Piece :=
  match shortName? c with
  | some d => .short d
  | none => if c.toNat < 0x20 then .unit c.toNat else .plain c

def ofText (s : String) : Literal := s.toList.map ofChar

/-- Two surrogates make one character only side by side and in order. -/
def toChars? : Literal → Option (List Char)
  | [] => some []
  | .plain c :: rest => (toChars? rest).map (c :: ·)
  | .stray :: _ => none
  | .short c :: rest => (shortMeaning? c).bind fun d => (toChars? rest).map (d :: ·)
  | .unit high :: .unit low :: rest =>
    if isHighSurrogate high then
      if isLowSurrogate low then
        (toChars? rest).map (.ofNat (0x10000 + (high - 0xd800) * 0x400 + (low - 0xdc00)) :: ·)
      else none
    else if isLowSurrogate high then none
    else (toChars? (.unit low :: rest)).map (.ofNat high :: ·)
  | .unit n :: rest =>
    if isHighSurrogate n || isLowSurrogate n then none else (toChars? rest).map (.ofNat n :: ·)

def toText? (l : Literal) : Option String := (toChars? l).map String.ofList

end Literal

/-- Four hexadecimal digits. -/
def hexUnit (n : Nat) : List Char :=
  [n / 0x1000 % 16, n / 0x100 % 16, n / 0x10 % 16, n % 16].map Nat.digitChar

/-- A stray byte has no characters. -/
def Piece.chars : Piece → List Char
  | .plain c => [c]
  | .stray => []
  | .short c => ['\\', c]
  | .unit n => '\\' :: 'u' :: hexUnit n

def Literal.chars (l : Literal) : List Char := '"' :: l.flatMap Piece.chars ++ ['"']

end Chronicle.Json
