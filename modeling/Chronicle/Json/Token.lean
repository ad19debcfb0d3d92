import Chronicle.Json.Literal
import Chronicle.Json.Numeral

/-! # Tokens of interchange text

The lexer is a machine that takes one symbol at a time, so a text of two parts is lexed by lexing the
parts in turn. A numeral ends at the first symbol that cannot belong to it. -/
namespace Chronicle.Json
open Text Utf8

inductive Token
  | openArray
  | closeArray
  | openObject
  | closeObject
  | comma
  | colon
  | null
  | bool (b : Bool)
  | number (n : Numeral)
  | text (l : Literal)
deriving DecidableEq

namespace Token

def chars : Token → List Char
  | openArray => ['[']
  | closeArray => [']']
  | openObject => ['\x7b']
  | closeObject => ['\x7d']
  | comma => [',']
  | colon => [':']
  | null => ['n', 'u', 'l', 'l']
  | bool true => ['t', 'r', 'u', 'e']
  | bool false => ['f', 'a', 'l', 's', 'e']
  | number n => n.chars
  | text l => l.chars

/-- Which part of a numeral was read last. -/
inductive NumeralPart
  | minus
  | zero
  | whole
  | point
  | fraction
  | exponentMark
  | exponentSign
  | exponent

/-- A numeral being read, its digits in reverse. -/
structure OpenNumeral where
  part : NumeralPart
  negative : Bool
  whole : List Char
  fraction : List Char
  exponentNegative : Bool
  exponent : List Char

namespace OpenNumeral

def begin (c : Char) : Option OpenNumeral :=
  if c = '-' then some ⟨.minus, true, [], [], false, []⟩
  else if c = '0' then some ⟨.zero, false, ['0'], [], false, []⟩
  else if c.isDigit then some ⟨.whole, false, [c], [], false, []⟩
  else none

/-- The numeral with one more character, if it can have it. -/
def extend? (n : OpenNumeral) (c : Char) : Option OpenNumeral :=
  match n.part with
  | .minus =>
    if c = '0' then some { n with part := .zero, whole := ['0'] }
    else if c.isDigit then some { n with part := .whole, whole := [c] }
    else none
  | .zero =>
    if c = '.' then some { n with part := .point }
    else if c = 'e' ∨ c = 'E' then some { n with part := .exponentMark }
    else none
  | .whole =>
    if c.isDigit then some { n with whole := c :: n.whole }
    else if c = '.' then some { n with part := .point }
    else if c = 'e' ∨ c = 'E' then some { n with part := .exponentMark }
    else none
  | .point => if c.isDigit then some { n with part := .fraction, fraction := [c] } else none
  | .fraction =>
    if c.isDigit then some { n with fraction := c :: n.fraction }
    else if c = 'e' ∨ c = 'E' then some { n with part := .exponentMark }
    else none
  | .exponentMark =>
    if c.isDigit then some { n with part := .exponent, exponent := [c] }
    else if c = '+' then some { n with part := .exponentSign }
    else if c = '-' then some { n with part := .exponentSign, exponentNegative := true }
    else none
  | .exponentSign => if c.isDigit then some { n with part := .exponent, exponent := [c] } else none
  | .exponent => if c.isDigit then some { n with exponent := c :: n.exponent } else none

/-- A digit must follow a sign, a point and an exponent mark. -/
def finish? (n : OpenNumeral) : Option Numeral :=
  let numeral (exponent : Option Int) : Numeral :=
    ⟨n.negative, n.whole.reverse, n.fraction.reverse, exponent⟩
  match n.part with
  | .zero | .whole | .fraction => some (numeral none)
  | .exponent =>
    let size : Int := natOfDigits n.exponent.reverse
    some (numeral (some (if n.exponentNegative then -size else size)))
  | _ => none

end OpenNumeral

/-- What the lexer is in the middle of. Pieces of a literal are kept in reverse. -/
inductive State
  | between
  | numeral (n : OpenNumeral)
  /-- The characters of a word that are still to come. -/
  | word (rest : List Char) (token : Token)
  | literal (pieces : Literal)
  | escape (pieces : Literal)
  | unit (pieces : Literal) (missing value : Nat)

def hexValue? (c : Char) : Option Nat :=
  if c.isDigit then some (digitValue c)
  else if 'a' ≤ c ∧ c ≤ 'f' then some (c.toNat - 'a'.toNat + 10)
  else if 'A' ≤ c ∧ c ≤ 'F' then some (c.toNat - 'A'.toNat + 10)
  else none

/-- Space, tabulator and the two line breaks. -/
def isGap (c : Char) : Bool := c == ' ' || c == '\n' || c == '\t' || c == '\r'

/-- A character read between tokens. -/
def start (c : Char) : Option (List Token × State) :=
  if isGap c then some ([], .between)
  else match c with
    | '[' => some ([openArray], .between)
    | ']' => some ([closeArray], .between)
    | '\x7b' => some ([openObject], .between)
    | '\x7d' => some ([closeObject], .between)
    | ',' => some ([comma], .between)
    | ':' => some ([colon], .between)
    | '"' => some ([], .literal [])
    | 'n' => some ([], .word ['u', 'l', 'l'] null)
    | 't' => some ([], .word ['r', 'u', 'e'] (bool true))
    | 'f' => some ([], .word ['a', 'l', 's', 'e'] (bool false))
    | _ => (OpenNumeral.begin c).map fun n => ([], .numeral n)

/-- Control characters may not stand in a literal; stray bytes may stand nowhere else. -/
def step : State → Symbol → Option (List Token × State)
  | .literal pieces, .stray => some ([], .literal (.stray :: pieces))
  | _, .stray => none
  | .between, .char c => start c
  | .numeral n, .char c =>
    match n.extend? c with
    | some n' => some ([], .numeral n')
    | none => do
      let numeral ← n.finish?
      let (tokens, state) ← start c
      some (number numeral :: tokens, state)
  | .word (d :: rest) token, .char c =>
    if c = d then
      if rest.isEmpty then some ([token], .between) else some ([], .word rest token)
    else none
  | .word [] _, .char _ => none
  | .literal pieces, .char c =>
    if c = '"' then some ([text pieces.reverse], .between)
    else if c = '\\' then some ([], .escape pieces)
    else if c.toNat < 0x20 then none
    else some ([], .literal (.plain c :: pieces))
  | .escape pieces, .char c =>
    if c = 'u' then some ([], .unit pieces 4 0)
    else (shortMeaning? c).map fun _ => ([], .literal (.short c :: pieces))
  | .unit pieces missing value, .char c => do
    let digit ← hexValue? c
    let value := 16 * value + digit
    if missing ≤ 1 then some ([], .literal (.unit value :: pieces))
    else some ([], .unit pieces (missing - 1) value)

def finish? : State → Option (List Token)
  | .between => some []
  | .numeral n => n.finish?.map fun m => [number m]
  | _ => none

def lexFrom? (state : State) : List Symbol → Option (List Token)
  | [] => finish? state
  | s :: rest => do
    let (tokens, state) ← step state s
    (lexFrom? state rest).map (tokens ++ ·)

/-- The tokens of a text, if it consists of tokens. -/
def lex? (bytes : Bytes) : Option (List Token) := lexFrom? .between (symbols bytes)

end Token

end Chronicle.Json
