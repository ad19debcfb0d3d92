import Chronicle.Regex.Flags
import Chronicle.Regex.Pattern
import Chronicle.Regex.PropertyName
import Chronicle.Text.Digits

/-! # Escapes in patterns

What follows a backslash: a character by its number or name, a class, or a condition on the position. -/
namespace Chronicle.Regex
open Unicode Text

/-- What a single item of a pattern stands for before it is known where it stands. -/
inductive Atom
  /-- A character; `byte` when it is written as two hexadecimal digits. -/
  | char (c : Char) (byte : Bool)
  | set (s : CharSet)
  | look (l : Look)

def isMeta (c : Char) : Bool :=
  ['\\', '.', '+', '*', '?', '(', ')', '|', '[', ']', '\x7b', '\x7d', '^', '$', '#', '&', '-', '~'].contains c

/-- Punctuation and control characters may be escaped without need; letters and digits have to mean
something. -/
def isEscapable (c : Char) : Bool :=
  isMeta c || (decide (c.toNat < 128) && !c.isAlphanum && c != '<' && c != '>')

def hexValue? (c : Char) : Option Nat :=
  if c.isDigit then some (digitValue c)
  else if 'a' ≤ c ∧ c ≤ 'f' then some (c.toNat - 'a'.toNat + 10)
  else if 'A' ≤ c ∧ c ≤ 'F' then some (c.toNat - 'A'.toNat + 10)
  else none

def charOfNat? (n : Nat) : Option Char := if n.isValidChar then some (.ofNat n) else none

/-- Reads exactly `count` hexadecimal digits. -/
def readHex? (f : Flags) : Nat → Nat → List Char → Option (Nat × List Char)
  | 0, value, cs => some (value, cs)
  | count + 1, value, cs =>
    match cs with
    | c :: rest => (hexValue? c).bind fun d => readHex? f count (16 * value + d) (f.skip rest)
    | [] => none

/-- Splits at the closing brace, which must be there. -/
def splitBrace? (cs : List Char) : Option (List Char × List Char) := splitAt? ['\x7d'] cs

/-- A character by its number: in braces, or by as many digits as the letter asks for. -/
def readNumbered? (f : Flags) (digits : Nat) (cs : List Char) : Option (Atom × List Char) :=
  match f.skip cs with
  | '\x7b' :: rest => do
    let (body, rest) ← splitBrace? rest
    let values ← (f.strip body).mapM hexValue?
    if values.isEmpty then none
    else do
      let c ← charOfNat? (values.foldl (fun n d => 16 * n + d) 0)
      some (.char c false, f.skip rest)
  | cs => do
    let (n, rest) ← readHex? f digits 0 cs
    let c ← charOfNat? n
    some (.char c (digits == 2), rest)

/-- A class of a property, by one letter or by a name in braces. Properties need Unicode. -/
def readProperty? (f : Flags) (negated : Bool) (cs : List Char) : Option (Atom × List Char) :=
  let set (name : List Char) (rest : List Char) : Option (Atom × List Char) :=
    if f.unicode then do
      let (s, inverted) ← propertySetOf? name
      let s ← f.finish? (negated != inverted) s
      some (.set s, rest)
    else none
  match f.skip cs with
  | [] => none
  | '\x7b' :: rest => (splitBrace? rest).bind fun (body, rest) => set (f.strip body) rest
  | '\\' :: _ => none
  | c :: rest => set [c] (f.skip rest)

def isLookName (c : Char) : Bool := c.isAlpha || c == '-'

/-- A boundary of words, which may be narrowed down in braces. Braces that hold something else are left
to be a count. -/
def readBoundary? (f : Flags) (cs : List Char) : Option (Atom × List Char) :=
  let ascii := !f.unicode
  match cs with
  | '\x7b' :: inner =>
    match f.skip inner with
    | [] => none
    | c :: _ =>
      if isLookName c then do
        let (body, rest) ← splitBrace? inner
        let l ← match String.ofList (f.strip body) with
          | "start" => some (Look.wordStart ascii)
          | "end" => some (.wordEnd ascii)
          | "start-half" => some (.wordStartHalf ascii)
          | "end-half" => some (.wordEndHalf ascii)
          | _ => none
        some (.look l, rest)
      else some (.look (.wordBoundary ascii), cs)
  | _ => some (.look (.wordBoundary ascii), cs)

/-- Reads what follows a backslash. There are no references to groups. -/
def readEscape? (f : Flags) (cs : List Char) : Option (Atom × List Char) :=
  match cs with
  | [] => none
  | 'x' :: rest => readNumbered? f 2 rest
  | 'u' :: rest => readNumbered? f 4 rest
  | 'U' :: rest => readNumbered? f 8 rest
  | 'p' :: rest => readProperty? f false rest
  | 'P' :: rest => readProperty? f true rest
  | 'a' :: rest => some (.char '\x07' false, rest)
  | 'f' :: rest => some (.char '\x0c' false, rest)
  | 't' :: rest => some (.char '\t' false, rest)
  | 'n' :: rest => some (.char '\n' false, rest)
  | 'r' :: rest => some (.char '\r' false, rest)
  | 'v' :: rest => some (.char '\x0b' false, rest)
  | 'A' :: rest => some (.look .textStart, rest)
  | 'z' :: rest => some (.look .textEnd, rest)
  | 'b' :: rest => readBoundary? f rest
  | 'B' :: rest => some (.look (.noWordBoundary (!f.unicode)), rest)
  | '<' :: rest => some (.look (.wordStart (!f.unicode)), rest)
  | '>' :: rest => some (.look (.wordEnd (!f.unicode)), rest)
  | c :: rest =>
    if ['d', 'D', 's', 'S', 'w', 'W'].contains c then
      (f.letterClass? c).map fun s => (.set s, rest)
    else if isEscapable c then some (.char c false, rest)
    else none

/-- Without Unicode a byte beyond ASCII could match part of a character. -/
def Atom.allowed (f : Flags) : Atom → Bool
  | .char c true => f.unicode || decide (c.toNat < 128)
  | _ => true

end Chronicle.Regex
