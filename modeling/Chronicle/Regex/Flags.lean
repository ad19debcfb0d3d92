import Chronicle.Text.Blank
import Chronicle.Unicode.Folding
import Chronicle.Unicode.Property

/-! # Flags of regular expressions -/
namespace Chronicle.Regex
open Unicode

structure Flags where
  ignoreCase : Bool
  multiLine : Bool
  dotAll : Bool
  swapGreed : Bool
  unicode : Bool
  ignoreBlanks : Bool
  anyLineBreak : Bool

namespace Flags

def initial : Flags := ⟨false, false, false, false, true, false, false⟩

/-- Sets the flag of a letter. -/
def set? (f : Flags) (letter : Char) (on : Bool) : Option Flags :=
  match letter with
  | 'i' => some { f with ignoreCase := on }
  | 'm' => some { f with multiLine := on }
  | 's' => some { f with dotAll := on }
  | 'U' => some { f with swapGreed := on }
  | 'u' => some { f with unicode := on }
  | 'x' => some { f with ignoreBlanks := on }
  | 'R' => some { f with anyLineBreak := on }
  | _ => none

/-- Reads letters, of which each may come once; those behind the only minus are switched off. -/
def read? (f : Flags) (seen : List Char) (on : Bool) : List Char → Option Flags
  | [] => if seen.head? = some '-' then none else some f
  | '-' :: rest => if on then read? f ('-' :: seen) false rest else none
  | c :: rest =>
    if seen.contains c then none else (f.set? c on).bind fun f' => read? f' (c :: seen) on rest

/-- Passes over white space and comments while they are ignored; `inside` is set within a comment. -/
def skipFrom (inside : Bool) : List Char → List Char
  | [] => []
  | c :: rest =>
    if inside then skipFrom (c != '\n') rest
    else if Text.isBlank c then skipFrom false rest
    else if c = '#' then skipFrom true rest
    else c :: rest

def skip (f : Flags) (cs : List Char) : List Char :=
  if f.ignoreBlanks then skipFrom false cs else cs

/-- Text without the white space and comments that are ignored. -/
def stripFrom (inside : Bool) : List Char → List Char
  | [] => []
  | c :: rest =>
    if inside then stripFrom (c != '\n') rest
    else if Text.isBlank c then stripFrom false rest
    else if c = '#' then stripFrom true rest
    else c :: stripFrom false rest

def strip (f : Flags) (cs : List Char) : List Char :=
  if f.ignoreBlanks then stripFrom false cs else cs

/-- A set that a class names, closed under case if case is ignored. Without Unicode only ASCII
characters may be left, so that no part of a character is matched. -/
def finish? (f : Flags) (negated : Bool) (s : CharSet) : Option CharSet :=
  if f.unicode then
    let closed := if f.ignoreCase then s.closeCase else s
    some (if negated then closed.complement else closed)
  else if negated || !s.isAscii then none
  else some (if f.ignoreCase then s.closeAsciiCase else s)

/-- The set of one character. -/
def charSet (f : Flags) (c : Char) : CharSet :=
  let s := CharSet.singleton c
  if f.ignoreCase then
    if f.unicode then s.closeCase else if c.toNat < 128 then s.closeAsciiCase else s
  else s

/-- What the dot stands for; without Unicode it could match part of a character. -/
def dot? (f : Flags) : Option CharSet :=
  if !f.unicode then none
  else if f.dotAll then some .all
  else if f.anyLineBreak then
    some (CharSet.ofRanges [⟨10, 10⟩, ⟨13, 13⟩]).complement
  else some (CharSet.singleton '\n').complement

def asciiDigits : CharSet := .range 48 57

def asciiBlanks : CharSet := .ofRanges [⟨9, 13⟩, ⟨32, 32⟩]

def asciiWord : CharSet := .ofRanges [⟨48, 57⟩, ⟨65, 90⟩, ⟨95, 95⟩, ⟨97, 122⟩]

/-- The classes of digits, white space and word characters by their letter; a capital negates. -/
def letterClass? (f : Flags) (letter : Char) : Option CharSet :=
  let pick (unicode ascii : CharSet) (negated : Bool) : Option CharSet :=
    if f.unicode then some (if negated then unicode.complement else unicode)
    else if negated then none else some ascii
  match letter with
  | 'd' => pick digitSet asciiDigits false
  | 'D' => pick digitSet asciiDigits true
  | 's' => pick blankSet asciiBlanks false
  | 'S' => pick blankSet asciiBlanks true
  | 'w' => pick wordSet asciiWord false
  | 'W' => pick wordSet asciiWord true
  | _ => none

end Flags

end Chronicle.Regex
