/-! # Keys of attributes

A key starts with a letter and goes on with letters, digits and underscores, all of them ASCII. -/
namespace Chronicle

inductive KeyPolicy
  /-- Small letters only. -/
  | strict
  | caseInsensitive
deriving DecidableEq

namespace KeyPolicy

def isSmall (c : Char) : Bool := decide ('a' ≤ c) && decide (c ≤ 'z')

def isCapital (c : Char) : Bool := decide ('A' ≤ c) && decide (c ≤ 'Z')

def isLetter : KeyPolicy → Char → Bool
  | strict, c => isSmall c
  | caseInsensitive, c => isSmall c || isCapital c

def mayFollow (p : KeyPolicy) (c : Char) : Bool := p.isLetter c || c == '_' || c.isDigit

def acceptsChars (p : KeyPolicy) : List Char → Bool
  | [] => false
  | c :: rest => p.isLetter c && rest.all p.mayFollow

def accepts (p : KeyPolicy) (key : String) : Bool := p.acceptsChars key.toList

end KeyPolicy

end Chronicle
