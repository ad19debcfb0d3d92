/-! # Regular expressions

Which patterns can be read, and in which texts they are found, is up to a library of regular expressions.
Nothing is assumed of it. -/
namespace Chronicle

class Regex.Library where
  isReadable (pattern : String) : Bool
  /-- Whether some part of a text, which may be empty, is matched by a pattern. -/
  isFound (pattern text : String) : Bool

/-- The text of a pattern that the library can read. -/
structure Regex [Regex.Library] where
  source : String
  readable : Regex.Library.isReadable source = true

namespace Regex

variable [Library]

def compile? (source : String) : Option Regex :=
  if h : Library.isReadable source = true then some ⟨source, h⟩ else none

def isMatch (r : Regex) (text : String) : Bool := Library.isFound r.source text

end Regex

end Chronicle
