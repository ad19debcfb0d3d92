import Chronicle.Regex.Basic
import Chronicle.Regex.Reach
import Chronicle.Regex.Reader
import Chronicle.Regex.Weight

/-! # A library to run with

Patterns that are read here, as far as they are not too large, and matched by the positions that they
reach. -/
namespace Chronicle.Regex

def Pattern.ofText? (source : String) : Option Pattern :=
  (Pattern.read? source.toList).filter fun p => p.weight ≤ weightLimit

def Pattern.isFound (p : Pattern) (text : String) : Bool :=
  let places := places text.toList
  let everywhere : Positions := 1 <<< places.length - 1
  (p.route places).reach places.length everywhere != 0

instance standard : Library where
  isReadable pattern := (Pattern.ofText? pattern).isSome
  isFound pattern text := (Pattern.ofText? pattern).any (·.isFound text)

end Chronicle.Regex
