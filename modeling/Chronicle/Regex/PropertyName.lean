import Chronicle.Unicode.Property
import Chronicle.Unicode.Script

/-! # Property names in patterns

A name alone is that of a binary property, a general category or a script; a name with a value asks for a
category, a script, or the scripts that a character is used with. Case, blanks and separators do not count. -/
namespace Chronicle.Regex
open Unicode

/-- Small letters only, without separators and without a leading "is". -/
def looseName (name : List Char) : String :=
  let kept := fun (cs : List Char) =>
    (cs.filter fun c => decide (c.toNat < 128) && c != ' ' && c != '_' && c != '-').map Char.toLower
  match name with
  | a :: b :: rest =>
    if (a = 'i' ∨ a = 'I') ∧ (b = 's' ∨ b = 'S') then
      let body := kept rest
      String.ofList (if body = ['c'] then ['i', 's', 'c'] else body)
    else String.ofList (kept name)
  | _ => String.ofList (kept name)

/-- Three abbreviations stand for categories although properties have them too. -/
def namedSet? (name : String) : Option CharSet :=
  if name = "cf" ∨ name = "sc" ∨ name = "lc" then categorySet? name
  else (propertySet? name).or ((categorySet? name).or (scriptSet? name))

def valuedSet? (name value : String) : Option CharSet :=
  if name = "gc" ∨ name = "generalcategory" then categorySet? value
  else if name = "sc" ∨ name = "script" then scriptSet? value
  else if name = "scx" ∨ name = "scriptextensions" then scriptExtensionSet? value
  else none

/-- Splits at the first place where `mark` stands. -/
def splitAt? (mark : List Char) : List Char → Option (List Char × List Char)
  | [] => none
  | c :: rest =>
    if mark.isPrefixOf (c :: rest) then some ([], (c :: rest).drop mark.length)
    else (splitAt? mark rest).map fun (before, after) => (c :: before, after)

/-- The set of a name as it is written, and whether an inequality negates it. -/
def propertySetOf? (name : List Char) : Option (CharSet × Bool) :=
  match splitAt? ['!', '='] name with
  | some (n, v) => (valuedSet? (looseName n) (looseName v)).map (·, true)
  | none =>
    match (splitAt? [':'] name).or (splitAt? ['='] name) with
    | some (n, v) => (valuedSet? (looseName n) (looseName v)).map (·, false)
    | none => (namedSet? (looseName name)).map (·, false)

end Chronicle.Regex
