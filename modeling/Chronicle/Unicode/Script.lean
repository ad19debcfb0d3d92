import Chronicle.Unicode.CharSet
import Chronicle.Unicode.ScriptTable

/-! # Scripts of characters

Every character has one script; some are used with further ones, or with others than their own. -/
namespace Chronicle.Unicode

/-- Consecutive code points of one script. -/
structure ScriptRun where
  first : Nat
  last : Nat
  script : String

def scriptRunsFrom (next : Nat) : List String → List ScriptRun
  | script :: length :: rest =>
    let count := length.toNat?.getD 0
    ⟨next, next + count - 1, script⟩ :: scriptRunsFrom (next + count) rest
  | _ => []

def scriptRuns : List ScriptRun := scriptRunsFrom 0 (scriptTable.splitOn " ")

/-- Code points with a list of scripts that differs from their own script alone. -/
structure ScriptExtension where
  range : Range
  scripts : List String

def scriptExtensionsFrom (next : Nat) : List String → List ScriptExtension
  | gap :: length :: scripts :: rest =>
    let first := next + gap.toNat?.getD 0
    let count := length.toNat?.getD 0
    ⟨⟨first, first + count - 1⟩, scripts.splitOn "+"⟩ :: scriptExtensionsFrom (first + count) rest
  | _ => []

def scriptExtensions : List ScriptExtension :=
  scriptExtensionsFrom 0 (scriptExtensionTable.splitOn " ")

def capitalised (code : String) : String :=
  match code.toList with
  | [] => ""
  | c :: rest => String.ofList (c.toUpper :: rest)

/-- The code of a script by a spelling of its name in small letters without separators. -/
def scriptCode? (name : String) : Option String :=
  ((scriptNameTable.splitOn " ").map (·.splitOn "=")).findSome? fun spellings =>
    if spellings.contains name then spellings.head?.map capitalised else none

def ofScript (code : String) : CharSet :=
  .ofRanges ((scriptRuns.filter fun r => r.script == code).map fun r => ⟨r.first, r.last⟩)

def scriptSet? (name : String) : Option CharSet := (scriptCode? name).map ofScript

/-- The characters used with a script, whichever is their own. -/
def scriptExtensionSet? (name : String) : Option CharSet :=
  (scriptCode? name).map fun code =>
    let own := (ofScript code).diff (.ofRanges (scriptExtensions.map ScriptExtension.range))
    own.union (.ofRanges ((scriptExtensions.filter fun e => e.scripts.contains code).map
      ScriptExtension.range))

end Chronicle.Unicode
