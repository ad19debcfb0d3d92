import Chronicle.Error
import Chronicle.Settings.Basic
import Chronicle.Settings.Standard

/-! # Loading settings

Members are taken from the environment, else from a file, else from the standard settings. What is not a
member does not matter, but a file must be readable as a whole. -/
namespace Chronicle.Settings

/-- What the names of environment variables start with, in any case. -/
def variablePrefix : String := "catalogue_"

/-- The member that a variable sets. One with a path into a member makes it compound. -/
def ofVariable? [Formats] (name value : String) : Option (String × Setting) :=
  let name := (Setting.small name).toList
  let mark := variablePrefix.toList
  if mark.isPrefixOf name then
    let key := String.ofList (name.drop mark.length)
    match Formats.into? key with
    | some member => some (member, .compound)
    | none => some (key, .guess value)
  else none

/-- The setting of a member: of several the last one counts. -/
def member? (settings : List (String × Setting)) (name : String) : Option Setting :=
  (settings.reverse.find? fun e => e.1 == name).map Prod.snd

def databaseMember? : Option Setting → Option (Option String)
  | none => some standard.database
  | some .nothing => some none
  | some s => s.asText?.map some

def flagMember? (default : Bool) : Option Setting → Option Bool
  | none => some default
  | some s => s.asBoolean?

def ofMembers? (settings : List (String × Setting)) : Option Settings := do
  let database ← databaseMember? (member? settings "database")
  let keys ← flagMember? standard.caseInsensitiveKeys (member? settings "case_insensitive_keys")
  let interval ← flagMember? standard.enforceInterval (member? settings "enforce_interval")
  some ⟨database, keys, interval⟩

/-- Loads settings from a file, if one is given, and the environment. -/
def load [Formats] (file : Option Source) (environment : List (String × String)) : Except Error Settings :=
  let fromFile := match file with
    | none => some []
    | some source => Formats.members? source
  let fromEnvironment := environment.filterMap fun (name, value) => ofVariable? name value
  match fromFile.bind fun settings => ofMembers? (settings ++ fromEnvironment) with
  | some s => .ok s
  | none => .error .settings

end Chronicle.Settings
