import Chronicle.Settings.Setting

/-! # Formats of settings files

Which files can be read, what they set, and which keys are paths into a member is up to a library of
formats. All that is assumed is that a key without points and brackets is no path. -/
namespace Chronicle.Settings

/-- A settings file: the end of its name, and what it holds if it exists. -/
structure Source where
  format : String
  content : Option String
deriving DecidableEq

/-- Whether nothing in a key can lead from one member into another. -/
def isPlainKey (key : String) : Bool := key.toList.all fun c => c != '.' && c != '['

class Formats where
  /-- What a file sets, member by member, if it can be read. -/
  members? (file : Source) : Option (List (String × Setting))
  /-- The member that a key is a path into. -/
  into? (key : String) : Option String
  into?_of_isPlainKey : ∀ {key : String}, isPlainKey key = true → into? key = none

end Chronicle.Settings
