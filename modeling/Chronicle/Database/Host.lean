import Chronicle.Database.Query

/-! # Databases by name

A host has several databases open at once. A database in memory ends with its handle; one in a file is
found again by every handle that opens the file. Entities and their links belong to no database. -/
namespace Chronicle

/-- An open database: its settings, and its store unless that is in a file. -/
structure Handle where
  settings : Settings
  own : Store

structure Host where
  /-- Where files can be made. -/
  directories : List String
  files : SortedMap String Store
  handles : SortedMap String Handle
  links : Links

namespace Host

def start (directories : List String) : Host := ⟨directories, .empty, .empty, .none⟩

/-- The part of a path before its last slash; a path without one is in the directory `.`. -/
def directoryOf (path : String) : String :=
  let cs := path.toList
  if cs.contains '/' then
    let before := ((cs.reverse.dropWhile (· != '/')).drop 1).reverse
    if before.isEmpty then "/" else String.ofList before
  else "."

def canOpen (h : Host) (path : String) : Bool :=
  h.directories.contains (directoryOf path) && !h.directories.contains path

/-- Opens a database under a name; a file that is not there yet is made. A path without characters
stands for a file of one's own that nobody finds again. -/
def openDatabase (h : Host) (name : String) (settings : Settings) : Except Error Host :=
  let opened := { h with handles := h.handles.insert name ⟨settings, .empty⟩ }
  match settings.place with
  | .memory => .ok opened
  | .file path =>
    if path = "" then .ok opened
    else if h.files.contains path then .ok opened
    else if h.canOpen path then .ok { opened with files := h.files.insert path .empty }
    else .error (.store .cannotOpen)

/-- The path that a handle shares with others. -/
def Handle.path? (d : Handle) : Option String :=
  match d.settings.place with
  | .memory => none
  | .file path => if path = "" then none else some path

def store (h : Host) (d : Handle) : Store :=
  match Handle.path? d with
  | none => d.own
  | some path => (h.files.get? path).getD .empty

def withStore (h : Host) (name : String) (d : Handle) (s : Store) : Host :=
  match Handle.path? d with
  | none => { h with handles := h.handles.insert name { d with own := s } }
  | some path => { h with files := h.files.insert path s }

/-- Closes a database and opens it again with the settings it had. -/
def reopen (h : Host) (name : String) : Except Error Host :=
  match h.handles.get? name with
  | none => .ok h
  | some d => h.openDatabase name d.settings

/-- Runs something in the world of a database, whose changes stay also when it fails. -/
def within {α : Type} (h : Host) (name : String) (d : Handle) (run : EStateM Error World α) :
    Except Error α × Host :=
  match run ⟨h.store d, h.links⟩ with
  | .ok a w => (.ok a, { h.withStore name d w.store with links := w.links })
  | .error e w => (.error e, { h.withStore name d w.store with links := w.links })

end Host

end Chronicle
