import Chronicle.KeyPolicy

/-! # Settings -/
namespace Chronicle

/-- Where a database is kept. -/
inductive Place
  | memory
  | file (path : String)
deriving DecidableEq

structure Settings where
  /-- In memory when there is no path. -/
  database : Option String
  caseInsensitiveKeys : Bool
  /-- Refuses events that end before they start. -/
  enforceInterval : Bool
deriving DecidableEq

namespace Settings

def standard : Settings := ⟨none, false, false⟩

/-- A path that stands for memory. -/
def memoryPath : String := ":memory:"

def place (s : Settings) : Place :=
  match s.database with
  | none => .memory
  | some path => if path = memoryPath then .memory else .file path

def keyPolicy (s : Settings) : KeyPolicy :=
  if s.caseInsensitiveKeys then .caseInsensitive else .strict

theorem place_eq_memory_iff {s : Settings} :
    s.place = .memory ↔ s.database = none ∨ s.database = some memoryPath := by
  unfold place
  cases s.database with
  | none => simp
  | some path => by_cases h : path = memoryPath <;> simp [h]

end Settings

end Chronicle
