import Chronicle.Condition.Compile
import Chronicle.Entity.Basic
import Chronicle.Settings.Basic
import Chronicle.Store.Work

/-! # What may be saved -/
namespace Chronicle

/-- Attributes first, then the times, then their order if that is enforced. -/
def Event.check (e : Event) (settings : Settings) : Except Error Unit := do
  settings.keyPolicy.checkAttributes e.attributes
  e.startTime.check "start"
  e.endTime.check "end"
  if settings.enforceInterval && compare e.startTime e.endTime == .gt then
    .error (.endsBeforeStart e.uuid)
  else .ok ()

def Event.checkEach (settings : Settings) : List Event → Except Error Unit
  | [] => .ok ()
  | e :: rest => do
    e.check settings
    checkEach settings rest

/-- A predicate must compile for events and leaves no room for edits of the membership. -/
def Catalogue.checkPredicate [Regex.Library] (c : Catalogue) : Except Error Unit :=
  match c.predicate with
  | none => .ok ()
  | some p =>
    if c.hasPendingEdits then .error (.computedMembership c.name)
    else (p.compile .event).map fun _ => ()

def Catalogue.check [Regex.Library] (c : Catalogue) (settings : Settings) : Except Error Unit := do
  settings.keyPolicy.checkAttributes c.attributes
  c.checkPredicate
  Event.checkEach settings c.additions

namespace Entity

def check [Regex.Library] (settings : Settings) : Entity → Except Error Unit
  | event e => e.check settings
  | catalogue c => c.check settings

def checkEach [Regex.Library] (settings : Settings) : List Entity → Except Error Unit
  | [] => .ok ()
  | e :: rest => do
    e.check settings
    checkEach settings rest

end Entity

end Chronicle
