import Chronicle.Database.Validate
import Chronicle.Predicate.Stored
import Chronicle.Store.Work

/-! # Saving

Entities are checked first and then written in one transaction, in their order. A catalogue has its
removals applied before its additions; removing an event that has no row cancels its addition, and an
added event that has no row is written on the way. Links learn their rows at the end, so within a batch a
new event is known by its uuid and a new catalogue by its link. -/
namespace Chronicle

namespace Event

def cells (e : Event) : Store.EventCells :=
  ⟨e.uuid, e.startTime.storedText, e.endTime.storedText, e.author⟩

end Event

namespace Catalogue

def cells (c : Catalogue) : Store.CatalogueCells :=
  let stored := Predicate.Stored.of c.predicate
  ⟨c.name, c.author, (stored.bytes.map Cell.blob).getD .null, (stored.digest.map Cell.text).getD .null⟩

end Catalogue

/-- What a batch knows while it is written. -/
structure Batch where
  store : Store
  /-- The rows of events that were inserted, by uuid. -/
  events : SortedMap String RowId
  /-- The rows of catalogues that were inserted, by link. -/
  catalogues : List (Link × RowId)
  /-- What links are to learn, the latest first. -/
  assignments : List (Link × RowId)

abbrev BatchWork (α : Type) := EStateM Error Batch α

namespace Batch

def begin (s : Store) : Batch := ⟨s, .empty, [], []⟩

variable {α : Type}

/-- Work on the store of the batch. -/
def onStore (w : Work α) : BatchWork α := fun b =>
  match w b.store with
  | .ok a s => .ok a { b with store := s }
  | .error e s => .error e { b with store := s }

def note (l : Link) (id : RowId) : BatchWork Unit :=
  modify fun b => { b with assignments := (l, id) :: b.assignments }

/-- The row of an event, be it new. -/
def eventRow? (ls : Links) (e : Event) (b : Batch) : Option RowId :=
  (ls.row? e.link).or (b.events.get? e.uuid)

/-- The row of a catalogue, be it new. -/
def catalogueRow? (ls : Links) (c : Catalogue) (b : Batch) : Option RowId :=
  (ls.row? c.link).or ((b.catalogues.find? fun (l, _) => l == c.link).map Prod.snd)

def writeEvent (ls : Links) (e : Event) : BatchWork RowId := do
  match (← get).eventRow? ls e with
  | some id =>
    onStore (Work.change fun s => (s.updateEvent id e.cells).map ((), ·))
    pure id
  | none =>
    let id ← onStore (Work.change fun s => s.insertEvent e.cells)
    modify fun b => { b with events := b.events.insert e.uuid id }
    pure id

/-- What the link of an event without a row is to learn. -/
def noteNew (ls : Links) (e : Event) (id : RowId) : BatchWork Unit :=
  if (ls.row? e.link).isNone then note e.link id else pure ()

def saveEvent (settings : Settings) (ls : Links) (e : Event) : BatchWork RowId := do
  let id ← writeEvent ls e
  noteNew ls e id
  onStore (Store.syncAttributes settings.keyPolicy .event id e.attributes)
  pure id

def writeCatalogue (ls : Links) (c : Catalogue) : BatchWork RowId := do
  match (← get).catalogueRow? ls c with
  | some id =>
    onStore (Work.change fun s => .ok ((), s.updateCatalogue id c.cells))
    pure id
  | none =>
    let id ← onStore (Work.change fun s => s.insertCatalogue c.cells)
    modify fun b => { b with catalogues := b.catalogues ++ [(c.link, id)] }
    note c.link id
    pure id

/-- Removes members; gives the additions that are left. -/
def applyRemovals (ls : Links) (id : RowId) : List Event → List Event → BatchWork (List Event)
  | [], additions => pure additions
  | e :: rest, additions => do
    match (← get).eventRow? ls e with
    | some event =>
      let _ ← onStore (Work.change fun s => .ok (s.removeMember id event))
      applyRemovals ls id rest additions
    | none => applyRemovals ls id rest (additions.filter fun a => a.uuid != e.uuid)

/-- The row of an added event, which is written if there is none. -/
def additionRow (settings : Settings) (ls : Links) (e : Event) : BatchWork RowId := do
  match (← get).eventRow? ls e with
  | some event => pure event
  | none => saveEvent settings ls e

def applyAdditions (settings : Settings) (ls : Links) (id : RowId) : List Event → BatchWork Unit
  | [] => pure ()
  | e :: rest => do
    let event ← additionRow settings ls e
    let _ ← onStore (Work.change fun s => s.addMember id event)
    applyAdditions settings ls id rest

def saveCatalogue (settings : Settings) (ls : Links) (c : Catalogue) : BatchWork RowId := do
  let id ← writeCatalogue ls c
  let additions ← applyRemovals ls id c.removals c.additions
  applyAdditions settings ls id additions
  onStore (Store.syncAttributes settings.keyPolicy .catalogue id c.attributes)
  pure id

def saveEntity (settings : Settings) (ls : Links) : Entity → BatchWork Unit
  | .event e => do let _ ← saveEvent settings ls e
  | .catalogue c => do let _ ← saveCatalogue settings ls c

/-- Writes all entities and gives what links are to learn, in order. -/
def saveAll (settings : Settings) (ls : Links) (es : List Entity) : Work (List (Link × RowId)) := fun s =>
  match es.forM (saveEntity settings ls) (begin s) with
  | .ok _ b => .ok b.assignments.reverse b.store
  | .error e b => .error e b.store

end Batch

def Links.assignAll (ls : Links) (assignments : List (Link × RowId)) : Links :=
  assignments.foldl (fun ls (l, id) => ls.assign l id) ls

/-- A store and the links of the entities in memory. -/
structure World where
  store : Store
  links : Links
deriving DecidableEq

/-- Saves a batch; gives the entities as they are afterwards. -/
def save [Regex.Library] (settings : Settings) (es : List Entity) : EStateM Error World
    (List Entity) := fun w =>
  match Entity.checkEach settings es with
  | .error e => .error e w
  | .ok () =>
    match (Batch.saveAll settings w.links es).transaction w.store with
    | .error e s => .error e { w with store := s }
    | .ok assignments s => .ok (es.map Entity.saved) ⟨s, w.links.assignAll assignments⟩

end Chronicle
