import Chronicle.RowId
import Chronicle.Store.Attribute

/-! # The store

Events and catalogues by row id, each with its attributes, and catalogues with the events that are their
members. So an attribute cannot be without its owner; a membership needs its event, which every operation
sees to. Ids are handed out once and never again. -/
namespace Chronicle

structure EventRow where
  uuid : StoredText
  startTime : StoredText
  endTime : StoredText
  author : StoredText
  attributes : AttributeTable
deriving DecidableEq

structure CatalogueRow where
  name : StoredText
  author : StoredText
  predicate : Cell
  digest : Cell
  attributes : AttributeTable
  members : SortedMap RowId Unit
deriving DecidableEq

structure Store where
  events : SortedMap RowId EventRow
  catalogues : SortedMap RowId CatalogueRow
  /-- The greatest id that an event was inserted with. -/
  lastEvent : RowId
  lastCatalogue : RowId
deriving DecidableEq

namespace Store

def empty : Store := ⟨.empty, .empty, 0, 0⟩

/-- The greatest id that is or was in use. -/
def greatestId {α : Type} (last : RowId) (rows : SortedMap RowId α) : RowId :=
  match rows.last? with
  | some (id, _) => max id last
  | none => last

/-- The id after all that are or were in use. -/
def nextId {α : Type} (last : RowId) (rows : SortedMap RowId α) : Except StoreFault RowId :=
  if greatestId last rows < Int64.maxValue then .ok (greatestId last rows + 1)
  else .error .idsExhausted

def hasUuid (rows : SortedMap RowId EventRow) (uuid : StoredText) : Bool :=
  rows.entries.any fun e => e.2.uuid == uuid

def uuidTaken : StoreFault := .notUnique ["events.uuid"]

/-! ## Events -/

/-- What is written of an event, apart from its attributes. -/
structure EventCells where
  uuid : String
  startTime : String
  endTime : String
  author : String

def EventCells.over (c : EventCells) (attributes : AttributeTable) : EventRow :=
  ⟨.text c.uuid, .text c.startTime, .text c.endTime, .text c.author, attributes⟩

def insertEvent (s : Store) (c : EventCells) : Except StoreFault (RowId × Store) := do
  let id ← nextId s.lastEvent s.events
  if hasUuid s.events (.text c.uuid) then .error uuidTaken
  else .ok (id, { s with events := s.events.insert id (c.over .empty), lastEvent := id })

/-- An event that does not exist is not updated, which is no failure. -/
def updateEvent (s : Store) (id : RowId) (c : EventCells) : Except StoreFault Store :=
  match s.events.get? id with
  | none => .ok s
  | some row =>
    if hasUuid (s.events.erase id) (.text c.uuid) then .error uuidTaken
    else .ok { s with events := s.events.insert id (c.over row.attributes) }

/-! ## Catalogues -/

structure CatalogueCells where
  name : String
  author : String
  predicate : Cell
  digest : Cell

def CatalogueCells.over (c : CatalogueCells) (attributes : AttributeTable)
    (members : SortedMap RowId Unit) : CatalogueRow :=
  ⟨.text c.name, .text c.author, c.predicate, c.digest, attributes, members⟩

def insertCatalogue (s : Store) (c : CatalogueCells) : Except StoreFault (RowId × Store) := do
  let id ← nextId s.lastCatalogue s.catalogues
  .ok (id, { s with catalogues := s.catalogues.insert id (c.over .empty .empty), lastCatalogue := id })

def updateCatalogue (s : Store) (id : RowId) (c : CatalogueCells) : Store :=
  match s.catalogues.get? id with
  | none => s
  | some row => { s with catalogues := s.catalogues.insert id (c.over row.attributes row.members) }

/-! ## Memberships -/

/-- Makes an event a member; also tells whether it was none before. -/
def addMember (s : Store) (catalogue event : RowId) : Except StoreFault (Bool × Store) :=
  match s.catalogues.get? catalogue with
  | none => .error .missingReference
  | some row =>
    if row.members.contains event then .ok (false, s)
    else if s.events.contains event then
      .ok (true, { s with
        catalogues := s.catalogues.insert catalogue { row with members := row.members.insert event () } })
    else .error .missingReference

/-- Also tells whether the event was a member. -/
def removeMember (s : Store) (catalogue event : RowId) : Bool × Store :=
  match s.catalogues.get? catalogue with
  | none => (false, s)
  | some row =>
    if row.members.contains event then
      (true, { s with
        catalogues := s.catalogues.insert catalogue { row with members := row.members.erase event } })
    else (false, s)

/-! ## Attributes -/

/-- The attributes of an owner; an owner that does not exist has none. -/
def attributes (s : Store) : EntityKind → RowId → AttributeTable
  | .event, id => ((s.events.get? id).map EventRow.attributes).getD .empty
  | .catalogue, id => ((s.catalogues.get? id).map CatalogueRow.attributes).getD .empty

def ownerExists (s : Store) : EntityKind → RowId → Bool
  | .event, id => s.events.contains id
  | .catalogue, id => s.catalogues.contains id

/-- Changes the attributes of an owner. -/
def withAttributes (s : Store) (kind : EntityKind) (id : RowId) (f : AttributeTable → AttributeTable) :
    Store :=
  match kind with
  | .event =>
    match s.events.get? id with
    | none => s
    | some row => { s with events := s.events.insert id { row with attributes := f row.attributes } }
  | .catalogue =>
    match s.catalogues.get? id with
    | none => s
    | some row =>
      { s with catalogues := s.catalogues.insert id { row with attributes := f row.attributes } }

/-- Puts an attribute in place of one with the same key. -/
def putAttribute (s : Store) (kind : EntityKind) (owner : RowId) (key : String) (row : AttributeRow) :
    Except StoreFault Store :=
  if s.ownerExists kind owner then .ok (s.withAttributes kind owner (·.insert (.text key) row))
  else .error .missingReference

def hasAttribute (s : Store) (kind : EntityKind) (owner : RowId) (key : String) : Bool :=
  (s.attributes kind owner).contains (.text key)

/-- Also tells whether the attribute was there. -/
def removeAttribute (s : Store) (kind : EntityKind) (owner : RowId) (key : String) : Bool × Store :=
  if s.hasAttribute kind owner key then
    (true, s.withAttributes kind owner (·.erase (.text key)))
  else (false, s)

end Store

end Chronicle
