import Chronicle.Store.Basic

/-! # The store as tables

Everything that is stored, as five tables of rows of cells. A store can be made of tables again when no
cell is missing that has to be there and no row refers to one that does not exist. -/
namespace Chronicle

inductive Table
  | events
  | catalogues
  | eventAttributes
  | catalogueAttributes
  | catalogueEvents
deriving DecidableEq

structure TableColumn where
  name : String
  affinity : Affinity
  mayBeNull : Bool
deriving DecidableEq

namespace Table

def name : Table → String
  | events => "events"
  | catalogues => "catalogues"
  | eventAttributes => "event_attributes"
  | catalogueAttributes => "catalogue_attributes"
  | catalogueEvents => "catalogue_events"

def all : List Table := [events, catalogues, eventAttributes, catalogueAttributes, catalogueEvents]

def ofName? (name : String) : Option Table := all.find? fun t => t.name == name

def attributeColumns : List TableColumn :=
  [⟨"owner_id", .integer, false⟩, ⟨"key", .text, false⟩, ⟨"value_type", .text, false⟩] ++
    Value.Kind.all.map fun k => ⟨k.column, k.affinity, true⟩

def columns : Table → List TableColumn
  | events => [⟨"id", .integer, false⟩, ⟨"uuid", .text, false⟩, ⟨"start_time", .text, false⟩,
      ⟨"end_time", .text, false⟩, ⟨"author", .text, false⟩]
  | catalogues => [⟨"id", .integer, false⟩, ⟨"name", .text, false⟩, ⟨"author", .text, false⟩,
      ⟨"predicate", .none, true⟩, ⟨"predicate_digest", .text, true⟩]
  | eventAttributes => attributeColumns
  | catalogueAttributes => attributeColumns
  | catalogueEvents => [⟨"catalogue_id", .integer, false⟩, ⟨"event_id", .integer, false⟩]

/-- The columns in which no two rows agree, set by set. -/
def uniques : Table → List (List String)
  | events => [["id"], ["uuid"]]
  | catalogues => [["id"]]
  | eventAttributes => [["owner_id", "key"]]
  | catalogueAttributes => [["owner_id", "key"]]
  | catalogueEvents => [["catalogue_id", "event_id"]]

end Table

/-- A row, cell by cell in the order of the columns. -/
abbrev Row := List Cell

/-- The rows of every table. -/
structure Tables where
  events : List Row
  catalogues : List Row
  eventAttributes : List Row
  catalogueAttributes : List Row
  catalogueEvents : List Row
deriving DecidableEq

namespace Tables

def rows (t : Tables) : Table → List Row
  | .events => t.events
  | .catalogues => t.catalogues
  | .eventAttributes => t.eventAttributes
  | .catalogueAttributes => t.catalogueAttributes
  | .catalogueEvents => t.catalogueEvents

def withRows (t : Tables) (table : Table) (rows : List Row) : Tables :=
  match table with
  | .events => { t with events := rows }
  | .catalogues => { t with catalogues := rows }
  | .eventAttributes => { t with eventAttributes := rows }
  | .catalogueAttributes => { t with catalogueAttributes := rows }
  | .catalogueEvents => { t with catalogueEvents := rows }

end Tables

namespace AttributeRow

def cells (owner : RowId) (key : StoredText) (r : AttributeRow) : Row :=
  .integer owner :: key.cell :: r.tag.cell :: Value.Kind.all.map r.slot

end AttributeRow

namespace Store

def attributeRows (owner : RowId) (t : AttributeTable) : List Row :=
  t.entries.map fun (key, r) => r.cells owner key

/-- All rows, ordered by id, by owner and key, and by catalogue and event. -/
def tables (s : Store) : Tables where
  events := s.events.entries.map fun (id, e) =>
    [.integer id, e.uuid.cell, e.startTime.cell, e.endTime.cell, e.author.cell]
  catalogues := s.catalogues.entries.map fun (id, c) =>
    [.integer id, c.name.cell, c.author.cell, c.predicate, c.digest]
  eventAttributes := s.events.entries.flatMap fun (id, e) => attributeRows id e.attributes
  catalogueAttributes := s.catalogues.entries.flatMap fun (id, c) => attributeRows id c.attributes
  catalogueEvents := s.catalogues.entries.flatMap fun (id, c) =>
    c.members.keys.map fun event => [.integer id, .integer event]

end Store

namespace Tables

/-- A row id must be an integer. -/
def idOf (c : Cell) : Except StoreFault RowId :=
  match c with
  | .integer i => .ok i
  | _ => .error .idClass

/-- What refers to a row must be an integer to find one. -/
def referenceOf (c : Cell) : Except StoreFault RowId :=
  match c with
  | .integer i => .ok i
  | _ => .error .missingReference

def textOf (column : String) (c : Cell) : Except StoreFault StoredText :=
  match StoredText.ofCell? c with
  | some t => .ok t
  | none => .error (.notNull column)

def addEventRow (s : Store) : Row → Except StoreFault Store
  | [id, uuid, startTime, endTime, author] => do
    let id ← idOf id
    let row : EventRow := ⟨← textOf "events.uuid" uuid, ← textOf "events.start_time" startTime,
      ← textOf "events.end_time" endTime, ← textOf "events.author" author, .empty⟩
    .ok { s with events := s.events.insert id row }
  | _ => .ok s

def addCatalogueRow (s : Store) : Row → Except StoreFault Store
  | [id, name, author, predicate, digest] => do
    let id ← idOf id
    let row : CatalogueRow := ⟨← textOf "catalogues.name" name, ← textOf "catalogues.author" author,
      predicate, digest, .empty, .empty⟩
    .ok { s with catalogues := s.catalogues.insert id row }
  | _ => .ok s

def addAttributeRow (kind : EntityKind) (s : Store) : Row → Except StoreFault Store
  | [owner, key, tag, integer, string, boolean, timestamp, float] => do
    let owner ← referenceOf owner
    let key ← textOf (kind.attributeTable ++ ".key") key
    let tag ← textOf (kind.attributeTable ++ ".value_type") tag
    if s.ownerExists kind owner then
      .ok (s.withAttributes kind owner
        (·.insert key ⟨tag, integer, string, boolean, timestamp, float⟩))
    else .error .missingReference
  | _ => .ok s

def addMemberRow (s : Store) : Row → Except StoreFault Store
  | [catalogue, event] => do
    let (_, s) ← s.addMember (← referenceOf catalogue) (← referenceOf event)
    .ok s
  | _ => .ok s

/-- The store with the rows, on which ids go on after `lastEvent` and `lastCatalogue`. -/
def toStore (t : Tables) (lastEvent lastCatalogue : RowId) : Except StoreFault Store := do
  let s ← t.events.foldlM addEventRow ⟨.empty, .empty, lastEvent, lastCatalogue⟩
  let s ← t.catalogues.foldlM addCatalogueRow s
  let s ← t.eventAttributes.foldlM (addAttributeRow .event) s
  let s ← t.catalogueAttributes.foldlM (addAttributeRow .catalogue) s
  t.catalogueEvents.foldlM addMemberRow s

end Tables

end Chronicle
