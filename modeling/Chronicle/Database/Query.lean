import Chronicle.Condition.Compile
import Chronicle.Database.Save
import Chronicle.Store.Select

/-! # Queries

Stored entities are found from a base: an event, a catalogue or a predicate, or all of them without one. -/
namespace Chronicle

inductive Base
  | event (e : Event)
  | catalogue (c : Catalogue)
  | predicate (p : Predicate)

namespace Store

def readTime (uuid field text : String) : Except Error Timestamp :=
  match Timestamp.ofStoredText? text with
  | some t => .ok t
  | none => .error (.corruptRow (.unreadableField uuid field text))

/-- The event of a row. -/
def EventRecord.toEvent (r : EventRecord) (attributes : Attributes) (link : Link) :
    Except Error Event := do
  let startTime ← readTime r.uuid "start" r.startText
  let endTime ← readTime r.uuid "end" r.endText
  .ok ⟨startTime, endTime, r.author, r.uuid, attributes, link⟩

/-- The catalogue of a row; nothing is noted to be added or removed. -/
def CatalogueRecord.toCatalogue (r : CatalogueRecord) (attributes : Attributes) (link : Link) :
    Except Error Catalogue := do
  let predicate ← Predicate.Stored.read ⟨r.predicate, r.digest⟩ r.name
  .ok ⟨r.name, r.author, predicate, attributes, [], [], link⟩

/-- Makes entities of rows, each with a new link to its row. -/
def restoreEach {α β : Type} (id : α → RowId) (make : α → Link → Except Error β) :
    Links → List α → Except Error (List β × Links)
  | ls, [] => .ok ([], ls)
  | ls, r :: rest => do
    let (link, ls) := ls.freshTo (id r)
    let b ← make r link
    let (bs, ls) ← restoreEach id make ls rest
    .ok (b :: bs, ls)

def restoreEvents (s : Store) (ls : Links) (rs : List EventRecord) : Except Error (List Event × Links) :=
  restoreEach EventRecord.id (fun r link => do
    let attributes ← s.loadAttributes .event r.id
    r.toEvent attributes link) ls rs

def restoreCatalogues (s : Store) (ls : Links) (rs : List CatalogueRecord) :
    Except Error (List Catalogue × Links) :=
  restoreEach CatalogueRecord.id (fun r link => do
    let attributes ← s.loadAttributes .catalogue r.id
    r.toCatalogue attributes link) ls rs

def eventsWhere [Regex.Library] [Sql.Engine] (s : Store) (ls : Links) (c : Condition) : Except Error
    (List Event × Links) := do
  let rs ← Error.ofStore (s.selectEvents c)
  s.restoreEvents ls rs

def cataloguesWhere [Regex.Library] [Sql.Engine] (s : Store) (ls : Links) (c : Condition) : Except Error
    (List Catalogue × Links) := do
  let rs ← Error.ofStore (s.selectCatalogues c)
  s.restoreCatalogues ls rs

end Store

/-- The condition of the events of a base. A catalogue with a predicate is evaluated by it. -/
def eventCondition [Regex.Library] (ls : Links) : Option Base → Except Error Condition
  | none => .ok (.and [])
  | some (.predicate p) => p.compile .event
  | some (.catalogue c) =>
    match c.predicate, ls.row? c.link with
    | some p, _ => p.compile .event
    | none, some id => .ok (.atom (.memberOf id))
    | none, none => .error (.unsavedCatalogue c.name)
  | some (.event e) => .error (.eventsOfEvent e.uuid)

/-- The condition of the catalogues of a base. Those with a predicate have no stored members and are not
found from an event. -/
def catalogueCondition [Regex.Library] (ls : Links) : Option Base → Except Error Condition
  | none => .ok (.and [])
  | some (.predicate p) => p.compile .catalogue
  | some (.event e) =>
    match ls.row? e.link with
    | some id => .ok (.atom (.containing id))
    | none => .error (.unsavedEvent e.uuid)
  | some (.catalogue c) => .error (.cataloguesOfCatalogue c.name)

def getEvents [Regex.Library] [Sql.Engine] (base : Option Base) (w : World) : Except Error
    (List Event × Links) := do
  let c ← eventCondition w.links base
  w.store.eventsWhere w.links c

def getCatalogues [Regex.Library] [Sql.Engine] (base : Option Base) (w : World) : Except Error
    (List Catalogue × Links) := do
  let c ← catalogueCondition w.links base
  w.store.cataloguesWhere w.links c

/-- Which catalogues with a predicate an event satisfies is not answered. -/
def smartCataloguesContaining (_ : Event) : Except Error (List Catalogue) := .error .reverseLookup

end Chronicle
