import Chronicle.Entity.Link
import Chronicle.Store.Attribute

/-! # Events and catalogues in memory

A catalogue either has a predicate, from which its members are computed, or its members are stored. In
the second case events that shall be added and removed are noted until the catalogue is saved. -/
namespace Chronicle

structure Event where
  startTime : Timestamp
  endTime : Timestamp
  author : String
  uuid : String
  attributes : Attributes
  link : Link

structure Catalogue where
  name : String
  author : String
  predicate : Option Predicate
  attributes : Attributes
  additions : List Event
  removals : List Event
  link : Link

/-- Attributes with the same keys and equal values. -/
def Attributes.agrees (a b : Attributes) : Bool :=
  a.keys == b.keys && (a.values.zip b.values).all fun (v, w) => v.agrees w

/-- Events of the same content, wherever they are stored. -/
def Event.agrees (a b : Event) : Bool :=
  a.uuid == b.uuid && a.startTime == b.startTime && a.endTime == b.endTime && a.author == b.author &&
    a.attributes.agrees b.attributes

namespace Catalogue

def isSmart (c : Catalogue) : Bool := c.predicate.isSome

def hasPendingEdits (c : Catalogue) : Bool := !c.additions.isEmpty || !c.removals.isEmpty

def addEvents (c : Catalogue) (es : List Event) : Catalogue := { c with additions := c.additions ++ es }

def removeEvents (c : Catalogue) (es : List Event) : Catalogue := { c with removals := c.removals ++ es }

def withoutPendingEdits (c : Catalogue) : Catalogue := { c with additions := [], removals := [] }

end Catalogue

/-- What can be saved. -/
inductive Entity
  | event (e : Event)
  | catalogue (c : Catalogue)

/-- The entity as it is after it was saved. -/
def Entity.saved : Entity → Entity
  | event e => event e
  | catalogue c => catalogue c.withoutPendingEdits

end Chronicle
