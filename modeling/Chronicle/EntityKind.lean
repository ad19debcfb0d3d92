import Chronicle.Value

/-! # Kinds of entities and their fixed fields -/
namespace Chronicle

inductive EntityKind
  | event
  | catalogue
deriving DecidableEq

/-- The columns that fixed fields are kept in. -/
inductive Column
  | startTime
  | endTime
  | author
  | uuid
  | name
deriving DecidableEq

def Column.text : Column → String
  | startTime => "start_time"
  | endTime => "end_time"
  | author => "author"
  | uuid => "uuid"
  | name => "name"

/-- A fixed field that a predicate can name. -/
structure FieldSpec where
  name : String
  column : Column
  kind : Value.Kind
deriving DecidableEq

namespace EntityKind

def name : EntityKind → String
  | event => "Event"
  | catalogue => "Catalogue"

def table : EntityKind → String
  | event => "events"
  | catalogue => "catalogues"

/-- The name of the entity table in every condition. -/
def tableAlias : EntityKind → String
  | event => "e"
  | catalogue => "c"

def attributeTable : EntityKind → String
  | event => "event_attributes"
  | catalogue => "catalogue_attributes"

def fields : EntityKind → List FieldSpec
  | event => [⟨"start", .startTime, .timestamp⟩, ⟨"end", .endTime, .timestamp⟩,
      ⟨"author", .author, .string⟩, ⟨"uuid", .uuid, .string⟩]
  | catalogue => [⟨"name", .name, .string⟩, ⟨"author", .author, .string⟩]

def field? (k : EntityKind) (name : String) : Option FieldSpec :=
  k.fields.find? fun f => f.name == name

end EntityKind

end Chronicle
