import Chronicle.EntityKind
import Chronicle.Predicate.Basic
import Chronicle.Store.Cell

/-! # Causes of failure -/
namespace Chronicle

/-- Why the store refuses or cannot read something. -/
inductive StoreFault
  /-- Two rows would agree in these columns, which are written with their table. -/
  | notUnique (columns : List String)
  /-- A row would refer to one that does not exist. -/
  | missingReference
  | notNull (column : String)
  /-- A cell of the wrong class, by its place among the columns that are read. -/
  | wrongClass (found : Cell.Class) (index : Nat) (column : String)
  /-- A row id that is no integer. -/
  | idClass
  | idsExhausted
  /-- A pattern that is not readable and was not checked before. -/
  | pattern
  /-- A statement that the engine does not take. -/
  | refused
  | unknownColumn
  | cannotOpen
deriving DecidableEq

/-- What is wrong with a stored row. -/
inductive Corruption
  | unknownTag (key tag : String)
  | unreadableTimestamp (key text : String)
  | emptySlot (key : String) (kind : Value.Kind)
  | unreadableField (uuid field text : String)
  | predicateWithoutDigest (catalogue : String)
  | digestMismatch (catalogue : String)
  | unreadablePredicate (catalogue : String)
deriving DecidableEq

inductive Combinator
  | all
  | any
deriving DecidableEq

inductive Error
  | settings
  | store (fault : StoreFault)
  /-- Bytes that are no predicate. -/
  | unreadablePredicate
  | invalidKey (key : String)
  | unknownField (field : String) (kind : EntityKind)
  | typeMismatch (field : String) (expected found : Value.Kind)
  | unknownOperator (text : String)
  | patternNotString (operand : Operand) (found : Value.Kind)
  | emptyCombinator (combinator : Combinator)
  | unstorable (operand : String) (fault : Value.Fault)
  | invalidPattern (pattern : String)
  | corruptRow (corruption : Corruption)
  | notAnEntity
  | eventsOfEvent (uuid : String)
  | cataloguesOfCatalogue (name : String)
  | unsavedCatalogue (name : String)
  | unsavedEvent (uuid : String)
  /-- The membership of a catalogue with a predicate cannot be edited. -/
  | computedMembership (catalogue : String)
  | endsBeforeStart (uuid : String)
  | reverseLookup
deriving DecidableEq

/-- Only faults that name what they found have a message. -/
def StoreFault.message? : StoreFault → Option String
  | notUnique columns => some ("UNIQUE constraint failed: " ++ String.intercalate ", " columns)
  | missingReference => some "FOREIGN KEY constraint failed"
  | notNull column => some ("NOT NULL constraint failed: " ++ column)
  | wrongClass found index column =>
    some ("Invalid column type " ++ found.name ++ " at index: " ++ toString index ++ ", name: " ++ column)
  | _ => none

def Corruption.message : Corruption → String
  | unknownTag key tag => "attribute '" ++ key ++ "' has unknown type tag '" ++ tag ++ "'"
  | unreadableTimestamp key text =>
    "attribute '" ++ key ++ "' holds an unreadable timestamp '" ++ text ++ "'"
  | emptySlot key kind =>
    "attribute '" ++ key ++ "' is tagged " ++ kind.tag ++ " but its " ++ kind.column ++ " slot is empty"
  | unreadableField uuid field text =>
    "event " ++ uuid ++ " has an unreadable " ++ field ++ " '" ++ text ++ "'"
  | predicateWithoutDigest catalogue =>
    "predicate of catalogue '" ++ catalogue ++ "' is stored without its digest"
  | digestMismatch catalogue =>
    "predicate of catalogue '" ++ catalogue ++ "' does not match its digest"
  | unreadablePredicate catalogue => "predicate of catalogue '" ++ catalogue ++ "' cannot be read"

def Combinator.name : Combinator → String
  | all => "All"
  | any => "Any"

def Value.Fault.message : Value.Fault → String
  | notFinite x => x.text ++ " is not a finite float"
  | yearOutside year =>
    "year " ++ toString year ++ " is outside " ++ toString firstStorableYear ++ "..=" ++
      toString lastStorableYear

namespace Error

def message? : Error → Option String
  | settings | unreadablePredicate | notAnEntity | invalidPattern _ => none
  | store fault => fault.message?.map ("Persistence error: " ++ ·)
  | invalidKey key => some ("Invalid attribute key '" ++ key ++ "'")
  | unknownField field kind => some ("Unknown field '" ++ field ++ "' on " ++ kind.name)
  | typeMismatch field expected found =>
    some ("Type mismatch on '" ++ field ++ "': expected " ++ expected.tag ++ ", found " ++ found.tag)
  | unknownOperator text =>
    some ("Unsupported operand type: unknown comparison operator '" ++ text ++ "'")
  | patternNotString operand found =>
    some ("Unsupported operand type: match on " ++ operand.text ++ " needs a string pattern, got " ++
      found.tag)
  | emptyCombinator combinator => some (combinator.name ++ " needs at least one predicate")
  | unstorable operand fault =>
    some ("Value of '" ++ operand ++ "' cannot be stored: " ++ fault.message)
  | corruptRow corruption => some ("Corrupt row: " ++ corruption.message)
  | eventsOfEvent uuid => some ("Ambiguous base: events cannot be listed from event " ++ uuid)
  | cataloguesOfCatalogue name =>
    some ("Ambiguous base: catalogues cannot be listed from catalogue '" ++ name ++ "'")
  | unsavedCatalogue name => some ("Catalogue '" ++ name ++ "' has not been saved")
  | unsavedEvent uuid => some ("Event " ++ uuid ++ " has not been saved")
  | computedMembership catalogue =>
    some ("Catalogue '" ++ catalogue ++
      "' is computed from a predicate, its membership cannot be edited")
  | endsBeforeStart uuid => some ("Event " ++ uuid ++ " ends before it starts")
  | reverseLookup => some "Unsupported operation: reverse lookup of smart catalogues"

end Error

namespace Operator

/-- Reads a symbol. -/
def read (text : String) : Except Error Operator :=
  match ofSymbol? text with
  | some op => .ok op
  | none => .error (.unknownOperator (trimmed text))

end Operator

namespace Value

/-- Refuses a value that cannot be stored. -/
def check (v : Value) (operand : String) : Except Error Unit :=
  match v.fault? with
  | none => .ok ()
  | some fault => .error (.unstorable operand fault)

end Value

namespace Timestamp

def check (t : Timestamp) (operand : String) : Except Error Unit :=
  Value.check (.timestamp t) operand

end Timestamp

end Chronicle
