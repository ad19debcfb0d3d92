import Chronicle.Store.Tables

/-! # Direct changes of stored rows

Rows can be changed and deleted past all rules about entities. What stays in force are the rules of the
tables: columns that must not be null, columns in which rows differ, and references. Deleting an event or
a catalogue takes its attributes and memberships with it. -/
namespace Chronicle

/-- Columns and cells; no column comes twice. -/
abbrev ColumnCells := List (String × Cell)

namespace Table

def columnIndex? (t : Table) (column : String) : Option Nat :=
  t.columns.findIdx? fun c => c.name == column

/-- Whether a column holds a cell. Text counts as a number where the column is one for numbers. -/
def fits (t : Table) (row : Row) (e : String × Cell) : Bool :=
  (t.columns.zip row).any fun (column, cell) => column.name == e.1 && cell.equals (column.affinity.adapt e.2)

def fitsAll (t : Table) (wanted : ColumnCells) (row : Row) : Bool := wanted.all (t.fits row)

def assign (t : Table) (set : ColumnCells) (row : Row) : Row :=
  (t.columns.zip row).map fun (column, cell) =>
    match set.find? fun e => e.1 == column.name with
    | some (_, c) => column.affinity.adapt c
    | none => cell

/-- The fault of the first column that is null against the rules. -/
def nullFault? (t : Table) (row : Row) : Option StoreFault :=
  ((t.columns.zip row).find? fun (column, cell) => !column.mayBeNull && cell == .null).map
    fun (column, _) => .notNull (t.name ++ "." ++ column.name)

def hasRowId : Table → Bool
  | events | catalogues => true
  | _ => false

/-- Row ids are checked before everything else. -/
def rowIdFault? (t : Table) (row : Row) : Option StoreFault :=
  match t.hasRowId, row with
  | true, .integer _ :: _ => none
  | true, _ => some .idClass
  | false, _ => none

def project (t : Table) (columns : List String) (row : Row) : Row :=
  columns.filterMap fun column => (t.columnIndex? column).bind fun i => row[i]?

/-- The fault of a row among others that it must differ from. -/
def uniqueFault? (t : Table) (others : List Row) (row : Row) : Option StoreFault :=
  (t.uniques.find? fun columns => others.any fun o => t.project columns o == t.project columns row).map
    fun columns => .notUnique (columns.map fun column => t.name ++ "." ++ column)

def rowFault? (t : Table) (others : List Row) (row : Row) : Option StoreFault :=
  (t.rowIdFault? row).or ((t.nullFault? row).or (t.uniqueFault? others row))

/-- Changes the rows that fit one after the other; `done` are the rows before. -/
def updateRows (t : Table) (set wanted : ColumnCells) (done : List Row) :
    List Row → Except StoreFault (List Row)
  | [] => .ok done
  | row :: rest =>
    if t.fitsAll wanted row then
      let row' := t.assign set row
      match t.rowFault? (done ++ rest) row' with
      | some fault => .error fault
      | none => updateRows t set wanted (done ++ [row']) rest
    else updateRows t set wanted (done ++ [row]) rest

def knows (t : Table) (cells : ColumnCells) : Bool := cells.all fun e => (t.columnIndex? e.1).isSome

end Table

namespace Tables

/-- Takes away the rows that refer to a row that is no longer there. -/
def withoutDangling (t : Tables) : Tables :=
  let has (parents : List Row) (reference : Option Cell) : Bool :=
    parents.any fun row => row.head? == reference
  { t with
    eventAttributes := t.eventAttributes.filter fun row => has t.events row.head?
    catalogueAttributes := t.catalogueAttributes.filter fun row => has t.catalogues row.head?
    catalogueEvents := t.catalogueEvents.filter fun row =>
      has t.catalogues row.head? && has t.events row[1]? }

end Tables

namespace Store

/-- Sets cells in the rows that fit, and tells how many these are. -/
def updateWhere (s : Store) (table : Table) (set wanted : ColumnCells) :
    Except StoreFault (Nat × Store) :=
  if !table.knows (set ++ wanted) then .error .unknownColumn
  else do
    let t := s.tables
    let rows ← table.updateRows set wanted [] (t.rows table)
    let s' ← (t.withRows table rows).toStore s.lastEvent s.lastCatalogue
    .ok (((t.rows table).filter (table.fitsAll wanted)).length, s')

def deleteWhere (s : Store) (table : Table) (wanted : ColumnCells) : Except StoreFault (Nat × Store) :=
  if !table.knows wanted then .error .unknownColumn
  else do
    let t := s.tables
    let (gone, kept) := (t.rows table).partition (table.fitsAll wanted)
    let s' ← (t.withRows table kept).withoutDangling.toStore s.lastEvent s.lastCatalogue
    .ok (gone.length, s')

end Store

end Chronicle
