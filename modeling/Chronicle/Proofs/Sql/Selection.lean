import Chronicle.Proofs.Sql.Reader
import Chronicle.Proofs.Sql.Stored
import Chronicle.Store.Select

/-!
# What a selection finds

The text of a selection is read as a statement about the rows of its kind. If an engine takes it, it goes
through the rows in the order of their ids and reads those on which the condition holds; otherwise it is
refused.
-/
namespace Chronicle

open Sql

namespace EntityKind

/-- The table with a row for each entity of a kind. -/
def entities : EntityKind → Table
  | event => .events
  | catalogue => .catalogues

/-- The statement that selects the rows of a kind on which an expression is true. -/
def statement (kind : EntityKind) (e : Expr) : Statement :=
  ⟨kind.columns.map fun name => ⟨kind.tableAlias, name⟩, kind.entities, kind.tableAlias, e,
    ⟨kind.tableAlias, "id"⟩⟩

theorem lexemes_selection (kind : EntityKind) (text : String) : lexemes (kind.selection text) =
    lexemes kind.selectionStart ++ lexemes text ++ lexemes kind.selectionEnd := by
  rw [selection, lexemes_append_of_beginsLoose (by cases kind <;> decide +kernel),
    lexemes_append_of_endsLoose (by cases kind <;> decide +kernel)]

theorem lexemes_selectionEnd (kind : EntityKind) :
    lexemes kind.selectionEnd = ["order", "by", kind.tableAlias, ".", "id"] := by
  cases kind <;> decide +kernel

/-- The tokens before the condition. -/
def startTokens (kind : EntityKind) : List Token := (lexemes kind.selectionStart).map .lexeme

theorem tokens?_selectionStart (kind : EntityKind) :
    tokens? (lexemes kind.selectionStart) [] = some kind.startTokens := by
  have hmark : "?" ∉ lexemes kind.selectionStart := by cases kind <;> decide +kernel
  rw [startTokens]
  generalize lexemes kind.selectionStart = ls at hmark
  induction ls with
  | nil => rfl
  | cons l ls ih =>
    obtain ⟨hl, hls⟩ := not_or.1 (mt List.mem_cons.2 hmark)
    rw [tokens?, if_neg (Ne.symm hl), ih hls]
    rfl

theorem readStatement?_startTokens (kind : EntityKind) {ts : List Token} {e : Expr}
    (h : readCondition? ts = some (e, ⟨kind.tableAlias, "id"⟩)) :
    readStatement? (kind.startTokens ++ ts) = some (kind.statement e) := by
  have hevent : lexemes event.selectionStart = ["select", "e", ".", "id", ",", "e", ".", "uuid", ",", "e",
      ".", "start_time", ",", "e", ".", "end_time", ",", "e", ".", "author", "from", "events", "e",
      "where"] := by decide +kernel
  have hcatalogue : lexemes catalogue.selectionStart = ["select", "c", ".", "id", ",", "c", ".", "name", ",",
      "c", ".", "author", ",", "c", ".", "predicate", ",", "c", ".", "predicate_digest", "from",
      "catalogues", "c", "where"] := by decide +kernel
  have hread : readStatement? (kind.startTokens ++ ts) =
      (readCondition? ts).bind fun x => some { kind.statement x.1 with order := x.2 } := by
    cases kind with
    | event =>
      rw [startTokens, hevent]
      rfl
    | catalogue =>
      rw [startTokens, hcatalogue]
      rfl
  rw [hread, h]
  rfl

/-- The text of a selection is read as the statement that selects by what its condition is read as. -/
theorem read?_selection (kind : EntityKind) {text : String} {params : List Value} {e : Expr}
    (h : Reads text params e) : read? (kind.selection text) params = some (kind.statement e) := by
  obtain ⟨ts, hts, hderives⟩ := h
  have hend : tokens? ["order", "by", kind.tableAlias, ".", "id"] [] =
      some [.lexeme "order", .lexeme "by", .lexeme kind.tableAlias, .lexeme ".", .lexeme "id"] := by
    cases kind <;> rfl
  have htokens := tokens?_append (tokens?_append kind.tokens?_selectionStart hts) hend
  rw [List.nil_append, List.append_nil, ← lexemes_selectionEnd, ← lexemes_selection,
    List.append_assoc] at htokens
  have hcondition := readCondition?_append kind.tableAlias "id" (readExpr?_eq_some hderives)
  rw [read?, htokens, Option.bind_some, readStatement?_startTokens kind hcondition]

end EntityKind

namespace Condition

/-- A condition that says something about entities of a kind. -/
def Suits (kind : EntityKind) (c : Condition) : Prop := ∀ a ∈ c.atoms, a.kind = kind ∧ a.IsFitting

/-- Whether the selection by a condition is taken. -/
def isTaken [Engine] (kind : EntityKind) (c : Condition) : Bool :=
  Engine.takes (kind.selection c.sql) c.params

/-- A condition about a kind by which entities of the kind can be selected. -/
structure IsSelectable [Engine] (kind : EntityKind) (c : Condition) : Prop where
  suits : c.Suits kind
  taken : c.isTaken kind = true

end Condition

/-- The cells of an event in the table of events. -/
def EventRow.cells (id : RowId) (row : EventRow) : Row :=
  [.integer id, row.uuid.cell, row.startTime.cell, row.endTime.cell, row.author.cell]

/-- The cells of a catalogue in the table of catalogues. -/
def CatalogueRow.cells (id : RowId) (row : CatalogueRow) : Row :=
  [.integer id, row.name.cell, row.author.cell, row.predicate, row.digest]

namespace Store

section SelectFrom

variable [Regex.Library] {α β : Type}

/-- Reads the entities of which a condition holds, one after the other. -/
def selectFrom (candidate : RowId → α → Candidate) (read : RowId → α → Except StoreFault β) (c : Condition) :
    List (RowId × α) → Except StoreFault (List β)
  | [] => .ok []
  | (id, row) :: rest => do
    if ← c.holds (candidate id row) then
      let record ← read id row
      let records ← selectFrom candidate read c rest
      .ok (record :: records)
    else selectFrom candidate read c rest

variable {q : Statement} {t : Tables} {cells : RowId → α → Row} {candidate : RowId → α → Candidate}
  {c : Condition} {l : List (RowId × α)}

theorem readRows_map (read : Row → Except StoreFault β)
    (hverdict : ∀ x ∈ l, q.condition.verdict t [q.scope (cells x.1 x.2)] =
      (c.holds (candidate x.1 x.2)).map some)
    (hcells : ∀ x ∈ l, q.columns.map (q.cell (cells x.1 x.2)) = cells x.1 x.2) :
    q.readRows t read (l.map fun x => cells x.1 x.2) =
      selectFrom candidate (fun id row => read (cells id row)) c l := by
  induction l with
  | nil => rfl
  | cons x l ih =>
    have hrest := ih (fun y hy => hverdict y (List.mem_cons_of_mem _ hy))
      fun y hy => hcells y (List.mem_cons_of_mem _ hy)
    rw [List.map_cons, Statement.readRows, selectFrom, hverdict x List.mem_cons_self,
      hcells x List.mem_cons_self, hrest]
    match c.holds (candidate x.1 x.2) with
    | .error f => rfl
    | .ok true => rfl
    | .ok false => rfl

/-- The rows of a map stand in the order of their ids. -/
theorem run_map (cells : RowId → α → Row) {m : SortedMap RowId α} (read : Row → Except StoreFault β)
    (hrows : t.rows q.table = m.entries.map fun x => cells x.1 x.2)
    (horder : ∀ id row, q.cell (cells id row) q.order = .integer id)
    (hverdict : ∀ x ∈ m.entries, q.condition.verdict t [q.scope (cells x.1 x.2)] =
      (c.holds (candidate x.1 x.2)).map some)
    (hcells : ∀ x ∈ m.entries, q.columns.map (q.cell (cells x.1 x.2)) = cells x.1 x.2) :
    q.run t read = selectFrom candidate (fun id row => read (cells id row)) c m.entries := by
  have hsorted : (m.entries.map fun x => cells x.1 x.2).Pairwise (q.precedes · ·) := by
    refine List.pairwise_map.2 (m.ascending.imp fun {x y} hlt => ?_)
    rw [Statement.precedes, horder, horder, Cell.order?, hlt]
    rfl
  rw [Statement.run, hrows, List.mergeSort_of_pairwise hsorted, readRows_map read hverdict hcells]

end SelectFrom

variable [Regex.Library] [Engine] (s : Store) {c : Condition}

/-- What is selected by the text of a condition are the events of which it holds. -/
theorem selectEvents_eq (hc : c.Suits .event) : s.selectEvents c =
    if c.isTaken .event then
      selectFrom s.eventCandidate (fun id row => readEvent (row.cells id)) c s.events.entries
    else .error .refused := by
  have hrun : (EntityKind.event.statement c.expr).run s.tables readEvent =
      selectFrom s.eventCandidate (fun id row => readEvent (row.cells id)) c s.events.entries :=
    run_map EventRow.cells readEvent rfl (fun _ _ => rfl)
      (fun x hx => Condition.verdict_expr (HasRow.event hx).stands c hc) fun _ _ => rfl
  rw [selectEvents, selectRows, EntityKind.read?_selection .event c.readsAs_expr, Condition.isTaken, ← hrun]

theorem selectCatalogues_eq (hc : c.Suits .catalogue) : s.selectCatalogues c =
    if c.isTaken .catalogue then
      selectFrom (fun _ row => catalogueCandidate row) (fun id row => readCatalogue (row.cells id)) c
        s.catalogues.entries
    else .error .refused := by
  have hrun : (EntityKind.catalogue.statement c.expr).run s.tables readCatalogue =
      selectFrom (fun _ row => catalogueCandidate row) (fun id row => readCatalogue (row.cells id)) c
        s.catalogues.entries :=
    run_map CatalogueRow.cells readCatalogue rfl (fun _ _ => rfl)
      (fun x hx => Condition.verdict_expr (HasRow.catalogue hx).stands c hc) fun _ _ => rfl
  rw [selectCatalogues, selectRows, EntityKind.read?_selection .catalogue c.readsAs_expr, Condition.isTaken,
    ← hrun]

theorem selectEvents_eq_selectFrom (hc : c.IsSelectable .event) : s.selectEvents c =
    selectFrom s.eventCandidate (fun id row => readEvent (row.cells id)) c s.events.entries := by
  rw [selectEvents_eq s hc.suits, if_pos hc.taken]

theorem selectCatalogues_eq_selectFrom (hc : c.IsSelectable .catalogue) : s.selectCatalogues c =
    selectFrom (fun _ row => catalogueCandidate row) (fun id row => readCatalogue (row.cells id)) c
      s.catalogues.entries := by
  rw [selectCatalogues_eq s hc.suits, if_pos hc.taken]

end Store

end Chronicle
