import Chronicle.Regex.Standard
import Chronicle.Proofs.Sql.Built
import Chronicle.Proofs.Sql.Holds
import Chronicle.SortedMap.Lookup
import Chronicle.Store.Select

/-!
# What conditions say about stored rows

Over the tables of a store, the expression that a condition is built as is true of just the rows on which
the condition holds.
-/
namespace Chronicle

open Sql

/-- A membership as the table has it. -/
def EntityKind.membershipRow (kind : EntityKind) (own other : RowId) : Row :=
  match kind with
  | event => [.integer other, .integer own]
  | catalogue => [.integer own, .integer other]

/-- The attributes of the row with an id are those that a table has for it. -/
structure Sql.HasAttributes (rows : List Row) (id : RowId) (a : AttributeTable) : Prop where
  mem : ∀ key r, a.get? key = some r → r.cells id key ∈ rows
  cells : ∀ row ∈ rows, ∃ (owner : RowId) (key : StoredText) (r : AttributeRow),
    row = r.cells owner key ∧ (owner = id → a.get? key = some r)

/-- A row stands in the tables as conditions see it. -/
structure Candidate.Stands (e : Candidate) (t : Tables) (kind : EntityKind) (own : RowId) (s : Scope) :
    Prop where
  name : s.name = kind.tableAlias
  id : s.cell? "id" = some (.integer own)
  fields : ∀ f ∈ kind.fields, s.cell? f.column.text = some (e.field f.column).cell
  attributes : HasAttributes (t.rows kind.attributes) own e.attributes
  memberships : ∀ row ∈ t.catalogueEvents, ∃ this other, row = kind.membershipRow this other
  tied : ∀ other, e.tied other = true ↔ kind.membershipRow own other ∈ t.catalogueEvents

namespace Store

/-- An event as conditions see it; it is tied to the catalogues that it is a member of. -/
def eventCandidate (s : Store) (id : RowId) (row : EventRow) : Candidate where
  field
    | .startTime => row.startTime
    | .endTime => row.endTime
    | .author => row.author
    | .uuid => row.uuid
    | .name => .text ""
  attributes := row.attributes
  tied := fun catalogue => (s.catalogues.get? catalogue).any fun c => c.members.contains id

/-- A catalogue as conditions see it; it is tied to its members. -/
def catalogueCandidate (row : CatalogueRow) : Candidate where
  field
    | .name => row.name
    | .author => row.author
    | _ => .text ""
  attributes := row.attributes
  tied := fun event => row.members.contains event

variable {s : Store}

/-- A row of a table in a store, under the name that conditions have for it, and what they see of it. -/
inductive HasRow (s : Store) : EntityKind → RowId → Scope → Candidate → Prop
  | event {id : RowId} {row : EventRow} (h : (id, row) ∈ s.events.entries) :
    s.HasRow .event id ⟨EntityKind.event.tableAlias, .events, [.integer id, row.uuid.cell, row.startTime.cell,
      row.endTime.cell, row.author.cell]⟩ (s.eventCandidate id row)
  | catalogue {id : RowId} {row : CatalogueRow} (h : (id, row) ∈ s.catalogues.entries) :
    s.HasRow .catalogue id ⟨EntityKind.catalogue.tableAlias, .catalogues, [.integer id, row.name.cell,
      row.author.cell, row.predicate, row.digest]⟩ (catalogueCandidate row)

theorem mem_attributeRows {owner : RowId} {a : AttributeTable} {row : Row} :
    row ∈ attributeRows owner a ↔ ∃ key r, a.get? key = some r ∧ row = r.cells owner key := by
  simp only [attributeRows, List.mem_map, Prod.exists, SortedMap.get?_eq_some_iff, @eq_comm _ row]

theorem hasAttributes {α : Type} {m : SortedMap RowId α} (attributes : α → AttributeTable) {id : RowId}
    {x : α} (h : (id, x) ∈ m.entries) :
    HasAttributes (m.entries.flatMap fun e => attributeRows e.1 (attributes e.2)) id (attributes x) := by
  refine ⟨fun key r hr => ?_, fun row hrow => ?_⟩
  · exact List.mem_flatMap.2 ⟨(id, x), h, mem_attributeRows.2 ⟨key, r, hr, rfl⟩⟩
  · obtain ⟨⟨owner, y⟩, hy, hrow⟩ := List.mem_flatMap.1 hrow
    obtain ⟨key, r, hr, rfl⟩ := mem_attributeRows.1 hrow
    refine ⟨owner, key, r, rfl, ?_⟩
    rintro rfl
    have hget := SortedMap.get?_eq_some_iff.2 h
    rw [SortedMap.get?_eq_some_iff.2 hy] at hget
    cases hget
    exact hr

theorem mem_catalogueEvents {row : Row} : row ∈ s.tables.catalogueEvents ↔
    ∃ id event, row = [.integer id, .integer event] ∧
      ((s.catalogues.get? id).any fun c => c.members.contains event) = true := by
  simp only [tables, List.mem_flatMap, List.mem_map, Prod.exists, Option.any_eq_true,
    SortedMap.get?_eq_some_iff, SortedMap.contains_iff]
  constructor
  · rintro ⟨id, c, hc, event, hevent, rfl⟩
    exact ⟨id, event, rfl, c, hc, hevent⟩
  · rintro ⟨id, event, rfl, c, hc, hevent⟩
    exact ⟨id, c, hc, event, hevent, rfl⟩

theorem pair_mem_catalogueEvents {id event : RowId} :
    [Cell.integer id, Cell.integer event] ∈ s.tables.catalogueEvents ↔
      ((s.catalogues.get? id).any fun c => c.members.contains event) = true := by
  rw [mem_catalogueEvents]
  constructor
  · rintro ⟨_, _, hrow, h⟩
    cases hrow
    exact h
  · exact fun h => ⟨id, event, rfl, h⟩

theorem HasRow.stands {kind : EntityKind} {id : RowId} {scope : Scope} {e : Candidate}
    (h : s.HasRow kind id scope e) : e.Stands s.tables kind id scope := by
  cases h with
  | @event id row h =>
    refine ⟨rfl, rfl, fun f hf => ?_, hasAttributes EventRow.attributes h, fun r hr => ?_,
      fun other => pair_mem_catalogueEvents.symm⟩
    · simp only [EntityKind.fields, List.mem_cons, List.not_mem_nil, or_false] at hf
      rcases hf with rfl | rfl | rfl | rfl <;> rfl
    · obtain ⟨c, e, rfl, -⟩ := mem_catalogueEvents.1 hr
      exact ⟨e, c, rfl⟩
  | @catalogue id row h =>
    have htied (other : RowId) : ((s.catalogues.get? id).any fun c => c.members.contains other) =
        row.members.contains other := by
      rw [SortedMap.get?_eq_some_iff.2 h, Option.any_some]
    refine ⟨rfl, rfl, fun f hf => ?_, hasAttributes CatalogueRow.attributes h, fun r hr => ?_,
      fun other => ?_⟩
    · simp only [EntityKind.fields, List.mem_cons, List.not_mem_nil, or_false] at hf
      rcases hf with rfl | rfl <;> rfl
    · obtain ⟨c, e, rfl, -⟩ := mem_catalogueEvents.1 hr
      exact ⟨c, e, rfl⟩
    · exact (htied other ▸ pair_mem_catalogueEvents).symm

end Store

namespace Sql

theorem Term.cell_column_self {s : Scope} {scopes : List Scope} {name column : String} {c : Cell}
    (hname : s.name = name) (h : s.cell? column = some c) :
    (Term.column name column).cell (s :: scopes) = .ok c := by
  simp [cell, hname, h]

theorem Term.cell_column_outer {s : Scope} {scopes : List Scope} {name column : String}
    (hname : s.name ≠ name) :
    (Term.column name column).cell (s :: scopes) = (Term.column name column).cell scopes := by
  simp [cell, hname]

theorem verdict_test [Regex.Library] {t : Tables} {scopes : List Scope} {test : Test} {l r : Term} {c d : Cell}
    (hl : l.cell scopes = .ok c) (hr : r.cell scopes = .ok d) :
    (Expr.test test l r).verdict t scopes = test.verdict c d := by
  rw [Expr.verdict, hl, hr]
  rfl

theorem holds_eq_compare {α : Type} [Ord α] [Std.LawfulEqOrd α] [DecidableEq α] (a b : α) :
    Operator.eq.holds (compare a b) = decide (a = b) := by
  by_cases h : a = b
  · subst h
    simp [Operator.holds, Std.ReflCmp.compare_self]
  · have hne : compare a b ≠ .eq := fun heq => h (Std.LawfulEqCmp.eq_of_compare heq)
    simp [Operator.holds, h, hne]

theorem verdict_eq_integer [Regex.Library] (i j : Int64) :
    (Test.compares .eq).verdict (.integer i) (.integer j) = .ok (some (decide (i = j))) :=
  congrArg (fun b => Except.ok (some b)) (holds_eq_compare i j)

theorem verdict_eq_text [Regex.Library] (a : StoredText) (text : String) :
    (Test.compares .eq).verdict a.cell (.text text) = .ok (some (decide (a = .text text))) := by
  cases a with
  | text s =>
    simpa [Test.verdict, StoredText.cell, Cell.order?] using holds_eq_compare s text
  | bytes b => rfl

end Sql

namespace Candidate.Stands

open Condition.Atom

variable {e : Candidate} {t : Tables} {kind : EntityKind} {own : RowId} {s : Scope}

/-- A row of the table of attributes under the name that conditions have for it. -/
def attributeScope (kind : EntityKind) (owner : RowId) (key : StoredText) (r : AttributeRow) : Scope :=
  ⟨"a", kind.attributes, r.cells owner key⟩

theorem cell_id (h : e.Stands t kind own s) {outer : Scope} (hname : outer.name ≠ kind.tableAlias) :
    (Term.column kind.tableAlias "id").cell [outer, s] = .ok (.integer own) := by
  rw [Term.cell_column_outer hname, Term.cell_column_self h.name h.id]

theorem verdict_attributeBody [Regex.Library] (h : e.Stands t kind own s) (owner : RowId) (k : StoredText)
    (r : AttributeRow)
    (key : String) (more : List Expr) :
    (attributeBody kind key more).verdict t [attributeScope kind owner k r, s] =
      if owner = own ∧ k = .text key then
        Connective.and.joinAll (more.map (·.verdict t [attributeScope kind owner k r, s]))
      else .ok (some false) := by
  have howner : (equality "a" "owner_id" (.column kind.tableAlias "id")).verdict t
      [attributeScope kind owner k r, s] = .ok (some (decide (owner = own))) := by
    rw [← verdict_eq_integer]
    exact verdict_test (Term.cell_column_self rfl (by cases kind <;> rfl))
      (h.cell_id (by cases kind <;> simp [attributeScope, EntityKind.tableAlias]))
  have hkey : (equality "a" "key" (.bound (.string key))).verdict t
      [attributeScope kind owner k r, s] = .ok (some (decide (k = .text key))) := by
    rw [← verdict_eq_text]
    exact verdict_test (Term.cell_column_self rfl (by cases kind <;> rfl)) rfl
  rw [attributeBody, Expr.verdict_foldl, List.map_cons, Connective.joinAll_cons, howner, hkey]
  by_cases h₁ : owner = own
  · by_cases h₂ : k = .text key
    · simp only [h₁, h₂, decide_true, and_self, if_true]
      rfl
    · simp only [h₁, h₂, decide_true, decide_false, and_false, if_false]
      rfl
  · simp only [h₁, decide_false, false_and, if_false]
    rfl

/-- A query for an attribute looks at the one with the key. -/
theorem verdict_attributeExpr [Regex.Library] (h : e.Stands t kind own s) (key : String) (more : List Expr) :
    (attributeExpr kind key more).verdict t [s] =
      match e.attributes.get? (.text key) with
      | some r => (Connective.and.joinAll (more.map
          (·.verdict t [attributeScope kind own (.text key) r, s]))).map fun b => some (b == some true)
      | none => .ok (some false) := by
  rw [attributeExpr, Expr.verdict]
  cases hget : e.attributes.get? (.text key) with
  | none =>
    refine anyRow_of_false fun row hrow => ?_
    obtain ⟨owner, k, r, rfl, howner⟩ := h.attributes.cells row hrow
    refine (h.verdict_attributeBody owner k r key more).trans (if_neg ?_)
    rintro ⟨rfl, rfl⟩
    rw [howner rfl] at hget
    cases hget
  | some r =>
    have hunique : ∀ row ∈ t.rows kind.attributes, row = r.cells own (.text key) ∨
        (attributeBody kind key more).verdict t [⟨"a", kind.attributes, row⟩, s] = .ok (some false) := by
      intro row hrow
      obtain ⟨owner, k, r', rfl, howner⟩ := h.attributes.cells row hrow
      by_cases hrow : owner = own ∧ k = .text key
      · obtain ⟨rfl, rfl⟩ := hrow
        rw [howner rfl] at hget
        cases hget
        exact .inl rfl
      · exact .inr ((h.verdict_attributeBody owner k r' key more).trans (if_neg hrow))
    rw [anyRow_of_unique (h.attributes.mem _ r hget) hunique]
    have hbody := (h.verdict_attributeBody own (.text key) r key more).trans (if_pos ⟨rfl, rfl⟩)
    exact congrArg _ hbody

theorem verdict_valueExpr [Regex.Library] (key : String) (k : Value.Kind) (test : Test) (v : Value)
    (r : AttributeRow) :
    Connective.and.joinAll ((valueExpr k test v).map
        (·.verdict t [attributeScope kind own (.text key) r, s])) =
      if r.tag = .text k.tag then test.verdict (r.slot k) v.cell.kept else .ok (some false) := by
  have htag : (equality "a" "value_type" (.bound (.string k.tag))).verdict t
      [attributeScope kind own (.text key) r, s] = .ok (some (decide (r.tag = .text k.tag))) := by
    rw [← verdict_eq_text]
    exact verdict_test (Term.cell_column_self rfl (by cases kind <;> rfl)) rfl
  have htest : (Expr.test test (.column "a" k.column) (.bound v)).verdict t
      [attributeScope kind own (.text key) r, s] = test.verdict (r.slot k) v.cell.kept :=
    verdict_test (Term.cell_column_self rfl (by cases kind <;> cases k <;> rfl)) rfl
  simp only [valueExpr, List.map_cons, List.map_nil, Connective.joinAll_cons, Connective.joinAll_nil,
    Connective.join_neutral, htag, htest]
  by_cases hkind : r.tag = .text k.tag
  · simp only [hkind, decide_true, if_true]
    rfl
  · simp only [hkind, decide_false, if_false]
    rfl

theorem membershipRow_inj {this other id : RowId} :
    kind.membershipRow this other = kind.membershipRow own id ↔ this = own ∧ other = id := by
  cases kind <;> simp [EntityKind.membershipRow, and_comm]

/-- A query for a membership finds what the entity is tied to. -/
theorem verdict_membershipExpr [Regex.Library] (h : e.Stands t kind own s) {ownName otherName : String}
    (id : RowId)
    (hcells : ∀ this other, let scope : Scope := ⟨"m", .catalogueEvents, kind.membershipRow this other⟩
      scope.cell? ownName = some (.integer this) ∧ scope.cell? otherName = some (.integer other)) :
    (membershipExpr kind ownName otherName id).verdict t [s] = .ok (some (e.tied id)) := by
  have hname : "m" ≠ kind.tableAlias := by cases kind <;> decide
  have hrow : ∀ row ∈ t.rows .catalogueEvents,
      ((Expr.join .and (equality "m" ownName (.column kind.tableAlias "id"))
        (equality "m" otherName (.bound (.integer id)))).verdict t [⟨"m", .catalogueEvents, row⟩, s]) =
      .ok (some (decide (row = kind.membershipRow own id))) := by
    intro row hmem
    obtain ⟨this, other, rfl⟩ := h.memberships row hmem
    obtain ⟨hown, hother⟩ := hcells this other
    rw [Expr.verdict, equality, equality,
      verdict_test (Term.cell_column_self rfl hown) (h.cell_id hname),
      verdict_test (Term.cell_column_self rfl hother) (d := .integer id) rfl,
      verdict_eq_integer, verdict_eq_integer, decide_eq_decide.2 membershipRow_inj, Bool.decide_and]
    cases decide (this = own) <;> rfl
  rw [membershipExpr, Expr.verdict, anyRow_eq_any hrow]
  have htied : (t.rows .catalogueEvents).any (fun row => decide (row = kind.membershipRow own id)) =
      e.tied id := by
    rw [Bool.eq_iff_iff, List.any_eq_true, h.tied]
    simp [Tables.rows]
  rw [htied]

theorem verdict_fieldTest [Regex.Library] (h : e.Stands t kind own s) {f : FieldSpec} (hf : f ∈ kind.fields)
    (test : Test)
    (v : Value) : (Expr.test test (.column kind.tableAlias f.column.text) (.bound v)).verdict t [s] =
      test.verdict (e.field f.column).cell v.cell.kept :=
  verdict_test (Term.cell_column_self h.name (h.fields f hf)) rfl

end Candidate.Stands

namespace Condition

/-- A test of a field is one that a predicate can be compiled to: the field is one of the kind, and what it
is compared with has the kind of the field. -/
def Atom.IsFitting : Atom → Prop
  | fieldComparison kind column _ literal => ∃ f ∈ kind.fields, f.column = column ∧ literal.kind = f.kind
  | fieldMatch kind column _ => ∃ f ∈ kind.fields, f.column = column
  | _ => True

/-- Fields are kept as text, and so is what fits them. -/
theorem exists_text_of_fitting {kind : EntityKind} {f : FieldSpec} (hf : f ∈ kind.fields) {v : Value}
    (h : v.kind = f.kind) : ∃ text, v.cell = .text text := by
  have hkind : ∀ f ∈ kind.fields, f.kind = .string ∨ f.kind = .timestamp := by cases kind <;> decide
  rcases hkind f hf with hf | hf <;> rw [hf] at h <;> cases v <;> first | exact ⟨_, rfl⟩ | cases h

theorem verdict_compares_text [Regex.Library] (a : StoredText) (op : Operator) (text : String) :
    (Test.compares op).verdict a.cell (.text text) = .ok (some (a.cell.compares op (.text text))) := by
  cases a <;> rfl

theorem Atom.verdict_expr [Regex.Library] {e : Candidate} {t : Tables} {kind : EntityKind} {own : RowId}
    {s : Scope} (h : e.Stands t kind own s) {a : Atom} (hkind : a.kind = kind) (ha : a.IsFitting) :
    a.expr.verdict t [s] = (a.holds e).map some := by
  subst hkind
  cases a with
  | fieldComparison kind column op literal =>
    obtain ⟨f, hf, rfl, hliteral⟩ := ha
    obtain ⟨text, htext⟩ := exists_text_of_fitting hf hliteral
    refine (h.verdict_fieldTest hf (.compares op) literal).trans ?_
    rw [holds, htext]
    exact verdict_compares_text _ op text
  | fieldMatch kind column pattern =>
    obtain ⟨f, hf, rfl⟩ := ha
    exact h.verdict_fieldTest hf .regexp (.string pattern)
  | hasAttribute kind key =>
    refine (h.verdict_attributeExpr key []).trans ?_
    rw [holds, SortedMap.contains]
    cases e.attributes.get? (.text key) <;> rfl
  | attributeComparison kind key op literal =>
    refine (h.verdict_attributeExpr key _).trans ?_
    rw [holds]
    cases e.attributes.get? (.text key) with
    | none => rfl
    | some r =>
      dsimp only
      rw [Candidate.Stands.verdict_valueExpr]
      by_cases htag : r.tag = .text literal.kind.tag
      · rw [if_pos htag, htag, beq_self_eq_true, Bool.true_and, Test.verdict, Cell.compares]
        cases (r.slot literal.kind).order? literal.cell.kept with
        | none => rfl
        | some o => simp [Except.map]
      · rw [if_neg htag, beq_false_of_ne htag]
        rfl
  | attributeMatch kind key pattern =>
    refine (h.verdict_attributeExpr key _).trans ?_
    rw [holds]
    cases e.attributes.get? (.text key) with
    | none => rfl
    | some r =>
      dsimp only
      rw [Candidate.Stands.verdict_valueExpr]
      by_cases htag : r.tag = .text Value.Kind.string.tag
      · rw [if_pos htag, if_pos htag]
        change ((((r.slot .string).matchedBy pattern).map some).map fun b => some (b == some true)) = _
        cases (r.slot .string).matchedBy pattern with
        | error f => rfl
        | ok b => cases b <;> rfl
      · rw [if_neg htag, if_neg htag]
        rfl
  | memberOf catalogue => exact h.verdict_membershipExpr catalogue fun _ _ => ⟨rfl, rfl⟩
  | containing event => exact h.verdict_membershipExpr event fun _ _ => ⟨rfl, rfl⟩

theorem joinAll_and_holds [Regex.Library] {e : Candidate} (cs : List Condition) :
    Connective.and.joinAll (cs.map fun c => (c.holds e).map some) = (allHold e cs).map some := by
  induction cs with
  | nil => rfl
  | cons c cs ih =>
    rw [List.map_cons, Connective.joinAll_cons, ih, allHold]
    match c.holds e with
    | .error f => rfl
    | .ok true => rfl
    | .ok false => rfl

theorem joinAll_or_holds [Regex.Library] {e : Candidate} (cs : List Condition) :
    Connective.or.joinAll (cs.map fun c => (c.holds e).map some) = (anyHolds e cs).map some := by
  induction cs with
  | nil => rfl
  | cons c cs ih =>
    rw [List.map_cons, Connective.joinAll_cons, ih, anyHolds]
    match c.holds e with
    | .error f => rfl
    | .ok true => rfl
    | .ok false => rfl

theorem verdict_chain [Regex.Library] (c : Connective) (t : Tables) (scopes : List Scope) (es : List Expr) :
    (c.chain es).verdict t scopes = c.joinAll (es.map (·.verdict t scopes)) := by
  cases es with
  | nil => rfl
  | cons e es => exact Expr.verdict_foldl t scopes e es

/-- Parts that say whether they hold are joined to what says so of all of them. -/
theorem verdict_chain_expr [Regex.Library] {e : Candidate} {t : Tables} {scopes : List Scope}
    {cs : List Condition} (c : Connective) (h : ∀ d ∈ cs, d.expr.verdict t scopes = (d.holds e).map some) :
    (c.chain (cs.map expr)).verdict t scopes = c.joinAll (cs.map fun d => (d.holds e).map some) := by
  rw [verdict_chain, List.map_map]
  exact congrArg c.joinAll (List.map_congr_left h)

theorem mem_atomsOfAll {a : Atom} {c : Condition} {cs : List Condition} (hc : c ∈ cs) (ha : a ∈ c.atoms) :
    a ∈ atomsOfAll cs := by
  rw [atomsOfAll_eq_flatMap]
  exact List.mem_flatMap.2 ⟨c, hc, ha⟩

/-- On a stored row the expression of a condition says whether the condition holds. -/
theorem verdict_expr [Regex.Library] {e : Candidate} {t : Tables} {kind : EntityKind} {own : RowId} {s : Scope}
    (h : e.Stands t kind own s) (c : Condition) (hc : ∀ a ∈ c.atoms, a.kind = kind ∧ a.IsFitting) :
    c.expr.verdict t [s] = (c.holds e).map some := by
  induction c using induction with
  | hatom a =>
    obtain ⟨hkind, ha⟩ := hc a (by simp [atoms])
    rw [expr, holds]
    exact Atom.verdict_expr h hkind ha
  | hand cs ih =>
    have hparts (d : Condition) (hd : d ∈ cs) := ih d hd fun a ha => hc a (mem_atomsOfAll hd ha)
    rw [expr, verdict_chain_expr .and hparts, joinAll_and_holds, holds]
  | hor cs ih =>
    have hparts (d : Condition) (hd : d ∈ cs) := ih d hd fun a ha => hc a (mem_atomsOfAll hd ha)
    rw [expr, verdict_chain_expr .or hparts, joinAll_or_holds, holds]
  | hnegate c ih =>
    rw [expr, Expr.verdict, ih hc, holds]
    cases c.holds e <;> rfl

theorem eq_map_expr_of_readsAs {cs : List Condition} {es : List Expr}
    (h : List.Forall₂ ReadsAs cs es) : es = cs.map expr := by
  induction h with
  | nil => rfl
  | cons hread _ ih => rw [List.map_cons, ih, readsAs_iff.1 hread]

theorem forall₂_reads_expr (as : List Atom) :
    List.Forall₂ (fun a l => Reads a.sql a.params l) as (as.map Atom.expr) := by
  induction as with
  | nil => exact .nil
  | cons a as ih => exact .cons a.reads_expr ih

/-- The text of a condition with its parameters is read as exactly one expression. There are as many question
marks as parameters, and the tests and queries of the expression are, from left to right, what the atoms are
read as by themselves with their own parameters. On any rows a conjunction says what its parts say together,
so does a disjunction, and a negation says the contrary. On a stored row the expression says whether the
condition holds. -/
theorem readsAs_existsUnique_and_verdict [Regex.Library] :
    (∀ c : Condition, (∃! e, c.ReadsAs e) ∧ c.sql.toList.count '?' = c.params.length ∧
      c.params = c.atoms.flatMap Atom.params ∧
      ∀ e, c.ReadsAs e → List.Forall₂ (fun a l => Reads a.sql a.params l) c.atoms e.leaves) ∧
    (∀ cs es t scopes, List.Forall₂ ReadsAs cs es →
      (∀ e, (and cs).ReadsAs e →
        e.verdict t scopes = Connective.and.joinAll (es.map (·.verdict t scopes))) ∧
      ∀ e, (or cs).ReadsAs e →
        e.verdict t scopes = Connective.or.joinAll (es.map (·.verdict t scopes))) ∧
    (∀ c e e' t scopes, c.ReadsAs e → (negate c).ReadsAs e' →
      e'.verdict t scopes = (e.verdict t scopes).negate) ∧
    ∀ (s : Store) kind id scope candidate (c : Condition) e, s.HasRow kind id scope candidate →
      (∀ a ∈ c.atoms, a.kind = kind ∧ a.IsFitting) → c.ReadsAs e →
      e.verdict s.tables [scope] = (c.holds candidate).map some := by
  refine ⟨fun c => ⟨?_, c.readsAs_expr.count_marks, rfl, fun e he => ?_⟩,
    fun cs es t scopes hes => ⟨fun e he => ?_, fun e he => ?_⟩, fun c e e' t scopes he he' => ?_,
    fun s kind id scope candidate c e hrow hc he => ?_⟩
  · exact ⟨c.expr, c.readsAs_expr, fun e he => readsAs_iff.1 he⟩
  · rw [readsAs_iff.1 he, leaves_expr]
    exact forall₂_reads_expr c.atoms
  · rw [readsAs_iff.1 he, expr, verdict_chain, eq_map_expr_of_readsAs hes]
  · rw [readsAs_iff.1 he, expr, verdict_chain, eq_map_expr_of_readsAs hes]
  · rw [readsAs_iff.1 he', expr, Expr.verdict, readsAs_iff.1 he]
  · rw [readsAs_iff.1 he]
    exact verdict_expr hrow.stands c hc

/-- A store with one event, which has a score of 7. -/
def single : Store :=
  ⟨SortedMap.empty.insert 1 ⟨.text "u", .text "2024-02-29 08:00:00", .text "2024-02-29 09:00:00",
    .text "alice", SortedMap.empty.insert (.text "score") (.ofValue (.integer 7))⟩, .empty, 1, 0⟩

/-- The score is greater than 5 and the event is in no catalogue, or nothing. -/
def above : Condition :=
  .and [.atom (.attributeComparison .event "score" .gt (.integer 5)),
    .or [.negate (.atom (.memberOf 1)), .or []]]

theorem verdict_single : ∃ e scope, above.ReadsAs e ∧ scope.row ∈ single.tables.events ∧
    e.verdict single.tables [scope] = .ok (some true) := by
  obtain ⟨hread, -, -, hverdict⟩ := readsAs_existsUnique_and_verdict
  obtain ⟨e, he, -⟩ := (hread above).1
  have hrow := Store.HasRow.event (s := single) List.mem_cons_self
  refine ⟨e, _, he, List.mem_cons_self, (hverdict _ _ _ _ _ above e hrow ?_ he).trans rfl⟩
  intro a ha
  simp only [above, atoms, atomsOfAll, List.append_nil, List.cons_append, List.nil_append, List.mem_cons,
    List.not_mem_nil, or_false] at ha
  rcases ha with rfl | rfl <;> exact ⟨rfl, trivial⟩

end Condition

end Chronicle
