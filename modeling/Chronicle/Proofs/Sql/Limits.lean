import Chronicle.Proofs.Predicate.Compiled
import Chronicle.Proofs.Sql.Selection
import Mathlib.Algebra.BigOperators.Ring.List
import Mathlib.Algebra.Order.Ring.Nat
import Mathlib.Algebra.Order.BigOperators.Group.List

/-!
# Which selections are taken

The columns of a condition are known, its queries have few tests, and what is written of it is bounded by its
levels and parameters. So an engine takes the selection by the condition of a predicate whenever its levels,
parameters and texts are within the limits and there are not too many ways to find the rows, and refuses it
when it has too many levels or parameters.
-/
namespace Chronicle

open Sql

namespace Sql

variable {c : Connective} {e x : Expr} {es : List Expr} {tables : List (String × Table)}

theorem Expr.isKnown_foldl :
    (es.foldl (.join c) e).isKnown tables = (e.isKnown tables && es.all (·.isKnown tables)) := by
  induction es generalizing e with
  | nil => exact (Bool.and_true _).symm
  | cons e' es ih => rw [List.foldl_cons, ih, isKnown, List.all_cons, Bool.and_assoc]

theorem Connective.isKnown_chain (h : ∀ e ∈ es, e.isKnown tables = true) :
    (c.chain es).isKnown tables = true := by
  cases es with
  | nil => rfl
  | cons e es =>
    obtain ⟨he, hes⟩ := List.forall_mem_cons.1 h
    rw [chain, Expr.isKnown_foldl, he, List.all_eq_true.2 hes, Bool.true_and]

theorem Expr.hasConstant_foldl :
    (es.foldl (.join c) e).hasConstant = (e.hasConstant || es.any hasConstant) := by
  induction es generalizing e with
  | nil => exact (Bool.or_false _).symm
  | cons e' es ih => rw [List.foldl_cons, ih, hasConstant, List.any_cons, Bool.or_assoc]

theorem Expr.queryWays_foldl_le {n : Nat} (he : e.queryWays ≤ n) (hes : ∀ x ∈ es, x.queryWays ≤ n) :
    (es.foldl (.join c) e).queryWays ≤ n := by
  induction es generalizing e with
  | nil => exact he
  | cons e' es ih =>
    obtain ⟨he', hes⟩ := List.forall_mem_cons.1 hes
    exact ih (Nat.max_le.2 ⟨he, he'⟩) hes

theorem Connective.queryWays_chain_le {n : Nat} (h : ∀ e ∈ es, e.queryWays ≤ n) :
    (c.chain es).queryWays ≤ n := by
  cases es with
  | nil => exact Nat.zero_le n
  | cons e es =>
    obtain ⟨he, hes⟩ := List.forall_mem_cons.1 h
    exact Expr.queryWays_foldl_le he hes

/-- A chain has a constant only if it has no parts or one of them has it. -/
theorem Connective.hasConstant_chain :
    (c.chain es).hasConstant = false ↔ es ≠ [] ∧ ∀ e ∈ es, e.hasConstant = false := by
  cases es with
  | nil => simp [chain, Expr.hasConstant]
  | cons e es => simp [chain, Expr.hasConstant_foldl]

/-- Every part of a chain adds a level. -/
theorem Expr.length_add_height_le_foldl (c : Connective) (e : Expr) (es : List Expr) :
    es.length + e.height ≤ (es.foldl (.join c) e).height := by
  induction es generalizing e with
  | nil => exact Nat.le_of_eq (Nat.zero_add _)
  | cons e' es ih =>
    have hjoin : e.height < (join c e e').height := by
      rw [height]
      omega
    rw [List.foldl_cons, List.length_cons]
    exact Nat.le_trans (by omega) (ih (.join c e e'))

theorem Expr.height_le_foldl : e.height ≤ (es.foldl (.join c) e).height :=
  Nat.le_trans (Nat.le_add_left ..) (length_add_height_le_foldl c e es)

theorem Expr.height_lt_foldl (h : x ∈ es) : x.height < (es.foldl (.join c) e).height := by
  induction es generalizing e with
  | nil => cases h
  | cons e' es ih =>
    rw [List.foldl_cons]
    rcases List.mem_cons.1 h with rfl | h
    · have hjoin : x.height < (join c e x).height := by
        rw [height]
        omega
      exact Nat.lt_of_lt_of_le hjoin height_le_foldl
    · exact ih h

/-- A part of several is lower than their chain. -/
theorem Connective.height_lt_chain {e' : Expr} (h : x ∈ e :: e' :: es) :
    x.height < (c.chain (e :: e' :: es)).height := by
  rw [chain, List.foldl_cons]
  have hjoin : max e.height e'.height < (Expr.join c e e').height := by
    rw [Expr.height]
    omega
  rcases List.mem_cons.1 h with rfl | h
  · exact Nat.lt_of_lt_of_le (Nat.lt_of_le_of_lt (Nat.le_max_left ..) hjoin) Expr.height_le_foldl
  rcases List.mem_cons.1 h with rfl | h
  · exact Nat.lt_of_lt_of_le (Nat.lt_of_le_of_lt (Nat.le_max_right ..) hjoin) Expr.height_le_foldl
  · exact Expr.height_lt_foldl h

end Sql

namespace Condition

variable {kind : EntityKind} {c : Condition}

theorem Atom.isKnown_expr {a : Atom} (h : a.IsFitting) :
    a.expr.isKnown [(a.kind.tableAlias, a.kind.entities)] = true := by
  have hfields (kind : EntityKind) : ∀ f ∈ kind.fields,
      Qualified.isKnown [(kind.tableAlias, kind.entities)] ⟨kind.tableAlias, f.column.text⟩ = true := by
    cases kind <;> decide
  have hquery (kind : EntityKind) (key : String) (k : Value.Kind) (t : Test) (v : Value) :
      (attributeExpr kind key (valueExpr k t v)).isKnown [(kind.tableAlias, kind.entities)] = true := by
    cases kind <;> cases k <;> rfl
  cases a with
  | fieldComparison kind column op literal =>
    obtain ⟨f, hf, rfl, -⟩ := h
    exact Bool.and_eq_true_iff.2 ⟨hfields kind f hf, rfl⟩
  | fieldMatch kind column pattern =>
    obtain ⟨f, hf, rfl⟩ := h
    exact Bool.and_eq_true_iff.2 ⟨hfields kind f hf, rfl⟩
  | hasAttribute kind key => cases kind <;> rfl
  | attributeComparison kind key op literal => exact hquery ..
  | attributeMatch kind key pattern => exact hquery ..
  | memberOf catalogue => rfl
  | containing event => rfl

theorem Atom.hasConstant_expr (a : Atom) : a.expr.hasConstant = false := by cases a <;> rfl

/-- The levels of an atom are few. -/
theorem Atom.depth_expr_le (a : Atom) : a.expr.depth ≤ 13 := by
  cases a <;> exact Nat.le_of_ble_eq_true rfl

theorem Atom.ways_expr_le (a : Atom) : a.expr.ways ≤ 1 := by cases a <;> exact Nat.le_of_ble_eq_true rfl

/-- No query has more than four tests. -/
theorem Atom.queryWays_expr_le (a : Atom) : a.expr.queryWays ≤ 4 := by
  cases a <;> exact Nat.le_of_ble_eq_true rfl

theorem Atom.length_params_le (a : Atom) : a.params.length ≤ 3 := by
  cases a <;> exact Nat.le_of_ble_eq_true rfl

theorem suits_atom {a : Atom} (hfitting : a.IsFitting) : (atom a).Suits a.kind := by
  intro b hb
  rw [atoms, List.mem_singleton] at hb
  rw [hb]
  exact ⟨rfl, hfitting⟩

theorem suits_and {cs : List Condition} : (and cs).Suits kind ↔ ∀ c ∈ cs, c.Suits kind := by
  simp only [Suits, atoms, atomsOfAll_eq_flatMap, List.mem_flatMap]
  constructor
  · exact fun h c hc a ha => h a ⟨c, hc, ha⟩
  · rintro h a ⟨c, hc, ha⟩
    exact h c hc a ha

theorem suits_or {cs : List Condition} : (or cs).Suits kind ↔ ∀ c ∈ cs, c.Suits kind := suits_and

theorem Suits.isKnown (h : c.Suits kind) : c.expr.isKnown [(kind.tableAlias, kind.entities)] = true := by
  induction c using induction with
  | hatom a =>
    obtain ⟨rfl, ha⟩ := h a (by simp [atoms])
    rw [expr]
    exact Atom.isKnown_expr ha
  | hand cs ih =>
    rw [expr]
    exact Connective.isKnown_chain (List.forall_mem_map.2 fun c hc => ih c hc (suits_and.1 h c hc))
  | hor cs ih =>
    rw [expr]
    exact Connective.isKnown_chain (List.forall_mem_map.2 fun c hc => ih c hc (suits_or.1 h c hc))
  | hnegate c ih =>
    rw [expr, Expr.isKnown]
    exact ih h

/-! ## How long the text is -/

theorem hasConstant_and {cs : List Condition} :
    (and cs).expr.hasConstant = false ↔ cs ≠ [] ∧ ∀ c ∈ cs, c.expr.hasConstant = false := by
  simp [expr, Connective.hasConstant_chain]

theorem hasConstant_or {cs : List Condition} :
    (or cs).expr.hasConstant = false ↔ cs ≠ [] ∧ ∀ c ∈ cs, c.expr.hasConstant = false := by
  simp [expr, Connective.hasConstant_chain]

/-- A condition without constants has an atom. -/
theorem length_atoms_pos (h : c.expr.hasConstant = false) : 0 < c.atoms.length := by
  have hparts {cs : List Condition} (ih : ∀ c ∈ cs, c.expr.hasConstant = false → 0 < c.atoms.length)
      (hne : cs ≠ []) (hcs : ∀ c ∈ cs, c.expr.hasConstant = false) : 0 < (atomsOfAll cs).length := by
    obtain ⟨d, ds, rfl⟩ := List.exists_cons_of_ne_nil hne
    rw [atomsOfAll, List.length_append]
    exact Nat.add_pos_left (ih d List.mem_cons_self (hcs d List.mem_cons_self)) _
  induction c using induction with
  | hatom a => exact Nat.one_pos
  | hand cs ih =>
    obtain ⟨hne, hcs⟩ := hasConstant_and.1 h
    exact hparts ih hne hcs
  | hor cs ih =>
    obtain ⟨hne, hcs⟩ := hasConstant_or.1 h
    exact hparts ih hne hcs
  | hnegate c ih => exact ih (by rwa [expr, Expr.hasConstant] at h)

/-- The greatest number of bytes that are written of an atom. -/
def Atom.bytes : Nat := 200

/-- The greatest number of bytes that a part adds where it is joined to others. -/
def joiningBytes : Nat := 7

theorem Atom.utf8ByteSize_sql_le (a : Atom) : a.sql.utf8ByteSize ≤ bytes := by
  cases a <;> rw [sql]
  case fieldComparison kind column op literal =>
    cases kind <;> cases column <;> cases op <;> decide +kernel
  case fieldMatch kind column pattern => cases kind <;> cases column <;> decide +kernel
  case hasAttribute kind key => cases kind <;> decide +kernel
  case attributeComparison kind key op literal =>
    generalize literal.kind = k
    cases kind <;> cases k <;> cases op <;> decide +kernel
  case attributeMatch kind key pattern => cases kind <;> decide +kernel
  case memberOf catalogue => decide +kernel
  case containing event => decide +kernel

theorem utf8ByteSize_intercalate_le (s : String) (parts : List String) :
    (String.intercalate s parts).utf8ByteSize ≤ (parts.map fun p => p.utf8ByteSize + s.utf8ByteSize).sum := by
  induction parts with
  | nil => simp
  | cons p parts ih =>
    cases parts with
    | nil => simp
    | cons q parts =>
      rw [String.intercalate_cons_cons, String.utf8ByteSize_append, String.utf8ByteSize_append,
        List.map_cons, List.sum_cons]
      omega

/-- A part that is written in parentheses between others is bounded by the levels of all. -/
theorem utf8ByteSize_part_le {n h height : Nat} {d : Condition} (hn : n ≤ joiningBytes)
    (hpos : 0 < d.atoms.length) (hheight : h < height)
    (hsql : d.sql.utf8ByteSize ≤ d.atoms.length * (Atom.bytes + joiningBytes * h)) :
    d.sql.utf8ByteSize + n ≤ d.atoms.length * (Atom.bytes + joiningBytes * height) := by
  have hlevel : Atom.bytes + joiningBytes * h + joiningBytes ≤ Atom.bytes + joiningBytes * height := by
    rw [Nat.add_assoc, ← Nat.mul_succ]
    exact Nat.add_le_add_left (Nat.mul_le_mul_left _ hheight) _
  calc d.sql.utf8ByteSize + n
      ≤ d.atoms.length * (Atom.bytes + joiningBytes * h) + d.atoms.length * joiningBytes :=
        Nat.add_le_add hsql (Nat.le_trans hn (Nat.le_mul_of_pos_left _ hpos))
    _ = d.atoms.length * (Atom.bytes + joiningBytes * h + joiningBytes) := (Nat.mul_add ..).symm
    _ ≤ d.atoms.length * (Atom.bytes + joiningBytes * height) := Nat.mul_le_mul_left _ hlevel

/-- Parts that are bounded by their own atoms and levels are bounded together. -/
theorem utf8ByteSize_joined_le (c : Connective) {identity : String} {cs : List Condition} (hne : cs ≠ [])
    (h : ∀ d ∈ cs, 0 < d.atoms.length ∧
      d.sql.utf8ByteSize ≤ d.atoms.length * (Atom.bytes + joiningBytes * d.expr.height)) :
    (joined c.text identity (cs.map sql)).utf8ByteSize ≤
      (cs.flatMap atoms).length * (Atom.bytes + joiningBytes * (c.chain (cs.map expr)).height) := by
  match cs, hne with
  | [d], _ =>
    rw [List.flatMap_singleton]
    exact (h d List.mem_cons_self).2
  | d :: d' :: ds, _ =>
    have hpart (x : Condition) (hx : x ∈ d :: d' :: ds) : ("(" ++ x.sql ++ ")").utf8ByteSize +
        (" " ++ c.text ++ " ").utf8ByteSize ≤ x.atoms.length *
          (Atom.bytes + joiningBytes * (c.chain ((d :: d' :: ds).map expr)).height) := by
      have hheight : x.expr.height < (c.chain ((d :: d' :: ds).map expr)).height :=
        Connective.height_lt_chain (List.mem_map_of_mem hx)
      have hsize : ("(" ++ x.sql ++ ")").utf8ByteSize + (" " ++ c.text ++ " ").utf8ByteSize =
          x.sql.utf8ByteSize + (c.text.utf8ByteSize + 4) := by
        have hbracket : "(".utf8ByteSize = 1 ∧ ")".utf8ByteSize = 1 ∧ " ".utf8ByteSize = 1 := by decide +kernel
        simp only [String.utf8ByteSize_append, hbracket]
        omega
      rw [hsize]
      exact utf8ByteSize_part_le (by cases c <;> decide +kernel) (h x hx).1 hheight (h x hx).2
    have hjoined : joined c.text identity ((d :: d' :: ds).map sql) = String.intercalate
        (" " ++ c.text ++ " ") ((d :: d' :: ds).map fun x => "(" ++ x.sql ++ ")") :=
      congrArg _ List.map_map
    rw [hjoined]
    refine Nat.le_trans (utf8ByteSize_intercalate_le ..) ?_
    rw [List.map_map, List.length_flatMap, ← List.sum_map_mul_right]
    exact List.sum_le_sum hpart

/-- What is written of a condition is bounded by its atoms and levels. -/
theorem utf8ByteSize_sql_le (h : c.expr.hasConstant = false) :
    c.sql.utf8ByteSize ≤ c.atoms.length * (Atom.bytes + joiningBytes * c.expr.height) := by
  induction c using induction with
  | hatom a =>
    have hsql := a.utf8ByteSize_sql_le
    rw [sql, atoms, List.length_singleton, Nat.one_mul]
    omega
  | hand cs ih =>
    obtain ⟨hne, hcs⟩ := hasConstant_and.1 h
    rw [sql, sqls_eq_map, atoms, atomsOfAll_eq_flatMap, expr]
    exact utf8ByteSize_joined_le .and hne fun d hd => ⟨length_atoms_pos (hcs d hd), ih d hd (hcs d hd)⟩
  | hor cs ih =>
    obtain ⟨hne, hcs⟩ := hasConstant_or.1 h
    rw [sql, sqls_eq_map, atoms, atomsOfAll_eq_flatMap, expr]
    exact utf8ByteSize_joined_le .or hne fun d hd => ⟨length_atoms_pos (hcs d hd), ih d hd (hcs d hd)⟩
  | hnegate c ih =>
    rw [expr, Expr.hasConstant] at h
    have hsize : ("not (" ++ c.sql ++ ")").utf8ByteSize = c.sql.utf8ByteSize + 6 := by
      have hbracket : "not (".utf8ByteSize = 5 ∧ ")".utf8ByteSize = 1 := by decide +kernel
      simp only [String.utf8ByteSize_append, hbracket]
      omega
    rw [sql, hsize, atoms, expr, Expr.height]
    exact utf8ByteSize_part_le (by decide) (length_atoms_pos h) (Nat.lt_succ_self _) (ih h)

/-! ## What engines take -/

theorem length_atoms_le (c : Condition) : c.atoms.length ≤ c.params.length := by
  have hatom : ∀ a ∈ c.atoms, 1 ≤ a.params.length := fun a _ => by cases a <;> simp [Atom.params]
  rw [params, List.length_flatMap]
  simpa using List.sum_le_sum hatom

/-- No query in a condition has more tests than that of an atom. -/
theorem queryWays_expr_le (c : Condition) : c.expr.queryWays ≤ 4 := by
  induction c using induction with
  | hatom a =>
    rw [expr]
    exact a.queryWays_expr_le
  | hand cs ih =>
    rw [expr]
    exact Connective.queryWays_chain_le (List.forall_mem_map.2 ih)
  | hor cs ih =>
    rw [expr]
    exact Connective.queryWays_chain_le (List.forall_mem_map.2 ih)
  | hnegate c ih =>
    rw [expr, Expr.queryWays]
    exact ih

theorem Suits.isKnown_statement (h : c.Suits kind) : (kind.statement c.expr).isKnown = true := by
  have hcolumns : (isAlias kind.tableAlias && (kind.statement c.expr).columns.all
        (·.isKnown [(kind.tableAlias, kind.entities)])) = true ∧
      (kind.statement c.expr).order.isKnown [(kind.tableAlias, kind.entities)] = true := by
    cases kind <;> exact ⟨rfl, rfl⟩
  have hcondition : (kind.statement c.expr).condition.isKnown [(kind.tableAlias, kind.entities)] = true :=
    h.isKnown
  exact Bool.and_eq_true_iff.2 ⟨Bool.and_eq_true_iff.2 ⟨hcolumns.1, hcondition⟩, hcolumns.2⟩

theorem length_columns_le (kind : EntityKind) (e : Expr) :
    (kind.statement e).columns.length ≤ maximumColumns := by
  cases kind <;> exact Nat.le_of_ble_eq_true rfl

theorem utf8ByteSize_selection (kind : EntityKind) (text : String) :
    (kind.selection text).utf8ByteSize ≤ text.utf8ByteSize + Atom.bytes := by
  have haround : kind.selectionStart.utf8ByteSize + kind.selectionEnd.utf8ByteSize ≤ Atom.bytes := by
    cases kind <;> decide +kernel
  rw [EntityKind.selection, String.utf8ByteSize_append, String.utf8ByteSize_append]
  omega

/-- The text of a condition within the limits is never too long. -/
theorem utf8ByteSize_selection_le (hconstant : c.expr.hasConstant = false)
    (hdepth : c.expr.depth ≤ maximumDepth) (hparams : c.params.length ≤ maximumParameters) :
    (kind.selection c.sql).utf8ByteSize ≤ maximumLength := by
  have hheight : c.expr.height ≤ maximumDepth := Nat.le_trans (Nat.le_add_right ..) hdepth
  calc (kind.selection c.sql).utf8ByteSize
      ≤ c.sql.utf8ByteSize + Atom.bytes := utf8ByteSize_selection kind c.sql
    _ ≤ c.atoms.length * (Atom.bytes + joiningBytes * c.expr.height) + Atom.bytes :=
        Nat.add_le_add_right (utf8ByteSize_sql_le hconstant) _
    _ ≤ maximumParameters * (Atom.bytes + joiningBytes * maximumDepth) + Atom.bytes :=
        Nat.add_le_add_right (Nat.mul_le_mul (Nat.le_trans c.length_atoms_le hparams)
          (Nat.add_le_add_left (Nat.mul_le_mul_left _ hheight) _)) _
    _ ≤ maximumLength := by decide

variable [Engine]

/-- A selection within the limits is taken by every engine. -/
theorem isTaken_of_le (hsuits : c.Suits kind) (hconstant : c.expr.hasConstant = false)
    (hdepth : c.expr.depth ≤ maximumDepth) (hways : c.expr.ways ≤ weighedWays)
    (hparams : c.params.length ≤ maximumParameters) (hlengths : ∀ v ∈ c.params, lengthOf v ≤ maximumLength) :
    c.isTaken kind = true :=
  Engine.takes_of_isModest (kind.read?_selection c.readsAs_expr)
    { known := hsuits.isKnown_statement
      columns := length_columns_le kind c.expr
      depth := hdepth
      ways := hways
      queryWays := Nat.le_trans c.queryWays_expr_le (by decide)
      parameters := hparams
      length := utf8ByteSize_selection_le hconstant hdepth hparams
      lengths := hlengths }

/-- All entities of a kind can always be selected. -/
theorem isSelectable_all (kind : EntityKind) : (and []).IsSelectable kind := by
  have hsuits : (and []).Suits kind := suits_and.2 nofun
  have hexpr : (and []).expr = .constant true := by
    rw [expr]
    rfl
  refine ⟨hsuits, Engine.takes_of_isModest (kind.read?_selection (and []).readsAs_expr)
    { known := hsuits.isKnown_statement
      columns := length_columns_le kind _
      depth := ?_
      ways := ?_
      queryWays := Nat.le_trans (and []).queryWays_expr_le (by decide)
      parameters := Nat.zero_le _
      length := Nat.le_trans (utf8ByteSize_selection kind _) (by decide +kernel)
      lengths := fun _ h => absurd h List.not_mem_nil }⟩
  · change (and []).expr.depth ≤ maximumDepth
    rw [hexpr]
    decide
  · change (and []).expr.ways ≤ weighedWays
    rw [hexpr]
    decide

/-- A selection by an atom is taken unless what is asked for is too long. -/
theorem isSelectable_atom {a : Atom} (hfitting : a.IsFitting)
    (h : ∀ v ∈ a.params, lengthOf v ≤ maximumLength) : (atom a).IsSelectable a.kind := by
  have hexpr : (atom a).expr = a.expr := by rw [expr]
  have hparams : (atom a).params = a.params := by rw [params, atoms, List.flatMap_singleton]
  refine ⟨suits_atom hfitting, isTaken_of_le (suits_atom hfitting) ?_ ?_ ?_ ?_ ?_⟩
  · rw [hexpr, a.hasConstant_expr]
  · rw [hexpr]
    exact Nat.le_trans a.depth_expr_le (by decide)
  · rw [hexpr]
    exact Nat.le_trans a.ways_expr_le (by decide)
  · rw [hparams]
    exact Nat.le_trans a.length_params_le (by decide)
  · rwa [hparams]

theorem isSelectable_memberOf (catalogue : RowId) : (atom (.memberOf catalogue)).IsSelectable .event :=
  isSelectable_atom (a := .memberOf catalogue) trivial (List.forall_mem_singleton.2 (Nat.zero_le _))

theorem isSelectable_containing (event : RowId) : (atom (.containing event)).IsSelectable .catalogue :=
  isSelectable_atom (a := .containing event) trivial (List.forall_mem_singleton.2 (Nat.zero_le _))

end Condition

namespace Predicate

variable [Regex.Library] {kind : EntityKind} {p : Predicate} {c : Condition}

/-- The condition of a predicate says something about the kind that it is compiled for. -/
theorem suits_compile (h : p.compile kind = .ok c) : c.Suits kind := by
  have hcases : CompileCases kind (fun _ c => c.Suits kind) (fun _ cs => ∀ c ∈ cs, c.Suits kind) := by
    constructor
    case comparison =>
      intro op operand w c h
      obtain ⟨-, ⟨f, -, hf, hkind, rfl⟩ | ⟨key, -, rfl⟩⟩ := compileComparison_eq_ok.1 h
      · exact Condition.suits_atom ⟨f, (EntityKind.mem_fields_of_field? hf).1, rfl, hkind⟩
      · exact Condition.suits_atom trivial
    case matching =>
      intro operand w c h
      obtain ⟨text, -, -, ⟨f, -, hf, rfl⟩ | ⟨key, -, rfl⟩⟩ := compileMatch_eq_ok.1 h
      · exact Condition.suits_atom ⟨f, (EntityKind.mem_fields_of_field? hf).1, rfl⟩
      · exact Condition.suits_atom trivial
    case has => exact fun key => Condition.suits_atom trivial
    case double => exact fun hp => hp
    case not => exact fun _ hp => hp
    case all => exact fun _ => Condition.suits_and.2
    case any => exact fun _ => Condition.suits_or.2
    case nil => exact List.forall_mem_nil _
    case cons => exact fun hp hps => List.forall_mem_cons.2 ⟨hp, hps⟩
  exact compile_induction hcases h

end Predicate

end Chronicle
