import Chronicle.Condition.Basic
import Chronicle.Proofs.Sql.Grammar
import Chronicle.Proofs.Sql.Verdict

/-!
# Conditions are read as they are built

The expression that a condition is built as, and that its text with its parameters is read as just this
expression.
-/
namespace Chronicle

open Sql

namespace EntityKind

def attributes : EntityKind → Table
  | event => .eventAttributes
  | catalogue => .catalogueAttributes

end EntityKind

namespace Condition

section Induction

variable {P : Condition → Prop} (hatom : ∀ a, P (.atom a))
  (hand : ∀ cs, (∀ c ∈ cs, P c) → P (.and cs)) (hor : ∀ cs, (∀ c ∈ cs, P c) → P (.or cs))
  (hnegate : ∀ c, P c → P (.negate c))

include hatom hand hor hnegate

/-- What holds of atoms, and of what is built of conditions that it holds of. -/
theorem induction : ∀ c : Condition, P c
  | .atom a => hatom a
  | .and cs => hand cs fun c _ => induction c
  | .or cs => hor cs fun c _ => induction c
  | .negate c => hnegate c (induction c)

end Induction

namespace Atom

/-- A column equals another, or a parameter. -/
def equality (owner name : String) (r : Term) : Expr := .test (.compares .eq) (.column owner name) r

/-- An attribute belongs to the entity and has a key, and more is true of it. -/
def attributeBody (kind : EntityKind) (key : String) (more : List Expr) : Expr :=
  (equality "a" "key" (.bound (.string key)) :: more).foldl (.join .and)
    (equality "a" "owner_id" (.column kind.tableAlias "id"))

def attributeExpr (kind : EntityKind) (key : String) (more : List Expr) : Expr :=
  .query kind.attributes "a" (attributeBody kind key more)

def valueExpr (kind : Value.Kind) (t : Test) (v : Value) : List Expr :=
  [equality "a" "value_type" (.bound (.string kind.tag)), .test t (.column "a" kind.column) (.bound v)]

def membershipExpr (kind : EntityKind) (own other : String) (id : RowId) : Expr :=
  .query .catalogueEvents "m" (.join .and (equality "m" own (.column kind.tableAlias "id"))
    (equality "m" other (.bound (.integer id))))

def expr : Atom → Expr
  | fieldComparison kind column op literal =>
    .test (.compares op) (.column kind.tableAlias column.text) (.bound literal)
  | fieldMatch kind column pattern =>
    .test .regexp (.column kind.tableAlias column.text) (.bound (.string pattern))
  | hasAttribute kind key => attributeExpr kind key []
  | attributeComparison kind key op literal =>
    attributeExpr kind key (valueExpr literal.kind (.compares op) literal)
  | attributeMatch kind key pattern =>
    attributeExpr kind key (valueExpr .string .regexp (.string pattern))
  | memberOf catalogue => membershipExpr .event "event_id" "catalogue_id" catalogue
  | containing event => membershipExpr .catalogue "catalogue_id" "event_id" event

end Atom

end Condition

/-- One part stands for itself, and none for what does not matter to the connective. -/
def Sql.Connective.chain (c : Connective) : List Expr → Expr
  | [] => .constant !c.settling
  | e :: es => es.foldl (.join c) e

namespace Condition

def expr : Condition → Expr
  | atom a => a.expr
  | and cs => Connective.and.chain (cs.map expr)
  | or cs => Connective.or.chain (cs.map expr)
  | negate c => .not c.expr

end Condition

namespace Sql

/-- A text with its parameters is read as an expression. -/
def Reads (text : String) (params : List Value) (e : Expr) : Prop :=
  ∃ ts, tokens? (lexemes text) params = some ts ∧ Derives (.chain .or) ts e

variable {text : String} {params : List Value} {e e' : Expr} {ts : List Token} {c : Connective}

theorem Reads.unique (h : Reads text params e) (h' : Reads text params e') : e = e' := by
  obtain ⟨ts, hts, hderives⟩ := h
  obtain ⟨ts', hts', hderives'⟩ := h'
  rw [hts] at hts'
  cases hts'
  exact hderives.unique hderives'

/-- A text that can be read has a question mark for each parameter. -/
theorem Reads.count_marks (h : Reads text params e) : text.toList.count '?' = params.length := by
  obtain ⟨ts, hts, -⟩ := h
  rw [← count_lexemes, count_of_tokens? hts]

theorem Derives.part_of_atom (h : Derives .atom ts e) : Derives c.part ts e := by
  cases c with
  | and => exact .not 0 h
  | or => exact .part .and (.not 0 h)

theorem Derives.chain_of_atom (h : Derives .atom ts e) : Derives (.chain c) ts e :=
  .part c h.part_of_atom

theorem Derives.disjunction (h : Derives (.chain c) ts e) : Derives (.chain .or) ts e := by
  cases c with
  | and => exact .part .or h
  | or => exact h

theorem lexemes_enclosed (start text : String) (h : endsLoose start = true) :
    lexemes (start ++ text ++ ")") = lexemes start ++ lexemes text ++ [")"] := by
  have hclose : lexemes ")" = [")"] := by decide +kernel
  rw [lexemes_append_of_beginsLoose (by decide), lexemes_append_of_endsLoose h, hclose]

/-- Around what is in parentheses there are no parameters. -/
theorem tokens?_enclosed {start : List String} {ss : List Token} (hstart : tokens? start [] = some ss)
    (h : tokens? (lexemes text) params = some ts) :
    tokens? (start ++ lexemes text ++ [")"]) params = some (ss ++ ts ++ [.lexeme ")"]) := by
  have hclose : tokens? [")"] [] = some [.lexeme ")"] := by simp [tokens?]
  have happend := tokens?_append (tokens?_append hstart h) hclose
  rwa [List.nil_append, List.append_nil] at happend

theorem Reads.not (h : Reads text params e) : Reads ("not (" ++ text ++ ")") params (.not e) := by
  obtain ⟨ts, hts, hderives⟩ := h
  have hstart : lexemes "not (" = ["not", "("] := by decide +kernel
  have hopen : tokens? ["not", "("] [] = some [.lexeme "not", .lexeme "("] := by simp [tokens?]
  have htokens := tokens?_enclosed hopen hts
  rw [← hstart, ← lexemes_enclosed _ _ (by decide)] at htokens
  exact ⟨_, htokens, .part .or (.part .and (.not 1 (.group hderives)))⟩

theorem exists_derives_enclosed (h : Reads text params e) :
    ∃ ts, tokens? (lexemes ("(" ++ text ++ ")")) params = some ts ∧ Derives .atom ts e := by
  obtain ⟨ts, hts, hderives⟩ := h
  have hstart : lexemes "(" = ["("] := by decide +kernel
  have hopen : tokens? ["("] [] = some [.lexeme "("] := by simp [tokens?]
  have htokens := tokens?_enclosed hopen hts
  rw [← hstart, ← lexemes_enclosed _ _ (by decide)] at htokens
  exact ⟨_, htokens, .group hderives⟩

end Sql

namespace Condition

variable {d : Condition} {ds : List Condition}

theorem sqls_eq_map (cs : List Condition) : sqls cs = cs.map sql := by
  induction cs with
  | nil => rfl
  | cons c cs ih => rw [sqls, ih, List.map_cons]

theorem atomsOfAll_eq_flatMap (cs : List Condition) : atomsOfAll cs = cs.flatMap atoms := by
  induction cs with
  | nil => rfl
  | cons c cs ih => rw [atomsOfAll, ih, List.flatMap_cons]

def ReadsAs (c : Condition) (e : Expr) : Prop := Reads c.sql c.params e

/-- Parts in parentheses, with a connective between them, prolong a chain. -/
theorem exists_derives_chain (c : Connective) (h : ∀ x ∈ d :: ds, x.ReadsAs x.expr) :
    ∃ t ts, tokens? (lexemes (String.intercalate (" " ++ c.text ++ " ")
        (((d :: ds).map sql).map fun part => "(" ++ part ++ ")"))) ((d :: ds).flatMap params) =
          some (t ++ ts) ∧ Derives .atom t d.expr ∧
      ∀ l e, Derives (.chain c) l e →
        Derives (.chain c) (l ++ ts) ((ds.map expr).foldl (.join c) e) := by
  induction ds generalizing d with
  | nil =>
    obtain ⟨t, ht, hderives⟩ := exists_derives_enclosed (h d List.mem_cons_self)
    refine ⟨t, [], ?_, hderives, fun l e hl => ?_⟩
    · simpa using ht
    · simpa using hl
  | cons d' ds ih =>
    obtain ⟨t, ht, hderives⟩ := exists_derives_enclosed (h d List.mem_cons_self)
    obtain ⟨t', ts', hts', hderives', hchain⟩ := ih fun x hx => h x (List.mem_cons_of_mem _ hx)
    have hconnective : lexemes (" " ++ c.text ++ " ") = [c.text] := by cases c <;> decide +kernel
    have hbetween : tokens? [c.text] [] = some [.lexeme c.text] := by
      cases c <;> simp [tokens?, Connective.text]
    have hends : endsLoose ("(" ++ d.sql ++ ")" ++ (" " ++ c.text ++ " ")) = true :=
      endsLoose_append (by cases c <;> decide) (by cases c <;> decide)
    refine ⟨t, .lexeme c.text :: t' ++ ts', ?_, hderives, fun l e hl => ?_⟩
    · have htokens := tokens?_append (tokens?_append ht hbetween) hts'
      rw [List.append_nil, ← hconnective, ← lexemes_append_of_beginsLoose (by cases c <;> decide),
        ← lexemes_append_of_endsLoose hends] at htokens
      simpa [String.append_assoc] using htokens
    · have hl' := hchain _ _ (.join c hl hderives'.part_of_atom)
      simpa using hl'

theorem readsAs_joined {text : String} (c : Connective)
    (htext : tokens? (lexemes text) [] = some [.lexeme (if !c.settling then "1" else "0")])
    (h : ∀ x ∈ ds, x.ReadsAs x.expr) :
    Reads (joined c.text text (ds.map sql)) (ds.flatMap params) (c.chain (ds.map expr)) := by
  match ds, h with
  | [], _ => exact ⟨_, htext, Derives.chain_of_atom (.constant !c.settling)⟩
  | [d], h =>
    have hd := h d List.mem_cons_self
    rw [List.flatMap_singleton]
    exact hd
  | d :: d' :: ds, h =>
    obtain ⟨t, ts, hts, hderives, hchain⟩ := exists_derives_chain c h
    exact ⟨_, hts, (hchain t _ hderives.chain_of_atom).disjunction⟩

namespace Atom

theorem derives_test (t : Test) (owner name : String) (r : Term)
    (hname : (Term.column owner name).isNamed = true) (hr : r.isNamed = true) :
    Derives .negation ((Term.column owner name).tokens ++ .lexeme t.text :: r.tokens)
      (.test t (.column owner name) r) :=
  .not 0 (.test t hname hr)

/-- A column is tested against a parameter. -/
theorem exists_tokens_test {s : String} {vs : List Value} {ss : List Token} (name : String) (t : Test)
    (v : Value) (hs : endsLoose s = true) (hss : tokens? (lexemes s) vs = some ss)
    (hlexemes : lexemes name = [name]) (hname : isName name = true) :
    tokens? (lexemes (s ++ name ++ " " ++ t.text ++ " ?")) (vs ++ [v]) =
      some (ss ++ [.lexeme name, .lexeme t.text, .bound v]) := by
  have htext : lexemes t.text = [t.text] := by
    cases t with
    | compares op => cases op <;> decide +kernel
    | regexp => decide +kernel
  have hmark : lexemes " ?" = ["?"] := by decide +kernel
  have hblank : lexemes " " = [] := by decide +kernel
  have hname' : name ≠ "?" := by
    rintro rfl
    exact absurd hname (by decide)
  have htext' : t.text ≠ "?" := by
    cases t with
    | compares op => cases op <;> decide
    | regexp => decide
  have htested : tokens? [name, t.text, "?"] [v] = some [.lexeme name, .lexeme t.text, .bound v] := by
    simp [tokens?, hname', htext']
  have hend : endsLoose (s ++ name ++ " ") = true := endsLoose_append (by decide) (by decide)
  rw [lexemes_append_of_beginsLoose (by decide), lexemes_append_of_endsLoose hend,
    lexemes_append_of_beginsLoose (by decide), lexemes_append_of_endsLoose hs, hlexemes, htext, hmark, hblank]
  simpa using tokens?_append hss htested

/-- What is written of a query for an attribute, whatever more it asks. -/
theorem lexemes_attributeQuery (kind : EntityKind) (more : String) :
    lexemes (attributeQuery kind more) = ["exists", "(", "select", "1", "from", kind.attributes.name, "a",
      "where", "a", ".", "owner_id", "=", kind.tableAlias, ".", "id", "and", "a", ".", "key", "=", "?"] ++
      lexemes more ++ [")"] := by
  unfold attributeQuery
  rw [lexemes_enclosed _ _ (by cases kind <;> decide +kernel)]
  congr 2
  cases kind <;> decide +kernel

theorem reads_attributeQuery (kind : EntityKind) (key : String) {more : String} {vs : List Value}
    {ts : List Token} {es : List Expr} (htokens : tokens? (lexemes more) vs = some ts)
    (hchain : ∀ l e, Derives (.chain .and) l e →
      Derives (.chain .and) (l ++ ts) (es.foldl (.join .and) e)) :
    Reads (attributeQuery kind more) (.string key :: vs) (attributeExpr kind key es) := by
  have hstart : tokens? ["exists", "(", "select", "1", "from", kind.attributes.name, "a",
      "where", "a", ".", "owner_id", "=", kind.tableAlias, ".", "id", "and", "a", ".", "key", "=", "?"]
      [.string key] = some (queryStart kind.attributes "a" ++
        ((Term.column "a" "owner_id").tokens ++ .lexeme "=" :: (Term.column kind.tableAlias "id").tokens ++
          .lexeme "and" :: ((Term.column "a" "key").tokens ++ [.lexeme "=", .bound (.string key)]))) := by
    cases kind <;> rfl
  have hclose : tokens? [")"] [] = some [.lexeme ")"] := rfl
  have happend := tokens?_append (tokens?_append hstart htokens) hclose
  rw [List.append_nil, ← lexemes_attributeQuery, List.append_assoc (queryStart ..)] at happend
  have howner := derives_test (.compares .eq) "a" "owner_id" (.column kind.tableAlias "id") (by decide)
    (by cases kind <;> decide)
  have hkey := derives_test (.compares .eq) "a" "key" (.bound (.string key)) (by decide) rfl
  have hmore := hchain _ _ (.join .and (.part .and howner) hkey)
  exact ⟨_, happend, Derives.chain_of_atom (.query _ (by decide) hmore.disjunction)⟩

/-- A query for an attribute of a kind goes on with a test of its value. -/
theorem reads_attributeTest (kind : EntityKind) (key : String) (k : Value.Kind) (t : Test) (v : Value) :
    Reads (attributeQuery kind (" and a.value_type = ? and a." ++ k.column ++ " " ++ t.text ++ " ?"))
      [.string key, .string k.tag, v] (attributeExpr kind key (valueExpr k t v)) := by
  have hstart : tokens? (lexemes " and a.value_type = ? and a.") [.string k.tag] =
      some (.lexeme "and" :: ((Term.column "a" "value_type").tokens ++ [.lexeme "=", .bound (.string k.tag),
        .lexeme "and", .lexeme "a", .lexeme "."])) := by
    have hlexemes : lexemes " and a.value_type = ? and a." =
        ["and", "a", ".", "value_type", "=", "?", "and", "a", "."] := by decide +kernel
    rw [hlexemes]
    rfl
  have htokens := exists_tokens_test k.column t v (by decide +kernel) hstart
    (by cases k <;> decide +kernel) (by cases k <;> decide)
  refine reads_attributeQuery kind key htokens fun l e hl => ?_
  have htype := derives_test (.compares .eq) "a" "value_type" (.bound (.string k.tag)) (by decide) rfl
  have htest := derives_test t "a" k.column (.bound v) (by cases k <;> decide) rfl
  have hjoined := Derives.join .and (.join .and hl htype) htest
  rw [List.append_assoc] at hjoined
  exact hjoined

theorem reads_fieldTest (kind : EntityKind) (column : Column) (t : Test) (v : Value) :
    Reads (kind.tableAlias ++ "." ++ column.text ++ " " ++ t.text ++ " ?") [v]
      (.test t (.column kind.tableAlias column.text) (.bound v)) := by
  have hstart : tokens? (lexemes (kind.tableAlias ++ ".")) [] =
      some [.lexeme kind.tableAlias, .lexeme "."] := by
    have hlexemes : lexemes (kind.tableAlias ++ ".") = [kind.tableAlias, "."] := by
      cases kind <;> decide +kernel
    rw [hlexemes]
    cases kind <;> rfl
  have htokens := exists_tokens_test column.text t v (by cases kind <;> decide +kernel) hstart
    (by cases column <;> decide +kernel) (by cases column <;> decide)
  have htest := derives_test t kind.tableAlias column.text (.bound v)
    (by cases kind <;> cases column <;> decide) rfl
  exact ⟨_, htokens, .part .or (.part .and htest)⟩

theorem reads_membershipQuery (kind : EntityKind) {own other : String} (id : RowId)
    (hlexemes : lexemes (membershipQuery kind own other) = ["exists", "(", "select", "1", "from",
      "catalogue_events", "m", "where", "m", ".", own, "=", kind.tableAlias, ".", "id", "and", "m", ".",
      other, "=", "?", ")"])
    (hown : (Term.column "m" own).isNamed = true) (hother : (Term.column "m" other).isNamed = true)
    (howntext : own ≠ "?") (hothertext : other ≠ "?") :
    Reads (membershipQuery kind own other) [.integer id] (membershipExpr kind own other id) := by
  have hcolumn := derives_test (.compares .eq) "m" own (.column kind.tableAlias "id") hown
    (by cases kind <;> decide)
  have hbound := derives_test (.compares .eq) "m" other (.bound (.integer id)) hother rfl
  have hjoined := Derives.disjunction (.join .and (.part .and hcolumn) hbound)
  refine ⟨_, ?_, Derives.chain_of_atom (.query .catalogueEvents (by decide) hjoined)⟩
  rw [hlexemes]
  cases kind <;> simp [tokens?, howntext, hothertext, EntityKind.tableAlias, queryStart, Table.name,
    Term.tokens, Test.text, Operator.sql, Connective.text]

theorem append_regexp (s : String) : s ++ " " ++ Test.regexp.text ++ " ?" = s ++ " regexp ?" := by
  rw [String.append_assoc, String.append_assoc]
  rfl

/-- The text of an atom with its parameters is read as the expression of the atom. -/
theorem reads_expr : ∀ a : Atom, Reads a.sql a.params a.expr
  | fieldComparison kind column op literal => reads_fieldTest kind column (.compares op) literal
  | fieldMatch kind column pattern => by
    have h := reads_fieldTest kind column .regexp (.string pattern)
    rw [append_regexp] at h
    exact h
  | hasAttribute kind key =>
    reads_attributeQuery kind key (show tokens? (lexemes "") [] = some [] from rfl) fun l e hl => by
      simpa using hl
  | attributeComparison kind key op literal =>
    reads_attributeTest kind key literal.kind (.compares op) literal
  | attributeMatch kind key pattern => by
    have h := reads_attributeTest kind key .string .regexp (.string pattern)
    rw [append_regexp] at h
    exact h
  | memberOf catalogue =>
    reads_membershipQuery .event catalogue (by decide +kernel) (by decide) (by decide) (by decide) (by decide)
  | containing event =>
    reads_membershipQuery .catalogue event (by decide +kernel) (by decide) (by decide) (by decide) (by decide)

end Atom

theorem params_and (cs : List Condition) : (and cs).params = cs.flatMap params := by
  rw [params, atoms, atomsOfAll_eq_flatMap, List.flatMap_assoc]
  rfl

theorem params_or (cs : List Condition) : (or cs).params = cs.flatMap params := params_and cs

/-- The text of a condition with its parameters is read as the expression that it is built as. -/
theorem readsAs_expr (c : Condition) : c.ReadsAs c.expr := by
  induction c using induction with
  | hatom a =>
    have hparams : (atom a).params = a.params := by simp [params, atoms]
    rw [ReadsAs, hparams, sql, expr]
    exact a.reads_expr
  | hand cs ih =>
    have hone : lexemes "1" = ["1"] := by decide +kernel
    rw [ReadsAs, sql, params_and, expr, sqls_eq_map]
    exact readsAs_joined .and (by rw [hone]; rfl) ih
  | hor cs ih =>
    have hzero : lexemes "0" = ["0"] := by decide +kernel
    rw [ReadsAs, sql, params_or, expr, sqls_eq_map]
    exact readsAs_joined .or (by rw [hzero]; rfl) ih
  | hnegate c ih =>
    rw [ReadsAs, sql, expr]
    exact ih.not

theorem readsAs_iff {c : Condition} {e : Expr} : c.ReadsAs e ↔ e = c.expr :=
  ⟨fun h => h.unique c.readsAs_expr, fun h => h ▸ c.readsAs_expr⟩

theorem leaves_foldl (c : Connective) (e : Expr) (es : List Expr) :
    (es.foldl (.join c) e).leaves = e.leaves ++ es.flatMap Expr.leaves := by
  induction es generalizing e with
  | nil => exact (List.append_nil _).symm
  | cons e' es ih => rw [List.foldl_cons, ih, Expr.leaves, List.flatMap_cons, List.append_assoc]

theorem leaves_chain (c : Connective) (es : List Expr) :
    (c.chain es).leaves = es.flatMap Expr.leaves := by
  cases es with
  | nil => rfl
  | cons e es => exact leaves_foldl c e es

/-- The atoms are what an expression is made of, in the same order. -/
theorem leaves_expr (c : Condition) : c.expr.leaves = c.atoms.map Atom.expr := by
  have heach (cs : List Condition) (h : ∀ c ∈ cs, c.expr.leaves = c.atoms.map Atom.expr) :
      (cs.map expr).flatMap Expr.leaves = (atomsOfAll cs).map Atom.expr := by
    rw [atomsOfAll_eq_flatMap, List.map_flatMap, List.flatMap_map, List.flatMap_congr h]
  induction c using induction with
  | hatom a =>
    rw [expr, atoms]
    cases a <;> rfl
  | hand cs ih => rw [expr, leaves_chain, atoms, heach cs ih]
  | hor cs ih => rw [expr, leaves_chain, atoms, heach cs ih]
  | hnegate c ih => rw [expr, Expr.leaves, atoms, ih]

end Condition

end Chronicle
