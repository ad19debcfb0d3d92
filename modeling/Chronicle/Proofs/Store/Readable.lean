import Chronicle.Proofs.Query.Restored
import Chronicle.Proofs.Store.Sync

/-!
# Tables that can be read

A table of attributes is read row by row, so what it is read as is known key by key. Putting and taking
away an attribute, and bringing a table in line with other attributes, change what is read at these keys
only. This is so of all tables that can be read, also of those that were not written by way of values.
-/
namespace Chronicle

/-! ## Attributes that agree -/

theorem Value.agrees_symm {v w : Value} (h : v.agrees w = true) : w.agrees v = true := by
  cases v <;> cases w <;> simp only [agrees, beq_iff_eq, Bool.false_eq_true] at h ⊢
  case float.float x y =>
    simp only [Binary64.equals, Bool.and_eq_true, decide_eq_true_eq] at h ⊢
    exact ⟨⟨h.1.2, h.1.1⟩, h.2.symm⟩
  all_goals exact h.symm

namespace Attributes

/-- Whether the values at each key agree. -/
def Agree (a b : Attributes) : Prop :=
  ∀ key, Option.Rel (fun v w => Value.agrees v w = true) (a.get? key) (b.get? key)

variable {a b : Attributes} {key : String} {v w : Value}

theorem isSome_eq_of_rel {α β : Type} {R : α → β → Prop} {o : Option α} {o' : Option β}
    (h : Option.Rel R o o') : o.isSome = o'.isSome := by
  cases h with
  | some _ => rfl
  | none => rfl

theorem Agree.contains_eq (h : a.Agree b) (key : String) : a.contains key = b.contains key :=
  isSome_eq_of_rel (h key)

theorem Agree.insert (h : a.Agree b) (hv : v.agrees w = true) (key : String) :
    Agree (a.insert key v) (b.insert key w) := by
  intro k
  by_cases hk : key = k
  · subst hk
    rw [SortedMap.get?_insert_self, SortedMap.get?_insert_self]
    exact .some hv
  · rw [SortedMap.get?_insert_of_ne _ _ hk, SortedMap.get?_insert_of_ne _ _ hk]
    exact h k

theorem Agree.erase (h : a.Agree b) (key : String) : Agree (a.erase key) (b.erase key) := by
  intro k
  by_cases hk : key = k
  · subst hk
    rw [SortedMap.get?_erase_self, SortedMap.get?_erase_self]
    exact .none
  · rw [SortedMap.get?_erase_of_ne _ hk, SortedMap.get?_erase_of_ne _ hk]
    exact h k

theorem Agree.keys_eq (h : a.Agree b) : a.keys = b.keys := by
  have hsame : (a.map fun _ => ()) = b.map fun _ => () := by
    apply SortedMap.ext_get?
    intro key
    rw [SortedMap.get?_map, SortedMap.get?_map]
    have hconst {o o' : Option Value} (h : Option.Rel (fun v w => Value.agrees v w = true) o o') :
        o.map (fun _ => ()) = o'.map fun _ => () := by
      cases h with
      | some _ => rfl
      | none => rfl
    exact hconst (h key)
  have hkeys := congrArg SortedMap.keys hsame
  rwa [SortedMap.keys_map, SortedMap.keys_map] at hkeys

theorem agrees_iff_forall₂ : a.agrees b = true ↔
    List.Forall₂ (fun x y : String × Value => x.1 = y.1 ∧ x.2.agrees y.2 = true) a.entries b.entries := by
  unfold agrees SortedMap.keys SortedMap.values
  generalize a.entries = l
  generalize b.entries = l'
  induction l generalizing l' with
  | nil =>
    cases l' with
    | nil => simp
    | cons y l' => simp
  | cons x l ih =>
    cases l' with
    | nil => simp
    | cons y l' =>
      rw [List.forall₂_cons, ← ih]
      simp [and_assoc, and_left_comm]

/-- Attributes agree when their values do at each key. -/
theorem agrees_iff : a.agrees b = true ↔ a.Agree b := by
  rw [agrees_iff_forall₂]
  constructor
  · intro h key
    cases ha : a.get? key with
    | some v =>
      obtain ⟨⟨k, w⟩, hw, hk, hagrees⟩ := exists_right_of_mem h (SortedMap.get?_eq_some_iff.1 ha)
      dsimp only at hk
      subst hk
      rw [SortedMap.get?_eq_some_iff.2 hw]
      exact .some hagrees
    | none =>
      cases hb : b.get? key with
      | none => exact .none
      | some w =>
        obtain ⟨⟨k, v⟩, hv, hk, -⟩ := exists_left_of_mem h (SortedMap.get?_eq_some_iff.1 hb)
        dsimp only at hk
        subst hk
        rw [SortedMap.get?_eq_some_iff.2 hv] at ha
        cases ha
  · intro h
    have hkeys : List.Forall₂ (fun x y : String × Value => x.1 = y.1) a.entries b.entries := by
      have hsame : List.Forall₂ (· = ·) (a.entries.map Prod.fst) (b.entries.map Prod.fst) := by
        rw [List.forall₂_eq_eq_eq]
        exact h.keys_eq
      rwa [List.forall₂_map_left_iff, List.forall₂_map_right_iff] at hsame
    apply List.forall₂_iff_zip.2
    refine ⟨hkeys.length_eq, ?_⟩
    rintro ⟨k, v⟩ ⟨k', w⟩ hmem
    obtain ⟨hv, hw⟩ := List.of_mem_zip hmem
    obtain rfl : k = k' := (List.forall₂_iff_zip.1 hkeys).2 hmem
    refine ⟨rfl, ?_⟩
    have hrel := h k
    rw [SortedMap.get?_eq_some_iff.2 hv, SortedMap.get?_eq_some_iff.2 hw] at hrel
    cases hrel with
    | some hagrees => exact hagrees

end Attributes

/-! ## What a table is read as -/

theorem AttributeRow.key_of_read {r : AttributeRow} {key : StoredText} {e : String × Value}
    (h : r.read key = .ok e) : key = .text e.1 := by
  obtain ⟨k, hk, h⟩ := except_bind_eq_ok.1 h
  obtain ⟨tag, -, h⟩ := except_bind_eq_ok.1 h
  obtain ⟨slots, -, h⟩ := except_bind_eq_ok.1 h
  obtain ⟨v, -, h⟩ := except_bind_eq_ok.1 h
  cases h
  cases key with
  | text s =>
    cases hk
    rfl
  | bytes b => cases hk

theorem readEntries_eq_ok {l : List (StoredText × AttributeRow)} {es : List (String × Value)} :
    readEntries l = .ok es ↔ List.Forall₂ (fun x e => x.2.read x.1 = .ok e) l es := by
  induction l generalizing es with
  | nil => simp [readEntries, eq_comm]
  | cons x l ih =>
    obtain ⟨key, r⟩ := x
    rw [readEntries, except_bind_eq_ok, List.forall₂_cons_left_iff]
    constructor
    · rintro ⟨e, he, h⟩
      obtain ⟨rest, hrest, h⟩ := except_bind_eq_ok.1 h
      cases h
      exact ⟨e, rest, he, ih.1 hrest, rfl⟩
    · rintro ⟨e, rest, he, hrest, rfl⟩
      exact ⟨e, he, except_bind_eq_ok.2 ⟨rest, ih.2 hrest, rfl⟩⟩

namespace AttributeTable

/-- What a table is read as, key by key. -/
structure Reads (t : AttributeTable) (a : Attributes) : Prop where
  text : ∀ key, Option.Rel (fun r v => AttributeRow.read (.text key) r = .ok (key, v))
    (t.get? (.text key)) (a.get? key)
  bytes : ∀ b, t.get? (.bytes b) = none

variable {t : AttributeTable} {a b : Attributes} {key : String}

theorem reads_of_forall₂ (h : List.Forall₂ (fun x e => AttributeRow.read x.1 x.2 = .ok e)
    t.entries a.entries) : t.Reads a := by
  constructor
  · intro key
    cases ht : t.get? (.text key) with
    | some r =>
      obtain ⟨⟨k, v⟩, hv, hread⟩ := exists_right_of_mem h (SortedMap.get?_eq_some_iff.1 ht)
      obtain rfl := StoredText.text.inj (AttributeRow.key_of_read hread)
      rw [SortedMap.get?_eq_some_iff.2 hv]
      exact .some hread
    | none =>
      cases ha : a.get? key with
      | none => exact .none
      | some v =>
        obtain ⟨⟨k, r⟩, hr, hread⟩ := exists_left_of_mem h (SortedMap.get?_eq_some_iff.1 ha)
        obtain rfl := AttributeRow.key_of_read hread
        rw [SortedMap.get?_eq_some_iff.2 hr] at ht
        cases ht
  · intro b
    apply Option.eq_none_iff_forall_ne_some.2
    intro r hr
    obtain ⟨e, -, hread⟩ := exists_right_of_mem h (SortedMap.get?_eq_some_iff.1 hr)
    cases AttributeRow.key_of_read hread

/-- The keys that are read stand in the order of the table. -/
theorem reads_of_read (h : t.read = .ok a) : t.Reads a := by
  unfold AttributeTable.read at h
  cases hes : readEntries t.entries with
  | error e =>
    rw [hes] at h
    cases h
  | ok es =>
    rw [hes] at h
    obtain rfl : SortedMap.ofList es = a := Except.ok.inj h
    have hpairs := readEntries_eq_ok.1 hes
    have hkeys : t.entries.map Prod.fst = es.map fun e => .text e.1 := by
      rw [← List.forall₂_eq_eq_eq, List.forall₂_map_left_iff, List.forall₂_map_right_iff]
      exact hpairs.imp fun x e hread => AttributeRow.key_of_read hread
    have hascending : es.Pairwise fun d e => compare d.1 e.1 = .lt := by
      have horder : (t.entries.map Prod.fst).Pairwise fun k l => compare k l = .lt :=
        List.pairwise_map.2 t.ascending
      rw [hkeys, List.pairwise_map] at horder
      exact horder
    have hsame : SortedMap.ofList es = ⟨es, hascending⟩ := SortedMap.ofList_entries ⟨es, hascending⟩
    rw [hsame]
    exact reads_of_forall₂ hpairs

/-- A table is read as one map at most. -/
theorem Reads.unique (ha : t.Reads a) (hb : t.Reads b) : a = b := by
  have hsame {key : String} {o : Option AttributeRow} {x y : Option Value}
      (hx : Option.Rel (fun r v => AttributeRow.read (.text key) r = .ok (key, v)) o x)
      (hy : Option.Rel (fun r v => AttributeRow.read (.text key) r = .ok (key, v)) o y) : x = y := by
    cases hx with
    | none =>
      cases hy
      rfl
    | some hv =>
      cases hy with
      | some hw =>
        rw [hv] at hw
        cases hw
        rfl
  apply SortedMap.ext_get?
  intro key
  exact hsame (ha.text key) (hb.text key)

theorem exists_readEntries {l : List (StoredText × AttributeRow)}
    (h : ∀ x ∈ l, ∃ e, x.2.read x.1 = .ok e) : ∃ es, readEntries l = .ok es := by
  induction l with
  | nil => exact ⟨[], rfl⟩
  | cons x l ih =>
    obtain ⟨hx, hl⟩ := List.forall_mem_cons.1 h
    obtain ⟨e, he⟩ := hx
    obtain ⟨es, hes⟩ := ih hl
    exact ⟨e :: es, readEntries_eq_ok.2 (.cons he (readEntries_eq_ok.1 hes))⟩

/-- Reading a table as a whole comes to reading it key by key. -/
theorem read_eq_ok : t.read = .ok a ↔ t.Reads a := by
  constructor
  · exact reads_of_read
  · intro h
    have hrows : ∀ x ∈ t.entries, ∃ e, x.2.read x.1 = .ok e := by
      rintro ⟨key, r⟩ hx
      have hget := SortedMap.get?_eq_some_iff.2 hx
      cases key with
      | bytes b =>
        rw [h.bytes b] at hget
        cases hget
      | text key =>
        have hrel := h.text key
        rw [hget] at hrel
        generalize a.get? key = o at hrel
        cases hrel with
        | some hread => exact ⟨_, hread⟩
    obtain ⟨es, hes⟩ := exists_readEntries hrows
    have hread : t.read = .ok (SortedMap.ofList es) := by
      rw [AttributeTable.read, hes]
      rfl
    rw [hread, h.unique (reads_of_read hread)]

theorem Reads.contains_eq (h : t.Reads a) (key : String) : t.contains (.text key) = a.contains key :=
  Attributes.isSome_eq_of_rel (h.text key)

/-- The row of a value takes the place of any row. -/
theorem Reads.insert (h : t.Reads a) {v : Value} (hv : v.Storable) (key : String) :
    Reads (SortedMap.insert t (.text key) (.ofValue v)) (a.insert key v.settled) := by
  constructor
  · intro k
    by_cases hk : key = k
    · subst hk
      rw [SortedMap.get?_insert_self, SortedMap.get?_insert_self]
      exact .some (AttributeRow.read_ofValue hv key)
    · rw [SortedMap.get?_insert_of_ne _ _ (by simpa using hk), SortedMap.get?_insert_of_ne _ _ hk]
      exact h.text k
  · intro b
    rw [SortedMap.get?_insert_of_ne _ _ (by simp)]
    exact h.bytes b

theorem Reads.erase (h : t.Reads a) (key : String) :
    Reads (SortedMap.erase t (.text key)) (a.erase key) := by
  constructor
  · intro k
    by_cases hk : key = k
    · subst hk
      rw [SortedMap.get?_erase_self, SortedMap.get?_erase_self]
      exact .none
    · rw [SortedMap.get?_erase_of_ne _ (by simpa using hk), SortedMap.get?_erase_of_ne _ hk]
      exact h.text k
  · intro b
    rw [SortedMap.get?_erase_of_ne _ (by simp)]
    exact h.bytes b

end AttributeTable

/-! ## Bringing a table in line -/

namespace Store

variable {s s' : Store} {kind : EntityKind} {owner : RowId} {p : KeyPolicy} {t : AttributeTable}
  {a b stored : Attributes}

theorem forM_dropAttribute_reads (s : Store) (kind : EntityKind) (owner : RowId) (keys : List String)
    (h : t.Reads b) :
    ∃ t', (keys.forM fun key => do let _ ← dropAttribute kind owner key) (s.withTable kind owner t) =
      .ok () (s.withTable kind owner t') ∧ t'.Reads (keys.foldl SortedMap.erase b) := by
  induction keys generalizing t b with
  | nil => exact ⟨t, rfl, h⟩
  | cons key keys ih =>
    obtain ⟨found, hdrop⟩ := dropAttribute_withTable s kind owner t key
    obtain ⟨t', hrest, ht'⟩ := ih (h.erase key)
    exact ⟨t', bind_eq_ok.2 ⟨(), _, bind_eq_ok.2 ⟨found, _, hdrop, rfl⟩, hrest⟩, ht'⟩

/-- After the loop the keys of the list are read as values that agree with those of the list, and all other
keys as before. A value is passed over only where one that agrees with it is read already. -/
theorem forM_setAttribute_reads {l : List (String × Value)} (howner : s.ownerExists kind owner = true)
    (hl : ∀ e ∈ l, p.accepts e.1 = true ∧ e.2.Storable) (hdistinct : l.Pairwise fun d e => d.1 ≠ e.1)
    (hstored : ∀ e ∈ l, b.get? e.1 = stored.get? e.1) (h : t.Reads b) :
    ∃ t' b', (l.forM fun (key, v) =>
        if (stored.get? key).any (Value.agrees · v) then pure () else setAttribute p kind owner key v)
        (s.withTable kind owner t) = .ok () (s.withTable kind owner t') ∧ t'.Reads b' ∧
      (∀ e ∈ l, ∃ w, b'.get? e.1 = some w ∧ e.2.agrees w = true) ∧
      ∀ key, (∀ e ∈ l, e.1 ≠ key) → b'.get? key = b.get? key := by
  induction l generalizing t b with
  | nil =>
    refine ⟨t, b, rfl, h, ?_, fun _ _ => rfl⟩
    intro e he
    cases he
  | cons x l ih =>
    obtain ⟨key, v⟩ := x
    obtain ⟨hv, hl⟩ := List.forall_mem_cons.1 hl
    obtain ⟨hne, hdistinct⟩ := List.pairwise_cons.1 hdistinct
    obtain ⟨hkey, hstored⟩ := List.forall_mem_cons.1 hstored
    -- what the first element leaves is read at its key as a value that agrees, and elsewhere as before
    have hfirst : ∃ t₁ b₁ w, (if (stored.get? key).any (Value.agrees · v) then pure ()
          else setAttribute p kind owner key v) (s.withTable kind owner t) =
            .ok () (s.withTable kind owner t₁) ∧ t₁.Reads b₁ ∧ b₁.get? key = some w ∧
        v.agrees w = true ∧ ∀ k, key ≠ k → b₁.get? k = b.get? k := by
      split
      case isTrue hagrees =>
        cases hw : stored.get? key with
        | none =>
          rw [hw] at hagrees
          cases hagrees
        | some w =>
          rw [hw] at hagrees
          exact ⟨t, b, w, rfl, h, hkey.trans hw, Value.agrees_symm hagrees, fun _ _ => rfl⟩
      case isFalse =>
        refine ⟨_, b.insert key v.settled, v.settled, setAttribute_withTable howner hv t,
          h.insert hv.2 key, SortedMap.get?_insert_self .., hv.2.agrees_settled, ?_⟩
        intro k hk
        exact SortedMap.get?_insert_of_ne _ _ hk
    obtain ⟨t₁, b₁, w, hrun, ht₁, hw, hagrees, hothers⟩ := hfirst
    have hsame : ∀ e ∈ l, b₁.get? e.1 = stored.get? e.1 := by
      intro e he
      rw [hothers e.1 (hne e he)]
      exact hstored e he
    obtain ⟨t', b', hrest, ht', hall, hkept⟩ := ih hl hdistinct hsame ht₁
    refine ⟨t', b', bind_eq_ok.2 ⟨(), _, hrun, hrest⟩, ht', ?_, ?_⟩
    · intro e he
      rcases List.mem_cons.1 he with rfl | he
      · refine ⟨w, ?_, hagrees⟩
        rw [hkept key fun d hd => (hne d hd).symm]
        exact hw
      · exact hall e he
    · intro k hk
      obtain ⟨hkey', hk⟩ := List.forall_mem_cons.1 hk
      rw [hkept k hk, hothers k hkey']

/-- Attributes that pass the checks are what is read afterwards, whatever was read before. -/
theorem syncAttributes_reads (howner : s.ownerExists kind owner = true) (ha : p.Admits a)
    (hb : (s.attributes kind owner).Reads b) :
    ∃ t b', syncAttributes p kind owner a s = .ok () (s.withTable kind owner t) ∧ t.Reads b' ∧
      a.Agree b' := by
  have hload : s.loadAttributes kind owner = .ok b := AttributeTable.read_eq_ok.2 hb
  obtain ⟨t₁, hdrop, ht₁⟩ :=
    forM_dropAttribute_reads s kind owner (b.keys.filter fun key => !a.contains key) hb
  rw [withTable_self] at hdrop
  have hkept : ∀ e ∈ a.entries,
      ((b.keys.filter fun key => !a.contains key).foldl SortedMap.erase b).get? e.1 = b.get? e.1 := by
    intro e he
    have hcontains : a.contains e.1 = true := SortedMap.contains_iff.2 (List.mem_map_of_mem he)
    rw [SortedMap.get?_foldl_erase, if_neg (by simp [hcontains])]
  have hdistinct : a.entries.Pairwise fun d e => d.1 ≠ e.1 :=
    a.ascending.imp fun hlt heq => by simp [heq] at hlt
  obtain ⟨t', b', hset, ht', hall, hothers⟩ :=
    forM_setAttribute_reads howner ha hdistinct hkept ht₁
  refine ⟨t', b', ?_, ht', ?_⟩
  · refine bind_eq_ok.2 ⟨(), s, Work.check_eq_ok.2 ⟨KeyPolicy.checkAttributes_eq_ok.2 ha, rfl⟩, ?_⟩
    refine bind_eq_ok.2 ⟨b, s, Work.look_eq_ok.2 ⟨hload, rfl⟩, ?_⟩
    exact bind_eq_ok.2 ⟨(), _, hdrop, hset⟩
  · intro key
    cases hv : a.get? key with
    | some v =>
      obtain ⟨w, hw, hagrees⟩ := hall (key, v) (SortedMap.get?_eq_some_iff.1 hv)
      dsimp only at hw
      rw [hw]
      exact .some hagrees
    | none =>
      have habsent : ∀ e ∈ a.entries, e.1 ≠ key := by
        rintro e he rfl
        exact SortedMap.get?_eq_none_iff.1 hv (List.mem_map_of_mem he)
      have hcontains : a.contains key = false := by
        rw [SortedMap.contains, hv]
        rfl
      rw [hothers key habsent, SortedMap.get?_foldl_erase]
      by_cases hkey : key ∈ b.keys
      · rw [if_pos (List.mem_filter.2 ⟨hkey, by simp [hcontains]⟩)]
        exact .none
      · rw [SortedMap.get?_eq_none_iff.2 hkey, ite_self]
        exact .none

end Store

end Chronicle
