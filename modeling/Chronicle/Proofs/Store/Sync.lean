import Chronicle.Proofs.Store.AttributeTable

/-!
# Bringing stored attributes in line

Bringing the attributes of an owner in line with others leaves the table of exactly those, and every
other owner as it was. Only the checks and a missing owner stand in the way.
-/
namespace Chronicle.Store

variable {s : Store} {kind : EntityKind} {owner : RowId} {f g : AttributeTable → AttributeTable}

theorem withAttributes_congr (h : f (s.attributes kind owner) = g (s.attributes kind owner)) :
    s.withAttributes kind owner f = s.withAttributes kind owner g := by
  cases kind with
  | event =>
    unfold withAttributes attributes at *
    cases hrow : s.events.get? owner with
    | none => rfl
    | some row => simp_all
  | catalogue =>
    unfold withAttributes attributes at *
    cases hrow : s.catalogues.get? owner with
    | none => rfl
    | some row => simp_all

theorem withAttributes_id : s.withAttributes kind owner id = s := by
  cases kind with
  | event =>
    unfold withAttributes
    cases hrow : s.events.get? owner with
    | none => rfl
    | some row => simp [SortedMap.insert_of_get?_eq_some hrow]
  | catalogue =>
    unfold withAttributes
    cases hrow : s.catalogues.get? owner with
    | none => rfl
    | some row => simp [SortedMap.insert_of_get?_eq_some hrow]

theorem withAttributes_eq_self (h : f (s.attributes kind owner) = s.attributes kind owner) :
    s.withAttributes kind owner f = s :=
  (withAttributes_congr (g := id) h).trans withAttributes_id

theorem withAttributes_withAttributes :
    (s.withAttributes kind owner f).withAttributes kind owner g =
      s.withAttributes kind owner fun t => g (f t) := by
  cases kind with
  | event =>
    unfold withAttributes
    cases hrow : s.events.get? owner with
    | none => simp [hrow]
    | some row => simp [SortedMap.insert_insert_self]
  | catalogue =>
    unfold withAttributes
    cases hrow : s.catalogues.get? owner with
    | none => simp [hrow]
    | some row => simp [SortedMap.insert_insert_self]

theorem attributes_withAttributes (h : s.ownerExists kind owner = true) :
    (s.withAttributes kind owner f).attributes kind owner = f (s.attributes kind owner) := by
  cases kind with
  | event =>
    obtain ⟨row, hrow⟩ := Option.isSome_iff_exists.1 h
    simp [withAttributes, attributes, hrow]
  | catalogue =>
    obtain ⟨row, hrow⟩ := Option.isSome_iff_exists.1 h
    simp [withAttributes, attributes, hrow]

theorem ownerExists_withAttributes (kind' : EntityKind) (owner' : RowId) :
    (s.withAttributes kind owner f).ownerExists kind' owner' = s.ownerExists kind' owner' := by
  have keeps {α : Type} {rows : SortedMap RowId α} {row row' : α} (h : rows.get? owner = some row) :
      (rows.insert owner row').contains owner' = rows.contains owner' := by
    unfold SortedMap.contains
    by_cases ho : owner = owner'
    · subst ho
      simp [h]
    · rw [SortedMap.get?_insert_of_ne _ _ ho]
  cases kind with
  | event =>
    unfold withAttributes
    cases hrow : s.events.get? owner with
    | none => rfl
    | some row =>
      cases kind' with
      | event => exact keeps hrow
      | catalogue => rfl
  | catalogue =>
    unfold withAttributes
    cases hrow : s.catalogues.get? owner with
    | none => rfl
    | some row =>
      cases kind' with
      | event => rfl
      | catalogue => exact keeps hrow

theorem attributes_of_not_ownerExists (h : s.ownerExists kind owner = false) :
    s.attributes kind owner = .empty := by
  cases kind with
  | event =>
    have hrow : s.events.get? owner = none := Option.isSome_eq_false_iff.1 h |> Option.isNone_iff_eq_none.1
    simp [attributes, hrow]
  | catalogue =>
    have hrow : s.catalogues.get? owner = none :=
      Option.isSome_eq_false_iff.1 h |> Option.isNone_iff_eq_none.1
    simp [attributes, hrow]

theorem withAttributes_of_not_ownerExists (h : s.ownerExists kind owner = false) :
    s.withAttributes kind owner f = s := by
  cases kind with
  | event =>
    have hrow : s.events.get? owner = none := Option.isSome_eq_false_iff.1 h |> Option.isNone_iff_eq_none.1
    simp [withAttributes, hrow]
  | catalogue =>
    have hrow : s.catalogues.get? owner = none :=
      Option.isSome_eq_false_iff.1 h |> Option.isNone_iff_eq_none.1
    simp [withAttributes, hrow]

/-- The store in which an owner has these attributes. -/
def withTable (s : Store) (kind : EntityKind) (owner : RowId) (t : AttributeTable) : Store :=
  s.withAttributes kind owner fun _ => t

theorem withTable_self : s.withTable kind owner (s.attributes kind owner) = s :=
  withAttributes_eq_self rfl

theorem withTable_withAttributes (t : AttributeTable) :
    (s.withTable kind owner t).withAttributes kind owner f = s.withTable kind owner (f t) :=
  withAttributes_withAttributes

theorem removeAttribute_snd (s : Store) (kind : EntityKind) (owner : RowId) (key : String) :
    (s.removeAttribute kind owner key).2 = s.withAttributes kind owner (·.erase (.text key)) := by
  unfold removeAttribute
  split
  · rfl
  case isFalse h =>
    have hnone : (s.attributes kind owner).get? (.text key) = none := by
      simpa [hasAttribute, SortedMap.contains] using h
    exact (withAttributes_eq_self (SortedMap.erase_of_get?_eq_none hnone)).symm

theorem dropAttribute_withTable (s : Store) (kind : EntityKind) (owner : RowId) (t : AttributeTable)
    (key : String) :
    ∃ b, dropAttribute kind owner key (s.withTable kind owner t) =
      .ok b (s.withTable kind owner (SortedMap.erase t (.text key))) := by
  refine ⟨((s.withTable kind owner t).removeAttribute kind owner key).1, ?_⟩
  have hsnd := removeAttribute_snd (s.withTable kind owner t) kind owner key
  rw [withTable_withAttributes] at hsnd
  rw [dropAttribute, Work.change_eq_ok, ← hsnd]

theorem forM_dropAttribute (s : Store) (kind : EntityKind) (owner : RowId) (keys : List String)
    (a : Attributes) :
    (keys.forM fun key => do let _ ← dropAttribute kind owner key)
        (s.withTable kind owner (.of a)) =
      .ok () (s.withTable kind owner (.of (keys.foldl SortedMap.erase a))) := by
  induction keys generalizing a with
  | nil => rfl
  | cons key keys ih =>
    obtain ⟨b, hdrop⟩ := dropAttribute_withTable s kind owner (.of a) key
    rw [← AttributeTable.of_erase] at hdrop
    exact bind_eq_ok.2 ⟨(), _, bind_eq_ok.2 ⟨b, _, hdrop, rfl⟩, ih (a.erase key)⟩

theorem setAttribute_withTable {p : KeyPolicy} {key : String} {v : Value}
    (h : s.ownerExists kind owner = true) (hv : p.accepts key = true ∧ v.Storable) (t : AttributeTable) :
    setAttribute p kind owner key v (s.withTable kind owner t) =
      .ok () (s.withTable kind owner (SortedMap.insert t (.text key) (.ofValue v))) := by
  have howner : (s.withTable kind owner t).ownerExists kind owner = true :=
    (ownerExists_withAttributes kind owner).trans h
  refine bind_eq_ok.2 ⟨(), _, Work.check_eq_ok.2 ⟨KeyPolicy.checkAttribute_eq_ok.2 hv, rfl⟩, ?_⟩
  rw [Work.change_eq_ok, putAttribute, if_pos howner, withTable_withAttributes]
  rfl

/-- Attributes that are passed over are stored already, so all end up stored. -/
theorem forM_setAttribute {p : KeyPolicy} {stored : Attributes} {l : List (String × Value)}
    (h : s.ownerExists kind owner = true) (hl : ∀ e ∈ l, p.accepts e.1 = true ∧ e.2.Storable)
    (hdistinct : l.Pairwise fun d e => d.1 ≠ e.1) (a : Attributes)
    (hstored : ∀ e ∈ l, (stored.get? e.1).any (Value.agrees · e.2) = true →
      (AttributeTable.of a).get? (.text e.1) = some (.ofValue e.2)) :
    (l.forM fun (key, v) =>
        if (stored.get? key).any (Value.agrees · v) then pure () else setAttribute p kind owner key v)
        (s.withTable kind owner (.of a)) =
      .ok () (s.withTable kind owner (.of (l.foldl (fun (a : Attributes) e => a.insert e.1 e.2) a))) := by
  induction l generalizing a with
  | nil => rfl
  | cons e l ih =>
    obtain ⟨key, v⟩ := e
    obtain ⟨hne, hdistinct⟩ := List.pairwise_cons.1 hdistinct
    have hrest := ih (fun x hx => hl x (List.mem_cons_of_mem _ hx)) hdistinct (a.insert key v)
      fun x hx hagrees => by
        rw [AttributeTable.of_insert, SortedMap.get?_insert_of_ne _ _ (by simpa using hne x hx)]
        exact hstored x (List.mem_cons_of_mem _ hx) hagrees
    refine bind_eq_ok.2 ⟨(), _, ?_, hrest⟩
    dsimp only
    split
    case isTrue hagrees =>
      have hget := hstored (key, v) List.mem_cons_self hagrees
      rw [AttributeTable.of_insert, SortedMap.insert_of_get?_eq_some hget]
      rfl
    case isFalse =>
      rw [AttributeTable.of_insert]
      exact setAttribute_withTable h (hl (key, v) List.mem_cons_self) (.of a)

theorem foldl_insert_foldl_erase {a b : Attributes} :
    a.entries.foldl (fun a e => a.insert e.1 e.2)
      ((b.keys.filter fun key => !a.contains key).foldl SortedMap.erase b) = a := by
  refine SortedMap.ext_get? fun key => ?_
  rw [SortedMap.get?_foldl_insert, SortedMap.get?_foldl_erase]
  cases ha : a.get? key with
  | some v => rfl
  | none =>
    split
    · rfl
    case isFalse h =>
      have hkeys : key ∉ b.keys := by simpa [SortedMap.contains, ha] using h
      rw [SortedMap.get?_eq_none_iff.2 hkeys]
      rfl

/-- An attribute that is passed over has the row that it would be given. -/
theorem get?_of_agrees {a b : Attributes} (hb : b.Storable) {e : String × Value} (hv : e.2.Storable)
    (he : e ∈ a.entries)
    (h : ((b.map Value.settled).get? e.1).any (Value.agrees · e.2) = true) :
    (AttributeTable.of ((b.keys.filter fun key => !a.contains key).foldl SortedMap.erase b)).get?
      (.text e.1) = some (.ofValue e.2) := by
  have hcontains : a.contains e.1 = true := SortedMap.contains_iff.2 (List.mem_map_of_mem he)
  rw [AttributeTable.get?_of, SortedMap.get?_foldl_erase, if_neg (by simp [hcontains])]
  rw [SortedMap.get?_map] at h
  cases hget : b.get? e.1 with
  | none => simp [hget] at h
  | some v =>
    have hagrees : v.settled.agrees e.2 = true := by simpa [hget] using h
    have hstorable : v.Storable := hb (e.1, v) (SortedMap.get?_eq_some_iff.1 hget)
    rw [Option.map_some, AttributeRow.ofValue_eq_of_agrees hstorable hv hagrees]

/-- With an owner that exists, attributes that pass the checks become the stored ones. -/
theorem syncAttributes_eq {p : KeyPolicy} {a b : Attributes} (h : s.ownerExists kind owner = true)
    (ha : p.Admits a) (hb : b.Storable) (hs : s.attributes kind owner = .of b) :
    syncAttributes p kind owner a s = .ok () (s.withTable kind owner (.of a)) := by
  have hself : s = s.withTable kind owner (.of b) := by rw [← hs, withTable_self]
  have hload : s.loadAttributes kind owner = .ok (b.map Value.settled) := by
    rw [loadAttributes, hs, AttributeTable.read_of hb]
  refine bind_eq_ok.2 ⟨(), s, Work.check_eq_ok.2 ⟨KeyPolicy.checkAttributes_eq_ok.2 ha, rfl⟩, ?_⟩
  refine bind_eq_ok.2 ⟨_, s, Work.look_eq_ok.2 ⟨hload, rfl⟩, ?_⟩
  have hdrop := forM_dropAttribute s kind owner (b.keys.filter fun key => !a.contains key) b
  rw [← hself] at hdrop
  rw [SortedMap.keys_map]
  refine bind_eq_ok.2 ⟨(), _, hdrop, ?_⟩
  have hset := forM_setAttribute h ha (a.ascending.imp fun hlt heq => by simp [heq] at hlt)
    ((b.keys.filter fun key => !a.contains key).foldl SortedMap.erase b)
    fun e he hagrees => get?_of_agrees hb (ha e he).2 he hagrees
  rw [foldl_insert_foldl_erase] at hset
  exact hset

/-- Without an owner there is nothing to bring in line, and nothing can be stored. -/
theorem syncAttributes_of_not_ownerExists {p : KeyPolicy} {a : Attributes} {s' : Store}
    (h : s.ownerExists kind owner = false) (hs : syncAttributes p kind owner a s = .ok () s') :
    a = .empty ∧ s' = s := by
  have hload : s.loadAttributes kind owner = .ok .empty := by
    rw [loadAttributes, attributes_of_not_ownerExists h]
    rfl
  obtain ⟨_, s₁, hcheck, hlook⟩ := bind_eq_ok.1 hs
  obtain ⟨-, rfl⟩ := Work.check_eq_ok.1 hcheck
  obtain ⟨stored, s₂, hstored, hloops⟩ := bind_eq_ok.1 hlook
  obtain ⟨hstored, rfl⟩ := Work.look_eq_ok.1 hstored
  rw [hload] at hstored
  cases hstored
  obtain ⟨_, s₃, hdrop, hset⟩ := bind_eq_ok.1 hloops
  obtain ⟨-, rfl⟩ := pure_eq_ok.1 hdrop
  cases hentries : a.entries with
  | nil =>
    rw [hentries] at hset
    obtain ⟨-, rfl⟩ := pure_eq_ok.1 hset
    refine ⟨SortedMap.ext_get? fun key => ?_, rfl⟩
    simp [SortedMap.get?, hentries, SortedMap.empty]
  | cons e l =>
    rw [hentries] at hset
    obtain ⟨_, s₄, hfirst, -⟩ := bind_eq_ok.1 hset
    obtain ⟨_, s₅, hcheck', hput⟩ := bind_eq_ok.1 hfirst
    obtain ⟨-, rfl⟩ := Work.check_eq_ok.1 hcheck'
    rw [Work.change_eq_ok, putAttribute, if_neg (by simp [h])] at hput
    cases hput

theorem syncAttributes_admits {p : KeyPolicy} {a : Attributes} {s' : Store}
    (h : syncAttributes p kind owner a s = .ok () s') : p.Admits a := by
  obtain ⟨_, s₁, hcheck, -⟩ := bind_eq_ok.1 h
  exact KeyPolicy.checkAttributes_eq_ok.1 (Work.check_eq_ok.1 hcheck).1

/-- What bringing attributes in line comes to, whether the owner exists or not. -/
theorem syncAttributes_eq_ok {p : KeyPolicy} {a b : Attributes} {s' : Store} (hb : b.Storable)
    (hs : s.attributes kind owner = .of b) : syncAttributes p kind owner a s = .ok () s' ↔
      p.Admits a ∧ (s.ownerExists kind owner = true ∨ a = .empty) ∧
        s' = s.withTable kind owner (.of a) := by
  cases howner : s.ownerExists kind owner with
  | true =>
    constructor
    · intro h
      have ha := syncAttributes_admits h
      rw [syncAttributes_eq howner ha hb hs] at h
      cases h
      exact ⟨ha, .inl rfl, rfl⟩
    · rintro ⟨ha, -, rfl⟩
      exact syncAttributes_eq howner ha hb hs
  | false =>
    have hsame (t : AttributeTable) : s.withTable kind owner t = s :=
      withAttributes_of_not_ownerExists howner
    constructor
    · intro h
      obtain ⟨rfl, rfl⟩ := syncAttributes_of_not_ownerExists howner h
      exact ⟨syncAttributes_admits h, .inr rfl, (hsame _).symm⟩
    · rintro ⟨ha, ho, rfl⟩
      rcases ho with ho | rfl
      · cases ho
      · rw [hsame]
        have hload : s.loadAttributes kind owner = .ok .empty := by
          rw [loadAttributes, attributes_of_not_ownerExists howner]
          rfl
        refine bind_eq_ok.2 ⟨(), s, rfl, bind_eq_ok.2 ⟨_, s, Work.look_eq_ok.2 ⟨hload, rfl⟩, rfl⟩⟩

end Chronicle.Store
