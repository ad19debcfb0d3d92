import Chronicle.SortedMap

/-! # Look-ups in sorted maps

What each operation does to look-ups. A map is known by them: a look-up finds a value exactly when the
entry is listed, and maps with the same look-ups are equal. -/
namespace Chronicle.SortedMap

variable {κ α β : Type} [Ord κ]

theorem keys_map (f : α → β) (m : SortedMap κ α) : (m.map f).keys = m.keys := by
  simp [keys, map]

theorem values_map (f : α → β) (m : SortedMap κ α) : (m.map f).values = m.values.map f := by
  simp [values, map]

@[simp] theorem get?_map (f : α → β) (m : SortedMap κ α) (k : κ) :
    (m.map f).get? k = (m.get? k).map f := by
  rw [get?, map, List.find?_map, Option.map_map, get?, Option.map_map]
  rfl

theorem eq_last_or_lt_of_mem {m : SortedMap κ α} {e last : κ × α} (h : m.last? = some last)
    (he : e ∈ m.entries) : e = last ∨ compare e.1 last.1 = .lt := by
  obtain ⟨before, hentries⟩ := List.getLast?_eq_some_iff.1 h
  have hascending := m.ascending
  rw [hentries] at he hascending
  rcases List.mem_append.1 he with he | he
  · exact .inr ((List.pairwise_append.1 hascending).2.2 e he last List.mem_cons_self)
  · exact .inl (by simpa using he)

variable [Std.TransOrd κ]

theorem find?_of_mem {k : κ} {v : α} : ∀ {l : List (κ × α)},
    (l.Pairwise fun a b => compare a.1 b.1 = .lt) → (k, v) ∈ l →
      (l.find? fun e => compare e.1 k == .eq) = some (k, v)
  | [], _, h => nomatch h
  | e :: rest, hl, h => by
    obtain ⟨hlt, hrest⟩ := List.pairwise_cons.1 hl
    rcases List.mem_cons.1 h with rfl | h
    · simp
    · have hne : (compare e.1 k == .eq) = false := by rw [hlt _ h]; rfl
      rw [List.find?_cons_of_neg (by simp [hne])]
      exact find?_of_mem hrest h

variable [Std.LawfulEqOrd κ]

theorem get?_eq_some_iff {m : SortedMap κ α} {k : κ} {v : α} :
    m.get? k = some v ↔ (k, v) ∈ m.entries := by
  constructor
  · intro h
    obtain ⟨⟨k', v'⟩, he, rfl⟩ := Option.map_eq_some_iff.1 h
    have hk : compare k' k = .eq := by simpa using List.find?_some he
    obtain rfl := Std.LawfulEqCmp.eq_of_compare hk
    exact List.mem_of_find?_eq_some he
  · intro h
    simp [get?, find?_of_mem m.ascending h]

theorem get?_eq_none_iff {m : SortedMap κ α} {k : κ} : m.get? k = none ↔ k ∉ m.keys := by
  rw [Option.eq_none_iff_forall_ne_some]
  simp [get?_eq_some_iff, keys]

theorem contains_iff {m : SortedMap κ α} {k : κ} : m.contains k = true ↔ k ∈ m.keys := by
  rw [contains, Option.isSome_iff_ne_none, ne_eq, get?_eq_none_iff, Classical.not_not]

theorem exists_contains {m : SortedMap κ α} (h : m ≠ empty) : ∃ k, m.contains k = true := by
  obtain ⟨entries, ascending⟩ := m
  cases entries with
  | nil => exact absurd rfl h
  | cons e l => exact ⟨e.1, contains_iff.2 (List.mem_cons_self)⟩

theorem get?_filter (p : κ → α → Bool) (m : SortedMap κ α) (k : κ) :
    (m.filter p).get? k = (m.get? k).filter (p k) := by
  refine Option.ext fun v => ?_
  simp [get?_eq_some_iff, filter, Option.filter_eq_some_iff]

@[simp] theorem get?_erase_self (m : SortedMap κ α) (k : κ) : (m.erase k).get? k = none := by
  simp [erase, get?_filter]

theorem get?_erase_of_ne (m : SortedMap κ α) {k k' : κ} (h : k ≠ k') :
    (m.erase k).get? k' = m.get? k' := by
  have hk : (compare k' k != .eq) = true := by simpa using fun he : k' = k => h he.symm
  simp only [erase, get?_filter, hk]
  cases m.get? k' <;> rfl

theorem entries_eq_of_mem_iff {l l' : List (κ × α)}
    (hl : l.Pairwise fun a b => compare a.1 b.1 = .lt)
    (hl' : l'.Pairwise fun a b => compare a.1 b.1 = .lt) (h : ∀ e, e ∈ l ↔ e ∈ l') : l = l' := by
  induction l generalizing l' with
  | nil => exact (List.eq_nil_iff_forall_not_mem.2 fun e he => nomatch (h e).2 he).symm
  | cons a l ih =>
    cases l' with
    | nil => exact nomatch (h a).1 List.mem_cons_self
    | cons b l' =>
      obtain ⟨ha, hl⟩ := List.pairwise_cons.1 hl
      obtain ⟨hb, htail⟩ := List.pairwise_cons.1 hl'
      have irrefl (c : κ × α) (hc : compare c.1 c.1 = .lt) : False := by
        simp at hc
      have hab : a = b := by
        rcases List.mem_cons.1 ((h a).1 List.mem_cons_self) with hab | hab
        · exact hab
        · rcases List.mem_cons.1 ((h b).2 List.mem_cons_self) with hba | hba
          · exact hba.symm
          · exact (irrefl a (Std.TransCmp.lt_trans (ha b hba) (hb a hab))).elim
      subst hab
      refine congrArg (a :: ·) (ih hl htail fun e => ⟨fun he => ?_, fun he => ?_⟩)
      · rcases List.mem_cons.1 ((h e).1 (List.mem_cons_of_mem _ he)) with rfl | he'
        · exact (irrefl e (ha e he)).elim
        · exact he'
      · rcases List.mem_cons.1 ((h e).2 (List.mem_cons_of_mem _ he)) with rfl | he'
        · exact (irrefl e (hb e he)).elim
        · exact he'

/-- The look-ups determine the map. -/
theorem ext_get? {m n : SortedMap κ α} (h : ∀ k, m.get? k = n.get? k) : m = n := by
  have he : m.entries = n.entries := entries_eq_of_mem_iff m.ascending n.ascending fun (k, v) => by
    rw [← get?_eq_some_iff, h k, get?_eq_some_iff]
  cases m; cases n; cases he; rfl

theorem contains_insert {m : SortedMap κ α} {k k' : κ} {v : α} :
    (m.insert k v).contains k' = true ↔ k = k' ∨ m.contains k' = true := by
  unfold contains
  by_cases h : k = k'
  · subst h
    simp
  · simp [get?_insert_of_ne m v h, h]

/-- What is found after an insertion was inserted at its key or was there before at another one. -/
theorem get?_insert_eq_some {m : SortedMap κ α} {k k' : κ} {v w : α} :
    (m.insert k v).get? k' = some w ↔ (k = k' ∧ v = w) ∨ (k ≠ k' ∧ m.get? k' = some w) := by
  by_cases h : k = k'
  · subst h
    simp
  · simp [get?_insert_of_ne m v h, h]

theorem get?_of_erase {m : SortedMap κ α} {k k' : κ} {v : α} (h : (m.erase k).get? k' = some v) :
    m.get? k' = some v := by
  by_cases hk : k = k'
  · subst hk
    rw [get?_erase_self] at h
    cases h
  · rwa [get?_erase_of_ne _ hk] at h

theorem contains_of_erase {m : SortedMap κ α} {k k' : κ} (h : (m.erase k).contains k' = true) :
    m.contains k' = true := by
  unfold contains at *
  by_cases hk : k = k'
  · subst hk
    simp at h
  · rwa [get?_erase_of_ne m hk] at h

theorem insert_of_get?_eq_some {m : SortedMap κ α} {k : κ} {v : α} (h : m.get? k = some v) :
    m.insert k v = m := by
  refine ext_get? fun k' => ?_
  by_cases hk : k = k'
  · subst hk
    simp [h]
  · exact get?_insert_of_ne m v hk

theorem insert_insert_self (m : SortedMap κ α) (k : κ) (v w : α) :
    (m.insert k v).insert k w = m.insert k w := by
  refine ext_get? fun k' => ?_
  by_cases hk : k = k'
  · subst hk
    simp
  · simp [get?_insert_of_ne _ _ hk]

theorem erase_of_get?_eq_none {m : SortedMap κ α} {k : κ} (h : m.get? k = none) : m.erase k = m := by
  refine ext_get? fun k' => ?_
  by_cases hk : k = k'
  · subst hk
    simp [h]
  · exact get?_erase_of_ne m hk

theorem get?_foldl_erase [DecidableEq κ] (l : List κ) (m : SortedMap κ α) (k : κ) :
    (l.foldl erase m).get? k = if k ∈ l then none else m.get? k := by
  induction l generalizing m with
  | nil => rfl
  | cons k' l ih =>
    rw [List.foldl_cons, ih]
    by_cases hk : k' = k
    · subst hk
      simp
    · simp [get?_erase_of_ne m hk, Ne.symm hk]

/-- Entries that are put one after the other win over those that were there. -/
theorem get?_foldl_insert (m n : SortedMap κ α) (k : κ) :
    (m.entries.foldl (fun n e => n.insert e.1 e.2) n).get? k = (m.get? k).or (n.get? k) := by
  have general (l : List (κ × α)) (hl : l.Pairwise fun a b => compare a.1 b.1 = .lt)
      (n : SortedMap κ α) : (l.foldl (fun n e => n.insert e.1 e.2) n).get? k =
        ((l.find? fun e => compare e.1 k == .eq).map Prod.snd).or (n.get? k) := by
    induction l generalizing n with
    | nil => rfl
    | cons e l ih =>
      obtain ⟨hlt, hl⟩ := List.pairwise_cons.1 hl
      rw [List.foldl_cons, ih hl]
      by_cases hk : e.1 = k
      · have hnone : l.find? (fun e => compare e.1 k == .eq) = none := by
          refine List.find?_eq_none.2 fun x hx => ?_
          rw [← hk, Std.OrientedCmp.gt_of_lt (hlt x hx)]
          decide
        simp [hk, hnone]
      · simp [hk, get?_insert_of_ne _ _ hk]
  exact general m.entries m.ascending n

theorem ofList_entries (m : SortedMap κ α) : ofList m.entries = m := by
  refine ext_get? fun k => ?_
  rw [ofList, get?_foldl_insert]
  simp

end Chronicle.SortedMap
