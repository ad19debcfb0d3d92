import Chronicle.Proofs.Save.Changes
import Chronicle.Proofs.Store.Frame

/-!
# Uuids of rows

A uuid is in one row at most, in every store that can be reached.
-/
namespace Chronicle.Store

/-- The uuid of an event that is stored. -/
def uuid? (s : Store) (id : RowId) : Option StoredText := (s.events.get? id).map EventRow.uuid

def Distinct (s : Store) : Prop := ∀ id id' u, s.uuid? id = some u → s.uuid? id' = some u → id = id'

variable {s s' : Store} {id : RowId}

theorem hasUuid_eq_false {rows : SortedMap RowId EventRow} {u : StoredText} :
    hasUuid rows u = false ↔ ∀ id, (rows.get? id).map EventRow.uuid ≠ some u := by
  simp only [hasUuid, List.any_eq_false, beq_iff_eq, ne_eq, Option.map_eq_some_iff, not_exists, not_and,
    SortedMap.get?_eq_some_iff, Prod.forall]

theorem hasUuid_iff {u : StoredText} : hasUuid s.events u = true ↔ ∃ id, s.uuid? id = some u := by
  simp only [hasUuid, List.any_eq_true, beq_iff_eq, uuid?, Option.map_eq_some_iff, SortedMap.get?_eq_some_iff,
    Prod.exists]

/-- The uuid of a row is in no other row. -/
theorem Distinct.hasUuid_erase (hs : s.Distinct) {u : StoredText} (h : s.uuid? id = some u) :
    hasUuid (s.events.erase id) u = false := by
  apply hasUuid_eq_false.2
  intro k hk
  by_cases hid : id = k
  · subst hid
    simp at hk
  · rw [SortedMap.get?_erase_of_ne _ hid] at hk
    exact hid (hs id k u h hk)

/-- A row may be written with a uuid that no other row has. -/
theorem Distinct.insert (hs : s.Distinct) {row : EventRow} (hs' : s'.events = s.events.insert id row)
    (hfree : ∀ id', id ≠ id' → s.uuid? id' ≠ some row.uuid) : s'.Distinct := by
  have hself : s'.uuid? id = some row.uuid := by rw [uuid?, hs', SortedMap.get?_insert_self]; rfl
  have hother (k : RowId) (hk : id ≠ k) : s'.uuid? k = s.uuid? k := by
    rw [uuid?, hs', SortedMap.get?_insert_of_ne _ _ hk, uuid?]
  intro a b u ha hb
  by_cases hia : id = a
  · by_cases hib : id = b
    · rw [← hia, ← hib]
    · rw [← hia, hself] at ha
      rw [hother b hib, ← ha] at hb
      exact absurd hb (hfree b hib)
  · by_cases hib : id = b
    · rw [← hib, hself] at hb
      rw [hother a hia, ← hb] at ha
      exact absurd ha (hfree a hia)
    · rw [hother a hia] at ha
      rw [hother b hib] at hb
      exact hs a b u ha hb

theorem Distinct.of_events_eq (hs : s.Distinct) (h : s'.events = s.events) : s'.Distinct := by
  have huuid (id : RowId) : s'.uuid? id = s.uuid? id := by rw [uuid?, h, uuid?]
  intro a b u ha hb
  rw [huuid] at ha hb
  exact hs a b u ha hb

theorem uuid?_withAttributes (kind : EntityKind) (owner : RowId) (f : AttributeTable → AttributeTable) :
    (s.withAttributes kind owner f).uuid? id = s.uuid? id := by
  refine withAttributes_induction (motive := fun s' => s'.uuid? id = s.uuid? id) rfl
    (fun row _ hrow => ?_) fun _ _ _ => rfl
  exact map_get?_insert hrow EventRow.uuid rfl

theorem Distinct.withAttributes (hs : s.Distinct) (kind : EntityKind) (owner : RowId)
    (f : AttributeTable → AttributeTable) : (s.withAttributes kind owner f).Distinct := by
  intro a b u ha hb
  rw [uuid?_withAttributes] at ha hb
  exact hs a b u ha hb

theorem Distinct.change [Regex.Library] {settings : Settings} {f : Footprint} (hs : s.Distinct)
    (h : Change settings f s s') : s'.Distinct := by
  cases h with
  | insertEvent e he h =>
    obtain ⟨-, hfree, rfl⟩ := insertEvent_eq_ok.1 h
    exact hs.insert rfl fun k _ => hasUuid_eq_false.1 hfree k
  | @updateEvent _ _ id e he h =>
    rcases updateEvent_eq_ok.1 h with ⟨-, rfl⟩ | ⟨row, -, hfree, rfl⟩
    · exact hs
    · refine hs.insert rfl fun k hk hu => hasUuid_eq_false.1 hfree k ?_
      rw [SortedMap.get?_erase_of_ne _ hk]
      exact hu
  | insertCatalogue c hc h =>
    obtain ⟨-, rfl⟩ := insertCatalogue_eq_ok.1 h
    exact hs.of_events_eq rfl
  | updateCatalogue c hc => exact hs.of_events_eq (rewrites_updateCatalogue _).events_eq
  | addMember event h =>
    obtain ⟨row, -, -, -, rfl⟩ := addMember_eq_ok h
    exact hs.of_events_eq rfl
  | removeMember event => exact hs.of_events_eq (rewrites_removeMember event).events_eq
  | putAttribute key v hv h =>
    obtain ⟨-, rfl⟩ := putAttribute_eq_ok.1 h
    exact hs.withAttributes _ _ _
  | removeAttribute key =>
    rw [removeAttribute_snd]
    exact hs.withAttributes _ _ _

/-- No two events that are stored have one uuid. -/
theorem Reachable.distinct [Regex.Library] (hs : s.Reachable) : s.Distinct :=
  hs.induction (fun _ _ _ h => nomatch h) fun _ _ _ _ h ht => ht.change h

/-- The row of events with a uuid. -/
def rowOf? (s : Store) (u : String) : Option EventRow :=
  (s.events.entries.find? fun x => x.2.uuid == .text u).map Prod.snd

variable {u : String} {row : EventRow}

theorem rowOf?_congr (h : s'.events = s.events) : s'.rowOf? u = s.rowOf? u := by
  rw [rowOf?, h, rowOf?]

theorem rowOf?_eq_none : s.rowOf? u = none ↔ ∀ id, s.uuid? id ≠ some (.text u) := by
  rw [rowOf?, Option.map_eq_none_iff, List.find?_eq_none]
  constructor
  · intro h id hid
    obtain ⟨row, hrow, hu⟩ := Option.map_eq_some_iff.1 hid
    exact h (id, row) (SortedMap.get?_eq_some_iff.1 hrow) (beq_iff_eq.2 hu)
  · rintro h ⟨id, row⟩ hmem hu
    refine h id ?_
    rw [uuid?, SortedMap.get?_eq_some_iff.2 hmem]
    exact congrArg some (beq_iff_eq.1 hu)

theorem hasUuid_iff_rowOf? : hasUuid s.events (.text u) = true ↔ s.rowOf? u ≠ none := by
  rw [← Bool.not_eq_false, hasUuid_eq_false, Ne, rowOf?_eq_none]
  exact Iff.rfl

/-- When uuids are distinct there is one row to find. -/
theorem Distinct.rowOf?_eq_some (hs : s.Distinct) :
    s.rowOf? u = some row ↔ ∃ id, s.events.get? id = some row ∧ row.uuid = .text u := by
  constructor
  · intro h
    obtain ⟨⟨id, row'⟩, hfind, rfl⟩ := Option.map_eq_some_iff.1 h
    exact ⟨id, SortedMap.get?_eq_some_iff.2 (List.mem_of_find?_eq_some hfind),
      beq_iff_eq.1 (List.find?_some (p := fun x : RowId × EventRow => x.2.uuid == .text u) hfind)⟩
  · rintro ⟨id, hrow, hu⟩
    have huuid : s.uuid? id = some (.text u) := by rw [uuid?, hrow, ← hu]; rfl
    have hsome : (s.events.entries.find? fun x => x.2.uuid == .text u).isSome = true :=
      List.find?_isSome.2 ⟨(id, row), SortedMap.get?_eq_some_iff.1 hrow, beq_iff_eq.2 hu⟩
    obtain ⟨⟨id', row'⟩, hfind⟩ := Option.isSome_iff_exists.1 hsome
    have hget := SortedMap.get?_eq_some_iff.2 (List.mem_of_find?_eq_some hfind)
    have hu' := beq_iff_eq.1
      (List.find?_some (p := fun x : RowId × EventRow => x.2.uuid == .text u) hfind)
    have huuid' : s.uuid? id' = some (.text u) := by rw [uuid?, hget, ← hu']; rfl
    rw [hs id' id _ huuid' huuid, hrow] at hget
    rw [rowOf?, hfind, Option.map_some, ← Option.some.inj hget]

/-- The entries with a uuid are at most one. -/
theorem Distinct.filter_entries (hs : s.Distinct) (u : String) :
    ((s.events.entries.filter fun x => x.2.uuid == .text u).map Prod.snd) = (s.rowOf? u).toList := by
  have huuid {x : RowId × EventRow} (hx : x ∈ s.events.entries.filter fun x => x.2.uuid == .text u) :
      s.uuid? x.1 = some (.text u) := by
    obtain ⟨hmem, hu⟩ := List.mem_filter.1 hx
    rw [uuid?, SortedMap.get?_eq_some_iff.2 hmem, ← beq_iff_eq.1 hu]
    rfl
  rw [rowOf?, ← List.head?_filter]
  have hascending := s.events.ascending.filter fun x => x.2.uuid == .text u
  cases hfilter : s.events.entries.filter fun x => x.2.uuid == .text u with
  | nil => rfl
  | cons x rest =>
    cases rest with
    | nil => rfl
    | cons y rest =>
      rw [hfilter] at hascending huuid
      have hsame := hs x.1 y.1 _ (huuid List.mem_cons_self) (huuid (by simp))
      have hlt := List.rel_of_pairwise_cons hascending List.mem_cons_self
      simp [hsame] at hlt

/-- A row that was written with a uuid, in the place of one with the same uuid or in a free one. -/
theorem Distinct.rowOf?_written (hs : s.Distinct) (hs' : s'.Distinct)
    (hself : s'.events.get? id = some row) (hother : ∀ k, id ≠ k → s'.events.get? k = s.events.get? k)
    (hbefore : ∀ old, s.events.get? id = some old → old.uuid = row.uuid) :
    s'.rowOf? u = if row.uuid = .text u then some row else s.rowOf? u := by
  split
  case isTrue hu => exact hs'.rowOf?_eq_some.2 ⟨id, hself, hu⟩
  case isFalse hu =>
    refine Option.ext fun found => ?_
    rw [hs'.rowOf?_eq_some, hs.rowOf?_eq_some]
    refine exists_congr fun k => and_congr_left fun hfound => ?_
    by_cases hk : id = k
    · subst hk
      constructor
      · intro h
        obtain rfl := Option.some.inj (hself.symm.trans h)
        exact absurd hfound hu
      · intro h
        exact absurd ((hbefore found h).symm.trans hfound) hu
    · rw [hother k hk]

end Chronicle.Store
