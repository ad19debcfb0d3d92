import Chronicle.Proofs.Save.Changes
import Chronicle.Proofs.Store.Frame
import Mathlib.Data.List.Perm.Subperm

/-!
# Ids that are left

Ids are handed out one after the other and rows are never taken away, so no id is greater than the number
of rows. As long as there are fewer rows than ids there is a next one.
-/
namespace Chronicle

namespace SortedMap

variable {κ α : Type} [Ord κ] [Std.LawfulEqOrd κ]

theorem length_put (k : κ) (v : α) (l : List (κ × α)) :
    (put k v l).length = l.length + 1 ∨ (put k v l).length = l.length ∧ k ∈ l.map Prod.fst := by
  induction l with
  | nil => exact .inl rfl
  | cons e l ih =>
    obtain ⟨k', v'⟩ := e
    unfold put
    split
    · exact .inl rfl
    case h_2 heq =>
      obtain rfl := Std.LawfulEqCmp.eq_of_compare heq
      exact .inr ⟨rfl, List.mem_cons_self⟩
    · refine ih.imp (fun hlength => ?_) fun ⟨hlength, hmem⟩ => ⟨?_, List.mem_cons_of_mem _ hmem⟩
      · rw [List.length_cons, hlength, List.length_cons]
      · rw [List.length_cons, hlength, List.length_cons]

variable [Std.TransOrd κ]

theorem length_le_insert (m : SortedMap κ α) (k : κ) (v : α) :
    m.entries.length ≤ (m.insert k v).entries.length := by
  rcases length_put k v m.entries with h | ⟨h, -⟩
  · exact h ▸ Nat.le_succ _
  · exact h ▸ Nat.le_refl _

theorem length_insert_of_get?_eq_none {m : SortedMap κ α} {k : κ} (h : m.get? k = none) (v : α) :
    (m.insert k v).entries.length = m.entries.length + 1 := by
  rcases length_put k v m.entries with hlength | ⟨-, hmem⟩
  · exact hlength
  · exact absurd hmem (get?_eq_none_iff.1 h)

theorem length_insert_of_contains {m : SortedMap κ α} {k : κ} (h : m.contains k = true) (v : α) :
    (m.insert k v).entries.length = m.entries.length := by
  have hkeys : ∀ k' ∈ (m.insert k v).keys, k' ∈ m.keys := by
    intro k' hk'
    rcases contains_insert.1 (contains_iff.2 hk') with rfl | hold
    · exact contains_iff.1 h
    · exact contains_iff.1 hold
  have hnodup : (m.insert k v).keys.Nodup := by
    refine List.pairwise_map.2 ((m.insert k v).ascending.imp fun {a b} hlt heq => ?_)
    simp [heq] at hlt
  have hle := (hnodup.subperm hkeys).length_le
  simp only [keys, List.length_map] at hle
  exact Nat.le_antisymm hle (length_le_insert m k v)

end SortedMap

namespace Store

/-- Whether no id is greater than the number of rows. -/
structure Counts {α : Type} (last : RowId) (rows : SortedMap RowId α) : Prop where
  last : last.toInt ≤ rows.entries.length
  ids : ∀ id, rows.contains id = true → id.toInt ≤ rows.entries.length

/-- The number of ids that can be handed out, and one more. -/
def idLimit : Nat := 2 ^ 63

namespace Counts

variable {α : Type} {last id : RowId} {rows : SortedMap RowId α}

theorem greatestId_le (h : Counts last rows) : (greatestId last rows).toInt ≤ rows.entries.length := by
  unfold greatestId
  cases hlast : rows.last? with
  | none => exact h.last
  | some e =>
    have hmem := List.mem_of_getLast? hlast
    have hid := h.ids e.1 (SortedMap.contains_iff.2 (List.mem_map_of_mem hmem))
    change (if e.1 ≤ last then last else e.1).toInt ≤ _
    split
    · exact h.last
    · exact hid

theorem exists_nextId (h : Counts last rows) (hroom : rows.entries.length + 1 < idLimit) :
    ∃ id, nextId last rows = .ok id := by
  refine ⟨_, nextId_eq_ok.2 ⟨?_, rfl⟩⟩
  have hle := h.greatestId_le
  rw [Int64.lt_iff_toInt_lt, Int64.toInt_maxValue]
  unfold idLimit at hroom
  omega

theorem toInt_nextId (hid : nextId last rows = .ok id) : id.toInt = (greatestId last rows).toInt + 1 := by
  obtain ⟨hlt, rfl⟩ := nextId_eq_ok.1 hid
  have hone : (1 : Int64).toInt = 1 := rfl
  have hmax := Int64.toInt_maxValue
  have hlow := Int64.le_toInt (greatestId last rows)
  rw [Int64.lt_iff_toInt_lt] at hlt
  rw [Int64.toInt_add, hone, Int.bmod_eq_of_le] <;> omega

/-- A new row has the id after those that are in use. -/
theorem insert_new (h : Counts last rows) (hid : nextId last rows = .ok id) (row : α) :
    Counts id (rows.insert id row) := by
  have hlength := SortedMap.length_insert_of_get?_eq_none (get?_eq_none_of_nextId hid) row
  have hle := h.greatestId_le
  have hnew := toInt_nextId hid
  refine ⟨by omega, fun k hk => ?_⟩
  rcases SortedMap.contains_insert.1 hk with rfl | hold
  · omega
  · have hold := h.ids k hold
    omega

theorem insert_over (h : Counts last rows) (hid : rows.contains id = true) (row : α) :
    Counts last (rows.insert id row) := by
  have hlength := SortedMap.length_insert_of_contains hid row
  refine ⟨hlength ▸ h.last, fun k hk => hlength ▸ ?_⟩
  rcases SortedMap.contains_insert.1 hk with rfl | hold
  · exact h.ids _ hid
  · exact h.ids k hold

end Counts

structure Counted (s : Store) : Prop where
  events : Counts s.lastEvent s.events
  catalogues : Counts s.lastCatalogue s.catalogues

theorem contains_of_get? {α : Type} {rows : SortedMap RowId α} {id : RowId} {row : α}
    (h : rows.get? id = some row) : rows.contains id = true := by
  rw [SortedMap.contains, h]
  rfl

namespace Counted

variable {s s' : Store}

theorem empty : Counted .empty := by
  have hcounts {α : Type} : Counts 0 (.empty : SortedMap RowId α) := ⟨Int.le_refl 0, fun _ h => nomatch h⟩
  exact ⟨hcounts, hcounts⟩

theorem withAttributes (h : s.Counted) (kind : EntityKind) (owner : RowId)
    (f : AttributeTable → AttributeTable) : (s.withAttributes kind owner f).Counted := by
  refine withAttributes_induction h (fun row _ hrow => ?_) fun row _ hrow => ?_
  · exact ⟨h.events.insert_over (contains_of_get? hrow) _, h.catalogues⟩
  · exact ⟨h.events, h.catalogues.insert_over (contains_of_get? hrow) _⟩

theorem change [Regex.Library] {settings : Settings} {f : Footprint} (h : s.Counted)
    (hchange : Change settings f s s') :
    s'.Counted := by
  cases hchange with
  | insertEvent e he hinsert =>
    obtain ⟨hid, -, rfl⟩ := insertEvent_eq_ok.1 hinsert
    exact ⟨h.events.insert_new hid _, h.catalogues⟩
  | updateEvent e he hupdate =>
    rcases updateEvent_eq_ok.1 hupdate with ⟨-, rfl⟩ | ⟨row, hrow, -, rfl⟩
    · exact h
    · exact ⟨h.events.insert_over (contains_of_get? hrow) _, h.catalogues⟩
  | insertCatalogue c hc hinsert =>
    obtain ⟨hid, rfl⟩ := insertCatalogue_eq_ok.1 hinsert
    exact ⟨h.events, h.catalogues.insert_new hid _⟩
  | updateCatalogue c hc =>
    refine updateCatalogue_induction h fun row hrow => ?_
    exact ⟨h.events, h.catalogues.insert_over (contains_of_get? hrow) _⟩
  | addMember event hadd =>
    obtain ⟨row, hrow, -, -, rfl⟩ := addMember_eq_ok hadd
    exact ⟨h.events, h.catalogues.insert_over (contains_of_get? hrow) _⟩
  | removeMember event =>
    refine removeMember_induction h fun row hrow => ?_
    exact ⟨h.events, h.catalogues.insert_over (contains_of_get? hrow) _⟩
  | putAttribute key v hv hput =>
    obtain ⟨-, rfl⟩ := putAttribute_eq_ok.1 hput
    exact h.withAttributes ..
  | removeAttribute key =>
    rw [removeAttribute_snd]
    exact h.withAttributes ..

end Counted

/-- Whether there are ids for so many more rows. -/
structure Room (events catalogues : Nat) (s : Store) : Prop where
  counted : s.Counted
  events : s.events.entries.length + events < idLimit
  catalogues : s.catalogues.entries.length + catalogues < idLimit

namespace Room

variable {s : Store} {id : RowId} {m n m' n' : Nat}

theorem mono (h : Room m' n' s) (hm : m ≤ m') (hn : n ≤ n') : Room m n s :=
  ⟨h.counted, Nat.lt_of_le_of_lt (Nat.add_le_add_left hm _) h.events,
    Nat.lt_of_le_of_lt (Nat.add_le_add_left hn _) h.catalogues⟩

theorem newEvent (h : Room (m + 1) n s) (hid : nextId s.lastEvent s.events = .ok id) (row : EventRow) :
    Room m n { s with events := s.events.insert id row, lastEvent := id } := by
  have hlength := SortedMap.length_insert_of_get?_eq_none (get?_eq_none_of_nextId hid) row
  have hroom := h.events
  exact ⟨⟨h.counted.events.insert_new hid row, h.counted.catalogues⟩, by dsimp only; omega, h.catalogues⟩

theorem newCatalogue (h : Room m (n + 1) s) (hid : nextId s.lastCatalogue s.catalogues = .ok id)
    (row : CatalogueRow) :
    Room m n { s with catalogues := s.catalogues.insert id row, lastCatalogue := id } := by
  have hlength := SortedMap.length_insert_of_get?_eq_none (get?_eq_none_of_nextId hid) row
  have hroom := h.catalogues
  exact ⟨⟨h.counted.events, h.counted.catalogues.insert_new hid row⟩, h.events, by dsimp only; omega⟩

theorem overEvent (h : Room m n s) (hid : s.events.contains id = true) (row : EventRow) :
    Room m n { s with events := s.events.insert id row } := by
  have hlength := SortedMap.length_insert_of_contains hid row
  exact ⟨⟨h.counted.events.insert_over hid row, h.counted.catalogues⟩, hlength ▸ h.events, h.catalogues⟩

theorem overCatalogue (h : Room m n s) (hid : s.catalogues.contains id = true) (row : CatalogueRow) :
    Room m n { s with catalogues := s.catalogues.insert id row } := by
  have hlength := SortedMap.length_insert_of_contains hid row
  exact ⟨⟨h.counted.events, h.counted.catalogues.insert_over hid row⟩, h.events, hlength ▸ h.catalogues⟩

end Room

/-- In a store that can be reached no id is greater than the number of rows. -/
theorem Reachable.counted [Regex.Library] {s : Store} (h : s.Reachable) : s.Counted :=
  h.induction .empty fun _ _ _ _ hchange hs => hs.change hchange

end Store

end Chronicle
