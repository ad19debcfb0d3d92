/-! # Finite maps as strictly ascending association lists

A map is the list of its entries in ascending key order, so two maps with the same look-ups are the
same map, and listing a map lists it in order. -/
namespace Chronicle

structure SortedMap (κ α : Type) [Ord κ] where
  entries : List (κ × α)
  ascending : entries.Pairwise fun a b => compare a.1 b.1 = .lt

namespace SortedMap

variable {κ α β : Type} [Ord κ]

instance [DecidableEq κ] [DecidableEq α] : DecidableEq (SortedMap κ α) := fun a b =>
  if h : a.entries = b.entries then
    isTrue (by cases a; cases b; cases h; rfl)
  else isFalse fun e => h (congrArg entries e)

def empty : SortedMap κ α := ⟨[], .nil⟩

instance : Inhabited (SortedMap κ α) := ⟨empty⟩

def keys (m : SortedMap κ α) : List κ := m.entries.map Prod.fst

def values (m : SortedMap κ α) : List α := m.entries.map Prod.snd

def isEmpty (m : SortedMap κ α) : Bool := m.entries.isEmpty

def get? (m : SortedMap κ α) (k : κ) : Option α :=
  (m.entries.find? fun e => compare e.1 k == .eq).map Prod.snd

def contains (m : SortedMap κ α) (k : κ) : Bool := (m.get? k).isSome

/-- The entry with the greatest key. -/
def last? (m : SortedMap κ α) : Option (κ × α) := m.entries.getLast?

def filter (p : κ → α → Bool) (m : SortedMap κ α) : SortedMap κ α :=
  ⟨m.entries.filter fun e => p e.1 e.2, m.ascending.sublist List.filter_sublist⟩

def erase (m : SortedMap κ α) (k : κ) : SortedMap κ α :=
  m.filter fun k' _ => compare k' k != .eq

def map (f : α → β) (m : SortedMap κ α) : SortedMap κ β :=
  ⟨m.entries.map fun e => (e.1, f e.2), List.pairwise_map.2 (m.ascending.imp fun h => h)⟩

/-- Puts an entry where its key belongs, in place of one with an equal key. -/
def put (k : κ) (v : α) : List (κ × α) → List (κ × α)
  | [] => [(k, v)]
  | (k', v') :: rest =>
    match compare k k' with
    | .lt => (k, v) :: (k', v') :: rest
    | .eq => (k, v) :: rest
    | .gt => (k', v') :: put k v rest

@[simp] theorem put_nil (k : κ) (v : α) : put k v [] = [(k, v)] := rfl

theorem mem_put {k : κ} {v : α} {e : κ × α} :
    ∀ {l : List (κ × α)}, e ∈ put k v l → e = (k, v) ∨ e ∈ l
  | [], h => by simpa using h
  | (k', v') :: rest, h => by
    unfold put at h
    split at h
    · simpa using h
    · rcases List.mem_cons.1 h with h | h
      · exact .inl h
      · exact .inr (List.mem_cons_of_mem _ h)
    · rcases List.mem_cons.1 h with h | h
      · exact .inr (h ▸ List.mem_cons_self)
      · exact (mem_put h).imp id (List.mem_cons_of_mem _)

theorem pairwise_put [Std.TransOrd κ] (k : κ) (v : α) :
    ∀ {l : List (κ × α)}, (l.Pairwise fun a b => compare a.1 b.1 = .lt) →
      (put k v l).Pairwise fun a b => compare a.1 b.1 = .lt
  | [], _ => by simp
  | (k', v') :: rest, h => by
    obtain ⟨h₁, h₂⟩ := List.pairwise_cons.1 h
    unfold put
    split
    case h_1 hlt =>
      refine List.pairwise_cons.2 ⟨fun e he => ?_, h⟩
      rcases List.mem_cons.1 he with rfl | he
      · exact hlt
      · exact Std.TransCmp.lt_trans hlt (h₁ e he)
    case h_2 heq =>
      exact List.pairwise_cons.2
        ⟨fun e he => Std.TransCmp.lt_of_eq_of_lt heq (h₁ e he), h₂⟩
    case h_3 hgt =>
      refine List.pairwise_cons.2 ⟨fun e he => ?_, pairwise_put k v h₂⟩
      rcases mem_put he with rfl | he
      · exact Std.OrientedCmp.lt_of_gt hgt
      · exact h₁ e he

def insert [Std.TransOrd κ] (m : SortedMap κ α) (k : κ) (v : α) : SortedMap κ α :=
  ⟨put k v m.entries, pairwise_put k v m.ascending⟩

/-- The map of a list of entries; of two entries with one key the later counts. -/
def ofList [Std.TransOrd κ] (l : List (κ × α)) : SortedMap κ α :=
  l.foldl (fun m e => m.insert e.1 e.2) empty

@[simp] theorem get?_empty (k : κ) : (empty : SortedMap κ α).get? k = none := rfl

section Lookup

variable [Std.TransOrd κ] [Std.LawfulEqOrd κ]

theorem find?_put (k k' : κ) (v : α) : ∀ l : List (κ × α),
    ((put k v l).find? fun e => compare e.1 k' == .eq) =
      if compare k k' == .eq then some (k, v) else l.find? fun e => compare e.1 k' == .eq
  | [] => by by_cases h : k = k' <;> simp [h]
  | (k₁, v₁) :: rest => by
    unfold put
    split
    case h_1 => by_cases h : k = k' <;> simp [h]
    case h_2 heq =>
      obtain rfl := Std.LawfulEqCmp.eq_of_compare heq
      by_cases h : k = k' <;> simp [h]
    case h_3 hgt =>
      have hne : (compare k₁ k == .eq) = false := by
        have hs : compare k₁ k = (compare k k₁).swap := Std.OrientedCmp.eq_swap
        rw [hs, hgt]; rfl
      rw [List.find?_cons, find?_put k k' v rest, List.find?_cons]
      by_cases h : k = k'
      · subst h; simp [hne]
      · simp [h]

@[simp] theorem get?_insert_self (m : SortedMap κ α) (k : κ) (v : α) :
    (m.insert k v).get? k = some v := by
  simp [get?, insert, find?_put]

theorem get?_insert_of_ne (m : SortedMap κ α) {k k' : κ} (v : α) (h : k ≠ k') :
    (m.insert k v).get? k' = m.get? k' := by
  simp [get?, insert, find?_put, h]

end Lookup

end SortedMap

end Chronicle
