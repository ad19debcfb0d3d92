import Chronicle.Database.Query
import Chronicle.Proofs.Work
import Mathlib.Data.List.Forall2

/-!
# Rows made entities

Of every row that is found one entity is made, and its link is a new one to that row. It takes one row
that cannot be read to fail.
-/
namespace Chronicle

section Pairs

variable {α β γ : Type} {R : α → β → Prop} {S : β → γ → Prop} {as : List α} {bs : List β}

theorem exists_left_of_mem (h : List.Forall₂ R as bs) {b : β} (hb : b ∈ bs) : ∃ a ∈ as, R a b := by
  induction h with
  | nil => cases hb
  | cons hr _ ih =>
    rcases List.mem_cons.1 hb with rfl | hb
    · exact ⟨_, List.mem_cons_self, hr⟩
    · obtain ⟨a, ha, hab⟩ := ih hb
      exact ⟨a, List.mem_cons_of_mem _ ha, hab⟩

theorem exists_right_of_mem (h : List.Forall₂ R as bs) {a : α} (ha : a ∈ as) : ∃ b ∈ bs, R a b :=
  exists_left_of_mem h.flip ha

/-- Lists that are paired with the same list are paired with one another. -/
theorem forall₂_trans {cs : List γ} (h : List.Forall₂ R as bs) (h' : List.Forall₂ S bs cs) :
    List.Forall₂ (fun a c => ∃ b, R a b ∧ S b c) as cs := by
  induction h generalizing cs with
  | nil =>
    cases h'
    exact .nil
  | cons hr _ ih =>
    cases h' with
    | cons hs hrest => exact .cons ⟨_, hr, hs⟩ (ih hrest)

end Pairs

/-- Links to which new ones were added: the others keep their rows. -/
structure Links.Extends (ls ls' : Links) (new : List Link) : Prop where
  made_le : ls.made ≤ ls'.made
  lt_made : ∀ l ∈ new, l.number < ls'.made
  kept : ∀ l : Link, l.number < ls.made → ls'.row? l = ls.row? l

namespace Store

variable {α β : Type} {id : α → RowId} {make : α → Link → Except Error β} {link : β → Link}

theorem freshTo_eq (ls : Links) (row : RowId) :
    ls.freshTo row = (⟨ls.made⟩, { ls.assign ⟨ls.made⟩ row with made := ls.made + 1 }) := rfl

/-- Links that were there before keep their rows. -/
theorem restoreEach_row?_of_lt {ls ls' : Links} {rs : List α} {bs : List β}
    (h : restoreEach id make ls rs = .ok (bs, ls')) {l : Link} (hl : l.number < ls.made) :
    ls'.row? l = ls.row? l := by
  induction rs generalizing ls bs with
  | nil =>
    cases h
    rfl
  | cons r rs ih =>
    rw [restoreEach, freshTo_eq] at h
    obtain ⟨b, -, h⟩ := except_bind_eq_ok.1 h
    obtain ⟨⟨bs', ls''⟩, hrest, h⟩ := except_bind_eq_ok.1 h
    cases h
    have hne : (⟨ls.made⟩ : Link) ≠ l := by
      rintro rfl
      exact absurd hl (Nat.lt_irrefl _)
    rw [ih hrest (Nat.lt_succ_of_lt hl)]
    exact Links.row?_assign_of_ne ls (id r) hne

theorem forall₂_of_restoreEach (hmake : ∀ r l b, make r l = .ok b → link b = l) {ls ls' : Links}
    {rs : List α} {bs : List β} (h : restoreEach id make ls rs = .ok (bs, ls')) :
    List.Forall₂ (fun r b => make r (link b) = .ok b ∧ ls'.row? (link b) = some (id r)) rs bs := by
  induction rs generalizing ls bs with
  | nil =>
    cases h
    exact .nil
  | cons r rs ih =>
    rw [restoreEach, freshTo_eq] at h
    obtain ⟨b, hb, h⟩ := except_bind_eq_ok.1 h
    obtain ⟨⟨bs', ls''⟩, hrest, h⟩ := except_bind_eq_ok.1 h
    cases h
    have hlink := hmake r _ b hb
    refine .cons ⟨hlink ▸ hb, ?_⟩ (ih hrest)
    rw [hlink, restoreEach_row?_of_lt hrest (Nat.lt_succ_self _)]
    exact Links.row?_assign_self ls _ (id r)

theorem extends_of_restoreEach (hmake : ∀ r l b, make r l = .ok b → link b = l) {ls ls' : Links}
    {rs : List α} {bs : List β} (h : restoreEach id make ls rs = .ok (bs, ls')) :
    ls.Extends ls' (bs.map link) := by
  induction rs generalizing ls bs with
  | nil =>
    cases h
    exact ⟨Nat.le_refl _, nofun, fun _ _ => rfl⟩
  | cons r rs ih =>
    have hkept (l : Link) (hl : l.number < ls.made) : ls'.row? l = ls.row? l := restoreEach_row?_of_lt h hl
    rw [restoreEach, freshTo_eq] at h
    obtain ⟨b, hb, h⟩ := except_bind_eq_ok.1 h
    obtain ⟨⟨bs', ls''⟩, hrest, h⟩ := except_bind_eq_ok.1 h
    cases h
    have hextends := ih hrest
    refine ⟨Nat.le_of_succ_le hextends.made_le, ?_, hkept⟩
    intro l hl
    rcases List.mem_cons.1 hl with rfl | hl
    · rw [hmake r _ b hb]
      exact hextends.made_le
    · exact hextends.lt_made l hl

theorem exists_restoreEach (id : α → RowId) {rs : List α} (h : ∀ r ∈ rs, ∀ l, ∃ b, make r l = .ok b) (ls : Links) :
    ∃ bs ls', restoreEach id make ls rs = .ok (bs, ls') := by
  induction rs generalizing ls with
  | nil => exact ⟨[], ls, rfl⟩
  | cons r rs ih =>
    obtain ⟨b, hb⟩ := h r List.mem_cons_self ⟨ls.made⟩
    obtain ⟨bs, ls', hrest⟩ := ih (fun x hx => h x (List.mem_cons_of_mem _ hx)) (ls.freshTo (id r)).2
    refine ⟨b :: bs, ls', ?_⟩
    rw [restoreEach]
    exact except_bind_eq_ok.2 ⟨b, hb, except_bind_eq_ok.2 ⟨_, hrest, rfl⟩⟩

end Store

end Chronicle
