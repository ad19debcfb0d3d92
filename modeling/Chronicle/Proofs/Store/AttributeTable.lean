import Chronicle.Proofs.Save.Checks
import Chronicle.Proofs.Timestamp.Text
import Chronicle.SortedMap.Lookup

/-!
# Tables of attributes

The table that storable attributes are kept in. It is read back as these attributes, with the negative
zero read as zero, and putting and taking away attributes does the same to both.
-/
namespace Chronicle

namespace Binary64

/-- The number that is read back: there is only one zero. -/
def settled (x : Binary64) : Binary64 := if x.pattern = 0 then .zero else x

theorem isNaN_of_isFinite {x : Binary64} (h : x.isFinite = true) : x.isNaN = false := by
  simp only [isFinite, isNaN, decide_eq_true_eq, decide_eq_false_iff_not] at *
  omega

theorem settled_of_place_eq {x y : Binary64} (h : x.place = y.place) : x.settled = y.settled := by
  unfold place at h
  unfold settled
  by_cases hx : x.pattern = 0
  · have hy : y.pattern = 0 := by
      split at h <;> split at h <;> omega
    rw [if_pos hx, if_pos hy]
  · have hy : y.pattern ≠ 0 := by
      split at h <;> split at h <;> omega
    have hpattern : x.pattern = y.pattern := by
      split at h <;> split at h <;> omega
    have hnegative : x.negative = y.negative := by
      cases hxn : x.negative <;> cases hyn : y.negative <;> simp [hxn, hyn] at h ⊢ <;> omega
    rw [if_neg hx, if_neg hy, ← ofPattern_eta x, ← ofPattern_eta y, hpattern, hnegative]

theorem place_settled (x : Binary64) : x.settled.place = x.place := by
  unfold settled
  split
  case isTrue h =>
    have hzero : zero.place = 0 := by decide
    rw [hzero, place, h]
    split <;> rfl
  case isFalse => rfl

theorem isFinite_settled {x : Binary64} (h : x.isFinite = true) : x.settled.isFinite = true := by
  unfold settled
  split
  · decide
  · exact h

end Binary64

namespace Value

/-- The value that is read back. -/
def settled : Value → Value
  | float x => float x.settled
  | v => v

theorem Storable.settled {v : Value} (h : v.Storable) : v.settled.Storable := by
  cases v with
  | float x => exact storable_float_iff.2 (Binary64.isFinite_settled (storable_float_iff.1 h))
  | _ => exact h

/-- Values that agree are read back as one. -/
theorem settled_eq_of_agrees {v w : Value} (h : v.agrees w = true) : v.settled = w.settled := by
  cases v <;> cases w <;> simp only [agrees, beq_iff_eq, Bool.false_eq_true] at h
  case float.float x y =>
    simp only [Binary64.equals, Bool.and_eq_true, decide_eq_true_eq] at h
    exact congrArg float (Binary64.settled_of_place_eq h.2)
  all_goals rw [h]

theorem settled_settled (v : Value) : v.settled.settled = v.settled := by
  cases v with
  | float x => exact congrArg float (Binary64.settled_of_place_eq (Binary64.place_settled x))
  | _ => rfl

/-- A value that was read back equals the one that was stored. -/
theorem Storable.agrees_settled {v : Value} (h : v.Storable) : v.agrees v.settled = true := by
  cases v with
  | float x =>
    have hfinite := storable_float_iff.1 h
    have hnan := Binary64.isNaN_of_isFinite hfinite
    have hnan' := Binary64.isNaN_of_isFinite (Binary64.isFinite_settled hfinite)
    change x.equals x.settled = true
    simp [Binary64.equals, hnan, hnan', Binary64.place_settled]
  | _ => exact agrees_refl_of_fault?_eq_none h

end Value

namespace AttributeRow

/-- The cell that a value is kept in. -/
theorem slot_ofValue_kind {v : Value} (h : v.Storable) :
    (ofValue v).slot v.kind = v.settled.cell := by
  rw [slot_ofValue, if_pos rfl]
  cases v with
  | float x =>
    have hnan := Binary64.isNaN_of_isFinite (Value.storable_float_iff.1 h)
    simp only [Value.kind, Value.Kind.affinity, Value.cell, Affinity.adapt, Cell.kept, hnan, if_false,
      Affinity.adaptKept, Affinity.asReal, Value.settled, Binary64.settled, Bool.false_eq_true]
    split <;> rfl
  | _ => rfl

theorem slot_ofValue_of_ne {v : Value} {k : Value.Kind} (h : v.kind ≠ k) :
    (ofValue v).slot k = .null := by
  rw [slot_ofValue, if_neg h]

theorem project_of_value? {slots : Slots} {key : String} {k : Value.Kind} {v : Value}
    (h : slots.value? key k = .ok (some v)) : slots.project key k.tag = .ok v := by
  unfold Slots.project
  rw [Value.Kind.ofTag?_tag]
  simp [h, bind, Except.bind]

theorem read_of_value? {r : AttributeRow} {key : String} {slots : Slots} {k : Value.Kind} {v : Value}
    (htag : r.tag = .text k.tag) (hslots : Slots.ofRow r = .ok slots)
    (hv : slots.value? key k = .ok (some v)) : r.read (.text key) = .ok (key, v) := by
  have hproject := project_of_value? hv
  simp [read, htag, StoredText.cell, Cell.required, Cell.text?, hslots, hproject, Error.ofStore,
    Error.ofRow, Except.mapError, bind, Except.bind]

/-- The row of a storable value is read as that value. -/
theorem read_ofValue {v : Value} (h : v.Storable) (key : String) :
    (ofValue v).read (.text key) = .ok (key, v.settled) := by
  cases v with
  | integer i => exact read_of_value? rfl rfl rfl
  | string s => exact read_of_value? rfl rfl rfl
  | boolean b => cases b <;> exact read_of_value? rfl rfl rfl
  | timestamp t =>
    have hslots : Slots.ofRow (ofValue (.timestamp t)) =
        .ok ⟨none, none, none, some t.storedText, none⟩ := rfl
    refine read_of_value? rfl hslots ?_
    simp only [Value.kind, Slots.value?, Timestamp.ofStoredText?_storedText]
    rfl
  | float x =>
    have hslot := slot_ofValue_kind h
    simp only [Value.kind, slot] at hslot
    have hslots : Slots.ofRow (ofValue (.float x)) =
        .ok ⟨none, none, none, none, some x.settled⟩ := by
      change (do
        let float ← (ofValue (.float x)).float.optional Cell.float? 6 Value.Kind.float.column
        Except.ok (⟨none, none, none, none, float⟩ : Slots)) = _
      rw [hslot]
      rfl
    exact read_of_value? rfl hslots rfl

theorem ofValue_settled {v : Value} (h : v.Storable) : ofValue v.settled = ofValue v := by
  cases v with
  | float x =>
    have hslot := slot_ofValue_kind h
    have hslot' := slot_ofValue_kind h.settled
    rw [Value.settled_settled] at hslot'
    exact congrArg (AttributeRow.mk _ .null .null .null .null) (hslot'.trans hslot.symm)
  | _ => rfl

/-- A stored value that agrees with another is stored just like it. -/
theorem ofValue_eq_of_agrees {v w : Value} (hv : v.Storable) (hw : w.Storable)
    (h : v.settled.agrees w = true) : ofValue v = ofValue w := by
  have hsettled := Value.settled_eq_of_agrees h
  rw [Value.settled_settled] at hsettled
  rw [← ofValue_settled hv, hsettled, ofValue_settled hw]

end AttributeRow

namespace Attributes

def Storable (a : Attributes) : Prop := ∀ e ∈ a.entries, e.2.Storable

theorem storable_empty : Storable .empty := by
  intro e he
  cases he

theorem Storable.agrees_settled {a : Attributes} (h : a.Storable) :
    a.agrees (a.map Value.settled) = true := by
  rw [agrees, SortedMap.keys_map, beq_self_eq_true, Bool.true_and, SortedMap.values_map,
    SortedMap.values, List.map_map, List.zip_map', List.all_map, List.all_eq_true]
  exact fun e he => (h e he).agrees_settled

end Attributes

theorem KeyPolicy.Admits.storable {p : KeyPolicy} {a : Attributes} (h : p.Admits a) : a.Storable :=
  fun e he => (h e he).2

namespace AttributeTable

def entry (e : String × Value) : StoredText × AttributeRow := (.text e.1, .ofValue e.2)

/-- The rows of attributes. -/
def of (a : Attributes) : AttributeTable :=
  ⟨a.entries.map entry, List.pairwise_map.2 (a.ascending.imp fun h => h)⟩

theorem mem_entries_of {a : Attributes} {key : StoredText} {r : AttributeRow} :
    (key, r) ∈ (of a).entries ↔ ∃ k v, (k, v) ∈ a.entries ∧ key = .text k ∧ r = .ofValue v := by
  simp only [of, entry, List.mem_map, Prod.mk.injEq, Prod.exists]
  constructor
  · rintro ⟨k, v, h, rfl, rfl⟩
    exact ⟨k, v, h, rfl, rfl⟩
  · rintro ⟨k, v, h, rfl, rfl⟩
    exact ⟨k, v, h, rfl, rfl⟩

theorem get?_of (a : Attributes) (key : String) :
    (of a).get? (.text key) = (a.get? key).map AttributeRow.ofValue := by
  refine Option.ext fun r => ?_
  rw [SortedMap.get?_eq_some_iff, mem_entries_of, Option.map_eq_some_iff]
  constructor
  · rintro ⟨k, v, h, hk, rfl⟩
    cases hk
    exact ⟨v, SortedMap.get?_eq_some_iff.2 h, rfl⟩
  · rintro ⟨v, h, rfl⟩
    exact ⟨key, v, SortedMap.get?_eq_some_iff.1 h, rfl, rfl⟩

theorem get?_of_bytes (a : Attributes) (b : Text.Utf8.Bytes) : (of a).get? (.bytes b) = none := by
  refine Option.eq_none_iff_forall_ne_some.2 fun r h => ?_
  rw [SortedMap.get?_eq_some_iff, mem_entries_of] at h
  obtain ⟨k, v, -, hk, -⟩ := h
  cases hk

theorem of_insert (a : Attributes) (key : String) (v : Value) :
    of (a.insert key v) = (of a).insert (.text key) (.ofValue v) := by
  refine SortedMap.ext_get? fun k => ?_
  cases k with
  | text k =>
    rw [get?_of]
    by_cases h : key = k
    · subst h
      simp
    · rw [SortedMap.get?_insert_of_ne _ _ h, SortedMap.get?_insert_of_ne _ _ (by simpa using h), get?_of]
  | bytes b => rw [get?_of_bytes, SortedMap.get?_insert_of_ne _ _ (by simp), get?_of_bytes]

theorem of_erase (a : Attributes) (key : String) : of (a.erase key) = (of a).erase (.text key) := by
  refine SortedMap.ext_get? fun k => ?_
  cases k with
  | text k =>
    rw [get?_of]
    by_cases h : key = k
    · subst h
      simp
    · rw [SortedMap.get?_erase_of_ne _ h, SortedMap.get?_erase_of_ne _ (by simpa using h), get?_of]
  | bytes b => rw [get?_of_bytes, SortedMap.get?_erase_of_ne _ (by simp), get?_of_bytes]

theorem readEntries_map_entry {l : List (String × Value)} (h : ∀ e ∈ l, e.2.Storable) :
    readEntries (l.map entry) = .ok (l.map fun e => (e.1, e.2.settled)) := by
  induction l with
  | nil => rfl
  | cons e l ih =>
    have hread := AttributeRow.read_ofValue (h e List.mem_cons_self) e.1
    have hrest := ih fun x hx => h x (List.mem_cons_of_mem _ hx)
    simp [readEntries, entry, hread, hrest, bind, Except.bind]

/-- The table of storable attributes is read as these attributes. -/
theorem read_of {a : Attributes} (h : a.Storable) : (of a).read = .ok (a.map Value.settled) := by
  have hentries := readEntries_map_entry h
  unfold AttributeTable.read
  rw [show (of a).entries = a.entries.map entry from rfl, hentries]
  exact congrArg Except.ok (SortedMap.ofList_entries (a.map Value.settled))

end AttributeTable

end Chronicle
