import Chronicle.Regex.Standard
import Chronicle.Sql.Standard
import Chronicle.Proofs.Predicate.Reread
import Chronicle.Proofs.Query.Found
import Chronicle.Proofs.Save.Contents

/-!
# Catalogues read back

All catalogues can be listed as long as no stored predicate nests too deep. Then a catalogue that was
saved is listed as it was saved, but for binary numbers in its predicate that are read as others.
-/
namespace Chronicle

namespace Predicate

variable {p q : Predicate} {condition : Condition}

theorem agrees_iff_keepsNumbers [Regex.Library] (h : p.compile .event = .ok condition)
    (hq : p.reread? = some q) :
    p.agrees q = true ↔ p.KeepsNumbers := by
  rw [agrees_of_reread? p hq]
  have hstorable := storable_of_compile h
  constructor
  · intro hsurvive x hx
    exact (Value.Storable.survives_iff (hstorable _ hx)).1 (hsurvive _ hx) x rfl
  · intro hkeeps v hv
    exact (hstorable v hv).survives_iff.2 fun x hx => hkeeps x (hx ▸ hv)

/-- A predicate that makes sense is read if it does not nest too deep. -/
theorem Stored.read_eq_ok [Regex.Library] (h : p.compile .event = .ok condition) {name : String}
    {o : Option Predicate} :
    (Stored.of (some p)).read name = .ok o ↔ p.nesting ≤ nestingLimit ∧ p.reread? = o := by
  obtain ⟨q, hq⟩ := Option.isSome_iff_exists.1 (isSome_reread?_of_compile h)
  rw [Stored.read_of]
  dsimp only
  rw [ofBytes?_toBytes, hq]
  by_cases hnesting : p.nesting ≤ nestingLimit
  · rw [if_pos hnesting]
    simp [hnesting]
  · rw [if_neg hnesting]
    simp [hnesting]

theorem Stored.of_eq_of_cells_eq {c d : Catalogue} (h : c.cells.predicate = d.cells.predicate) :
    Stored.of c.predicate = Stored.of d.predicate := by
  unfold Catalogue.cells at h
  cases hc : c.predicate with
  | none =>
    cases hd : d.predicate with
    | none => rfl
    | some q =>
      rw [hc, hd] at h
      cases h
  | some p =>
    cases hd : d.predicate with
    | none =>
      rw [hc, hd] at h
      cases h
    | some q =>
      rw [hc, hd] at h
      have hbytes : p.toBytes = q.toBytes := Cell.blob.inj h
      unfold Stored.of
      simp only [Option.map_some, hbytes]

end Predicate

theorem Catalogue.exists_predicate {c : Catalogue} {p : Predicate}
    (h : c.cells.predicate = .blob p.toBytes) :
    ∃ q, c.predicate = some q ∧ q.toBytes = p.toBytes := by
  unfold cells at h
  cases hc : c.predicate with
  | none =>
    rw [hc] at h
    cases h
  | some q =>
    rw [hc] at h
    exact ⟨q, rfl, Cell.blob.inj h⟩

namespace Store

/-- Whether no stored predicate nests too deep to be read. -/
def Shallow (s : Store) : Prop :=
  ∀ row p, s.predicateCell? row = some (.blob (Predicate.toBytes p)) → p.nesting ≤ Predicate.nestingLimit

variable [Regex.Library] {s : Store} {ls : Links}

theorem holds_everywhere (s : Store) :
    ∀ x ∈ s.catalogues.entries, (Condition.and []).holds (catalogueCandidate x.2) = .ok true :=
  fun _ _ => rfl

theorem Sound.recalls_of_getCatalogues [Sql.Engine] (hs : s.Sound) {cs : List Catalogue} {ls' : Links}
    (h : getCatalogues none ⟨s, ls⟩ = .ok (cs, ls')) :
    List.Forall₂ (Recalls ls') s.catalogues.entries cs := by
  have hrecalls := hs.recalls_of_cataloguesWhere (Condition.isSelectable_all .catalogue) s.holds_everywhere h
  rwa [List.filter_true] at hrecalls

/-- It takes a predicate that nests too deep to fail. -/
theorem Sound.exists_getCatalogues_iff [Sql.Engine] (hs : s.Sound) :
    (∃ cs ls', getCatalogues none ⟨s, ls⟩ = .ok (cs, ls')) ↔ s.Shallow := by
  constructor
  · rintro ⟨cs, ls', h⟩ id p hcell
    obtain ⟨row, hrow, hpredicate⟩ := Option.map_eq_some_iff.1 hcell
    obtain ⟨b, -, -, stored, hstored, hx, hread, -⟩ :=
      exists_right_of_mem (hs.recalls_of_getCatalogues h) (SortedMap.get?_eq_some_iff.1 hrow)
    dsimp only at hx
    rw [hx] at hpredicate
    obtain ⟨q, hq, hbytes⟩ := Catalogue.exists_predicate hpredicate
    obtain ⟨condition, hcompile⟩ := hstored.2 q hq
    rw [hq, Predicate.Stored.read_eq_ok hcompile] at hread
    rw [← Predicate.nesting_of_toBytes_eq hbytes]
    exact hread.1
  · intro hshallow
    refine hs.exists_cataloguesWhere (Condition.isSelectable_all .catalogue) s.holds_everywhere
      (fun x hx _ stored hstored hrow => ?_) ls
    cases hp : stored.predicate with
    | none => exact ⟨none, rfl⟩
    | some p =>
      obtain ⟨condition, hcompile⟩ := hstored.2 p hp
      refine ⟨p.reread?, (Predicate.Stored.read_eq_ok hcompile).2 ⟨hshallow x.1 p ?_, rfl⟩⟩
      rw [predicateCell?, SortedMap.get?_eq_some_iff.2 hx, hrow]
      unfold Catalogue.row Catalogue.cells
      rw [hp]
      rfl

/-- What is listed for a row is the catalogue that the row holds. -/
theorem Recalls.of_row {x : RowId × CatalogueRow} {b c : Catalogue} (h : Recalls ls x b)
    (hc : c.Storable) (hrow : { x.2 with members := .empty } = c.row .empty) :
    b.name = c.name ∧ b.author = c.author ∧ b.attributes = c.attributes.map Value.settled ∧
      (Predicate.Stored.of c.predicate).read c.name = .ok b.predicate := by
  obtain ⟨-, stored, hstored, hx, hread, hb⟩ := h
  have hsame : stored.row .empty = c.row .empty := by
    rw [hx] at hrow
    exact hrow
  have hname : stored.name = c.name := StoredText.text.inj (congrArg CatalogueRow.name hsame)
  have hauthor : stored.author = c.author := StoredText.text.inj (congrArg CatalogueRow.author hsame)
  have hattributes : AttributeTable.of stored.attributes = .of c.attributes :=
    congrArg CatalogueRow.attributes hsame
  have hsettled : stored.attributes.map Value.settled = c.attributes.map Value.settled := by
    have hread := AttributeTable.read_of hstored.1
    rw [hattributes, AttributeTable.read_of hc.1] at hread
    exact (Except.ok.inj hread).symm
  have hpredicate : Predicate.Stored.of stored.predicate = .of c.predicate :=
    Predicate.Stored.of_eq_of_cells_eq (congrArg CatalogueRow.predicate hsame)
  rw [hpredicate, hname] at hread
  refine ⟨?_, ?_, ?_, hread⟩
  · rw [hb, ← hname]
  · rw [hb, ← hauthor]
  · rw [hb, ← hsettled]

end Store

/-- Whether a catalogue is listed for a row as it was saved. -/
def ReadsBack [Regex.Library] [Sql.Engine] (w : World) (row : RowId) (c : Catalogue) : Prop :=
  ∃ cs ls, getCatalogues none w = .ok (cs, ls) ∧ ∃ b ∈ cs, ls.row? b.link = some row ∧
    b.name = c.name ∧ b.author = c.author ∧ c.attributes.agrees b.attributes = true ∧
      Option.Rel (fun p q => Predicate.agrees p q = true) c.predicate b.predicate

namespace Store

variable {s : Store} {ls : Links} {row : RowId} {c : Catalogue}

theorem rel_of_read [Regex.Library] (hc : c.Storable) {name : String} {o : Option Predicate}
    (h : (Predicate.Stored.of c.predicate).read name = .ok o) :
    Option.Rel (fun p q => Predicate.agrees p q = true) c.predicate o ↔
      ∀ p, c.predicate = some p → p.KeepsNumbers := by
  cases hp : c.predicate with
  | none =>
    rw [hp, Predicate.Stored.read_of] at h
    cases h
    exact ⟨nofun, fun _ => .none⟩
  | some p =>
    obtain ⟨condition, hcompile⟩ := hc.2 p hp
    rw [hp, Predicate.Stored.read_eq_ok hcompile] at h
    obtain ⟨-, hread⟩ := h
    obtain ⟨q, hq⟩ := Option.isSome_iff_exists.1 (Predicate.isSome_reread?_of_compile hcompile)
    rw [hq] at hread
    subst hread
    rw [Option.rel_some_some, Predicate.agrees_iff_keepsNumbers hcompile hq]
    constructor
    · rintro hkeeps _ ⟨⟩
      exact hkeeps
    · exact fun hkeeps => hkeeps p rfl

theorem row_eq_of_content? (hrow : s.content? row = none ∨ s.content? row = some (c.row .empty))
    {r : CatalogueRow} (h : s.catalogues.get? row = some r) :
    { r with members := .empty } = c.row .empty := by
  unfold content? at hrow
  rw [h] at hrow
  exact Option.some.inj (hrow.resolve_left nofun)

/-- What is listed for a row has the predicate that is read of the row. -/
theorem Sound.read_of_listed [Regex.Library] [Sql.Engine] (hs : s.Sound) (hc : c.Storable)
    (hrow : s.content? row = none ∨ s.content? row = some (c.row .empty)) {cs : List Catalogue} {ls' : Links}
    (hcs : getCatalogues none ⟨s, ls⟩ = .ok (cs, ls')) {b : Catalogue} (hb : b ∈ cs)
    (hlink : ls'.row? b.link = some row) : s.catalogues.contains row = true ∧
      (Predicate.Stored.of c.predicate).read c.name = .ok b.predicate := by
  obtain ⟨⟨id, r⟩, hx, hrecalls⟩ := exists_left_of_mem (hs.recalls_of_getCatalogues hcs) hb
  have hget := SortedMap.get?_eq_some_iff.2 hx
  obtain rfl : id = row := Option.some.inj (hrecalls.1.symm.trans hlink)
  obtain ⟨-, -, -, hread⟩ := hrecalls.of_row hc (row_eq_of_content? hrow hget)
  refine ⟨?_, hread⟩
  rw [SortedMap.contains, hget]
  rfl

theorem Sound.readsBack_iff [Regex.Library] [Sql.Engine] (hs : s.Sound) (hc : c.Storable)
    (hrow : s.content? row = none ∨ s.content? row = some (c.row .empty)) :
    ReadsBack ⟨s, ls⟩ row c ↔ s.catalogues.contains row = true ∧ s.Shallow ∧
      ∀ p, c.predicate = some p → p.KeepsNumbers := by
  constructor
  · rintro ⟨cs, ls', hcs, b, hb, hlink, -, -, -, hpredicate⟩
    obtain ⟨hthere, hread⟩ := hs.read_of_listed hc hrow hcs hb hlink
    exact ⟨hthere, hs.exists_getCatalogues_iff.1 ⟨cs, ls', hcs⟩, (rel_of_read hc hread).1 hpredicate⟩
  · rintro ⟨hthere, hshallow, hkeeps⟩
    have hlisting : ∃ cs ls', getCatalogues none ⟨s, ls⟩ = .ok (cs, ls') :=
      hs.exists_getCatalogues_iff.2 hshallow
    obtain ⟨cs, ls', hcs⟩ := hlisting
    obtain ⟨r, hget⟩ := Option.isSome_iff_exists.1 hthere
    obtain ⟨b, hb, hrecalls⟩ :=
      exists_right_of_mem (hs.recalls_of_getCatalogues hcs) (SortedMap.get?_eq_some_iff.1 hget)
    obtain ⟨hname, hauthor, hattributes, hread⟩ := hrecalls.of_row hc (row_eq_of_content? hrow hget)
    refine ⟨cs, ls', hcs, b, hb, hrecalls.1, hname, hauthor, ?_, (rel_of_read hc hread).2 hkeeps⟩
    rw [hattributes]
    exact hc.1.agrees_settled

theorem predicateCell?_of_content? {s' : Store} (h : s'.content? row = s.content? row) :
    s'.predicateCell? row = s.predicateCell? row := by
  have hcell (s : Store) : s.predicateCell? row = (s.content? row).map CatalogueRow.predicate := by
    unfold predicateCell? content?
    cases s.catalogues.get? row <;> rfl
  rw [hcell, hcell, h]

theorem predicateCell?_of_content?_eq_some (h : s.content? row = some (c.row .empty)) :
    s.predicateCell? row = some c.cells.predicate := by
  obtain ⟨r, hr, hcontent⟩ := Option.map_eq_some_iff.1 h
  rw [predicateCell?, hr, Option.map_some]
  exact congrArg (fun r => some (CatalogueRow.predicate r)) hcontent

end Store

namespace Saving

variable {x : Saving} {s : Store} {saved : List Entity} {w : World}

/-- A save after which all can still be listed, if all could be before. -/
theorem shallow_after_iff [Regex.Library] (hs : s.Sound) (hshallow : s.Shallow) : (x.after s).Shallow ↔
    ∀ row l p, lastOn? row (x.landings s) = some l → l.catalogue.predicate = some p →
      (x.after s).catalogues.contains row = true → p.nesting ≤ Predicate.nestingLimit := by
  have hkeeps := x.keeps_after hs
  constructor
  · intro hafter row l p hl hp hthere
    have hrow := hkeeps row
    rw [hl] at hrow
    refine hafter row p ?_
    rw [Store.predicateCell?_of_content?_eq_some (hrow.content?_eq_some hthere)]
    unfold Catalogue.cells
    rw [hp]
    rfl
  · intro hlast row p hcell
    have hrow := hkeeps row
    cases hl : lastOn? row (x.landings s) with
    | none =>
      rw [hl] at hrow
      rw [Store.predicateCell?_of_content? hrow] at hcell
      exact hshallow row p hcell
    | some l =>
      rw [hl] at hrow
      have hthere : (x.after s).catalogues.contains row = true := by
        obtain ⟨r, hr, -⟩ := Option.map_eq_some_iff.1 hcell
        rw [SortedMap.contains, hr]
        rfl
      rw [Store.predicateCell?_of_content?_eq_some (hrow.content?_eq_some hthere)] at hcell
      obtain ⟨q, hq, hbytes⟩ := Catalogue.exists_predicate (Option.some.inj hcell)
      rw [← Predicate.nesting_of_toBytes_eq hbytes]
      exact hlast row l q hl hq hthere

/-- What becomes of the catalogues of a save that succeeds. All catalogues can be listed just when no
stored predicate nests too deep, which is up to the predicates that were saved if it was so before. Then
the last catalogue on a row is listed as it was saved just when its row is in this store and its binary
numbers survive. -/
theorem listed_iff [Regex.Library] [Sql.Engine] (hs : s.Reachable)
    (h : save x.settings x.entities ⟨s, x.links⟩ = .ok saved w) :
    (∀ c, .catalogue c ∈ x.entities → ∃ l ∈ x.landings s, l.catalogue = c) ∧
    ((∃ cs ls, getCatalogues none w = .ok (cs, ls)) ↔ w.store.Shallow) ∧
    (s.Shallow → (w.store.Shallow ↔ ∀ row l p, lastOn? row (x.landings s) = some l →
      l.catalogue.predicate = some p → w.store.catalogues.contains row = true →
        p.nesting ≤ Predicate.nestingLimit)) ∧
    ∀ row l, lastOn? row (x.landings s) = some l →
      (ReadsBack w row l.catalogue ↔ w.store.catalogues.contains row = true ∧ w.store.Shallow ∧
        ∀ p, l.catalogue.predicate = some p → p.KeepsNumbers) := by
  have hafter := after_of_eq_ok h
  have hsound := (reachable_after hs x).sound
  rw [hafter] at hsound
  refine ⟨fun c hc => exists_landing h hc, hsound.exists_getCatalogues_iff, fun hshallow => ?_,
    fun row l hl => ?_⟩
  · rw [← hafter]
    exact shallow_after_iff hs.sound hshallow
  · have hrow := x.keeps_after hs.sound row
    rw [hl, hafter] at hrow
    exact hsound.readsBack_iff hrow.1 hrow.2

theorem shallow_empty : Store.empty.Shallow := fun _ _ h => nomatch h

/-- A catalogue that is the first to be saved. -/
def first (c : Catalogue) : Saving := ⟨.standard, ⟨1, .empty⟩, [.catalogue c]⟩

def notes : Catalogue := ⟨"notes", "alice", some (.has "score"), .empty, [], [], ⟨0⟩⟩

/-- A catalogue with a shallow predicate and without binary numbers is listed as it was saved. -/
theorem readsBack_notes : ∃ saved w, save .standard [.catalogue notes] ⟨.empty, ⟨1, .empty⟩⟩ = .ok saved w ∧
    ReadsBack w 1 notes := by
  obtain ⟨saved, w, h⟩ : ∃ saved w, save .standard [.catalogue notes] ⟨.empty, ⟨1, .empty⟩⟩ = .ok saved w :=
    ⟨_, _, rfl⟩
  have hlandings : (first notes).landings .empty = [⟨1, notes, .empty⟩] := rfl
  have hthere : w.store.catalogues.contains 1 = true := by
    have hafter : (first notes).after .empty = w.store := after_of_eq_ok h
    rw [← hafter]
    rfl
  obtain ⟨-, -, hshallow, hlisted⟩ := listed_iff (x := first notes) .refl h
  refine ⟨saved, w, h, (hlisted 1 ⟨1, notes, .empty⟩ ?_).2 ⟨hthere, (hshallow shallow_empty).2 ?_, ?_⟩⟩
  · rw [hlandings]
    rfl
  · intro row l p hl hp _
    rw [hlandings, lastOn?_singleton] at hl
    split at hl
    · cases hl
      cases hp
      decide
    · cases hl
  · rintro p ⟨⟩ x hx
    cases hx

theorem nesting_repeat_not (n : Nat) (p : Predicate) :
    (Nat.repeat Predicate.not n p).nesting = p.nesting + n := by
  induction n with
  | zero => rfl
  | succ n ih => rw [Nat.repeat, Predicate.nesting, ih, Nat.add_assoc]

/-- A catalogue with a tower of negations. -/
def towering : Catalogue :=
  ⟨"towering", "alice", some (Nat.repeat Predicate.not 127 (.has "score")), .empty, [], [], ⟨0⟩⟩

/-- A catalogue is saved, and no catalogue can be listed. -/
theorem unlisted_towering :
    ∃ saved w, save .standard [.catalogue towering] ⟨.empty, ⟨1, .empty⟩⟩ = .ok saved w ∧
      ¬ ∃ cs ls, getCatalogues none w = .ok (cs, ls) := by
  obtain ⟨saved, w, h⟩ :
      ∃ saved w, save .standard [.catalogue towering] ⟨.empty, ⟨1, .empty⟩⟩ = .ok saved w := ⟨_, _, rfl⟩
  have hafter : (first towering).after .empty = w.store := after_of_eq_ok h
  have hsound : ((first towering).after .empty).Sound := (reachable_after .refl _).sound
  have hcell : ((first towering).after .empty).predicateCell? 1 =
      some (.blob (Predicate.toBytes (Nat.repeat Predicate.not 127 (.has "score")))) := rfl
  refine ⟨saved, w, h, fun hlisting => ?_⟩
  have hdeep : ¬ (Nat.repeat Predicate.not 127 (.has "score")).nesting ≤ Predicate.nestingLimit := by
    rw [nesting_repeat_not]
    decide
  rw [hafter] at hsound hcell
  exact hdeep (hsound.exists_getCatalogues_iff.1 hlisting 1 _ hcell)

end Saving

end Chronicle
