import Chronicle.Proofs.Save.Landings

/-!
# What a save leaves in rows

The row of a catalogue holds the catalogue that was written to it last, with all its attributes and no
others.
-/
namespace Chronicle

namespace Store

variable {s : Store}

theorem Sound.exists_attributes [Regex.Library] (hs : s.Sound) (kind : EntityKind) (id : RowId) :
    ∃ a : Attributes, a.Storable ∧ s.attributes kind id = .of a := by
  cases kind with
  | event =>
    cases hrow : s.events.get? id with
    | none => exact ⟨.empty, Attributes.storable_empty, by rw [attributes, hrow]; rfl⟩
    | some row =>
      obtain ⟨a, ha, hof⟩ := (hs.events id row hrow).attributes
      exact ⟨a, ha, by rw [attributes, hrow]; exact hof⟩
  | catalogue =>
    cases hrow : s.catalogues.get? id with
    | none => exact ⟨.empty, Attributes.storable_empty, by rw [attributes, hrow]; rfl⟩
    | some row =>
      obtain ⟨a, ha, hof⟩ := (hs.catalogues id row hrow).attributes
      exact ⟨a, ha, by rw [attributes, hrow]; exact hof⟩

theorem content?_withTable (s : Store) (id : RowId) (t : AttributeTable) :
    (s.withTable .catalogue id t).content? id =
      (s.content? id).map fun row => { row with attributes := t } := by
  unfold content? withTable withAttributes
  cases hrow : s.catalogues.get? id with
  | none =>
    dsimp only
    rw [hrow]
    rfl
  | some row =>
    dsimp only
    rw [SortedMap.get?_insert_self]
    rfl

end Store

namespace Batch
open Store (Footprint)

variable {settings : Settings} {ls : Links} {b b' : Batch}

theorem content?_saveCatalogue [Regex.Library] {c : Catalogue} {id : RowId} (hb : b.store.Sound)
    (hc : c.check settings = .ok ()) (h : saveCatalogue settings ls c b = .ok id b') :
    b'.store.content? id = none ∨ b'.store.content? id = some (c.row .empty) := by
  obtain ⟨b₁, b₂, hwrite, hfollows, -, hsync⟩ := changes_saveCatalogue hc h
  have hwritten := hb.change (change_of_writeCatalogue hc hwrite)
  obtain ⟨a, ha, hattributes⟩ := (hfollows.sound hwritten).exists_attributes .catalogue id
  obtain ⟨-, -, hstore⟩ := (Store.syncAttributes_eq_ok ha hattributes).1 hsync
  have hsame : b₂.store.content? id = b₁.store.content? id := by
    refine hfollows.eq (f := (Store.content? · id)) fun p s s' hp hchange => ?_
    exact hchange.content?_eq (fun heq => by simp [heq, Follows, Footprint.OfEvents] at hp)
      fun heq => by simp [heq, Follows, Footprint.OfEvents] at hp
  rw [hstore, Store.content?_withTable, hsame, Store.content?]
  rcases row_writeCatalogue hwrite with hrow | ⟨t, members, hrow⟩
  · rw [hrow]
    exact .inl rfl
  · rw [hrow]
    exact .inr rfl

end Batch

variable [Regex.Library]

/-- What the row of a catalogue holds: the last catalogue on it, unless this went to a row of another
store, and what it held before if there is none. -/
def Keeps (row : RowId) (before : Option CatalogueRow) (o : Option Landing) (s : Store) : Prop :=
  match o with
  | some l => l.catalogue.Storable ∧
      (s.content? row = none ∨ s.content? row = some (l.catalogue.row .empty))
  | none => s.content? row = before

theorem Keeps.content?_eq_some {row : RowId} {before : Option CatalogueRow} {l : Landing} {s : Store}
    (h : Keeps row before (some l) s) (hthere : s.catalogues.contains row = true) :
    s.content? row = some (l.catalogue.row .empty) := by
  refine h.2.resolve_left fun hnone => ?_
  rw [SortedMap.contains, Option.map_eq_none_iff.1 hnone] at hthere
  cases hthere

theorem tracks_keeps (row : RowId) (before : Option CatalogueRow) : Tracks row (Keeps row before) where
  congr h hs := by
    unfold Keeps Store.content? at *
    rw [h]
    exact hs
  lands hc hb h := ⟨Catalogue.storable_of_check hc, Batch.content?_saveCatalogue hb hc h⟩

theorem Saving.keeps_after {s : Store} (hs : s.Sound) (x : Saving) (row : RowId) :
    Keeps row (s.content? row) (lastOn? row (x.landings s)) (x.after s) := by
  obtain ⟨-, hkeeps⟩ := x.tracks_after (tracks_keeps row (s.content? row)) (o := none) hs rfl
  rwa [Option.or_none] at hkeeps

end Chronicle
