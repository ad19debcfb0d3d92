import Chronicle.Regex.Standard
import Chronicle.Sql.Standard
import Chronicle.Proofs.Query.Membership
import Chronicle.Proofs.Save.Landings

/-!
# Members that linger

Saving a catalogue with a predicate takes no members away. So members linger at a row just when the
catalogue that was written to it last has a predicate and landed on members.
-/
namespace Chronicle

/-- A catalogue with a predicate that landed on members. -/
def Landing.Strands (l : Landing) : Prop := l.catalogue.isSmart = true ∧ l.members ≠ .empty

theorem Catalogue.cells_predicate_ne_null {c : Catalogue} :
    c.cells.predicate ≠ .null ↔ c.isSmart = true := by
  unfold cells isSmart Predicate.Stored.of
  cases c.predicate <;> simp

namespace Batch
open Store (Footprint)

variable [Regex.Library] {settings : Settings} {ls : Links} {b b' : Batch}

theorem predicateCell?_saveCatalogue {c : Catalogue} {id : RowId} (hc : c.check settings = .ok ())
    (h : saveCatalogue settings ls c b = .ok id b') : b'.store.predicateCell? id = none ∨
      b'.store.predicateCell? id = some c.cells.predicate := by
  obtain ⟨b₁, b₂, hwrite, hfollows, -, hsync⟩ := changes_saveCatalogue hc h
  have hsame : b'.store.predicateCell? id = b₁.store.predicateCell? id := by
    refine ((Store.changes_syncAttributes hsync).eq (f := (Store.predicateCell? · id))
      fun p s s' hp hchange => ?_).trans (hfollows.eq (f := (Store.predicateCell? · id))
        fun p s s' hp hchange => ?_)
    · exact hchange.predicateCell?_eq fun heq => by simp [heq] at hp
    · exact hchange.predicateCell?_eq fun heq => by simp [heq, Follows, Footprint.OfEvents] at hp
  rw [hsame, Store.predicateCell?]
  rcases row_writeCatalogue hwrite with hrow | ⟨t, members, hrow⟩
  · rw [hrow]
    exact .inl rfl
  · rw [hrow]
    exact .inr rfl

/-- A catalogue with a predicate leaves the members of its row alone. -/
theorem members_saveCatalogue {c : Catalogue} {id : RowId} (hc : c.check settings = .ok ())
    (h : saveCatalogue settings ls c b = .ok id b') (hsmart : c.isSmart = true) :
    b'.store.members id = b.store.members id := by
  obtain ⟨b₁, b₂, hwrite, -, hsame, hsync⟩ := changes_saveCatalogue hc h
  obtain rfl := hsame hsmart
  refine ((Store.changes_syncAttributes hsync).eq (f := (Store.members · id))
    fun p s s' hp hchange => ?_).trans ?_
  · exact hchange.members_eq fun heq => by simp [heq] at hp
  · exact (change_of_writeCatalogue hc hwrite).members_eq (by simp)

theorem lingers_saveCatalogue {c : Catalogue} {id : RowId} (hc : c.check settings = .ok ())
    (h : saveCatalogue settings ls c b = .ok id b') :
    b'.store.Lingers id ↔ (⟨id, c, b.store.members id⟩ : Landing).Strands := by
  have hcell := predicateCell?_saveCatalogue hc h
  constructor
  · rintro ⟨⟨cell, hpredicate, hne⟩, hstill⟩
    rw [hpredicate] at hcell
    obtain rfl := Option.some.inj (hcell.resolve_left nofun)
    have hsmart := Catalogue.cells_predicate_ne_null.1 hne
    rw [members_saveCatalogue hc h hsmart] at hstill
    exact ⟨hsmart, hstill⟩
  · rintro ⟨hsmart, hthere⟩
    dsimp only at hsmart hthere
    rw [← members_saveCatalogue hc h hsmart] at hthere
    refine ⟨⟨_, hcell.resolve_left fun hnone => hthere ?_, Catalogue.cells_predicate_ne_null.2 hsmart⟩,
      hthere⟩
    rw [Store.members, Option.map_eq_none_iff.1 hnone]
    rfl

end Batch

/-- Members linger at a row just as the last catalogue on it has it. -/
theorem tracks_lingers [Regex.Library] (row : RowId) :
    Tracks row fun o s => s.Lingers row ↔ ∃ l, o = some l ∧ l.Strands where
  congr h hs := by
    refine Iff.trans ?_ hs
    unfold Store.Lingers Store.predicateCell? Store.members
    rw [h]
  lands hc _ h := by
    rw [Batch.lingers_saveCatalogue hc h]
    constructor
    · exact fun hstrands => ⟨_, rfl, hstrands⟩
    · rintro ⟨l, hl, hstrands⟩
      cases hl
      exact hstrands

namespace Saving

/-- Members linger just where the last catalogue that was written has a predicate and landed on them. -/
theorem lingers_afterAll [Regex.Library] {run : List Saving} : (∀ row, ¬ (afterAll run .empty).Lingers row) ↔
    ∀ row l, lastOn? row (allLandings run .empty) = some l → ¬ l.Strands := by
  refine forall_congr' fun row => ?_
  have hempty : Store.empty.Lingers row ↔ ∃ l : Landing, none = some l ∧ l.Strands :=
    ⟨fun h => absurd rfl h.2, fun ⟨_, h, _⟩ => nomatch h⟩
  rw [tracks_afterAll (tracks_lingers row) run .empty hempty, Option.or_none]
  simp only [not_exists, not_and]

/-- After any saves, events find just the catalogues without a predicate that list them, and no
membership belongs to a catalogue with a predicate, unless such a catalogue was the last that was written
to its row and landed on members. -/
theorem foundExactly_iff [Regex.Library] [Sql.Engine] (run : List Saving) :
    ((∀ ls e event, ls.row? e.link = some event →
        (afterAll run .empty).events.contains event = true →
          FoundExactly ⟨afterAll run .empty, ls⟩ e) ↔
      ∀ row l, lastOn? row (allLandings run .empty) = some l →
        ¬ (l.catalogue.isSmart = true ∧ l.members ≠ .empty)) ∧
    ((∀ catalogue event, [.integer catalogue, .integer event] ∈
        (afterAll run .empty).tables.catalogueEvents →
          (afterAll run .empty).predicateCell? catalogue = some .null) ↔
      ∀ row l, lastOn? row (allLandings run .empty) = some l →
        ¬ (l.catalogue.isSmart = true ∧ l.members ≠ .empty)) :=
  have hsound := (reachable_afterAll run).sound
  ⟨hsound.foundExactly_iff_not_lingers.trans lingers_afterAll,
    (Store.edges_iff _).trans lingers_afterAll⟩

def meeting : Event :=
  ⟨⟨⟨2021, 3, 4, 9, 0, 0, 0⟩, by decide⟩, ⟨⟨2021, 3, 4, 10, 0, 0, 0⟩, by decide⟩, "alice", "u", .empty, ⟨0⟩⟩

/-- The links after the event and its catalogue were saved. -/
def stored : Links := ⟨2, (SortedMap.empty.insert 0 1).insert 1 1⟩

/-- A catalogue is saved with an event, and then again with a predicate. -/
def stranding : List Saving :=
  let shocks : Catalogue := ⟨"shocks", "alice", none, .empty, [meeting], [], ⟨1⟩⟩
  [⟨.standard, ⟨2, .empty⟩, [.catalogue shocks]⟩,
    ⟨.standard, stored,
      [.catalogue { shocks with predicate := some (.has "score"), additions := [] }]⟩]

/-- The event finds the catalogue although this has a predicate. -/
theorem not_foundExactly_stranding : stored.row? meeting.link = some 1 ∧
    (afterAll stranding .empty).events.contains 1 = true ∧
      ¬ FoundExactly ⟨afterAll stranding .empty, stored⟩ meeting := by
  have hcell : (afterAll stranding .empty).predicateCell? 1 =
      some (.blob (Predicate.toBytes (.has "score"))) := rfl
  have hmember : ((afterAll stranding .empty).members 1).contains 1 = true := rfl
  have hlingers : (afterAll stranding .empty).Lingers 1 := by
    refine ⟨⟨_, hcell, nofun⟩, fun hempty => ?_⟩
    rw [hempty] at hmember
    cases hmember
  exact ⟨rfl, rfl, (reachable_afterAll stranding).sound.not_foundExactly hlingers hmember rfl⟩

end Saving

end Chronicle
