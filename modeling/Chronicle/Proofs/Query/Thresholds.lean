import Chronicle.Regex.Standard
import Chronicle.Proofs.Predicate.Thresholds
import Chronicle.Proofs.Query.ReadBack

/-!
# Thresholds of reloaded catalogues

A catalogue that is evaluated by a predicate is listed with the thresholds that are read of their numerals.
When all of them are recovered the listed catalogue finds the events that the saved one found.
-/
namespace Chronicle

/-- A catalogue is listed for a row that a save wrote another one to, as the last. -/
def Saving.Relists [Regex.Library] [Sql.Engine] (x : Saving) (s : Store) (w : World) (c b : Catalogue) : Prop :=
  ∃ row l cs ls, lastOn? row (x.landings s) = some l ∧ l.catalogue = c ∧
    getCatalogues none w = .ok (cs, ls) ∧ b ∈ cs ∧ ls.row? b.link = some row

/-- The predicate of a catalogue alone decides which events are found. -/
theorem getEvents_congr [Regex.Library] [Sql.Engine] {b c : Catalogue} {p : Predicate}
    (hb : b.predicate = some p) (hc : c.predicate = some p) (w : World) :
    getEvents (some (.catalogue b)) w = getEvents (some (.catalogue c)) w := by
  have hcondition {c : Catalogue} (h : c.predicate = some p) :
      eventCondition w.links (some (.catalogue c)) = p.compile .event := by
    unfold eventCondition
    dsimp only
    rw [h]
  unfold getEvents
  rw [hcondition hb, hcondition hc]

theorem Saving.Relists.predicate_eq [Regex.Library] [Sql.Engine] {x : Saving} {s : Store}
    {saved : List Entity} {w : World} {c b : Catalogue} {p : Predicate} (h : x.Relists s w c b) (hs : s.Reachable)
    (hsave : save x.settings x.entities ⟨s, x.links⟩ = .ok saved w) (hp : c.predicate = some p) :
    p.Finite ∧ b.predicate = some (p.mapFloats .reread) := by
  obtain ⟨row, l, cs, ls, hl, rfl, hcs, hb, hlink⟩ := h
  have hafter := after_of_eq_ok hsave
  have hsound := (reachable_after hs x).sound
  have hrow := x.keeps_after hs.sound row
  rw [hafter] at hsound
  rw [hl, hafter] at hrow
  have hread := (hsound.read_of_listed hrow.1 hrow.2 hcs hb hlink).2
  rw [hp] at hread
  exact Predicate.Stored.of_read_eq_ok hread

/-- A predicate that does not nest too deep is read from its bytes just when its binary numbers are finite.
Each of them is then read as a number nearby, as an equal one just when it is recovered, and so whenever
nothing but the last quotient had to be rounded. What is read agrees with the predicate just when all its
numbers are recovered. It is the predicate itself then, and a catalogue that was saved with it finds the same
events when it is listed. -/
theorem Predicate.reloaded_thresholds [Regex.Library] [Sql.Engine] (p : Predicate)
    (hnesting : p.nesting ≤ 127) :
    (∀ q, ofBytes? p.toBytes = some q ↔ p.Finite ∧ q = p.mapFloats .reread) ∧
    (∀ x, .float x ∈ p.literals → x.isFinite = true →
      x.Near x.reread ∧ (x.equals x.reread = true ↔ x.Recovered) ∧ (x.Plain → x.Recovered)) ∧
    (p.Finite →
      (p.agrees (p.mapFloats .reread) = true ↔ ∀ x, .float x ∈ p.literals → x.Recovered) ∧
      ((∀ x, .float x ∈ p.literals → x.Recovered) → p.mapFloats .reread = p)) ∧
    ∀ (s : Store) (x : Saving) (saved : List Entity) (w : World) (c b : Catalogue), s.Reachable →
      save x.settings x.entities ⟨s, x.links⟩ = .ok saved w → x.Relists s w c b → c.predicate = some p →
        b.predicate = some (p.mapFloats .reread) ∧
        ((∀ x, .float x ∈ p.literals → x.Recovered) → ∀ ls,
          getEvents (some (.catalogue b)) ⟨w.store, ls⟩ = getEvents (some (.catalogue c)) ⟨w.store, ls⟩) := by
  have hself (hfinite : p.Finite) (h : ∀ x, .float x ∈ p.literals → x.Recovered) :
      p.mapFloats .reread = p := mapFloats_eq_self hfinite h
  refine ⟨ofBytes?_toBytes_eq_some_iff hnesting, fun x _ hx => Binary64.reread_spec hx,
    fun hfinite => ⟨agrees_mapFloats_iff hfinite, hself hfinite⟩, ?_⟩
  intro s x saved w c b hs hsave hrelists hp
  obtain ⟨hfinite, hb⟩ := hrelists.predicate_eq hs hsave hp
  refine ⟨hb, fun hrecovered ls => ?_⟩
  rw [hself hfinite hrecovered] at hb
  exact getEvents_congr hb hp ⟨w.store, ls⟩

/-! ## A threshold that is kept and one that is not -/

def atLeast (threshold : Binary64) : Predicate := .comparison .ge (.attr "score") (.float threshold)

def half : Binary64 := ⟨0x3fe0000000000000⟩

/-- The number `31.245270191439438`. -/
def mark : Binary64 := ⟨0x403f3eca06faea82⟩

/-- The events with a score that is not below a threshold. -/
def marked (threshold : Binary64) : Catalogue :=
  ⟨"marked", "alice", some (atLeast threshold), .empty, [], [], ⟨1⟩⟩

/-- Such a catalogue and an event whose score is the mark. -/
def marking (threshold : Binary64) : Saving :=
  let e : Event := ⟨⟨⟨2025, 3, 20, 8, 0, 0, 0⟩, by decide⟩, ⟨⟨2025, 3, 20, 9, 0, 0, 0⟩, by decide⟩,
    "alice", "u", SortedMap.empty.insert "score" (.float mark), ⟨0⟩⟩
  ⟨.standard, ⟨2, .empty⟩, [.event e, .catalogue (marked threshold)]⟩

def afterMarking [Regex.Library] (threshold : Binary64) : World :=
  left (save .standard (marking threshold).entities ⟨.empty, ⟨2, .empty⟩⟩)

def foundUuids [Regex.Library] [Sql.Engine] (c : Catalogue) (w : World) : Option (List String) :=
  (getEvents (some (.catalogue c)) w).toOption.map fun r => r.1.map Event.uuid

def listedCatalogues [Regex.Library] [Sql.Engine] (w : World) : List Catalogue :=
  match getCatalogues none w with
  | .ok (cs, _) => cs
  | .error _ => []

/-- One half is kept, and its catalogue finds the same events when it is listed. -/
theorem reloaded_thresholds_half :
    ((atLeast half).Finite ∧ half.Recovered ∧
      Predicate.ofBytes? (atLeast half).toBytes = some (atLeast half)) ∧
    ∃ b, (marking half).Relists .empty (afterMarking half) (marked half) b ∧ ∀ ls,
      getEvents (some (.catalogue b)) ⟨(afterMarking half).store, ls⟩ =
        getEvents (some (.catalogue (marked half))) ⟨(afterMarking half).store, ls⟩ := by
  obtain ⟨saved, hsave⟩ : ∃ saved, save .standard (marking half).entities ⟨.empty, ⟨2, .empty⟩⟩ =
      .ok saved (afterMarking half) := ⟨_, rfl⟩
  have hsound : (afterMarking half).store.Sound :=
    Store.Reachable.sound (.single (.save .standard ⟨2, .empty⟩ (marking half).entities .empty))
  have hlisted : ∃ b, (marking half).Relists .empty (afterMarking half) (marked half) b := by
    obtain ⟨cs, ls, hcs⟩ : ∃ cs ls, getCatalogues none (afterMarking half) = .ok (cs, ls) := by
      have hok : (getCatalogues none (afterMarking half)).isOk = true := by decide +kernel
      cases h : getCatalogues none (afterMarking half) with
      | ok r => exact ⟨r.1, r.2, rfl⟩
      | error e =>
        rw [h] at hok
        cases hok
    obtain ⟨row, hrow⟩ : ∃ row, (1, row) ∈ (afterMarking half).store.catalogues.entries :=
      ⟨_, List.mem_singleton_self _⟩
    obtain ⟨b, hb, hrecalls⟩ := exists_right_of_mem (hsound.recalls_of_getCatalogues hcs) hrow
    exact ⟨b, 1, ⟨1, marked half, .empty⟩, cs, ls, rfl, rfl, hcs, hb, hrecalls.1⟩
  obtain ⟨b, hb⟩ := hlisted
  obtain ⟨hbytes, hnumbers, hself, hreloaded⟩ := Predicate.reloaded_thresholds (atLeast half) (by decide)
  have hliteral (x : Binary64) (hx : .float x ∈ (atLeast half).literals) : x = half :=
    Value.float.inj (List.mem_singleton.1 hx)
  have hfinite : (atLeast half).Finite := fun x hx => hliteral x hx ▸ by decide
  have hplain : half.Plain := by
    have hparts : (Json.Numeral.ofBinary64 half).parts = (5, -1) := by decide +kernel
    rw [Binary64.Plain, hparts]
    exact ⟨⟨5, 0, rfl, by decide⟩, by decide⟩
  have hhalf : half.Recovered := (hnumbers half (List.mem_singleton_self _) (by decide)).2.2 hplain
  have hrecovered (x : Binary64) (hx : .float x ∈ (atLeast half).literals) : x.Recovered :=
    hliteral x hx ▸ hhalf
  refine ⟨⟨hfinite, hhalf, (hbytes _).2 ⟨hfinite, ((hself hfinite).2 hrecovered).symm⟩⟩, b, hb, ?_⟩
  exact (hreloaded .empty (marking half) saved (afterMarking half) (marked half) b .refl hsave hb rfl).2 hrecovered

theorem not_reloaded_mark : mark.isFinite = true ∧ (atLeast mark).nesting ≤ 127 ∧
    Predicate.ofBytes? (atLeast mark).toBytes = some (atLeast ⟨0x403f3eca06faea83⟩) ∧
    (atLeast mark).agrees (atLeast ⟨0x403f3eca06faea83⟩) = false ∧
    foundUuids (marked mark) (afterMarking mark) = some ["u"] ∧
    (listedCatalogues (afterMarking mark)).map (fun b => foundUuids b (afterMarking mark)) = [some []] := by
  have hread : mark.reread = ⟨0x403f3eca06faea83⟩ := by decide +kernel
  have hfinite : (atLeast mark).Finite := by
    intro x hx
    obtain rfl : x = mark := Value.float.inj (List.mem_singleton.1 hx)
    decide
  refine ⟨by decide, by decide, ?_, by decide, by decide +kernel, by decide +kernel⟩
  refine (Predicate.ofBytes?_toBytes_eq_some_iff (by decide) _).2 ⟨hfinite, ?_⟩
  rw [← hread]
  rfl

end Chronicle
