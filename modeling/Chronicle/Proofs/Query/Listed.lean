import Chronicle.Regex.Standard
import Chronicle.Proofs.Query.Found
import Chronicle.Proofs.Save.Outcome

/-!
# The events that are listed after a save

Each stored event is listed once, with the content of its row. So after a save that went well, what is
listed of a uuid is what the batch says of it: the last event that stands in the batch directly, or the
event that was stored, or the first addition that is not cancelled.
-/
namespace Chronicle

/-- An event that was read back equals the one that was stored. -/
theorem Event.Storable.agrees_settled {e : Event} (h : e.Storable) (link : Link) :
    e.agrees { e with attributes := e.attributes.map Value.settled, link } = true := by
  simp [Event.agrees, h.2.2.agrees_settled]

namespace Store

variable {s : Store} {ls : Links} {u : String}

/-- What is read from the row of an event is this event. -/
theorem RecallsEvent.eq_of_row {x : RowId × EventRow} {b e : Event} (h : RecallsEvent ls x b)
    (he : e.Storable) (hrow : x.2 = e.row) :
    b = { e with attributes := e.attributes.map Value.settled, link := b.link } := by
  obtain ⟨-, stored, hstored, hx, hb⟩ := h
  have hsame : stored.row = e.row := hx.symm.trans hrow
  have htime {t t' : Timestamp} (ht : StoredText.text t.storedText = .text t'.storedText) : t = t' :=
    Timestamp.storedText_injective (StoredText.text.inj ht)
  have huuid : stored.uuid = e.uuid := StoredText.text.inj (congrArg EventRow.uuid hsame)
  have hstart : stored.startTime = e.startTime := htime (congrArg EventRow.startTime hsame)
  have hend : stored.endTime = e.endTime := htime (congrArg EventRow.endTime hsame)
  have hauthor : stored.author = e.author := StoredText.text.inj (congrArg EventRow.author hsame)
  have hattributes : stored.attributes.map Value.settled = e.attributes.map Value.settled := by
    have hread := AttributeTable.read_of hstored.2.2
    rw [show AttributeTable.of stored.attributes = .of e.attributes from
      congrArg EventRow.attributes hsame, AttributeTable.read_of he.2.2] at hread
    exact (Except.ok.inj hread).symm
  rw [hb, huuid, hstart, hend, hauthor, hattributes]

theorem RecallsEvent.uuid_eq {x : RowId × EventRow} {b : Event} (h : RecallsEvent ls x b) :
    x.2.uuid = .text b.uuid := by
  obtain ⟨-, stored, -, hx, hb⟩ := h
  rw [hx, hb]
  rfl

/-- All events are listed, in the order of their rows. -/
theorem Sound.exists_getEvents [Regex.Library] [Sql.Engine] (hs : s.Sound) (ls : Links) : ∃ es ls',
    getEvents none ⟨s, ls⟩ = .ok (es, ls') ∧ List.Forall₂ (RecallsEvent ls') s.events.entries es := by
  have hall : ∀ x ∈ s.events.entries, (Condition.and []).holds (s.eventCandidate x.1 x.2) = .ok true :=
    fun _ _ => rfl
  obtain ⟨es, ls', hes, hrecalls⟩ := hs.exists_eventsWhere (Condition.isSelectable_all .event) hall ls
  refine ⟨es, ls', hes, ?_⟩
  rwa [List.filter_eq_self.2 fun _ _ => rfl] at hrecalls

variable {es : List Event}

/-- What is listed of a uuid is what its row says. -/
theorem Distinct.forall₂_of_uuid (hs : s.Distinct)
    (h : List.Forall₂ (RecallsEvent ls) s.events.entries es) (u : String) :
    List.Forall₂ (fun row e => ∃ x : RowId × EventRow, x.2 = row ∧ RecallsEvent ls x e)
      (s.rowOf? u).toList (es.filter fun e => e.uuid == u) := by
  have hfilter : List.Forall₂ (RecallsEvent ls) (s.events.entries.filter fun x => x.2.uuid == .text u)
      (es.filter fun e => e.uuid == u) := by
    refine List.rel_filter (fun x e hrecalls => ?_) h
    change (x.2.uuid == .text u) = true ↔ (e.uuid == u) = true
    simp [hrecalls.uuid_eq]
  rw [← hs.filter_entries u, List.forall₂_map_left_iff]
  exact hfilter.imp fun x e hrecalls => ⟨x, rfl, hrecalls⟩

theorem Distinct.exists_of_rowOf? (hs : s.Distinct)
    (h : List.Forall₂ (RecallsEvent ls) s.events.entries es) {e : Event} (he : e.Storable)
    (hrow : s.rowOf? u = some e.row) : ∃ x, es.filter (fun e => e.uuid == u) = [x] ∧
      x = { e with attributes := e.attributes.map Value.settled, link := x.link } := by
  have hlisted := hs.forall₂_of_uuid h u
  rw [hrow, Option.toList_some, List.forall₂_cons_left_iff] at hlisted
  obtain ⟨x, rest, ⟨y, hy, hrecalls⟩, hrest, hfilter⟩ := hlisted
  obtain rfl := List.forall₂_nil_left_iff.1 hrest
  exact ⟨x, hfilter, hrecalls.eq_of_row he hy⟩

theorem Distinct.filter_eq_nil (hs : s.Distinct)
    (h : List.Forall₂ (RecallsEvent ls) s.events.entries es) (hrow : s.rowOf? u = none) :
    es.filter (fun e => e.uuid == u) = [] := by
  have hlisted := hs.forall₂_of_uuid h u
  rw [hrow] at hlisted
  exact List.forall₂_nil_left_iff.1 hlisted

end Store

/-- What is listed of a uuid after a batch was saved in a world, when this was listed before. -/
structure AsSaved (w : World) (es : List Entity) (before after : List Event) (u : String) : Prop where
  /-- The last event that stands in the batch directly counts. -/
  direct : ∀ e, lastDirect? u es = some e →
    ∃ x, after.filter (fun e => e.uuid == u) = [x] ∧ e.agrees x = true
  /-- If there is none, what was stored is listed as before. -/
  kept : lastDirect? u es = none → Store.hasUuid w.store.events (.text u) = true →
    ∃ e ∈ before, ∃ x, after.filter (fun e => e.uuid == u) = [x] ∧ x = { e with link := x.link }
  /-- If there is nothing of both, the first addition counts that is not cancelled. -/
  added : lastDirect? u es = none → Store.hasUuid w.store.events (.text u) = false →
    ∀ a, firstAdded? w.links u es = some a →
      ∃ x, after.filter (fun e => e.uuid == u) = [x] ∧ a.agrees x = true
  /-- Otherwise nothing is listed. -/
  absent : lastDirect? u es = none → Store.hasUuid w.store.events (.text u) = false →
    firstAdded? w.links u es = none → after.filter (fun e => e.uuid == u) = []

theorem mem_of_lastDirect? {u : String} {es : List Entity} {e : Event} (h : lastDirect? u es = some e) :
    .event e ∈ es := by
  obtain ⟨he, -⟩ := List.mem_filter.1 (List.mem_of_getLast? h)
  obtain ⟨x, hx, hex⟩ := List.mem_flatMap.1 he
  cases x with
  | event e' => exact List.mem_singleton.1 hex ▸ hx
  | catalogue => cases hex

theorem mem_of_firstAdded? {ls : Links} {u : String} {es : List Entity} {a : Event}
    (h : firstAdded? ls u es = some a) : ∃ c, .catalogue c ∈ es ∧ a ∈ c.additions := by
  obtain ⟨x, hx, hax⟩ := List.mem_flatMap.1 (List.mem_of_find?_eq_some h)
  cases x with
  | event => cases hax
  | catalogue c => exact ⟨c, hx, (List.mem_filter.1 hax).1⟩

/-- After a save that went well the listed events are what the batch says. -/
theorem getEvents_save [Regex.Library] [Sql.Engine] {r : Roster} {settings : Settings}
    {es saved : List Entity} {w w' : World}
    (hw : w.Reachable r) (hon : ∀ x ∈ es, x.On r) (h : save settings es w = .ok saved w') :
    ∃ before ls after ls', getEvents none w = .ok (before, ls) ∧ getEvents none w' = .ok (after, ls') ∧
      ∀ u, AsSaved w es before after u := by
  obtain ⟨hs, hhome⟩ := hw.atHome
  have hs' := hs.save h
  obtain ⟨before, ls, hbefore, hrecalls⟩ := hs.sound.exists_getEvents w.links
  obtain ⟨after, ls', hafter, hrecalls'⟩ := hs'.sound.exists_getEvents w'.links
  obtain ⟨hchecks, b, hrun, -, rfl⟩ := save_eq_ok.1 h
  obtain ⟨hrow, -⟩ := Batch.rowOf?_forM (Batch.tidy_begin hs hhome) hchecks hon hrun
  refine ⟨before, ls, after, ls', hbefore, hafter, fun u => ?_⟩
  have hnone : Store.hasUuid w.store.events (.text u) = false → w.store.rowOf? u = none := fun hfree =>
    Store.rowOf?_eq_none.2 (Store.hasUuid_eq_false.1 hfree)
  have hlisted (e : Event) (he : e.Storable) (hu : b.store.rowOf? u = some e.row) :
      ∃ x, after.filter (fun e => e.uuid == u) = [x] ∧ e.agrees x = true := by
    obtain ⟨x, hx, heq⟩ := hs'.distinct.exists_of_rowOf? hrecalls' he hu
    exact ⟨x, hx, heq ▸ he.agrees_settled x.link⟩
  have hrow := hrow u
  exact {
    direct := fun e he => by
      rw [he] at hrow
      exact hlisted e (Event.storable_of_check (hchecks _ (mem_of_lastDirect? he))) hrow
    kept := fun hdirect hstored => by
      obtain ⟨row, hold⟩ := Option.ne_none_iff_exists'.1 (Store.hasUuid_iff_rowOf?.1 hstored)
      rw [hdirect, show (Batch.begin w.store).store.rowOf? u = some row from hold] at hrow
      obtain ⟨k, hget, -⟩ := hs.distinct.rowOf?_eq_some.1 hold
      obtain ⟨e, he, rfl⟩ := hs.sound.events k row hget
      obtain ⟨y, hy, hyeq⟩ := hs.distinct.exists_of_rowOf? hrecalls he hold
      obtain ⟨x, hx, hxeq⟩ := hs'.distinct.exists_of_rowOf? hrecalls' he hrow
      have hmem : y ∈ before := (List.mem_filter.1 (hy ▸ List.mem_singleton_self y)).1
      exact ⟨y, hmem, x, hx, by rw [hxeq, hyeq]⟩
    added := fun hdirect hfree a ha => by
      rw [hdirect, show (Batch.begin w.store).store.rowOf? u = none from hnone hfree, ha] at hrow
      obtain ⟨c, hc, hac⟩ := mem_of_firstAdded? ha
      obtain ⟨-, -, hadditions⟩ := Catalogue.check_eq_ok.1 (hchecks (.catalogue c) hc)
      exact hlisted a (Event.storable_of_check (hadditions a hac)) hrow
    absent := fun hdirect hfree hadded => by
      rw [hdirect, show (Batch.begin w.store).store.rowOf? u = none from hnone hfree, hadded] at hrow
      exact hs'.distinct.filter_eq_nil hrecalls' hrow }

/-- The world in which one event was saved. -/
def charted : World := left (save .standard [.event (tremor "u" 0)] ⟨.empty, .none⟩)

/-- The stored event in two versions, a catalogue that adds another in two versions and a third one that it
does not add after all. -/
def rechart : List Entity :=
  let chart : Catalogue := ⟨"chart", "carol", none, .empty,
    [tremor "v" 1, { tremor "v" 1 with author := "dave" }, tremor "w" 2], [tremor "w" 2], ⟨3⟩⟩
  [.event (tremor "u" 0), .catalogue chart, .event { tremor "u" 0 with author := "dave" }]

def recharted : World := left (save .standard rechart charted)

theorem getEvents_save_recharted :
    ∃ before ls after ls', getEvents none charted = .ok (before, ls) ∧
      getEvents none recharted = .ok (after, ls') ∧ ∀ u, AsSaved charted rechart before after u := by
  let r : Roster := fun l =>
    match l.number with
    | 0 => some (.event "u")
    | 1 => some (.event "v")
    | 2 => some (.event "w")
    | _ => some .catalogue
  have hfirst : ∀ x ∈ [Entity.event (tremor "u" 0)], x.On r := by decide
  have hreachable : charted.Reachable r := .single (.saved .standard hfirst)
  have hsave : save .standard rechart charted = .ok _ recharted := save_of_succeeds (by decide +kernel)
  exact getEvents_save hreachable (by decide) hsave

end Chronicle
