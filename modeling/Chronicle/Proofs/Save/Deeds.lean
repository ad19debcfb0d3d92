import Chronicle.Proofs.Save.Contents
import Chronicle.Proofs.Save.Roster

/-!
# What a batch does, one deed after the other

With a sound store and entities that passed their checks, a batch that goes well is a sequence of deeds
whose effects are known in full: an event is written over its row or into a new one, a catalogue too, and
catalogues gain and lose members and get their attributes.
-/
namespace Chronicle

/-- What is done, to which row. -/
inductive Deed
  | overwrite (e : Event) (id : RowId)
  | insert (e : Event) (id : RowId)
  | catalogue (c : Catalogue) (id : RowId)
  | members (id : RowId)
  | attributes (id : RowId)

namespace Deed

/-- Whether all that is written is on a roster. -/
def On (r : Roster) : Deed → Prop
  | overwrite e _ => e.On r
  | insert e _ => e.On r
  | catalogue c _ => r c.link = some .catalogue
  | members _ => True
  | attributes _ => True

/-- What saving an event comes to. -/
def OfEvent (e : Event) (id : RowId) (d : Deed) : Prop := d = overwrite e id ∨ d = insert e id

/-- What saving a catalogue in a row comes to, when these are its additions that are not cancelled: the
new ones are written, and no other events. -/
def OfCatalogue (adds : Event → Prop) (c : Catalogue) (id : RowId) : Deed → Prop
  | overwrite _ _ => False
  | insert e _ => adds e
  | catalogue c' row => c' = c ∧ row = id
  | members row => row = id
  | attributes row => row = id

theorem OfCatalogue.mono {adds adds' : Event → Prop} {c : Catalogue} {id : RowId} {d : Deed}
    (hadds : ∀ e, adds e → adds' e) (h : OfCatalogue adds c id d) : OfCatalogue adds' c id d := by
  cases d with
  | insert e => exact hadds e h
  | _ => exact h

end Deed

namespace Batch

inductive Does (ls : Links) : Deed → Batch → Batch → Prop
  | overwrite {b : Batch} {e : Event} {id : RowId} {row : EventRow} (h : b.eventRow? ls e = some id)
      (hrow : b.store.events.get? id = some row)
      (hfree : Store.hasUuid (b.store.events.erase id) (.text e.uuid) = false) :
      Does ls (.overwrite e id) b { b with
        store := { b.store with events := b.store.events.insert id e.row }
        assignments := noted ls e id b.assignments }
  /-- A row that is not there is not written. -/
  | miss {b : Batch} {e : Event} {id : RowId} (h : b.eventRow? ls e = some id)
      (hrow : b.store.events.get? id = none) :
      Does ls (.overwrite e id) b { b with assignments := noted ls e id b.assignments }
  | insert {b : Batch} {e : Event} {id : RowId} (h : b.eventRow? ls e = none)
      (hid : Store.nextId b.store.lastEvent b.store.events = .ok id)
      (hfree : Store.hasUuid b.store.events (.text e.uuid) = false) :
      Does ls (.insert e id) b { b with
        store := { b.store with events := b.store.events.insert id e.row, lastEvent := id }
        events := b.events.insert e.uuid id
        assignments := (e.link, id) :: b.assignments }
  | updateCatalogue {b : Batch} {c : Catalogue} {id : RowId} (h : b.catalogueRow? ls c = some id) :
      Does ls (.catalogue c id) b { b with store := b.store.updateCatalogue id c.cells }
  | insertCatalogue {b : Batch} {c : Catalogue} {id : RowId} (h : b.catalogueRow? ls c = none)
      (hid : Store.nextId b.store.lastCatalogue b.store.catalogues = .ok id) :
      Does ls (.catalogue c id) b { b with
        store := { b.store with
          catalogues := b.store.catalogues.insert id (c.cells.over .empty .empty), lastCatalogue := id }
        catalogues := b.catalogues ++ [(c.link, id)]
        assignments := (c.link, id) :: b.assignments }
  | removeMember {b : Batch} {id : RowId} (event : RowId) :
      Does ls (.members id) b { b with store := (b.store.removeMember id event).2 }
  | addMember {b : Batch} {id event : RowId} {row : CatalogueRow}
      (hrow : b.store.catalogues.get? id = some row) (hevent : b.store.events.contains event = true) :
      Does ls (.members id) b { b with store := { b.store with
        catalogues := b.store.catalogues.insert id { row with members := row.members.insert event () } } }
  | attributes {b : Batch} {id : RowId} (a : Attributes) :
      Does ls (.attributes id) b { b with store := b.store.withTable .catalogue id (.of a) }

/-- Several deeds of a kind. -/
def Deeds (ls : Links) (q : Deed → Prop) : Batch → Batch → Prop :=
  Relation.ReflTransGen fun b b' => ∃ d, q d ∧ Does ls d b b'

namespace Deeds

variable {ls : Links} {q q' : Deed → Prop} {b b' : Batch}

theorem mono (h : Deeds ls q b b') (hq : ∀ d, q d → q' d) : Deeds ls q' b b' :=
  Relation.ReflTransGen.mono (fun _ _ ⟨d, hd, hdoes⟩ => ⟨d, hq d hd, hdoes⟩) _ _ h

/-- What every deed keeps is kept by all of them. -/
theorem preserve {P : Batch → Prop} (h : Deeds ls q b b')
    (hP : ∀ d b b', q d → Does ls d b b' → P b → P b') (hb : P b) : P b' := by
  induction h with
  | refl => exact hb
  | tail _ step ih =>
    obtain ⟨d, hd, hdoes⟩ := step
    exact hP d _ _ hd hdoes ih

end Deeds

variable {settings : Settings} {ls : Links} {b b' : Batch} {id : RowId}

/-- An event that was just written over a row gets its attributes there. -/
theorem store_of_sync {s s' : Store} {e : Event} {t : AttributeTable} (ht : t.Sound)
    (hget : s.events.get? id = some (e.cells.over t))
    (h : Store.syncAttributes settings.keyPolicy .event id e.attributes s = .ok () s') :
    s' = { s with events := s.events.insert id e.row } := by
  obtain ⟨a, ha, rfl⟩ := ht
  have hattributes : s.attributes .event id = .of a := by simp [Store.attributes, hget,
    Store.EventCells.over]
  obtain ⟨-, -, rfl⟩ := (Store.syncAttributes_eq_ok ha hattributes).1 h
  simp only [Store.withTable, Store.withAttributes, hget]
  rfl

/-- Saving an event is one deed. -/
theorem does_of_saveEvent [Regex.Library] {e : Event} (hb : b.store.Sound)
    (h : saveEvent settings ls e b = .ok id b') :
    ∃ d, d.OfEvent e id ∧ Does ls d b b' := by
  obtain ⟨b₁, s, hwrite, hsync, rfl⟩ := saveEvent_eq_ok.1 h
  rcases writeEvent_eq_ok.1 hwrite with ⟨hid, s₁, hupdate, rfl⟩ | ⟨hid, s₁, hinsert, rfl⟩
  · refine ⟨_, .inl rfl, ?_⟩
    rcases Store.updateEvent_eq_ok.1 hupdate with ⟨hrow, rfl⟩ | ⟨row, hrow, hfree, rfl⟩
    · have howner : b.store.ownerExists .event id = false := by
        simp [Store.ownerExists, SortedMap.contains, hrow]
      obtain ⟨-, rfl⟩ := Store.syncAttributes_of_not_ownerExists howner hsync
      exact .miss hid hrow
    · have hs := store_of_sync (hb.events id row hrow).attributes (SortedMap.get?_insert_self ..) hsync
      simp only [SortedMap.insert_insert_self] at hs
      subst hs
      exact .overwrite hid hrow hfree
  · refine ⟨_, .inr rfl, ?_⟩
    obtain ⟨hnext, hfree, rfl⟩ := Store.insertEvent_eq_ok.1 hinsert
    have hs := store_of_sync .empty (SortedMap.get?_insert_self ..) hsync
    simp only [SortedMap.insert_insert_self] at hs
    have hnew := (eventRow?_eq_none.1 hid).1
    subst hs
    simp only [noted, hnew, Option.isNone_none, if_true]
    exact .insert hid hnext hfree

/-- Writing a catalogue is one deed. -/
theorem does_of_writeCatalogue {c : Catalogue} (h : writeCatalogue ls c b = .ok id b') :
    Does ls (.catalogue c id) b b' := by
  rcases writeCatalogue_eq_ok.1 h with ⟨hid, rfl⟩ | ⟨hid, s, hs, rfl⟩
  · exact .updateCatalogue hid
  · obtain ⟨hnext, rfl⟩ := Store.insertCatalogue_eq_ok.1 hs
    exact .insertCatalogue hid hnext

theorem deeds_of_applyRemovals {es additions rest : List Event}
    (h : applyRemovals ls id es additions b = .ok rest b') : Deeds ls (· = .members id) b b' := by
  induction es generalizing additions b with
  | nil =>
    obtain ⟨-, rfl⟩ := pure_eq_ok.1 h
    exact .refl
  | cons e es ih =>
    rw [applyRemovals_cons] at h
    split at h
    · exact .head ⟨_, rfl, .removeMember _⟩ (ih h)
    · exact ih h

variable [Regex.Library]

theorem deeds_of_applyAdditions {es : List Event} (hb : b.store.Sound)
    (hes : ∀ e ∈ es, e.check settings = .ok ()) (h : applyAdditions settings ls id es b = .ok () b') :
    Deeds ls (fun d => (∃ e ∈ es, ∃ row, d = .insert e row) ∨ d = .members id) b b' := by
  induction es generalizing b with
  | nil =>
    obtain ⟨-, rfl⟩ := pure_eq_ok.1 h
    exact .refl
  | cons e es ih =>
    obtain ⟨event, b₁, new, s, hrow, hadd, hrest⟩ := applyAdditions_cons_eq_ok.1 h
    have hfirst : Deeds ls (fun d => (∃ e' ∈ e :: es, ∃ row, d = .insert e' row) ∨ d = .members id) b b₁ ∧
        b₁.store.Sound := by
      rcases additionRow_eq_ok.1 hrow with ⟨-, rfl⟩ | ⟨hnone, hsave⟩
      · exact ⟨.refl, hb⟩
      · obtain ⟨d, rfl | rfl, hd⟩ := does_of_saveEvent hb hsave
        · cases hd <;> simp_all
        · exact ⟨.single ⟨_, .inl ⟨e, List.mem_cons_self, event, rfl⟩, hd⟩,
            (changes_saveEvent (hes e List.mem_cons_self) hsave).sound hb⟩
    obtain ⟨hdeeds, hsound⟩ := hfirst
    have hstep : Store.Change settings (.members id) b₁.store s := .addMember event hadd
    have hafter := hsound.change hstep
    have hlater := ih (b := { b₁ with store := s }) hafter (fun x hx => hes x (List.mem_cons_of_mem _ hx)) hrest
    obtain ⟨row, hcatalogue, -, hevent, rfl⟩ := Store.addMember_eq_ok hadd
    refine hdeeds.trans (.head ⟨_, .inr rfl, .addMember hcatalogue ?_⟩ (hlater.mono fun d hd => ?_))
    · exact hevent.elim (hsound.members id row hcatalogue event) fun h => h
    · exact hd.imp_left fun ⟨x, hx, hd⟩ => ⟨x, List.mem_cons_of_mem _ hx, hd⟩

/-- The store is sound before and after the additions of a catalogue. -/
theorem sound_of_saveCatalogue_steps {c : Catalogue} {rest : List Event} {b₁ b₂ b₃ : Batch}
    (hb : b.store.Sound) (hc : c.check settings = .ok ()) (hwrite : writeCatalogue ls c b = .ok id b₁)
    (hremove : applyRemovals ls id c.removals c.additions b₁ = .ok rest b₂)
    (hadd : applyAdditions settings ls id rest b₂ = .ok () b₃) : b₂.store.Sound ∧ b₃.store.Sound := by
  obtain ⟨-, -, hadditions⟩ := Catalogue.check_eq_ok.1 hc
  have hchecked : ∀ e ∈ rest, e.check settings = .ok () :=
    fun e he => hadditions e (applyRemovals_subset hremove e he)
  have hmembers (s s') (hstep : Store.Change settings (.members id) s s') :
      ∃ p, True ∧ Store.Change settings p s s' := ⟨_, trivial, hstep⟩
  have hwritten := hb.change (change_of_writeCatalogue hc hwrite)
  have hremoved := (changes_of_moves (moves_applyRemovals ls hmembers c.removals c.additions)
    hremove).sound hwritten
  have hmoves := moves_applyAdditions (fun p _ _ _ hstep => ⟨p, trivial, hstep⟩) ls hmembers hchecked
  exact ⟨hremoved, (changes_of_moves hmoves hadd).sound hremoved⟩

theorem deeds_of_saveCatalogue {c : Catalogue} (hb : b.store.Sound) (hc : c.check settings = .ok ())
    (h : saveCatalogue settings ls c b = .ok id b') : ∃ b₁ rest b₂, writeCatalogue ls c b = .ok id b₁ ∧
      applyRemovals ls id c.removals c.additions b₁ = .ok rest b₂ ∧
        Deeds ls (Deed.OfCatalogue (· ∈ rest) c id) b₁ b' := by
  obtain ⟨b₁, rest, b₂, b₃, s, hwrite, hremove, hadd, hsync, rfl⟩ := saveCatalogue_eq_ok.1 h
  obtain ⟨-, -, hadditions⟩ := Catalogue.check_eq_ok.1 hc
  have hchecked : ∀ e ∈ rest, e.check settings = .ok () :=
    fun e he => hadditions e (applyRemovals_subset hremove e he)
  obtain ⟨hremoved, hadded⟩ := sound_of_saveCatalogue_steps hb hc hwrite hremove hadd
  obtain ⟨a, ha, hattributes⟩ := hadded.exists_attributes .catalogue id
  obtain ⟨-, -, rfl⟩ := (Store.syncAttributes_eq_ok ha hattributes).1 hsync
  have hfirst : Deeds ls (Deed.OfCatalogue (· ∈ rest) c id) b₁ b₂ :=
    (deeds_of_applyRemovals hremove).mono fun d hd => by rw [hd]; rfl
  have hsecond : Deeds ls (Deed.OfCatalogue (· ∈ rest) c id) b₂ b₃ := by
    refine (deeds_of_applyAdditions hremoved hchecked hadd).mono fun d hd => ?_
    rcases hd with ⟨e, he, row, rfl⟩ | rfl
    · exact he
    · rfl
  exact ⟨b₁, rest, b₂, hwrite, hremove,
    (hfirst.trans hsecond).tail ⟨.attributes id, rfl, .attributes c.attributes⟩⟩

end Batch

/-- What saving an entity in a row comes to. -/
def Deed.Of : Entity → RowId → Deed → Prop
  | .event e => OfEvent e
  | .catalogue c => OfCatalogue (· ∈ c.additions) c

theorem Deed.Of.on {r : Roster} {x : Entity} {id : RowId} {d : Deed} (hd : d.Of x id) (hx : x.On r) :
    d.On r := by
  cases x with
  | event e => rcases hd with rfl | rfl <;> exact hx
  | catalogue c =>
    cases d with
    | overwrite => exact hd.elim
    | insert e => exact hx.2.1 e hd
    | catalogue => exact hd.1 ▸ hx.1
    | _ => trivial

namespace Batch

variable [Regex.Library] {settings : Settings} {ls : Links} {b b' : Batch} {x : Entity} {es : List Entity}

theorem deeds_of_saveEntity (hb : b.store.Sound) (hx : x.check settings = .ok ())
    (h : saveEntity settings ls x b = .ok () b') :
    (∃ id, Deeds ls (Deed.Of x id) b b') ∧ b'.store.Sound := by
  cases x with
  | event e =>
    obtain ⟨id, h⟩ := saveEntity_event_eq_ok.1 h
    obtain ⟨d, hd, hdoes⟩ := does_of_saveEvent hb h
    exact ⟨⟨id, .single ⟨d, hd, hdoes⟩⟩, (changes_saveEvent hx h).sound hb⟩
  | catalogue c =>
    obtain ⟨id, h⟩ := saveEntity_catalogue_eq_ok.1 h
    obtain ⟨b₁, rest, b₂, hwrite, hremove, hdeeds⟩ := deeds_of_saveCatalogue hb hx h
    have hlater := hdeeds.mono fun d => Deed.OfCatalogue.mono fun e => applyRemovals_subset hremove e
    exact ⟨⟨id, hlater.head ⟨.catalogue c id, ⟨rfl, rfl⟩, does_of_writeCatalogue hwrite⟩⟩,
      sound_saveCatalogue hb hx h⟩

theorem deeds_on_of_saveEntity {r : Roster} (hb : b.store.Sound) (hx : x.check settings = .ok ())
    (hon : x.On r) (h : saveEntity settings ls x b = .ok () b') :
    Deeds ls (Deed.On r) b b' ∧ b'.store.Sound := by
  obtain ⟨⟨id, hdeeds⟩, hsound⟩ := deeds_of_saveEntity hb hx h
  exact ⟨hdeeds.mono fun _ hd => hd.on hon, hsound⟩

theorem deeds_of_forM (hb : b.store.Sound) (hes : ∀ x ∈ es, x.check settings = .ok ())
    (h : es.forM (saveEntity settings ls) b = .ok () b') :
    Deeds ls (fun d => ∃ x ∈ es, ∃ id, d.Of x id) b b' ∧ b'.store.Sound := by
  induction es generalizing b with
  | nil =>
    obtain ⟨-, rfl⟩ := pure_eq_ok.1 h
    exact ⟨.refl, hb⟩
  | cons x es ih =>
    obtain ⟨_, b₁, hx, hrest⟩ := bind_eq_ok.1 h
    obtain ⟨hcheck, hchecks⟩ := List.forall_mem_cons.1 hes
    obtain ⟨⟨id, hfirst⟩, hsound⟩ := deeds_of_saveEntity hb hcheck hx
    obtain ⟨hlater, hsound'⟩ := ih hsound hchecks hrest
    refine ⟨(hfirst.mono fun d hd => ⟨x, List.mem_cons_self, id, hd⟩).trans (hlater.mono ?_), hsound'⟩
    rintro d ⟨y, hy, hd⟩
    exact ⟨y, List.mem_cons_of_mem _ hy, hd⟩

theorem deeds_on_of_forM {r : Roster} (hb : b.store.Sound) (hes : ∀ x ∈ es, x.check settings = .ok ())
    (hon : ∀ x ∈ es, x.On r) (h : es.forM (saveEntity settings ls) b = .ok () b') :
    Deeds ls (Deed.On r) b b' ∧ b'.store.Sound := by
  obtain ⟨hdeeds, hsound⟩ := deeds_of_forM hb hes h
  exact ⟨hdeeds.mono fun _ ⟨x, hx, _, hd⟩ => hd.on (hon x hx), hsound⟩

end Batch

/-- What a save leaves can be reached. -/
theorem Store.Reachable.save [Regex.Library] {settings : Settings} {s : Store} {ls : Links}
    {es saved : List Entity} {w : World} (hs : s.Reachable)
    (h : Chronicle.save settings es ⟨s, ls⟩ = .ok saved w) :
    w.store.Reachable := by
  have hstep := Store.Step.save settings ls es s
  rw [h] at hstep
  exact hs.tail hstep

end Chronicle
