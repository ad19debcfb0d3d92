import Chronicle.Regex.Standard
import Chronicle.Proofs.Save.Hosts
import Chronicle.Proofs.Save.Twins

/-!
# Edits of copies of a catalogue

A catalogue is in one row, but copies of it have edits of their own. If neither copy removes what the other
adds, both can be saved in either order, through one handle or two, and the members come out the same: those
that there were but for the stored events that are removed, and those that are added. An event that is new to
the first copy saved may be stored when the second is, which then finds its row.
-/
namespace Chronicle

/-- Whether a stored event with a uuid is to be removed. -/
def Catalogue.Removes (ls : Links) (c : Catalogue) (u : String) : Prop :=
  ∃ x ∈ c.removals, ls.row? x.link ≠ none ∧ x.uuid = u

instance (ls : Links) (c : Catalogue) (u : String) : Decidable (c.Removes ls u) :=
  inferInstanceAs (Decidable (∃ x ∈ _, _ ∧ _))

/-- Two copies of a catalogue that is stored in a row. No event that one of them is to add has the uuid of one
that the other is to remove, and events with one uuid share their link or their row. -/
structure Copies (r : Roster) (w : World) (id : RowId) (c d : Catalogue) : Prop where
  on : c.On r
  on' : d.On r
  row : w.links.row? c.link = some id
  row' : w.links.row? d.link = some id
  apart : ∀ a ∈ c.additions, ∀ x ∈ d.removals, a.uuid ≠ x.uuid
  apart' : ∀ a ∈ d.additions, ∀ x ∈ c.removals, a.uuid ≠ x.uuid
  shares : ∀ x ∈ (c.additions ++ c.removals) ++ (d.additions ++ d.removals),
    ∀ y ∈ (c.additions ++ c.removals) ++ (d.additions ++ d.removals), x.uuid = y.uuid →
      x.link = y.link ∨ w.links.row? x.link ≠ none ∧ w.links.row? y.link = w.links.row? x.link

/-- Whether the members of a row have a uuid once the edits of two catalogues have come together. -/
def Merged (w : World) (id : RowId) (c d : Catalogue) (u : String) : Prop :=
  (w.store.HasMember id u ∧ ¬ c.Removes w.links u ∧ ¬ d.Removes w.links u) ∨
    ∃ a, (c.Adds w.links a ∨ d.Adds w.links a) ∧ a.uuid = u

section

variable {r : Roster} {settings settings' : Settings} {w w' w₁ w₂ : World} {c d : Catalogue} {id : RowId}
  {saved saved' : List Entity} {es es' : List Entity} {u : String}

theorem Copies.symm (h : Copies r w id c d) : Copies r w id d c where
  on := h.on'
  on' := h.on
  row := h.row'
  row' := h.row
  apart := h.apart'
  apart' := h.apart
  shares x hx y hy := h.shares x (List.perm_append_comm.mem_iff.1 hx) y (List.perm_append_comm.mem_iff.1 hy)

theorem Copies.on_mem (h : Copies r w id c d) : ∀ x ∈ [Entity.catalogue c], x.On r :=
  List.forall_mem_singleton.2 h.on

theorem merged_comm : Merged w id c d u ↔ Merged w id d c u := by
  unfold Merged
  simp only [and_comm (a := ¬ c.Removes w.links u), or_comm (a := c.Adds w.links _)]

/-! ## One copy is saved -/

/-- The uuids of the members once a stored catalogue is saved. -/
theorem hasMember_save [Regex.Library] (hs : w.store.Reachable) (hhome : AtHome r w) (hc : c.On r)
    (hid : w.links.row? c.link = some id) (h : save settings [.catalogue c] w = .ok saved w') (u : String) :
    w'.store.HasMember id u ↔
      (w.store.HasMember id u ∧ ¬ c.Removes w.links u) ∨ ∃ a, c.Adds w.links a ∧ a.uuid = u := by
  obtain ⟨hcheck, b, hentity, rfl, rfl⟩ := save_singleton_eq_ok.1 h
  obtain ⟨id', hsave⟩ := Batch.saveEntity_catalogue_eq_ok.1 hentity
  have htidy : Batch.Tidy r w.links (.begin w.store) := Batch.tidy_begin hs hhome
  have hrec := Batch.reconciles_saveCatalogue htidy.sound hcheck hsave
  obtain ⟨hdeeds, hsound⟩ := Batch.deeds_on_of_saveEntity (x := .catalogue c) htidy.sound hcheck hc hentity
  have hb := hdeeds.tidy (fun _ hd => hd) htidy hsound
  have hrow := hdeeds.catalogueRow?_eq_some (Batch.catalogueRow?_of_row? (b := .begin w.store) hid)
  obtain rfl := Option.some.inj (hrec.row.symm.trans hrow)
  have hkept {k : RowId} {v : StoredText} (hv : w.store.uuid? k = some v) : b.store.uuid? k = some v :=
    hdeeds.uuid?_eq_some htidy.placed hv
  have hadds := Batch.adds_begin w.store w.links c
  simp only [Store.HasMember, hrec.members, hadds, Batch.eventRow?_begin]
  constructor
  · rintro ⟨k, ⟨hmember, hremovals⟩ | ⟨a, ha, hfound⟩, hk⟩
    · obtain ⟨row, hget⟩ := Option.isSome_iff_exists.1 (hs.sound.contains_event hmember)
      have hold : w.store.uuid? k = some row.uuid := by rw [Store.uuid?, hget]; rfl
      have hu : w.store.uuid? k = some (.text u) := hold.trans ((hkept hold).symm.trans hk)
      refine .inl ⟨⟨k, hmember, hu⟩, ?_⟩
      rintro ⟨x, hx, hknown, rfl⟩
      -- the row that the link of the removed event knows has the uuid, so it is this one
      obtain ⟨k', hk'⟩ := Option.ne_none_iff_exists'.1 hknown
      obtain rfl := hs.distinct k' k _ (hhome.event x (hc.2.2 x hx) k' hk') hu
      exact hremovals x hx hk'
    · have huuid := hb.placed.event a (hc.2.1 a ha.1) k hfound
      exact .inr ⟨a, ha, StoredText.text.inj (Option.some.inj (huuid.symm.trans hk))⟩
  · rintro (⟨⟨k, hmember, hk⟩, hremoves⟩ | ⟨a, ha, rfl⟩)
    · refine ⟨k, .inl ⟨hmember, fun x hx hlink => ?_⟩, hkept hk⟩
      refine hremoves ⟨x, hx, Option.ne_none_iff_exists'.2 ⟨k, hlink⟩, ?_⟩
      have huuid := hhome.event x (hc.2.2 x hx) k hlink
      exact StoredText.text.inj (Option.some.inj (huuid.symm.trans hk))
    · obtain ⟨k, hfound⟩ := hrec.found a (hadds ▸ ha)
      exact ⟨k, .inr ⟨a, ha, hfound⟩, hb.placed.event a (hc.2.1 a ha.1) k hfound⟩

/-- Of the links that know no row only those of events with uuids that the catalogue introduces learn one. -/
theorem row?_event_of_save [Regex.Library] (hs : w.store.Sound) (hc : c.On r)
    (h : save settings [.catalogue c] w = .ok saved w') {x : Event} (hx : x.On r)
    (hfree : ¬ (Entity.catalogue c).Introduces w.links x.uuid) :
    w'.links.row? x.link = w.links.row? x.link := by
  obtain ⟨hcheck, b, hentity, rfl, rfl⟩ := save_singleton_eq_ok.1 h
  obtain ⟨id, hsave⟩ := Batch.saveEntity_catalogue_eq_ok.1 hentity
  obtain ⟨hdeeds, -⟩ := Batch.deeds_on_of_saveEntity (b := .begin w.store) (x := .catalogue c) hs hcheck hc
    hentity
  have hcoherent := hdeeds.coherent (fun _ hd => hd) (Batch.coherent_begin r w.links w.store)
  cases hold : w.links.row? x.link with
  | some k => exact hcoherent.known _ _ hold
  | none =>
    refine Option.eq_none_iff_forall_ne_some.2 fun k hk => hfree ?_
    have hmade := hcoherent.event x hx k hk
    rw [Batch.eventRow?_of_new hold] at hmade
    exact ((Batch.made_saveEntity (b := .begin w.store) (x := .catalogue c) hs hcheck hentity x.uuid).1
      (Option.ne_none_iff_exists'.2 ⟨_, hmade⟩)).resolve_left (not_not.2 rfl)

/-! ## The other copy is saved after it -/

/-- The other copy is still where it was, and so are its removals. -/
theorem Copies.row?_removals [Regex.Library] (h : Copies r w id c d) (hs : w.store.Sound)
    (hsave : save settings [.catalogue c] w = .ok saved w') {x : Event} (hx : x ∈ d.removals) :
    w'.links.row? x.link = w.links.row? x.link := by
  refine row?_event_of_save hs h.on hsave (h.on'.2.2 x hx) ?_
  rintro ⟨⟨a, ha, -, hu⟩, -⟩
  exact h.apart a ha x hx hu

theorem Copies.removes_iff [Regex.Library] (h : Copies r w id c d) (hs : w.store.Sound)
    (hsave : save settings [.catalogue c] w = .ok saved w') :
    d.Removes w'.links u ↔ d.Removes w.links u := by
  refine exists_congr fun x => and_congr_right fun hx => ?_
  rw [h.row?_removals hs hsave hx]

theorem Copies.cancels_iff [Regex.Library] (h : Copies r w id c d) (hs : w.store.Sound)
    (hsave : save settings [.catalogue c] w = .ok saved w') :
    d.Cancels w'.links u ↔ d.Cancels w.links u := by
  refine exists_congr fun x => and_congr_right fun hx => ?_
  rw [h.row?_removals hs hsave hx]

theorem row?_catalogue_of_save [Regex.Library] (hs : w.store.Sound) (hc : c.On r)
    (h : save settings [.catalogue c] w = .ok saved w') {l : Link} (hl : w.links.row? l = some id) :
    w'.links.row? l = some id := by
  obtain ⟨hcheck, b, hentity, rfl, rfl⟩ := save_singleton_eq_ok.1 h
  obtain ⟨hdeeds, -⟩ := Batch.deeds_on_of_saveEntity (b := .begin w.store) (x := .catalogue c) hs hcheck hc
    hentity
  exact (hdeeds.coherent (fun _ hd => hd) (Batch.coherent_begin r w.links w.store)).known l id hl

/-- What one copy is to add the other does not remove, so the second save loses nothing of the first. -/
theorem Copies.hasMember_iff [Regex.Library] (h : Copies r w id c d) (hw : w.Reachable r)
    (hfirst : save settings [.catalogue c] w = .ok saved w₁)
    (hsecond : save settings' [.catalogue d] w₁ = .ok saved' w₂) (u : String) :
    w₂.store.HasMember id u ↔ Merged w id c d u := by
  obtain ⟨hs, hhome⟩ := hw.atHome
  obtain ⟨hs₁, hhome₁⟩ := (hw.save h.on_mem hfirst).atHome
  have hrow := row?_catalogue_of_save hs.sound h.on hfirst h.row'
  have hadds (a : Event) : d.Adds w₁.links a ↔ d.Adds w.links a :=
    and_congr_right fun _ => not_congr (h.cancels_iff hs.sound hfirst)
  rw [hasMember_save hs₁ hhome₁ h.on' hrow hsecond, hasMember_save hs hhome h.on h.row hfirst,
    h.removes_iff hs.sound hfirst]
  simp only [hadds, Merged]
  constructor
  · rintro (⟨⟨hold, hkept⟩ | ⟨a, ha, hu⟩, hkept'⟩ | ⟨a, ha, hu⟩)
    · exact .inl ⟨hold, hkept, hkept'⟩
    · exact .inr ⟨a, .inl ha, hu⟩
    · exact .inr ⟨a, .inr ha, hu⟩
  · rintro (⟨hold, hkept, hkept'⟩ | ⟨a, ha | ha, hu⟩)
    · exact .inl ⟨.inl ⟨hold, hkept⟩, hkept'⟩
    · refine .inl ⟨.inr ⟨a, ha, hu⟩, ?_⟩
      rintro ⟨x, hx, -, hxu⟩
      exact h.apart a ha.1 x hx (hu.trans hxu.symm)
    · exact .inr ⟨a, ha, hu⟩

/-! ## Both orders go well, or neither -/

theorem Copies.sharesRows (h : Copies r w id c d) : c.SharesRows w.links := fun x hx y hy =>
  h.shares x (List.mem_append_left _ hx) y (List.mem_append_left _ hy)

theorem clashes_singleton {x : Entity} :
    w.Clashes [x] ↔ ∃ u, x.Introduces w.links u ∧ Store.hasUuid w.store.events (.text u) = true := by
  simp [World.Clashes]

variable [Regex.Library]

/-- A uuid that is stored after a catalogue was saved was stored before, or the catalogue has a new event with
it, whose link knows the row. -/
theorem hasUuid_save (hs : w.store.Sound) (hc : c.On r) (hshares : c.SharesRows w.links)
    (h : save settings [.catalogue c] w = .ok saved w')
    (hu : Store.hasUuid w'.store.events (.text u) = true) :
    Store.hasUuid w.store.events (.text u) = true ∨
      ∃ a ∈ c.additions, w.links.row? a.link = none ∧ a.uuid = u ∧ w'.links.row? a.link ≠ none := by
  obtain ⟨hcheck, b, hentity, rfl, rfl⟩ := save_singleton_eq_ok.1 h
  obtain ⟨id, hsave⟩ := Batch.saveEntity_catalogue_eq_ok.1 hentity
  have hlone := (Batch.reconciles_saveCatalogue (b := .begin w.store) hs hcheck hsave).lone hc hshares
  obtain ⟨k, hk⟩ := Store.hasUuid_iff.1 hu
  obtain ⟨row, hrow, huuid⟩ := Option.map_eq_some_iff.1 hk
  cases hold : w.store.events.get? k with
  | some row' =>
    refine .inl (Store.hasUuid_iff.2 ⟨k, ?_⟩)
    rw [Store.uuid?, hold, Option.map_some, ← huuid,
      Option.some.inj (hrow.symm.trans (hlone.keeps.kept k row' hold))]
  | none =>
    obtain ⟨a, ha, hnew, rfl, hlink⟩ := hlone.keeps.made k row hold hrow
    exact .inr ⟨a, ha.1, hnew, StoredText.text.inj huuid, Option.ne_none_iff_exists'.2 ⟨k, hlink⟩⟩

/-- Whether the other copy clashes with what is stored does not depend on whether the first was saved. -/
theorem Copies.clashes_iff (h : Copies r w id c d) (hw : w.Reachable r)
    (hsave : save settings [.catalogue c] w = .ok saved w') :
    w'.Clashes [.catalogue d] ↔ w.Clashes [.catalogue d] := by
  obtain ⟨hs, hhome⟩ := hw.atHome
  obtain ⟨hcheck, b, hentity, -, hw'⟩ := save_singleton_eq_ok.1 hsave
  have hrun : [Entity.catalogue c].forM (Batch.saveEntity settings w.links) (.begin w.store) = .ok () b := by
    simpa using hentity
  have hfree := not_clashes_of_forM hs hhome (List.forall_mem_singleton.2 hcheck) h.on_mem
    hrun
  rw [clashes_singleton] at hfree
  rw [clashes_singleton, clashes_singleton]
  refine exists_congr fun u => ?_
  constructor
  · rintro ⟨⟨⟨a, ha, hnew, rfl⟩, hkept⟩, htaken⟩
    have hnew' : w.links.row? a.link = none := by
      refine Option.eq_none_iff_forall_ne_some.2 fun k hk => ?_
      cases hnew.symm.trans (row?_catalogue_of_save hs.sound h.on hsave hk)
    refine ⟨⟨⟨a, ha, hnew', rfl⟩, fun hcancels => hkept ((h.cancels_iff hs.sound hsave).2 hcancels)⟩, ?_⟩
    refine (hasUuid_save hs.sound h.on h.sharesRows hsave htaken).resolve_right ?_
    -- a new event of the first copy with this uuid shares the link, which has come to know the row
    rintro ⟨a', ha', hnew'', hu, hknown⟩
    have hmem : a ∈ (c.additions ++ c.removals) ++ (d.additions ++ d.removals) := by simp [ha]
    have hmem' : a' ∈ (c.additions ++ c.removals) ++ (d.additions ++ d.removals) := by simp [ha']
    rcases h.shares a hmem a' hmem' hu.symm with hlink | ⟨hold, -⟩
    · exact hknown (hlink ▸ hnew)
    · exact hold hnew'
  · rintro ⟨⟨⟨a, ha, hnew, rfl⟩, hkept⟩, htaken⟩
    have hsame : w'.links.row? a.link = w.links.row? a.link :=
      row?_event_of_save hs.sound h.on hsave (h.on'.2.1 a ha) fun hintroduces =>
        hfree ⟨a.uuid, hintroduces, htaken⟩
    refine ⟨⟨⟨a, ha, hsame.trans hnew, rfl⟩, fun hcancels => hkept ((h.cancels_iff hs.sound hsave).1 hcancels)⟩,
      ?_⟩
    obtain ⟨k, hk⟩ := Store.hasUuid_iff.1 htaken
    obtain ⟨hdeeds, -⟩ := Batch.deeds_on_of_saveEntity (b := .begin w.store) (x := .catalogue c) hs.sound
      hcheck h.on hentity
    refine Store.hasUuid_iff.2 ⟨k, ?_⟩
    rw [hw']
    exact hdeeds.uuid?_eq_some (Batch.placed_begin hhome) hk

/-- Where there are ids for two batches there are ids for the second once the first is saved. -/
theorem fits_of_save (hs : w.store.Reachable) (hhome : AtHome r w) (hon : ∀ x ∈ es, x.On r)
    (hfits : w.store.Fits (es ++ es')) (h : save settings es w = .ok saved w') : w'.store.Fits es' := by
  obtain ⟨hchecks, b, hrun, -, rfl⟩ := save_eq_ok.1 h
  obtain ⟨hevents, hcatalogues⟩ := hfits
  rw [List.flatMap_append, List.length_append] at hevents
  rw [List.length_append] at hcatalogues
  have hbegin : Batch.Fit r w.links w.store ((es'.flatMap Entity.written).length +
      (es.flatMap Entity.written).length) (es'.length + es.length) (.begin w.store) :=
    Batch.fit_begin hs hhome (by omega) (by omega)
  have hadvances := Batch.advances_forM hbegin hchecks hon
  rw [hrun] at hadvances
  exact ⟨hadvances.room.events, hadvances.room.catalogues⟩

/-- One copy can be saved after the other just if each could be saved alone. -/
theorem Copies.exists_save_iff (h : Copies r w id c d) (hw : w.Reachable r)
    (hfits : w.store.Fits [.catalogue c, .catalogue d]) :
    (∃ saved w₁, save settings [.catalogue c] w = .ok saved w₁ ∧
      ∃ saved' w₂, save settings' [.catalogue d] w₁ = .ok saved' w₂) ↔
    (c.check settings = .ok () ∧ ¬ w.Clashes [.catalogue c]) ∧
      d.check settings' = .ok () ∧ ¬ w.Clashes [.catalogue d] := by
  obtain ⟨hs, hhome⟩ := hw.atHome
  have hfits' : w.store.Fits [.catalogue c] := by
    obtain ⟨hevents, hcatalogues⟩ := hfits
    simp only [List.flatMap_cons, List.length_append, List.flatMap_nil, List.length_cons,
      List.length_nil] at hevents hcatalogues
    exact ⟨by simp; omega, by simp; omega⟩
  have hfirst : (∃ saved w₁, save settings [.catalogue c] w = .ok saved w₁) ↔
      c.check settings = .ok () ∧ ¬ w.Clashes [.catalogue c] := by
    rw [exists_save_eq_ok_iff hs hhome h.on_mem hfits', List.forall_mem_singleton]
    rfl
  have hsecond {saved : List Entity} {w₁ : World} (hsave : save settings [.catalogue c] w = .ok saved w₁) :
      (∃ saved' w₂, save settings' [.catalogue d] w₁ = .ok saved' w₂) ↔
        d.check settings' = .ok () ∧ ¬ w.Clashes [.catalogue d] := by
    obtain ⟨hs₁, hhome₁⟩ := (hw.save h.on_mem hsave).atHome
    have hfits₁ : w₁.store.Fits [.catalogue d] := fits_of_save hs hhome h.on_mem hfits hsave
    rw [exists_save_eq_ok_iff hs₁ hhome₁ h.symm.on_mem hfits₁, h.clashes_iff hw hsave,
      List.forall_mem_singleton]
    rfl
  constructor
  · rintro ⟨saved, w₁, hsave, hlater⟩
    exact ⟨hfirst.1 ⟨saved, w₁, hsave⟩, (hsecond hsave).1 hlater⟩
  · rintro ⟨hvalid, hvalid'⟩
    obtain ⟨saved, w₁, hsave⟩ := hfirst.2 hvalid
    exact ⟨saved, w₁, hsave, (hsecond hsave).2 hvalid'⟩

end

/-! ## Through one handle or two -/

namespace Host

/-- The store of the database with a name. -/
def storeOf? (h : Host) (name : String) : Option Store := (h.handles.get? name).map h.store

/-- What becomes of a host when two catalogues are saved one after the other, each in the database of a
name, and both saves go well. -/
def SavedInTurn [Regex.Library] (h : Host) (n : String) (c : Catalogue) (m : String) (d : Catalogue)
    (h' : Host) : Prop :=
  ∃ saved saved' h₁, h.savedIn n [.catalogue c] = (.ok saved, h₁) ∧
    h₁.savedIn m [.catalogue d] = (.ok saved', h')

variable {h h' : Host} {n m : String} {x y : Handle} {c d : Catalogue} {es saved : List Entity} {w : World}

namespace Share

variable [Regex.Library]

/-- What is saved in one of the databases is in the other. -/
theorem savedIn_of_save (hshare : h.Share n m x y) (hsave : save x.settings es (h.world x) = .ok saved w) :
    ∃ h₁ x' y', h.savedIn n es = (.ok saved, h₁) ∧ h₁.Share n m x' y' ∧ x'.settings = x.settings ∧
      y'.settings = y.settings ∧ h₁.world x' = w := by
  have hrun : h.savedIn n es = (.ok saved, { h.withStore n x w.store with links := w.links }) := by
    simp only [savedIn, hshare.first, within]
    rw [show save x.settings es ⟨h.store x, h.links⟩ = .ok saved w from hsave]
  rcases hshare.same with rfl | ⟨path, hx, hy⟩
  · obtain rfl := Option.some.inj (hshare.first.symm.trans hshare.second)
    obtain ⟨x', hx', hsettings, hstore⟩ := withStore_eq hshare.first w.store
    refine ⟨_, x', x', hrun, ⟨hx', hx', .inl rfl⟩, hsettings, hsettings, ?_⟩
    exact congrArg (World.mk · w.links) hstore
  · refine ⟨_, x, y, hrun, ⟨?_, ?_, .inr ⟨path, hx, hy⟩⟩, rfl, rfl, ?_⟩
    · simpa [withStore, hx] using hshare.first
    · simpa [withStore, hx] using hshare.second
    · simp [world, Host.store, withStore, hx]

theorem save_of_savedIn (hshare : h.Share n m x y) (hsaved : h.savedIn n es = (.ok saved, h')) :
    ∃ w, save x.settings es (h.world x) = .ok saved w := by
  simp only [savedIn, hshare.first] at hsaved
  obtain ⟨w, hw, -⟩ := within_eq_ok hsaved
  exact ⟨w, hw⟩

theorem exists_savedInTurn_iff (hshare : h.Share n m x y) : (∃ h', h.SavedInTurn n c m d h') ↔
    ∃ saved w₁, save x.settings [.catalogue c] (h.world x) = .ok saved w₁ ∧
      ∃ saved' w₂, save y.settings [.catalogue d] w₁ = .ok saved' w₂ := by
  constructor
  · rintro ⟨h', saved, saved', h₁, hfirst, hsecond⟩
    obtain ⟨w₁, hsave⟩ := hshare.save_of_savedIn hfirst
    obtain ⟨h₁', x', y', hrun, hshare', -, hsettings, rfl⟩ := hshare.savedIn_of_save hsave
    obtain rfl := (Prod.mk.inj (hfirst.symm.trans hrun)).2
    obtain ⟨w₂, hsave'⟩ := hshare'.symm.save_of_savedIn hsecond
    rw [hsettings, hshare'.world_eq] at hsave'
    exact ⟨saved, _, hsave, saved', w₂, hsave'⟩
  · rintro ⟨saved, w₁, hsave, saved', w₂, hsave'⟩
    obtain ⟨h₁, x', y', hrun, hshare', -, hsettings, rfl⟩ := hshare.savedIn_of_save hsave
    rw [← hsettings, ← hshare'.world_eq] at hsave'
    obtain ⟨h₂, -, -, hrun', -⟩ := hshare'.symm.savedIn_of_save hsave'
    exact ⟨h₂, saved, saved', h₁, hrun, hrun'⟩

/-- After both saves both databases have the store that the second save has left. -/
theorem of_savedInTurn (hshare : h.Share n m x y) (hturn : h.SavedInTurn n c m d h') :
    ∃ saved saved' w₁ w₂, save x.settings [.catalogue c] (h.world x) = .ok saved w₁ ∧
      save y.settings [.catalogue d] w₁ = .ok saved' w₂ ∧
        h'.storeOf? n = some w₂.store ∧ h'.storeOf? m = some w₂.store := by
  obtain ⟨saved, saved', h₁, hfirst, hsecond⟩ := hturn
  obtain ⟨w₁, hsave⟩ := hshare.save_of_savedIn hfirst
  obtain ⟨h₁', x', y', hrun, hshare', -, hsettings, rfl⟩ := hshare.savedIn_of_save hsave
  obtain rfl := (Prod.mk.inj (hfirst.symm.trans hrun)).2
  obtain ⟨w₂, hsave'⟩ := hshare'.symm.save_of_savedIn hsecond
  obtain ⟨h₂, y'', x'', hrun', hlast, -, -, hworld⟩ := hshare'.symm.savedIn_of_save hsave'
  obtain rfl := (Prod.mk.inj (hsecond.symm.trans hrun')).2
  rw [hsettings, hshare'.world_eq] at hsave'
  refine ⟨saved, saved', _, w₂, hsave, hsave', ?_, ?_⟩
  · rw [storeOf?, hlast.second, ← hworld, ← hlast.world_eq]
    rfl
  · rw [storeOf?, hlast.first, ← hworld]
    rfl

end Share

/-- Two copies of a stored catalogue with edits that do not undo one another are saved, each in one of two
databases over one store. Whichever is saved first, the uuids of the members are those of the edits come
together, and one order goes well if the other does. -/
theorem hasMember_savedInTurn [Regex.Library] {r : Roster} {id : RowId} (hshare : h.Share n m x y)
    (hw : (h.world x).Reachable r) (hcopies : Copies r (h.world x) id c d) :
    (∀ h', h.SavedInTurn n c m d h' ∨ h.SavedInTurn m d n c h' → ∃ s, h'.storeOf? n = some s ∧
      h'.storeOf? m = some s ∧ ∀ u, s.HasMember id u ↔ Merged (h.world x) id c d u) ∧
    ((h.store x).Fits [.catalogue c, .catalogue d] →
      ((∃ h', h.SavedInTurn n c m d h') ↔ ∃ h', h.SavedInTurn m d n c h')) := by
  have hworld := hshare.world_eq
  have hcopies' : Copies r (h.world y) id d c := hworld ▸ hcopies.symm
  constructor
  · rintro h' (hturn | hturn)
    · obtain ⟨saved, saved', w₁, w₂, hfirst, hsecond, hn, hm⟩ := hshare.of_savedInTurn hturn
      exact ⟨w₂.store, hn, hm, fun u => hcopies.hasMember_iff hw hfirst hsecond u⟩
    · obtain ⟨saved, saved', w₁, w₂, hfirst, hsecond, hm, hn⟩ := hshare.symm.of_savedInTurn hturn
      refine ⟨w₂.store, hn, hm, fun u => ?_⟩
      rw [hcopies'.hasMember_iff (hworld ▸ hw) hfirst hsecond u, hworld, merged_comm]
  · intro hfits
    have hfits' : (h.store x).Fits [.catalogue d, .catalogue c] := by
      simpa [Store.Fits, Nat.add_comm] using hfits
    rw [hshare.exists_savedInTurn_iff, hshare.symm.exists_savedInTurn_iff, hworld,
      hcopies.exists_save_iff hw hfits, hcopies.symm.exists_save_iff hw hfits', and_comm]

theorem savedInTurn_of_isOk [Regex.Library] (hfirst : (h.savedIn n [.catalogue c]).1.isOk = true)
    (hsecond : ((h.savedIn n [.catalogue c]).2.savedIn m [.catalogue d]).1.isOk = true) :
    h.SavedInTurn n c m d ((h.savedIn n [.catalogue c]).2.savedIn m [.catalogue d]).2 := by
  cases hrun : h.savedIn n [.catalogue c] with
  | mk result h₁ =>
    rw [hrun] at hfirst hsecond
    cases hrun' : h₁.savedIn m [.catalogue d] with
    | mk result' h₂ =>
      rw [hrun'] at hsecond
      cases result with
      | error => cases hfirst
      | ok saved =>
        cases result' with
        | error => cases hsecond
        | ok saved' => exact ⟨saved, saved', h₁, hrun, hrun'⟩

def desk (anyCase : Bool) : Handle := ⟨⟨some "survey", anyCase, false⟩, .empty⟩

/-- Two handles on a file with a catalogue. It was read again into link 5, and one of its events into link 6. -/
def desks : Host :=
  ⟨["."], SortedMap.empty.insert "survey" surveyed,
    (SortedMap.empty.insert "north" (desk true)).insert "south" (desk false),
    ⟨7, (surveyedLinks.rows.insert 5 1).insert 6 1⟩⟩

/-- A copy that adds a new event. -/
def northern : Catalogue := { tremors with additions := [tremor "w" 3], removals := [tremor "v" 1] }

/-- The copy that was read, with the same new event and another one that is added and removed. -/
def southern : Catalogue :=
  { tremors with
    additions := [tremor "w" 3, tremor "x" 4, tremor "w" 3]
    removals := [tremor "u" 6, tremor "x" 4]
    link := ⟨5⟩ }

/-- The entities behind the links, those of the events that were read again included. -/
def deskRoster : Roster := fun l =>
  match l.number with
  | 0 | 6 => some (.event "u")
  | 1 => some (.event "v")
  | 3 => some (.event "w")
  | 4 => some (.event "x")
  | _ => some .catalogue

/-- The new event is made a member by whichever copy is saved first; the other then finds it stored. -/
theorem hasMember_savedInTurn_desks : ∃ h₁ h₂ s₁ s₂,
    (desks.SavedInTurn "north" northern "south" southern h₁ ∧ h₁.storeOf? "south" = some s₁) ∧
    (desks.SavedInTurn "south" southern "north" northern h₂ ∧ h₂.storeOf? "south" = some s₂) ∧
    (s₁.HasMember 1 "w" ∧ s₂.HasMember 1 "w") ∧ ¬ s₁.HasMember 1 "u" ∧ ¬ s₂.HasMember 1 "u" := by
  have hpath (anyCase : Bool) : Handle.path? (desk anyCase) = some "survey" := by cases anyCase <;> decide
  have hworld : desks.world (desk true) = ⟨surveyed, desks.links⟩ := by
    simp [Host.world, Host.store, hpath, desks]
  have hreachable : World.Reachable deskRoster (desks.world (desk true)) := by
    rw [hworld]
    have hnew : World.Reachable deskRoster ⟨.empty, ⟨5, .empty⟩⟩ :=
      .single (.of_houses fun _ he => absurd he List.not_mem_nil)
    have hon : ∀ x ∈ [Entity.catalogue tremors], x.On deskRoster := by decide
    exact (hnew.tail (.saved .standard hon)).tail (.of_houses (by decide +kernel))
  have hshare : desks.Share "north" "south" (desk true) (desk false) := by
    refine ⟨?_, SortedMap.get?_insert_self .., .inr ⟨"survey", hpath true, hpath false⟩⟩
    exact (SortedMap.get?_insert_of_ne _ _ (by decide)).trans (SortedMap.get?_insert_self ..)
  have hcopies : Copies deskRoster (desks.world (desk true)) 1 northern southern := by
    rw [hworld]
    exact ⟨by decide, by decide, by decide +kernel, by decide +kernel, by decide, by decide, by decide +kernel⟩
  obtain ⟨hmembers, hsaves⟩ := hasMember_savedInTurn hshare hreachable hcopies
  have hturn := savedInTurn_of_isOk (h := desks) (n := "north") (c := northern) (m := "south") (d := southern)
    (by decide +kernel) (by decide +kernel)
  obtain ⟨h₂, hturn'⟩ := (hsaves (by decide +kernel)).1 ⟨_, hturn⟩
  obtain ⟨s₁, -, hs₁, hmembers₁⟩ := hmembers _ (.inl hturn)
  obtain ⟨s₂, -, hs₂, hmembers₂⟩ := hmembers _ (.inr hturn')
  have hw : Merged (desks.world (desk true)) 1 northern southern "w" :=
    .inr ⟨tremor "w" 3, .inl ⟨List.mem_singleton_self _, by decide +kernel⟩, rfl⟩
  have hu : ¬ Merged (desks.world (desk true)) 1 northern southern "u" := by
    rintro (⟨-, -, hkept⟩ | ⟨a, ⟨ha, -⟩ | ⟨ha, -⟩, hau⟩)
    · exact hkept (by decide +kernel)
    · simp only [northern, List.mem_singleton] at ha
      simp [ha, tremor] at hau
    · simp only [southern, List.mem_cons, List.not_mem_nil, or_false] at ha
      rcases ha with rfl | rfl | rfl <;> simp [tremor] at hau
  exact ⟨_, h₂, s₁, s₂, ⟨hturn, hs₁⟩, ⟨hturn', hs₂⟩, ⟨(hmembers₁ "w").2 hw, (hmembers₂ "w").2 hw⟩,
    fun h => hu ((hmembers₁ "u").1 h), fun h => hu ((hmembers₂ "u").1 h)⟩

end Host

end Chronicle
