import Chronicle.Regex.Standard
import Chronicle.Proofs.Save.AllOrNothing
import Chronicle.Proofs.Save.Overwriting

/-!
# Saving in one of several databases

Links tell rows but not databases. So in a run over several databases an event may be saved where its link
knows the row of another event or a row that is not there, and the save goes well all the same.
-/
namespace Chronicle.Host

variable {h h' : Host} {name : String} {d : Handle} {s : Store}

section

variable [Regex.Library]

/-- What can happen in a run: databases are opened, also in the place of others, and closed, entities are
saved in one of them, and entities are made or read, so that any links know any rows. -/
inductive Step : Host → Host → Prop
  | opened {h h' : Host} (name : String) (settings : Settings) (hopened : h.openDatabase name settings = .ok h') :
      Step h h'
  | closed {h : Host} (name : String) : Step h { h with handles := h.handles.erase name }
  | saved {h : Host} (name : String) (d : Handle) (hd : h.handles.get? name = some d) (es : List Entity) :
      Step h (h.within name d (Chronicle.save d.settings es)).2
  | linked {h : Host} (ls : Links) : Step h { h with links := ls }

def Reachable (h : Host) : Prop := ∃ directories, Relation.ReflTransGen Step (start directories) h

/-- Whether all databases are such as saves can leave them. -/
structure Intact (h : Host) : Prop where
  files : ∀ path s, h.files.get? path = some s → s.Reachable
  own : ∀ name d, h.handles.get? name = some d → d.own.Reachable

theorem Intact.store (hh : h.Intact) (hd : h.handles.get? name = some d) : (h.store d).Reachable := by
  unfold Host.store
  cases Handle.path? d with
  | none => exact hh.own name d hd
  | some path =>
    dsimp only
    cases hs : h.files.get? path with
    | none => exact .refl
    | some s => exact hh.files path s hs

theorem Intact.handle (hh : h.Intact) (hd : d.own.Reachable) :
    Intact { h with handles := h.handles.insert name d } where
  files := hh.files
  own other d' hd' := by
    rcases SortedMap.get?_insert_eq_some.1 hd' with ⟨-, rfl⟩ | ⟨-, hd'⟩
    · exact hd
    · exact hh.own other d' hd'

theorem Intact.file (hh : h.Intact) (hs : s.Reachable) (path : String) :
    Intact { h with files := h.files.insert path s } where
  files other s' hs' := by
    rcases SortedMap.get?_insert_eq_some.1 hs' with ⟨-, rfl⟩ | ⟨-, hs'⟩
    · exact hs
    · exact hh.files other s' hs'
  own := hh.own

theorem Intact.withStore (hh : h.Intact) (hs : s.Reachable) : (h.withStore name d s).Intact := by
  unfold Host.withStore
  cases Handle.path? d with
  | none => exact hh.handle hs
  | some path => exact hh.file hs path

theorem Intact.opened (hh : h.Intact) {settings : Settings} (hopened : h.openDatabase name settings = .ok h') :
    h'.Intact := by
  have hnew : Intact { h with handles := h.handles.insert name ⟨settings, .empty⟩ } := hh.handle .refl
  unfold Host.openDatabase at hopened
  dsimp only at hopened
  split at hopened
  · cases hopened
    exact hnew
  · split at hopened
    · cases hopened
      exact hnew
    · split at hopened
      · cases hopened
        exact hnew
      · split at hopened
        · cases hopened
          exact hnew.file .refl _
        · cases hopened

end

/-- What work in a database leaves, whether it fails or not. -/
theorem within_snd {α : Type} (run : EStateM Error World α) :
    (h.within name d run).2 = { h.withStore name d (left (run ⟨h.store d, h.links⟩)).store with
      links := (left (run ⟨h.store d, h.links⟩)).links } := by
  unfold within
  cases run ⟨h.store d, h.links⟩ <;> rfl

theorem Intact.links [Regex.Library] (hh : h.Intact) (ls : Links) : Intact { h with links := ls } :=
    ⟨hh.files, hh.own⟩

theorem Intact.saved [Regex.Library] (hh : h.Intact) (hd : h.handles.get? name = some d) (es : List Entity) :
    (h.within name d (Chronicle.save d.settings es)).2.Intact := by
  rw [within_snd]
  exact (hh.withStore ((hh.store hd).tail (.save d.settings h.links es _))).links _

theorem Intact.closed [Regex.Library] (hh : h.Intact) (name : String) :
    Intact { h with handles := h.handles.erase name } where
  files := hh.files
  own other d hd := by
    by_cases hname : name = other
    · subst hname
      rw [SortedMap.get?_erase_self] at hd
      cases hd
    · rw [SortedMap.get?_erase_of_ne _ hname] at hd
      exact hh.own other d hd

theorem Reachable.intact [Regex.Library] (hh : h.Reachable) : h.Intact := by
  obtain ⟨directories, hrun⟩ := hh
  induction hrun with
  | refl => exact ⟨nofun, nofun⟩
  | tail _ step ih =>
    cases step with
    | opened name settings hopened => exact ih.opened hopened
    | closed name => exact ih.closed name
    | saved name d hd es => exact ih.saved hd es
    | linked ls => exact ih.links ls

/-- A database under its name once its store is another. -/
theorem withStore_eq (hd : h.handles.get? name = some d) (s : Store) : ∃ d',
    (h.withStore name d s).handles.get? name = some d' ∧ d'.settings = d.settings ∧
      (h.withStore name d s).store d' = s := by
  cases hp : Handle.path? d with
  | none =>
    refine ⟨{ d with own := s }, ?_, rfl, ?_⟩
    · simp [withStore, hp]
    · rw [Host.store, path?_with_own, hp]
  | some path =>
    refine ⟨d, ?_, rfl, ?_⟩
    · simpa [withStore, hp] using hd
    · simp [Host.store, withStore, hp]

/-- Databases under other names and in other files stay as they are. -/
theorem withStore_of_ne {other : String} {d₂ : Handle} (hname : name ≠ other)
    (hpath : Handle.path? d = none ∨ Handle.path? d₂ ≠ Handle.path? d) (s : Store) :
    (h.withStore name d s).handles.get? other = h.handles.get? other ∧
      (h.withStore name d s).store d₂ = h.store d₂ := by
  cases hp : Handle.path? d with
  | none => simp [withStore, Host.store, hp, SortedMap.get?_insert_of_ne _ _ hname]
  | some path =>
    have hne : Handle.path? d₂ ≠ some path := by simpa [hp] using hpath
    cases hp₂ : Handle.path? d₂ with
    | none => simp [withStore, Host.store, hp, hp₂]
    | some path₂ =>
      have hpaths : path ≠ path₂ := by
        rintro rfl
        exact hne hp₂
      simp [withStore, Host.store, hp, hp₂, SortedMap.get?_insert_of_ne _ _ hpaths]

theorem within_eq_ok {α : Type} {run : EStateM Error World α} {a : α}
    (hrun : h.within name d run = (.ok a, h')) : ∃ w, run ⟨h.store d, h.links⟩ = .ok a w ∧
      h' = { h.withStore name d w.store with links := w.links } := by
  unfold within at hrun
  cases hw : run ⟨h.store d, h.links⟩ with
  | ok b w =>
    rw [hw] at hrun
    cases hrun
    exact ⟨w, rfl, rfl⟩
  | error e w =>
    rw [hw] at hrun
    cases hrun

/-! ## Databases over one store -/

/-- What a database works on. -/
def world (h : Host) (x : Handle) : World := ⟨h.store x, h.links⟩

/-- Two databases over one store: they are one, or their handles have a file in common. -/
structure Share (h : Host) (n m : String) (x y : Handle) : Prop where
  first : h.handles.get? n = some x
  second : h.handles.get? m = some y
  same : n = m ∨ ∃ path, Handle.path? x = some path ∧ Handle.path? y = some path

namespace Share

variable {n m : String} {x y : Handle}

theorem symm (hshare : h.Share n m x y) : h.Share m n y x where
  first := hshare.second
  second := hshare.first
  same := hshare.same.imp Eq.symm fun ⟨path, hx, hy⟩ => ⟨path, hy, hx⟩

theorem world_eq (hshare : h.Share n m x y) : h.world y = h.world x := by
  rcases hshare.same with rfl | ⟨path, hx, hy⟩
  · rw [Option.some.inj (hshare.first.symm.trans hshare.second)]
  · rw [Host.world, Host.store, hy, Host.world, Host.store, hx]

end Share

/-! ## What a save writes -/

/-- What a save in one of several databases makes of its events, and that it spares the others. -/
theorem save_written [Regex.Library] {r : Roster} {es saved : List Entity} (hh : h.Reachable)
    (hd : h.handles.get? name = some d) (hon : ∀ x ∈ es, x.On r)
    (hsave : h.within name d (Chronicle.save d.settings es) = (.ok saved, h')) :
    (∃ d', h'.handles.get? name = some d' ∧ d'.settings = d.settings ∧
      Written (h.store d) h.links es (h'.store d') h'.links) ∧
    ∀ other d₂, h.handles.get? other = some d₂ → name ≠ other →
      Handle.path? d = none ∨ Handle.path? d₂ ≠ Handle.path? d →
      h'.handles.get? other = some d₂ ∧ h'.store d₂ = h.store d₂ := by
  obtain ⟨w, hw, rfl⟩ := within_eq_ok hsave
  constructor
  · obtain ⟨d', hd', hsettings, hstore⟩ := withStore_eq hd w.store
    refine ⟨d', hd', hsettings, ?_⟩
    have hwritten := written_of_save (hh.intact.store hd).sound hon hw
    rw [← hstore] at hwritten
    exact hwritten
  · intro other d₂ hother hname hpath
    obtain ⟨hhandle, hstore⟩ := withStore_of_ne hname hpath w.store
    exact ⟨hhandle.trans hother, hstore⟩

/-- Saves entities in the database of a name, if one is open. -/
def savedIn [Regex.Library] (h : Host) (name : String) (es : List Entity) : Except Error (List Entity) × Host :=
  match h.handles.get? name with
  | some d => h.within name d (Chronicle.save d.settings es)
  | none => (.ok [], h)

def eventsOf (h : Host) (name : String) : SortedMap RowId EventRow :=
  ((h.handles.get? name).map fun d => (h.store d).events).getD .empty

theorem Reachable.savedIn [Regex.Library] (hh : h.Reachable) (name : String) (es : List Entity) :
    (h.savedIn name es).2.Reachable := by
  obtain ⟨directories, hrun⟩ := hh
  unfold Host.savedIn
  split
  case h_1 d hd => exact ⟨directories, hrun.tail (.saved name d hd es)⟩
  case h_2 => exact ⟨directories, hrun⟩

def visit (uuid : String) (link : Nat) : Event :=
  ⟨⟨⟨2024, 5, 6, 7, 0, 0, 0⟩, by decide⟩, ⟨⟨2024, 5, 6, 8, 0, 0, 0⟩, by decide⟩, "dora", uuid, .empty, ⟨link⟩⟩

/-- Three databases in memory. -/
def three : Host :=
  let memory : Handle := ⟨.standard, .empty⟩
  ⟨["."], .empty, ((SortedMap.empty.insert "main" memory).insert "other" memory).insert "third" memory,
    ⟨2, .empty⟩⟩

theorem three_reachable : three.Reachable :=
  ⟨["."], .tail (.tail (.tail (.single (.opened "main" .standard rfl)) (.opened "other" .standard rfl))
    (.opened "third" .standard rfl)) (.linked ⟨2, .empty⟩)⟩

/-- Two of them have one event each. -/
def visited : Host :=
  ((three.savedIn "main" [.event (visit "u" 0)]).2.savedIn "other" [.event (visit "v" 1)]).2

theorem visited_reachable : visited.Reachable := (three_reachable.savedIn _ _).savedIn _ _

theorem save_written_elsewhere : ∃ d d' h' saved, visited.handles.get? "other" = some d ∧
    visited.within "other" d (Chronicle.save d.settings [.event (visit "u" 0)]) = (.ok saved, h') ∧
    h'.handles.get? "other" = some d' ∧
    Written (visited.store d) visited.links [.event (visit "u" 0)] (h'.store d') h'.links := by
  obtain ⟨d, hd⟩ := Option.isSome_iff_exists.1
    (show (visited.handles.get? "other").isSome = true by decide +kernel)
  have hok : (visited.savedIn "other" [.event (visit "u" 0)]).1.isOk = true := by decide +kernel
  simp only [savedIn, hd] at hok
  cases hsave : visited.within "other" d (Chronicle.save d.settings [.event (visit "u" 0)]) with
  | mk result h' =>
    cases result with
    | error err =>
      rw [hsave] at hok
      cases hok
    | ok saved =>
      obtain ⟨⟨d', hd', -, hwritten⟩, -⟩ :=
        save_written (r := fun _ => some (.event "u")) visited_reachable hd (by decide) hsave
      exact ⟨d, d', h', saved, hd, hsave, hd', hwritten⟩

/-- An event that was saved in one database is saved in two others. One was empty and stays so; in the
other it takes the row of another event. -/
theorem not_stored_elsewhere : visited.Reachable ∧
    ([Entity.event (visit "u" 0)].flatMap Entity.written).countP (·.uuid == "u") = 1 ∧
    (visited.savedIn "third" [.event (visit "u" 0)]).1.isOk = true ∧
    eventsOf (visited.savedIn "third" [.event (visit "u" 0)]).2 "third" = .empty ∧
    eventsOf visited "other" = SortedMap.empty.insert 1 (visit "v" 1).row ∧
    (visited.savedIn "other" [.event (visit "u" 0)]).1.isOk = true ∧
    eventsOf (visited.savedIn "other" [.event (visit "u" 0)]).2 "other" =
      SortedMap.empty.insert 1 (visit "u" 0).row := by
  refine ⟨visited_reachable, rfl, ?_⟩
  decide +kernel

end Chronicle.Host
