import Chronicle.Regex.Standard
import Chronicle.Proofs.Save.Bound
import Chronicle.Proofs.Save.Merging

/-!
# Sessions over one store

A session has one database, in memory or in a file that several handles may open. Entities are made and
copied, edited, saved and read, and may be forgotten. Whatever was done, no link knows a row but of its own
entity, and none ever comes to know another one.
-/
namespace Chronicle

namespace Host

variable {h h' : Host} {name other path : String} {settings : Settings} {d x : Handle} {t : Store}

/-- Whether all handles are on one store. -/
def OneStore (h : Host) : Prop :=
  ∀ n m x y, h.handles.get? n = some x → h.handles.get? m = some y → h.Share n m x y

/-- Opening makes a file at most, which is empty. -/
theorem of_openDatabase (hopened : h.openDatabase name settings = .ok h') :
    h'.links = h.links ∧ h'.handles = h.handles.insert name ⟨settings, .empty⟩ ∧
      ∀ x, h'.store x = h.store x := by
  have hfile {path : String} (hpath : h.files.contains path ≠ true) (x : Handle) :
      Host.store { h with files := h.files.insert path .empty } x = h.store x := by
    unfold Host.store
    cases Handle.path? x with
    | none => rfl
    | some q =>
      dsimp only
      by_cases hq : path = q
      · subst hq
        rw [SortedMap.get?_insert_self, Option.not_isSome_iff_eq_none.1 hpath]
        rfl
      · rw [SortedMap.get?_insert_of_ne _ _ hq]
  unfold Host.openDatabase at hopened
  dsimp only at hopened
  split at hopened
  · cases hopened
    exact ⟨rfl, rfl, fun _ => rfl⟩
  · split at hopened
    · cases hopened
      exact ⟨rfl, rfl, fun _ => rfl⟩
    · split at hopened
      · cases hopened
        exact ⟨rfl, rfl, fun _ => rfl⟩
      case isFalse hnew =>
        split at hopened
        · cases hopened
          exact ⟨rfl, rfl, hfile hnew⟩
        · cases hopened

namespace OneStore

theorem path?_eq (hh : h.OneStore) (hd : h.handles.get? other = some d) (hpath : Handle.path? d = some path)
    (hx : h.handles.get? name = some x) : Handle.path? x = some path := by
  rcases (hh _ _ _ _ hd hx).same with rfl | ⟨q, hd', hx'⟩
  · rw [Option.some.inj (hx.symm.trans hd), hpath]
  · rw [hx', ← hd', hpath]

theorem of_path? (hh : ∀ n x, h.handles.get? n = some x → Handle.path? x = some path) : h.OneStore :=
  fun n m x y hx hy => ⟨hx, hy, .inr ⟨path, hh n x hx, hh m y hy⟩⟩

/-- The file of an open database is opened again. -/
theorem opened (hh : h.OneStore) (hd : h.handles.get? other = some d) (hpath : Handle.path? d = some path)
    (hsame : Handle.path? ⟨settings, .empty⟩ = some path) (hopened : h.openDatabase name settings = .ok h') :
    h'.OneStore ∧ ∀ n x, h'.handles.get? n = some x → h'.store x = h.store d := by
  obtain ⟨-, hhandles, hstore⟩ := of_openDatabase hopened
  have hall (n : String) (x : Handle) (hx : h'.handles.get? n = some x) : Handle.path? x = some path := by
    rw [hhandles] at hx
    rcases SortedMap.get?_insert_eq_some.1 hx with ⟨-, rfl⟩ | ⟨-, hx⟩
    · exact hsame
    · exact hh.path?_eq hd hpath hx
  refine ⟨of_path? hall, fun n x hx => ?_⟩
  rw [hstore, Host.store, Host.store, hall n x hx, hpath]

theorem closed (hh : h.OneStore) (name : String) : OneStore { h with handles := h.handles.erase name } :=
  fun n m x y hx hy =>
    ⟨hx, hy, (hh n m x y (SortedMap.get?_of_erase hx) (SortedMap.get?_of_erase hy)).same⟩

/-- Work in one database is work in all. -/
theorem withStore (hh : h.OneStore) (hd : h.handles.get? name = some d) (t : Store) :
    (h.withStore name d t).OneStore ∧
      ∀ n x, (h.withStore name d t).handles.get? n = some x → (h.withStore name d t).store x = t := by
  cases hpath : Handle.path? d with
  | none =>
    have hone (n : String) (x : Handle) (hx : (h.withStore name d t).handles.get? n = some x) :
        n = name ∧ x = { d with own := t } := by
      simp only [Host.withStore, hpath] at hx
      rcases SortedMap.get?_insert_eq_some.1 hx with ⟨hn, rfl⟩ | ⟨hn, hx⟩
      · exact ⟨hn.symm, rfl⟩
      · rcases (hh _ _ _ _ hd hx).same with heq | ⟨q, hq, -⟩
        · exact absurd heq hn
        · rw [hpath] at hq
          cases hq
    refine ⟨fun n m x y hx hy => ⟨hx, hy, .inl ?_⟩, fun n x hx => ?_⟩
    · rw [(hone n x hx).1, (hone m y hy).1]
    · rw [(hone n x hx).2, Host.store, path?_with_own, hpath]
  | some path =>
    have hall (n : String) (x : Handle) (hx : (h.withStore name d t).handles.get? n = some x) :
        Handle.path? x = some path := by
      simp only [Host.withStore, hpath] at hx
      exact hh.path?_eq hd hpath hx
    refine ⟨of_path? hall, fun n x hx => ?_⟩
    simp [Host.store, hall n x hx, Host.withStore, hpath]

end OneStore

end Host

/-- Attributes of an owner are set, removed or brought in line on their own. -/
inductive Store.Relabels (s : Store) : Store → Prop
  | set (settings : Settings) (kind : EntityKind) (owner : RowId) (key : String) (v : Value) :
      Relabels s (left (setAttribute settings.keyPolicy kind owner key v s))
  | drop (kind : EntityKind) (owner : RowId) (key : String) : Relabels s (left (dropAttribute kind owner key s))
  | sync (settings : Settings) (kind : EntityKind) (owner : RowId) (a : Attributes) :
      Relabels s (left (syncAttributes settings.keyPolicy kind owner a s))

theorem World.Bound.relabelled [Regex.Library] {r : Roster} {w : World} {t : Store} (h : w.Bound r)
    (ht : w.store.Relabels t) :
    World.Bound r { w with store := t } := by
  cases ht with
  | set settings kind owner key v =>
    exact h.sameRows (h.reachable.tail (.setAttribute settings kind owner key v _))
      (Store.sameRows_setAttribute key v)
  | drop kind owner key =>
    exact h.sameRows (h.reachable.tail (.dropAttribute kind owner key _)) (Store.sameRows_dropAttribute key)
  | sync settings kind owner a =>
    exact h.sameRows (h.reachable.tail (.syncAttributes settings kind owner a _)) (Store.sameRows_syncAttributes a)

namespace Session

/-! ## Entities in memory -/

/-- The row that an entity knows. -/
def record? (s : Session) (x : Entity) : Option RowId := s.host.links.row? x.link

/-- Whether an entity is in memory: under a name, or noted in a catalogue. -/
def Holds (s : Session) (x : Entity) : Prop :=
  ∃ name y, s.entities.get? name = some y ∧ (x = y ∨ ∃ e ∈ y.pending, x = .event e)

/-- Whether an entity is like one in memory but for what can be edited. -/
def Copies (s : Session) (x : Entity) : Prop := ∃ y, s.Holds y ∧ x.link = y.link ∧ x.identity = y.identity

def withLinks (s : Session) (ls : Links) : Session := { s with host := { s.host with links := ls } }

def putAll (s : Session) (l : List (String × Entity)) : Session := l.foldl (fun s (name, x) => s.put name x) s

/-- What can happen in a session with one database. -/
inductive OneStore.Step [Regex.Library] [Sql.Engine] : Session → Session → Prop
  /-- The file of the database is opened, once more or again. -/
  | opened {s : Session} {host : Host} (name : String) (settings : Settings) {other path : String} {d : Handle}
      (hd : s.host.handles.get? other = some d) (hpath : Host.Handle.path? d = some path)
      (hsame : Host.Handle.path? ⟨settings, .empty⟩ = some path)
      (hopened : s.host.openDatabase name settings = .ok host) : Step s { s with host }
  /-- A handle is given up. -/
  | closed {s : Session} (name : String) :
      Step s { s with host := { s.host with handles := s.host.handles.erase name } }
  /-- An entity is made, and events in memory may be noted in it. -/
  | made {s : Session} (name : String) {x : Entity} (hlink : x.link = s.host.links.fresh.1)
      (hpending : ∀ e ∈ x.pending, s.Copies (.event e)) :
      Step s ((s.withLinks s.host.links.fresh.2).put name x)
  /-- An entity is copied or edited, or both. -/
  | copied {s : Session} (name : String) {x : Entity} (hx : s.Copies x)
      (hpending : ∀ e ∈ x.pending, s.Copies (.event e)) : Step s (s.put name x)
  /-- Some of the events that are found are kept under names. -/
  | eventsRead {s : Session} {db : String} {d : Handle} (hd : s.host.handles.get? db = some d)
      {base : Option Base} {found : List Event} {ls : Links}
      (hread : getEvents base (s.host.world d) = .ok (found, ls)) (names : List String) :
      Step s ((s.withLinks ls).putAll (names.zip (found.map .event)))
  | cataloguesRead {s : Session} {db : String} {d : Handle} (hd : s.host.handles.get? db = some d)
      {base : Option Base} {found : List Catalogue} {ls : Links}
      (hread : getCatalogues base (s.host.world d) = .ok (found, ls)) (names : List String) :
      Step s ((s.withLinks ls).putAll (names.zip (found.map .catalogue)))
  /-- An entity is dropped. -/
  | forgotten {s : Session} (name : String) : Step s { s with entities := s.entities.erase name }
  /-- Entities are saved, with success or without. -/
  | saved {s : Session} {db : String} {d : Handle} (hd : s.host.handles.get? db = some d)
      (names : List String) : Step s (s.save db d names).2
  /-- Attributes in the store are changed past the entities. -/
  | relabelled {s : Session} {db : String} {d : Handle} (hd : s.host.handles.get? db = some d) {t : Store}
      (ht : (s.host.store d).Relabels t) : Step s { s with host := s.host.withStore db d t }

/-- Whether a session has come about with one database: it was opened, and then things happened. -/
def OneStore [Regex.Library] [Sql.Engine] (s : Session) : Prop :=
  ∃ directories name settings host, (Host.start directories).openDatabase name settings = .ok host ∧
    Relation.ReflTransGen OneStore.Step ⟨host, .empty⟩ s

/-- Whether the links of a session know rows of their own entities in the store. -/
structure Bound [Regex.Library] (r : Roster) (store : Store) (s : Session) : Prop where
  single : s.host.OneStore
  stored : ∀ name d, s.host.handles.get? name = some d → s.host.store d = store
  bound : World.Bound r ⟨store, s.host.links⟩
  on : ∀ name x, s.entities.get? name = some x → x.On r

variable {r r' : Roster} {store t : Store} {s s' : Session} {name db : String} {d : Handle} {x y : Entity}
  {ls : Links} {l : List (String × Entity)}

theorem host_putAll (l : List (String × Entity)) (s : Session) : (s.putAll l).host = s.host :=
  host_foldl_put l s

theorem links_withStore (h : Host) (db : String) (d : Handle) (t : Store) :
    (h.withStore db d t).links = h.links := by
  unfold Host.withStore
  split <;> rfl

theorem mem_named {names : List String} {e : String × Entity} :
    e ∈ s.named names ↔ e.1 ∈ names ∧ s.entities.get? e.1 = some e.2 := by
  unfold named
  rw [List.mem_filterMap]
  constructor
  · rintro ⟨name, hname, he⟩
    obtain ⟨x, hx, rfl⟩ := Option.map_eq_some_iff.1 he
    exact ⟨hname, hx⟩
  · rintro ⟨hname, hx⟩
    exact ⟨e.1, hname, Option.map_eq_some_iff.2 ⟨e.2, hx, rfl⟩⟩

/-- What a save makes of a session, by what it makes of the world of the database. -/
theorem save_cases [Regex.Library] (s : Session) (db : String) (d : Handle) (names : List String) :
    (∃ saved w, Chronicle.save d.settings ((s.named names).map Prod.snd) (s.host.world d) = .ok saved w ∧
      s.save db d names = (.ok (), (withLinks { s with host := s.host.withStore db d w.store } w.links).putAll
        (((s.named names).map Prod.fst).zip saved))) ∨
    ∃ err, s.save db d names = (.error err, { s with host := s.host.withStore db d (s.host.store d) }) := by
  unfold save Host.within
  cases hrun : Chronicle.save d.settings ((s.named names).map Prod.snd) (s.host.world d) with
  | ok saved w =>
    refine .inl ⟨saved, w, rfl, ?_⟩
    change Chronicle.save _ _ ⟨s.host.store d, s.host.links⟩ = _ at hrun
    dsimp only
    rw [hrun]
    rfl
  | error err w =>
    obtain ⟨rfl, -⟩ := save_eq_error.1 hrun
    refine .inr ⟨err, ?_⟩
    change Chronicle.save _ _ ⟨s.host.store d, s.host.links⟩ = _ at hrun
    dsimp only
    rw [hrun]
    dsimp only [Host.world]
    rw [← links_withStore s.host db d (s.host.store d)]

namespace Bound

variable [Regex.Library]

theorem holds_on (hs : s.Bound r store) (hx : s.Holds x) : x.On r := by
  obtain ⟨name, y, hy, rfl | ⟨e, he, rfl⟩⟩ := hx
  · exact hs.on name x hy
  · exact (Entity.on_iff.1 (hs.on name y hy)).2 e he

theorem listed_of_copies (hs : s.Bound r store) (hx : s.Copies x) : r x.link = some x.identity := by
  obtain ⟨y, hy, hlink, hidentity⟩ := hx
  rw [hlink, hidentity]
  exact (Entity.on_iff.1 (hs.holds_on hy)).1

theorem pending_on (hs : s.Bound r store) (hpending : ∀ e ∈ x.pending, s.Copies (.event e)) :
    ∀ e ∈ x.pending, e.On r := fun e he => hs.listed_of_copies (hpending e he)

theorem put (hs : s.Bound r store) (hx : x.On r) : (s.put name x).Bound r store where
  single := hs.single
  stored := hs.stored
  bound := hs.bound
  on other y hy := by
    rcases SortedMap.get?_insert_eq_some.1 hy with ⟨-, rfl⟩ | ⟨-, hy⟩
    · exact hx
    · exact hs.on other y hy

theorem putAll (hs : s.Bound r store) (hl : ∀ e ∈ l, e.2.On r) : (s.putAll l).Bound r store := by
  induction l generalizing s with
  | nil => exact hs
  | cons e l ih =>
    obtain ⟨he, hl⟩ := List.forall_mem_cons.1 hl
    exact ih (hs.put he) hl

theorem putNamed (hs : s.Bound r store) {names : List String} {found : List Entity}
    (hfound : ∀ x ∈ found, x.On r) : (s.putAll (names.zip found)).Bound r store :=
  hs.putAll fun e he => hfound e.2 (List.of_mem_zip he).2

theorem withLinks (hs : s.Bound r store) (hbound : World.Bound r' ⟨store, ls⟩)
    (hgrows : Grows r s.host.links r' ls) : (s.withLinks ls).Bound r' store where
  single n m x y hx hy := ⟨hx, hy, (hs.single n m x y hx hy).same⟩
  stored := hs.stored
  bound := hbound
  on name x hx := hgrows.on (hs.on name x hx)

/-- Work in the database leaves its store and the links. -/
theorem worked (hs : s.Bound r store) (hd : s.host.handles.get? db = some d)
    (hbound : World.Bound r' ⟨t, ls⟩) (hgrows : Grows r s.host.links r' ls) :
    (Session.withLinks { s with host := s.host.withStore db d t } ls).Bound r' t := by
  obtain ⟨hsingle, hstored⟩ := hs.single.withStore hd t
  exact ⟨fun n m x y hx hy => ⟨hx, hy, (hsingle n m x y hx hy).same⟩, hstored, hbound,
    fun name x hx => hgrows.on (hs.on name x hx)⟩

theorem withStore (hs : s.Bound r store) (hd : s.host.handles.get? db = some d)
    (hbound : World.Bound r ⟨t, s.host.links⟩) : Bound r t { s with host := s.host.withStore db d t } := by
  have hworked := hs.worked hd hbound (.refl r _)
  unfold Session.withLinks at hworked
  rw [← links_withStore s.host db d t] at hworked
  exact hworked

theorem world_eq (hs : s.Bound r store) (hd : s.host.handles.get? db = some d) :
    s.host.world d = ⟨store, s.host.links⟩ := by rw [Host.world, hs.stored db d hd]

theorem named_on (hs : s.Bound r store) (names : List String) : ∀ x ∈ (s.named names).map Prod.snd, x.On r := by
  intro x hx
  obtain ⟨e, he, rfl⟩ := List.mem_map.1 hx
  exact hs.on e.1 e.2 (mem_named.1 he).2

/-- Saving keeps what is known, also when it fails. -/
theorem saved (hs : s.Bound r store) (hd : s.host.handles.get? db = some d) (names : List String) :
    ∃ t, (s.save db d names).2.Bound r t ∧ Grows r s.host.links r (s.save db d names).2.host.links := by
  rcases save_cases s db d names with ⟨found, w, hrun, hsave⟩ | ⟨err, hsave⟩
  · rw [hs.world_eq hd] at hrun
    obtain ⟨hbound, hgrows, -⟩ := hs.bound.save (hs.named_on names) hrun
    obtain ⟨-, -, -, rfl, -⟩ := Chronicle.save_eq_ok.1 hrun
    have hfound : ∀ x ∈ ((s.named names).map Prod.snd).map Entity.saved, x.On r :=
      List.forall_mem_map.2 fun x hx => Entity.on_saved (hs.named_on names x hx)
    rw [hsave]
    refine ⟨w.store, (hs.worked hd hbound hgrows).putNamed hfound, ?_⟩
    rw [host_putAll]
    exact hgrows
  · rw [hsave, links_withStore, hs.stored db d hd]
    exact ⟨store, hs.withStore hd hs.bound, .refl r _⟩

/-- Whatever happens, links know rows of their own entities, what was known is known, and a link stands for the
entity that it stood for. -/
theorem step [Sql.Engine] (hs : s.Bound r store) (hstep : OneStore.Step s s') :
    ∃ r' t, s'.Bound r' t ∧ Grows r s.host.links r' s'.host.links := by
  cases hstep with
  | opened name settings hd hpath hsame hopened =>
    obtain ⟨hlinks, -, -⟩ := Host.of_openDatabase hopened
    obtain ⟨hsingle, hstored⟩ := hs.single.opened hd hpath hsame hopened
    rw [hlinks]
    refine ⟨r, store, ⟨hsingle, fun n x hx => (hstored n x hx).trans (hs.stored _ _ hd), ?_, hs.on⟩, .refl r _⟩
    exact hlinks.symm ▸ hs.bound
  | closed name =>
    exact ⟨r, store, ⟨hs.single.closed name, fun n x hx => hs.stored n x (SortedMap.get?_of_erase hx), hs.bound,
      hs.on⟩, .refl r _⟩
  | @made name x hlink hpending =>
    obtain ⟨hbound, hgrows⟩ := hs.bound.fresh x.identity
    refine ⟨_, store, (hs.withLinks hbound hgrows).put (Entity.on_iff.2 ⟨?_, fun e he => ?_⟩), hgrows⟩
    · rw [hlink]
      exact Function.update_self ..
    · exact hgrows.event_on (hs.pending_on hpending e he)
  | copied name hx hpending =>
    exact ⟨r, store, hs.put (Entity.on_iff.2 ⟨hs.listed_of_copies hx, hs.pending_on hpending⟩), .refl r _⟩
  | eventsRead hd hread names =>
    rw [hs.world_eq hd] at hread
    obtain ⟨r', hbound, hgrows, hfound⟩ := hs.bound.getEvents hread
    refine ⟨r', store, (hs.withLinks hbound hgrows).putNamed hfound, ?_⟩
    rw [host_putAll]
    exact hgrows
  | cataloguesRead hd hread names =>
    rw [hs.world_eq hd] at hread
    obtain ⟨r', hbound, hgrows, hfound⟩ := hs.bound.getCatalogues hread
    refine ⟨r', store, (hs.withLinks hbound hgrows).putNamed hfound, ?_⟩
    rw [host_putAll]
    exact hgrows
  | forgotten name =>
    exact ⟨r, store, ⟨hs.single, hs.stored, hs.bound, fun n x hx => hs.on n x (SortedMap.get?_of_erase hx)⟩,
      .refl r _⟩
  | saved hd names =>
    obtain ⟨t, hbound, hgrows⟩ := hs.saved hd names
    exact ⟨r, t, hbound, hgrows⟩
  | relabelled hd ht =>
    rw [hs.stored _ _ hd] at ht
    rw [links_withStore]
    exact ⟨r, _, hs.withStore hd (hs.bound.relabelled ht), .refl r _⟩

theorem run [Sql.Engine] (hs : s.Bound r store) (hrun : Relation.ReflTransGen OneStore.Step s s') :
    ∃ r' t, s'.Bound r' t ∧ Grows r s.host.links r' s'.host.links := by
  induction hrun with
  | refl => exact ⟨r, store, hs, .refl r _⟩
  | tail _ hstep ih =>
    obtain ⟨r', t, hbound, hgrows⟩ := ih
    obtain ⟨r'', t', hbound', hgrows'⟩ := hbound.step hstep
    exact ⟨r'', t', hbound', hgrows.trans hgrows'⟩

/-- A session begins with an empty store, in memory or in a file that is made. -/
theorem start {directories : List String} {settings : Settings} {host : Host}
    (hopened : (Host.start directories).openDatabase name settings = .ok host) :
    Bound (fun _ => none) .empty ⟨host, .empty⟩ := by
  obtain ⟨hlinks, hhandles, hstore⟩ := Host.of_openDatabase hopened
  have hone (n : String) (x : Handle) (hx : host.handles.get? n = some x) :
      n = name ∧ x = ⟨settings, .empty⟩ := by
    rw [hhandles] at hx
    rcases SortedMap.get?_insert_eq_some.1 hx with ⟨hn, rfl⟩ | ⟨-, hx⟩
    · exact ⟨hn.symm, rfl⟩
    · cases hx
  refine ⟨fun n m x y hx hy => ⟨hx, hy, .inl ?_⟩, fun n x hx => ?_, ?_, fun n x hx => by cases hx⟩
  · rw [(hone n x hx).1, (hone m y hy).1]
  · rw [hstore, (hone n x hx).2]
    unfold Host.store
    split <;> rfl
  · rw [hlinks]
    exact ⟨.refl, .empty _ 0, fun _ _ => ⟨rfl, rfl⟩⟩

end Bound

theorem OneStore.bound [Regex.Library] [Sql.Engine] (hs : s.OneStore) : ∃ r store, s.Bound r store := by
  obtain ⟨directories, name, settings, host, hopened, hrun⟩ := hs
  obtain ⟨r, store, hbound, -⟩ := (Bound.start hopened).run hrun
  exact ⟨r, store, hbound⟩

/-! ## What entities know -/

/-- Whether every record of an entity in memory is the id of a row of its own in the database, and entities with
the link of each other are copies of one entity, with one record. -/
structure Linked (s : Session) : Prop where
  housed : ∀ x, s.Holds x → ∀ id, s.record? x = some id →
    ∀ db d, s.host.handles.get? db = some d → (s.host.store d).Houses id x.identity
  copies : ∀ x y, s.Holds x → s.Holds y → x.link = y.link →
    x.identity = y.identity ∧ s.record? x = s.record? y

theorem Bound.linked [Regex.Library] (hs : s.Bound r store) : s.Linked where
  housed x hx id hid db d hd := by
    rw [hs.stored db d hd]
    exact hs.bound.houses (hs.holds_on hx) hid
  copies x y hx hy hlink := by
    have hx' := (Entity.on_iff.1 (hs.holds_on hx)).1
    have hy' := (Entity.on_iff.1 (hs.holds_on hy)).1
    rw [hlink, hy', Option.some.injEq] at hx'
    exact ⟨hx'.symm, congrArg s.host.links.row? hlink⟩

/-- What is put under a name is there, when the same is put under it whenever anything is. -/
theorem get?_putAll (hl : ∀ e ∈ l, e.1 = name → e.2 = x)
    (hx : (∃ e ∈ l, e.1 = name) ∨ s.entities.get? name = some x) : (s.putAll l).entities.get? name = some x := by
  induction l generalizing s with
  | nil => exact hx.resolve_left fun ⟨_, he, _⟩ => absurd he List.not_mem_nil
  | cons e l ih =>
    obtain ⟨he, hl⟩ := List.forall_mem_cons.1 hl
    refine ih hl ?_
    by_cases hname : e.1 = name
    · right
      rw [← he hname, ← hname]
      exact SortedMap.get?_insert_self ..
    · refine hx.imp ?_ fun hold => (SortedMap.get?_insert_of_ne _ _ hname).trans hold
      rintro ⟨f, hf, hfname⟩
      rcases List.mem_cons.1 hf with rfl | hf
      · exact absurd hfname hname
      · exact ⟨f, hf, hfname⟩

/-- After a save that goes well the entities of the batch are as they are to be, under their names. -/
theorem get?_putAll_saved {names : List String} (hname : name ∈ names) (hx : s.entities.get? name = some x) :
    (s'.putAll (((s.named names).map Prod.fst).zip
      (((s.named names).map Prod.snd).map Entity.saved))).entities.get? name = some x.saved := by
  rw [List.map_map, List.zip_map']
  have hmem : (name, x) ∈ s.named names := mem_named.2 ⟨hname, hx⟩
  refine get?_putAll ?_ (.inl ⟨(name, x.saved), List.mem_map.2 ⟨(name, x), hmem, rfl⟩, rfl⟩)
  intro e he hename
  obtain ⟨f, hf, rfl⟩ := List.mem_map.1 he
  obtain ⟨-, hfound⟩ := mem_named.1 hf
  dsimp only at hename
  rw [hename, hx, Option.some.injEq] at hfound
  rw [hfound]
  rfl

/-- In a session with one database links point at rows of their own entities, a record does not change, and what
is given to a save that goes well has one. -/
theorem OneStore.records_housed [Regex.Library] [Sql.Engine] (hs : s.OneStore) : s.Linked ∧
    (∀ s', Relation.ReflTransGen OneStore.Step s s' → s'.Linked ∧
      ∀ x id, s.record? x = some id → s'.record? x = some id) ∧
    ∀ db d names s', s.host.handles.get? db = some d → s.save db d names = (.ok (), s') →
      ∀ name ∈ names, ∀ x, s.entities.get? name = some x →
        s'.entities.get? name = some x.saved ∧ ∃ id, s'.record? x.saved = some id := by
  obtain ⟨r, store, hbound⟩ := hs.bound
  refine ⟨hbound.linked, fun s' hrun => ?_, fun db d names s' hd hsave name hname x hx => ?_⟩
  · obtain ⟨r', t, hbound', hgrows⟩ := hbound.run hrun
    exact ⟨hbound'.linked, fun x id hid => hgrows.known _ id hid⟩
  · rcases save_cases s db d names with ⟨found, w, hrun, hok⟩ | ⟨err, herror⟩
    · rw [hbound.world_eq hd] at hrun
      obtain ⟨-, -, hrows⟩ := hbound.bound.save (hbound.named_on names) hrun
      obtain ⟨-, -, -, rfl, -⟩ := Chronicle.save_eq_ok.1 hrun
      obtain rfl := (Prod.mk.inj (hsave.symm.trans hok)).2
      refine ⟨get?_putAll_saved hname hx, ?_⟩
      rw [record?, host_putAll, Entity.link_saved]
      exact hrows x (List.mem_map.2 ⟨(name, x), mem_named.2 ⟨hname, hx⟩, rfl⟩)
    · cases hsave.symm.trans herror

/-- Two events with one uuid, a catalogue that adds one of them, and a copy of it with another author. The file
is open twice. -/
def rivals : Session where
  host := ⟨["."], SortedMap.empty.insert "survey" .empty,
    (SortedMap.empty.insert "north" (Host.desk false)).insert "south" (Host.desk true), ⟨3, .empty⟩⟩
  entities := (((SortedMap.empty.insert "first" (.event (tremor "u" 0))).insert "rival" (.event impostor)).insert
    "log" (.catalogue ⟨"log", "carol", none, .empty, [tremor "u" 0], [], ⟨2⟩⟩)).insert
    "draft" (.event { tremor "u" 0 with author := "erin" })

theorem rivals_oneStore : rivals.OneStore := by
  have hfirst {s : Session} (h : s.entities.get? "first" = some (.event (tremor "u" 0))) {x : Entity}
      (hlink : x.link = ⟨0⟩) (hidentity : x.identity = .event "u") : s.Copies x :=
    ⟨_, ⟨"first", _, h, .inl rfl⟩, hlink, hidentity⟩
  refine ⟨["."], "north", (Host.desk false).settings, _, rfl, ?_⟩
  have hnone (s : Session) : ∀ e ∈ ([] : List Event), s.Copies (.event e) := fun _ he => absurd he List.not_mem_nil
  refine .tail (.tail (.tail (.tail (.single (.opened "south" (Host.desk true).settings
    (SortedMap.get?_insert_self ..) rfl rfl rfl)) (.made "first" (x := .event (tremor "u" 0)) rfl (hnone _)))
    (.made "rival" (x := .event impostor) rfl (hnone _)))
    (.made "log" (x := .catalogue ⟨"log", "carol", none, .empty, [tremor "u" 0], [], ⟨2⟩⟩) rfl ?_))
    (.copied "draft" (x := .event { tremor "u" 0 with author := "erin" }) ?_ (hnone _))
  · intro e he
    rw [List.mem_singleton.1 he]
    exact hfirst rfl rfl rfl
  · exact hfirst rfl rfl rfl

/-- Both events come to know a row, and so does the copy that was not saved. -/
theorem OneStore.records_housed_rivals : rivals.OneStore ∧
    ∃ s', rivals.save "south" (Host.desk true) ["first", "rival", "log"] = (.ok (), s') ∧ s'.Linked ∧
      (∃ id, s'.record? (.event impostor) = some id) ∧
      ∃ id, s'.record? (.event { tremor "u" 0 with author := "erin" }) = some id := by
  obtain ⟨-, hruns, hsaves⟩ := OneStore.records_housed rivals_oneStore
  have hd : rivals.host.handles.get? "south" = some (Host.desk true) := rfl
  have hok : (rivals.save "south" (Host.desk true) ["first", "rival", "log"]).1 = .ok () := by decide +kernel
  cases hsave : rivals.save "south" (Host.desk true) ["first", "rival", "log"] with
  | mk result s' =>
    rw [hsave] at hok
    subst hok
    have hstep : OneStore.Step rivals s' := by
      have hsaved := OneStore.Step.saved hd ["first", "rival", "log"]
      rwa [hsave] at hsaved
    obtain ⟨hlinked, -⟩ := hruns s' (.single hstep)
    obtain ⟨-, hrival⟩ := hsaves _ _ _ _ hd hsave "rival" (by decide) (.event impostor) rfl
    obtain ⟨-, hfirst⟩ := hsaves _ _ _ _ hd hsave "first" (by decide) (.event (tremor "u" 0)) rfl
    exact ⟨rivals_oneStore, s', rfl, hlinked, hrival, hfirst⟩

end Session

end Chronicle
