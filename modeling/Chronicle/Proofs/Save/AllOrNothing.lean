import Chronicle.Regex.Standard
import Chronicle.Database.Session
import Chronicle.Proofs.Save.Refusal
import Chronicle.SortedMap.Lookup

/-!
# All or nothing

A save that fails leaves the world as it was, whatever was written before the failure, and it fails
exactly when an entity does not pass its checks or when the store refuses one of them midway. In a
session nothing at all changes: no database, no link, no entity and nothing that is noted in one.
-/
namespace Chronicle

/-- The ways in which a batch fails: at the first entity that does not pass its checks, or at the first
one that the store refuses after those before it were written. -/
inductive SaveFailure [Regex.Library] (settings : Settings) (w : World) (es : List Entity) (err : Error) : Prop
  | check (before : List Entity) (e : Entity) (after : List Entity) (split : es = before ++ e :: after)
      (passed : ∀ x ∈ before, x.check settings = .ok ()) (fault : e.check settings = .error err)
  | write (before : List Entity) (e : Entity) (after : List Entity) (b b' : Batch)
      (split : es = before ++ e :: after) (passed : ∀ x ∈ es, x.check settings = .ok ())
      (written : before.forM (Batch.saveEntity settings w.links) (.begin w.store) = .ok () b)
      (fault : Batch.saveEntity settings w.links e b = .error err b') (refused : b'.store.Refuses err)

namespace Batch

theorem saveAll_eq_error {settings : Settings} {ls : Links} {es : List Entity} {s s' : Store}
    {err : Error} : saveAll settings ls es s = .error err s' ↔
      ∃ b, es.forM (saveEntity settings ls) (begin s) = .error err b ∧ b.store = s' := by
  unfold saveAll
  cases h : es.forM (saveEntity settings ls) (begin s) <;> simp [and_assoc]

end Batch

theorem checkEach_eq_error_of_split [Regex.Library] {settings : Settings} {before after : List Entity}
    {e : Entity} {err : Error} (passed : ∀ x ∈ before, x.check settings = .ok ())
    (fault : e.check settings = .error err) :
    Entity.checkEach settings (before ++ e :: after) = .error err := by
  induction before with
  | nil => simp [Entity.checkEach, fault, bind, Except.bind]
  | cons x before ih =>
    have hx := passed x List.mem_cons_self
    have hbefore := ih fun y hy => passed y (List.mem_cons_of_mem _ hy)
    simp [Entity.checkEach, hx, bind, Except.bind, hbefore]

theorem forM_eq_error_of_split {ε σ α : Type} {f : α → EStateM ε σ PUnit} {before : List α}
    (after : List α) {a : α} {s s₁ s' : σ} {e : ε} (hbefore : before.forM f s = .ok () s₁)
    (ha : f a s₁ = .error e s') : (before ++ a :: after).forM f s = .error e s' := by
  induction before generalizing s with
  | nil =>
    obtain ⟨-, rfl⟩ := pure_eq_ok.1 hbefore
    exact bind_eq_error.2 (.inl ha)
  | cons x before ih =>
    obtain ⟨_, s₂, hx, hbefore⟩ := bind_eq_ok.1 (show (f x >>= fun _ => before.forM f) s = _ from hbefore)
    exact bind_eq_error.2 (.inr ⟨_, s₂, hx, ih hbefore⟩)

theorem save_eq_error [Regex.Library] {settings : Settings} {es : List Entity} {w w' : World} {err : Error} :
    save settings es w = .error err w' ↔ w' = w ∧ SaveFailure settings w es err := by
  unfold save
  cases hc : Entity.checkEach settings es with
  | error e =>
    constructor
    · rintro h
      cases h
      obtain ⟨before, x, after, split, passed, fault⟩ := Entity.checkEach_eq_error hc
      exact ⟨rfl, .check before x after split passed fault⟩
    · rintro ⟨rfl, h⟩
      cases h with
      | check before x after split passed fault =>
        subst split
        rw [checkEach_eq_error_of_split passed fault] at hc
        cases hc
        rfl
      | write before x after b b' split passed =>
        rw [Entity.checkEach_eq_ok.2 passed] at hc
        cases hc
  | ok =>
    have passed := Entity.checkEach_eq_ok.1 hc
    dsimp only
    cases hs : Batch.saveAll settings w.links es w.store with
    | ok a s =>
      simp only [Work.transaction, hs, reduceCtorEq, false_iff, not_and]
      rintro rfl h
      cases h with
      | check before x after split _ fault =>
        have hx := passed x (by simp [split])
        rw [hx] at fault
        cases fault
      | write before x after b b' split _ written fault =>
        subst split
        have hall := forM_eq_error_of_split after written fault
        rw [Batch.saveAll_eq_error.2 ⟨b', hall, rfl⟩] at hs
        cases hs
    | error e s =>
      obtain ⟨b, hb, rfl⟩ := Batch.saveAll_eq_error.1 hs
      simp only [Work.transaction, hs, EStateM.Result.error.injEq]
      obtain ⟨before, x, after, b₁, split, written, fault⟩ := forM_eq_error hb
      constructor
      · rintro ⟨rfl, rfl⟩
        refine ⟨rfl, .write before x after b₁ b split passed written fault ?_⟩
        exact Batch.failsOnly_saveEntity w.links (passed x (by simp [split])) b₁ e b fault
      · rintro ⟨rfl, h⟩
        refine ⟨?_, rfl⟩
        cases h with
        | check before y after split' _ fault =>
          have hy := passed y (by simp [split'])
          rw [hy] at fault
          cases fault
        | write before' y after' b₂ b₃ split' _ written' fault' =>
          subst split'
          have hall := forM_eq_error_of_split after' written' fault'
          rw [hall] at hb
          cases hb
          rfl

/-! ## Sessions -/

namespace Host

/-- Every open database that is in a file has its file. -/
def FilesExist (h : Host) : Prop :=
  ∀ name d, h.handles.get? name = some d → ∀ path, Handle.path? d = some path →
    h.files.contains path = true

theorem path?_with_own (d : Handle) (s : Store) : Handle.path? { d with own := s } = Handle.path? d :=
  rfl

theorem withStore_store {h : Host} {name : String} {d : Handle} (hd : h.handles.get? name = some d)
    (hfiles : h.FilesExist) : h.withStore name d (h.store d) = h := by
  unfold withStore store
  cases hp : Handle.path? d with
  | none => simp [SortedMap.insert_of_get?_eq_some hd]
  | some path =>
    obtain ⟨s, hs⟩ := Option.isSome_iff_exists.1 (hfiles name d hd path hp)
    simp [hs, SortedMap.insert_of_get?_eq_some hs]

theorem filesExist_start (directories : List String) : (start directories).FilesExist := by
  intro name d hd
  cases hd

theorem FilesExist.openDatabase {h h' : Host} {name : String} {settings : Settings}
    (hfiles : h.FilesExist) (ho : h.openDatabase name settings = .ok h') : h'.FilesExist := by
  have extended : ∀ files : SortedMap String Store, (∀ p, h.files.contains p → files.contains p) →
      (∀ p, Handle.path? ⟨settings, .empty⟩ = some p → files.contains p) →
      ({ h with handles := h.handles.insert name ⟨settings, .empty⟩, files } : Host).FilesExist := by
    intro files hold hnew other d hd path hp
    rcases SortedMap.get?_insert_eq_some.1 hd with ⟨-, rfl⟩ | ⟨-, hd⟩
    · exact hnew path hp
    · exact hold path (hfiles other d hd path hp)
  unfold Host.openDatabase at ho
  dsimp only at ho
  cases hplace : settings.place with
  | memory =>
    rw [hplace] at ho
    cases ho
    exact extended h.files (fun _ hp => hp) fun p hp => by simp [Handle.path?, hplace] at hp
  | file path =>
    simp only [hplace] at ho
    split at ho
    · cases ho
      exact extended h.files (fun _ hp => hp) fun p hp => by simp_all [Handle.path?]
    · split at ho
      · cases ho
        exact extended h.files (fun _ hp => hp) fun p hp => by simp_all [Handle.path?]
      · split at ho
        · cases ho
          refine extended _ (fun p hp => SortedMap.contains_insert.2 (.inr hp)) fun p hp => ?_
          refine SortedMap.contains_insert.2 (.inl ?_)
          simp_all [Handle.path?]
        · cases ho

theorem FilesExist.withStore {h : Host} {name : String} {d : Handle} (hfiles : h.FilesExist)
    (s : Store) : (h.withStore name d s).FilesExist := by
  unfold Host.withStore
  cases hp : Handle.path? d with
  | none =>
    intro other d' hd' path hpath
    rcases SortedMap.get?_insert_eq_some.1 hd' with ⟨-, rfl⟩ | ⟨-, hd'⟩
    · rw [path?_with_own, hp] at hpath
      cases hpath
    · exact hfiles other d' hd' path hpath
  | some file =>
    intro other d' hd' path hpath
    exact SortedMap.contains_insert.2 (.inr (hfiles other d' hd' path hpath))

theorem FilesExist.within {α : Type} {h : Host} {name : String} {d : Handle} (hfiles : h.FilesExist)
    (run : EStateM Error World α) :
    (h.within name d run).2.FilesExist := by
  unfold Host.within
  cases run ⟨h.store d, h.links⟩ with
  | ok a w => exact hfiles.withStore w.store
  | error e w => exact hfiles.withStore w.store

end Host

namespace Session

/-- What can happen in a session: databases are opened, entities are made, copied and edited, and any
work whatever is done in an open database. -/
inductive Step [Regex.Library] : Session → Session → Prop
  | opened {s : Session} {host : Host} (name : String) (settings : Settings)
      (h : s.host.openDatabase name settings = .ok host) : Step s { s with host }
  | put {s : Session} (name : String) (e : Entity) : Step s (s.put name e)
  | worked {s : Session} {α : Type} (db : String) (d : Handle) (h : s.host.handles.get? db = some d)
      (run : EStateM Error World α) : Step s { s with host := (s.host.within db d run).2 }
  | saved {s : Session} (db : String) (d : Handle) (h : s.host.handles.get? db = some d)
      (names : List String) : Step s (s.save db d names).2

def Reachable [Regex.Library] (s : Session) : Prop :=
  ∃ directories, Relation.ReflTransGen Step (start directories) s

theorem host_foldl_put (l : List (String × Entity)) (s : Session) :
    (l.foldl (fun s (name, e) => s.put name e) s).host = s.host := by
  induction l generalizing s with
  | nil => rfl
  | cons e l ih => exact ih (s.put e.1 e.2)

theorem host_save [Regex.Library] (s : Session) (db : String) (d : Handle) (names : List String) :
    (s.save db d names).2.host =
      (s.host.within db d (Chronicle.save d.settings ((s.named names).map Prod.snd))).2 := by
  unfold save
  dsimp only
  split <;> rename_i h <;> rw [h]
  exact host_foldl_put _ _

theorem Reachable.filesExist [Regex.Library] {s : Session} (h : s.Reachable) : s.host.FilesExist := by
  obtain ⟨directories, h⟩ := h
  induction h with
  | refl => exact Host.filesExist_start directories
  | tail _ step ih =>
    cases step with
    | opened name settings ho => exact ih.openDatabase ho
    | put name e => exact ih
    | worked db d hd run => exact ih.within run
    | saved db d hd names =>
      rw [host_save]
      exact ih.within _

/-- A save that fails changes nothing in a session, neither in any database nor in memory. -/
theorem save_error_eq_self [Regex.Library] {s s' : Session} {db : String} {d : Handle} {names : List String}
    {err : Error} (hs : s.Reachable) (hd : s.host.handles.get? db = some d)
    (h : s.save db d names = (.error err, s')) :
    s' = s ∧ SaveFailure d.settings ⟨s.host.store d, s.host.links⟩
      ((s.named names).map Prod.snd) err := by
  unfold save Host.within at h
  dsimp only at h
  cases hw : Chronicle.save d.settings ((s.named names).map Prod.snd)
      ⟨s.host.store d, s.host.links⟩ with
  | ok saved w => rw [hw] at h; cases h
  | error e w =>
    rw [hw] at h
    obtain ⟨rfl, failure⟩ := save_eq_error.1 hw
    cases h
    refine ⟨?_, failure⟩
    rw [Host.withStore_store hd hs.filesExist]

/-- A session in which one event is stored, a second is new, and a third has the uuid of the first. -/
def twins : Session :=
  let meeting (uuid : String) (link : Nat) : Entity :=
    .event ⟨⟨⟨2020, 1, 1, 12, 0, 0, 0⟩, by decide⟩, ⟨⟨2020, 1, 1, 13, 0, 0, 0⟩, by decide⟩, "alice",
      uuid, .empty, ⟨link⟩⟩
  let opened : Session :=
    { start ["."] with host := { Host.start ["."] with
        handles := SortedMap.empty.insert "main" ⟨.standard, .empty⟩ } }
  let stored := (opened.put "first" (meeting "u" 0)).save "main" ⟨.standard, .empty⟩ ["first"]
  (stored.2.put "new" (meeting "v" 1)).put "twin" (meeting "u" 2)

def twinsHandle : Handle := (twins.host.handles.get? "main").getD ⟨.standard, .empty⟩

theorem twins_reachable : twins.Reachable := by
  refine ⟨["."], ?_⟩
  refine .tail (.tail (.tail (.tail (.tail .refl (.opened "main" .standard rfl)) (.put "first" _))
    (.saved "main" ⟨.standard, .empty⟩ rfl ["first"])) (.put "new" _)) (.put "twin" _)

/-- The new event is written before its companion is refused, and is gone again. -/
theorem save_error_eq_self_twins :
    (twins.save "main" twinsHandle ["new", "twin"]).1 = .error (.store Store.uuidTaken) ∧
      (twins.save "main" twinsHandle ["new", "twin"]).2 = twins :=
  ⟨rfl, (save_error_eq_self twins_reachable rfl (Prod.ext rfl rfl)).1⟩

end Session

end Chronicle
