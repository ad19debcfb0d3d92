import Chronicle.Proofs.Save.Checks

/-!
# Changes of the store

The single changes that work on a store is made of, each with the part of the store that it touches. What
all of them preserve is preserved by all work, also by work that fails on the way.
-/
namespace Chronicle.Store

/-- The part of a store that a change touches: the own columns of a row, the members of a catalogue or
the attributes of an owner. -/
inductive Footprint
  | event (id : RowId)
  | catalogue (id : RowId)
  | members (catalogue : RowId)
  | attributes (kind : EntityKind) (owner : RowId)

/-- Whether events or their attributes are touched. -/
def Footprint.OfEvents : Footprint → Prop
  | event _ => True
  | attributes .event _ => True
  | _ => False

/-- The single changes of a store. What they write has passed its checks. -/
inductive Change [Regex.Library] (settings : Settings) : Footprint → Store → Store → Prop
  | insertEvent {s s' : Store} {id : RowId} (e : Event) (he : e.check settings = .ok ())
      (h : s.insertEvent e.cells = .ok (id, s')) : Change settings (.event id) s s'
  | updateEvent {s s' : Store} {id : RowId} (e : Event) (he : e.check settings = .ok ())
      (h : s.updateEvent id e.cells = .ok s') : Change settings (.event id) s s'
  | insertCatalogue {s s' : Store} {id : RowId} (c : Catalogue) (hc : c.check settings = .ok ())
      (h : s.insertCatalogue c.cells = .ok (id, s')) : Change settings (.catalogue id) s s'
  | updateCatalogue {s : Store} {id : RowId} (c : Catalogue) (hc : c.check settings = .ok ()) :
      Change settings (.catalogue id) s (s.updateCatalogue id c.cells)
  | addMember {s s' : Store} {new : Bool} {catalogue : RowId} (event : RowId)
      (h : s.addMember catalogue event = .ok (new, s')) : Change settings (.members catalogue) s s'
  | removeMember {s : Store} {catalogue : RowId} (event : RowId) :
      Change settings (.members catalogue) s (s.removeMember catalogue event).2
  | putAttribute {s s' : Store} {kind : EntityKind} {owner : RowId} (key : String) (v : Value)
      (hv : settings.keyPolicy.accepts key = true ∧ v.Storable)
      (h : s.putAttribute kind owner key (.ofValue v) = .ok s') :
      Change settings (.attributes kind owner) s s'
  | removeAttribute {s : Store} {kind : EntityKind} {owner : RowId} (key : String) :
      Change settings (.attributes kind owner) s (s.removeAttribute kind owner key).2

section Attributes

variable [Regex.Library] {settings : Settings} {kind : EntityKind} {owner : RowId}
  {R : Store → Store → Prop} (hR : ∀ s s', Change settings (.attributes kind owner) s s' → R s s')

include hR

theorem moves_setAttribute (key : String) (v : Value) :
    Moves R (setAttribute settings.keyPolicy kind owner key v) := by
  refine Work.moves_check_bind fun _ hcheck => Work.moves_change fun s _ s' hput => ?_
  have hv := KeyPolicy.checkAttribute_eq_ok.1 hcheck
  exact .single (hR _ _ (.putAttribute key v hv (map_pair_eq_ok.1 hput)))

theorem moves_dropAttribute (key : String) : Moves R (dropAttribute kind owner key) := by
  refine Work.moves_change fun s b s' h => ?_
  have hs' : (s.removeAttribute kind owner key).2 = s' := congrArg Prod.snd (Except.ok.inj h)
  rw [← hs']
  exact .single (hR _ _ (.removeAttribute key))

theorem moves_syncAttributes (a : Attributes) :
    Moves R (syncAttributes settings.keyPolicy kind owner a) := by
  refine .bind (Work.moves_look _) fun _ => .bind (Work.moves_look _) fun stored =>
    .bind (.forM fun key _ => .bind (moves_dropAttribute hR key) fun _ => .pure _) fun _ =>
      .forM fun (key, v) _ => ?_
  dsimp only
  split
  · exact .pure _
  · exact moves_setAttribute hR key v

end Attributes

end Chronicle.Store
