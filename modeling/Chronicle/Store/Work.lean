import Chronicle.KeyPolicy
import Chronicle.Store.Basic

/-! # Work on a store

Work changes a store step by step and may fail. What it wrote before it failed stays, unless the work is a
transaction. -/
namespace Chronicle

abbrev Work (α : Type) := EStateM Error Store α

namespace Work

variable {α : Type}

/-- Looks at the store. -/
def look (f : Store → Except Error α) : Work α := fun s =>
  match f s with
  | .ok a => .ok a s
  | .error e => .error e s

/-- A single change, which happens as a whole or not at all. -/
def change (f : Store → Except StoreFault (α × Store)) : Work α := fun s =>
  match f s with
  | .ok (a, s') => .ok a s'
  | .error e => .error (.store e) s

def check (x : Except Error α) : Work α := look fun _ => x

/-- Work that leaves the store as it was when it fails. -/
def transaction (w : Work α) : Work α := fun s =>
  match w s with
  | .ok a s' => .ok a s'
  | .error e _ => .error e s

end Work

namespace KeyPolicy

def check (p : KeyPolicy) (key : String) : Except Error Unit :=
  if p.accepts key then .ok () else .error (.invalidKey key)

/-- Refuses an attribute that cannot be stored. -/
def checkAttribute (p : KeyPolicy) (key : String) (v : Value) : Except Error Unit := do
  p.check key
  v.check key

def checkEntries (p : KeyPolicy) : List (String × Value) → Except Error Unit
  | [] => .ok ()
  | (key, v) :: rest => do
    p.checkAttribute key v
    p.checkEntries rest

def checkAttributes (p : KeyPolicy) (attributes : Attributes) : Except Error Unit :=
  p.checkEntries attributes.entries

end KeyPolicy

namespace Store

def setAttribute (p : KeyPolicy) (kind : EntityKind) (owner : RowId) (key : String) (v : Value) :
    Work Unit := do
  Work.check (p.checkAttribute key v)
  Work.change fun s => (s.putAttribute kind owner key (.ofValue v)).map ((), ·)

def dropAttribute (kind : EntityKind) (owner : RowId) (key : String) : Work Bool :=
  Work.change fun s => .ok (s.removeAttribute kind owner key)

def loadAttributes (s : Store) (kind : EntityKind) (owner : RowId) : Except Error Attributes :=
  (s.attributes kind owner).read

/-- Makes the stored attributes of an owner those given. Everything is checked before the first change. -/
def syncAttributes (p : KeyPolicy) (kind : EntityKind) (owner : RowId) (attributes : Attributes) :
    Work Unit := do
  Work.check (p.checkAttributes attributes)
  let stored ← Work.look fun s => s.loadAttributes kind owner
  (stored.keys.filter fun key => !attributes.contains key).forM fun key => do
    let _ ← dropAttribute kind owner key
  attributes.entries.forM fun (key, v) =>
    if (stored.get? key).any (·.agrees v) then pure () else setAttribute p kind owner key v

end Store

end Chronicle
