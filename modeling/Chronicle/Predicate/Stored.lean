import Chronicle.Digest.Blake3
import Chronicle.Error
import Chronicle.Predicate.Codec

/-! # Stored predicates

The bytes of a predicate are stored with their digest, so bytes that were changed are not read. -/
namespace Chronicle.Predicate
open Text

structure Stored where
  bytes : Option Utf8.Bytes
  digest : Option String
deriving DecidableEq

def Stored.of (p : Option Predicate) : Stored :=
  match p.map toBytes with
  | none => ⟨none, none⟩
  | some bytes => ⟨some bytes, some (Blake3.hexDigest bytes)⟩

/-- Reads the predicate of a catalogue. -/
def Stored.read (s : Stored) (catalogue : String) : Except Error (Option Predicate) :=
  match s.bytes, s.digest with
  | none, none => .ok none
  | some bytes, some digest =>
    if Blake3.hexDigest bytes ≠ digest then .error (.corruptRow (.digestMismatch catalogue))
    else match ofBytes? bytes with
      | some p => .ok (some p)
      | none => .error (.corruptRow (.unreadablePredicate catalogue))
  | _, _ => .error (.corruptRow (.predicateWithoutDigest catalogue))

end Chronicle.Predicate
