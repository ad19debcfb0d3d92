import Chronicle.Regex.Pattern
import Chronicle.Unicode.Property

/-! # Positions that a pattern reaches

Where a pattern can lead is computed for many positions of a text at once. A set of positions is a number
whose bits stand for its members, so one operation on numbers moves all of them. -/
namespace Chronicle.Regex
open Unicode

abbrev Positions := Nat

/-- The characters before and after a position. -/
structure Place where
  before : Option Char
  after : Option Char

/-- One place before each character, and one at the end. -/
def placesFrom (before : Option Char) : List Char → List Place
  | [] => [⟨before, none⟩]
  | c :: rest => ⟨before, some c⟩ :: placesFrom (some c) rest

def places (text : List Char) : List Place := placesFrom none text

/-- The positions at which a condition holds. -/
def positionsWhere (p : Place → Bool) (text : List Place) : Positions :=
  text.foldr (fun place s => 2 * s + if p place then 1 else 0) 0

def isWordChar (ascii : Bool) : Option Char → Bool
  | none => false
  | some c =>
    if ascii then c.isAlphanum || c == '_' else wordSet.contains c.toNat

namespace Look

/-- Between a carriage return and a line feed no line starts or ends. -/
def holds (l : Look) (place : Place) : Bool :=
  let word (ascii : Bool) := (isWordChar ascii place.before, isWordChar ascii place.after)
  match l with
  | textStart => place.before.isNone
  | textEnd => place.after.isNone
  | lineStart => place.before.isNone || place.before == some '\n'
  | lineEnd => place.after.isNone || place.after == some '\n'
  | anyLineStart =>
    place.before.isNone || place.before == some '\n' ||
      (place.before == some '\r' && place.after != some '\n')
  | anyLineEnd =>
    place.after.isNone || place.after == some '\r' ||
      (place.after == some '\n' && place.before != some '\r')
  | wordBoundary ascii => (word ascii).1 != (word ascii).2
  | noWordBoundary ascii => (word ascii).1 == (word ascii).2
  | wordStart ascii => !(word ascii).1 && (word ascii).2
  | wordEnd ascii => (word ascii).1 && !(word ascii).2
  | wordStartHalf ascii => !(word ascii).1
  | wordEndHalf ascii => !(word ascii).2

end Look

/-- A pattern with the positions of one text at which each part of it can go on. -/
inductive Route
  /-- Passes one character at any of the positions. -/
  | step (s : Positions)
  /-- Stays, but only at the positions. -/
  | stay (s : Positions)
  | sequence (rs : List Route)
  | choice (rs : List Route)
  | repetition (r : Route) (least : Nat) (most : Option Nat)

mutual

def Pattern.route (text : List Place) : Pattern → Route
  | .empty => .sequence []
  | .set s => .step (positionsWhere (fun p => p.after.any fun c => s.contains c.toNat) text)
  | .look l => .stay (positionsWhere l.holds text)
  | .sequence ps => .sequence (routes text ps)
  | .choice ps => .choice (routes text ps)
  | .group p => p.route text
  | .repetition p least most => .repetition (p.route text) least most

def routes (text : List Place) : List Pattern → List Route
  | [] => []
  | p :: ps => p.route text :: routes text ps

end

/-- Applies a step a number of times; one that changes nothing ends the work. -/
def iterate (f : Positions → Positions) : Nat → Positions → Positions
  | 0, s => s
  | n + 1, s =>
    let s' := f s
    if s' = s then s else iterate f n s'

/-- All positions within a number of steps. -/
def spread (f : Positions → Positions) (n : Nat) (s : Positions) : Positions :=
  iterate (fun s => s ||| f s) n s

namespace Route

mutual

/-- The positions that can be reached from the given ones; `size` is the number of positions, after
which a repetition without a limit reaches no further. -/
def reach (size : Nat) : Route → Positions → Positions
  | step s', s => (s &&& s') <<< 1
  | stay s', s => s &&& s'
  | sequence rs, s => reachInTurn size rs s
  | choice rs, s => reachByAny size rs s
  | repetition r least most, s =>
    spread (fun s => r.reach size s) ((most.map (· - least)).getD size)
      (iterate (fun s => r.reach size s) least s)

def reachInTurn (size : Nat) : List Route → Positions → Positions
  | [], s => s
  | r :: rs, s => reachInTurn size rs (r.reach size s)

def reachByAny (size : Nat) : List Route → Positions → Positions
  | [], _ => 0
  | r :: rs, s => r.reach size s ||| reachByAny size rs s

end

end Route

end Chronicle.Regex
