import Chronicle.Binary64.Numeral
import Chronicle.Binary64.Text

/-! # Values of settings

Sources of settings have values of their own kinds, which are turned into what a member needs. Values from
the environment are texts of which the kind is guessed. -/
namespace Chronicle
open Text

inductive Setting
  | nothing
  | boolean (b : Bool)
  | integer (i : Int)
  | float (x : Binary64)
  | text (s : String)
  /-- A list or a table. -/
  | compound
deriving DecidableEq

namespace Setting

/-- The small letter of a character. Among those that are not ASCII the Kelvin sign alone has one that is; the
others stay as they are. -/
def smallLetter (c : Char) : Char := if c = '\u212a' then 'k' else c.toLower

def small (s : String) : String := String.ofList (s.toList.map smallLetter)

def booleanOfName? : String → Option Bool
  | "1" | "true" | "on" | "yes" => some true
  | "0" | "false" | "off" | "no" => some false
  | _ => none

/-- Every number but zero is true, and some words stand for truth values in any case. -/
def asBoolean? : Setting → Option Bool
  | boolean b => some b
  | integer i => some (i != 0)
  | float x => some (x.pattern != 0)
  | text s => booleanOfName? (small s)
  | nothing | compound => none

def asText? : Setting → Option String
  | boolean true => some "true"
  | boolean false => some "false"
  | integer i => some (toString i)
  | float x => some x.text
  | text s => some s
  | nothing | compound => none

/-- The integer of 64 bits that a text writes, with a sign or without. -/
def integerOfText? (cs : List Char) : Option Int :=
  match Binary64.Numeral.read? cs with
  | some (n, []) => n.toInt?.filter fun i =>
      decide (Int64.minValue.toInt ≤ i) && decide (i ≤ Int64.maxValue.toInt)
  | _ => none

/-- A truth value in any case, or else an integer, or else a number, or else the text itself. -/
def guess (s : String) : Setting :=
  match small s with
  | "true" => boolean true
  | "false" => boolean false
  | _ =>
    match integerOfText? s.toList with
    | some i => integer i
    | none =>
      match Binary64.ofText? s.toList with
      | some x => float x
      | none => text s

end Setting

end Chronicle
