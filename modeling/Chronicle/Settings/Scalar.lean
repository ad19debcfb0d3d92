import Chronicle.Settings.Setting
import Chronicle.Timestamp.Basic

/-! # Unquoted values of settings files

Truth values, numbers, dates and times. An underscore may stand between two digits, and apart from zero
itself no decimal number starts with a zero. -/
namespace Chronicle.Settings.Scalar
open Text

/-- Digits of a base without the underscores between them. -/
def plainDigits? (isDigit : Char → Bool) : List Char → Option (List Char)
  | [] => none
  | [c] => if isDigit c then some [c] else none
  | c :: '_' :: d :: rest =>
    if isDigit c then (plainDigits? isDigit (d :: rest)).map (c :: ·) else none
  | c :: rest => if isDigit c then (plainDigits? isDigit rest).map (c :: ·) else none

def digitOf (c : Char) : Nat :=
  if c.isDigit then digitValue c
  else if 'a' ≤ c ∧ c ≤ 'z' then c.toNat - 'a'.toNat + 10
  else c.toNat - 'A'.toNat + 10

def isDigitBelow (base : Nat) (c : Char) : Bool := c.isAlphanum && decide (digitOf c < base)

def natOfBase (base : Nat) (cs : List Char) : Nat := cs.foldl (fun n c => base * n + digitOf c) 0

def fits64 (i : Int) : Bool :=
  decide (Int64.minValue.toInt ≤ i) && decide (i ≤ Int64.maxValue.toInt)

def based? (base : Nat) (cs : List Char) : Option Setting := do
  let ds ← plainDigits? (isDigitBelow base) cs
  let i : Int := natOfBase base ds
  if fits64 i then some (.integer i) else none

/-- Digits before the point. -/
def wholeDigits? (cs : List Char) : Option (List Char) :=
  (plainDigits? Char.isDigit cs).filter fun ds => ds.length == 1 || ds.head? != some '0'

def signed (negative : Bool) (n : Nat) : Int := if negative then -(n : Int) else n

def isExponentMark (c : Char) : Bool := c == 'e' || c == 'E'

/-- An integer, or a number with a fraction or an exponent or both. -/
def decimal? (negative : Bool) (cs : List Char) : Option Setting := do
  let mantissa := cs.takeWhile fun c => !isExponentMark c
  let whole ← wholeDigits? (mantissa.takeWhile (· != '.'))
  let fraction ← match mantissa.dropWhile (· != '.') with
    | [] => some []
    | _ :: fs => plainDigits? Char.isDigit fs
  let exponent ← match cs.dropWhile fun c => !isExponentMark c with
    | [] => some none
    | _ :: es =>
      let (negative, es) := Binary64.readSign es
      (plainDigits? Char.isDigit es).map fun ds => some (signed negative (natOfDigits ds))
  if fraction.isEmpty && exponent.isNone then
    let i := signed negative (natOfDigits whole)
    if fits64 i then some (.integer i) else none
  else
    let n : Binary64.Numeral := ⟨negative, whole ++ fraction, exponent.getD 0 - fraction.length, false⟩
    let x := n.toBinary64
    if x.isInfinite then none else some (.float x)

def number? (cs : List Char) : Option Setting :=
  match cs with
  | '0' :: 'x' :: rest => based? 16 rest
  | '0' :: 'o' :: rest => based? 8 rest
  | '0' :: 'b' :: rest => based? 2 rest
  | _ =>
    let (negative, cs) := Binary64.readSign cs
    match cs with
    | ['i', 'n', 'f'] => some (.float (.infinite negative))
    | ['n', 'a', 'n'] => some (.float .quietNaN)
    | cs => decimal? negative cs

/-! ## Dates and times -/

def twoDigits? : List Char → Option (Nat × List Char)
  | a :: b :: rest =>
    if a.isDigit && b.isDigit then some (natOfDigits [a, b], rest) else none
  | _ => none

/-- A date, and the text behind it. -/
def date? (cs : List Char) : Option (List Char) :=
  let year := cs.take 4
  if year.length = 4 ∧ year.all Char.isDigit then
    match cs.drop 4 with
    | '-' :: cs => do
      let (month, cs) ← twoDigits? cs
      match cs with
      | '-' :: cs =>
        let (day, cs) ← twoDigits? cs
        let days := Timestamp.daysIn (natOfDigits year : Nat) month
        if 1 ≤ month ∧ month ≤ 12 ∧ 1 ≤ day ∧ day ≤ days then some cs else none
      | _ => none
    | _ => none
  else none

/-- Hours and minutes below their limits. -/
def hourMinute? (cs : List Char) : Option (List Char) := do
  let (hour, cs) ← twoDigits? cs
  match cs with
  | ':' :: cs =>
    let (minute, cs) ← twoDigits? cs
    if hour < 24 ∧ minute < 60 then some cs else none
  | _ => none

/-- Nine digits of a fraction without the zeros at their end. -/
def shortFraction (ds : List Char) : List Char :=
  match ((ds.take 9).reverse.dropWhile (· == '0')).reverse with
  | [] => []
  | ds => '.' :: ds

/-- A time of day as it is shown, and the text behind it. -/
def time? (cs : List Char) : Option (List Char × List Char) := do
  let rest ← hourMinute? cs
  match rest with
  | ':' :: rest =>
    let (second, rest) ← twoDigits? rest
    if 60 < second then none
    else
      let shown := cs.take 8
      match rest with
      | '.' :: fs =>
        let ds := fs.takeWhile Char.isDigit
        if ds.isEmpty then none else some (shown ++ shortFraction ds, fs.dropWhile Char.isDigit)
      | _ => some (shown, rest)
  | _ => none

/-- The distance to universal time as it is shown. -/
def offset? (cs : List Char) : Option (List Char) :=
  match cs with
  | [] => some []
  | ['z'] | ['Z'] => some ['Z']
  | sign :: rest =>
    if sign = '+' ∨ sign = '-' then
      match hourMinute? rest with
      | some [] => some cs
      | _ => none
    else none

/-- A date, a time of day, or both with an offset or without; the value is its text. -/
def moment? (cs : List Char) : Option Setting :=
  let text (cs : List Char) : Setting := .text (String.ofList cs)
  match date? cs with
  | some [] => some (text cs)
  | some (mark :: rest) =>
    if mark = 'T' ∨ mark = 't' ∨ mark = ' ' then do
      let (time, rest) ← time? rest
      let offset ← offset? rest
      some (text (cs.take 10 ++ 'T' :: time ++ offset))
    else none
  | none =>
    match time? cs with
    | some (time, []) => some (text time)
    | _ => none

def read? (cs : List Char) : Option Setting :=
  match cs with
  | ['t', 'r', 'u', 'e'] => some (.boolean true)
  | ['f', 'a', 'l', 's', 'e'] => some (.boolean false)
  | cs => (moment? cs).or (number? cs)

end Chronicle.Settings.Scalar
