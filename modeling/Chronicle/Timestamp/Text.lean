import Chronicle.Text.Blank
import Chronicle.Text.Digits
import Chronicle.Timestamp.Basic

/-! # Written forms of points in time

Three forms are written: the stored one, of fixed width for the years 0 to 9999, the shown one and the
interchange one, which drop a fraction of zero. The stored and the interchange form are read back; a
reader is a list of pieces, each of which takes its part from the front of the text. -/
namespace Chronicle.Timestamp
open Text

/-- Four digits; before year 0 and after year 9999 a sign goes in front. -/
def yearText (year : Int) : List Char :=
  if 0 ≤ year ∧ year ≤ 9999 then padded 4 year.natAbs
  else (if year < 0 then '-' else '+') :: padded 4 year.natAbs

def dateText (t : Timestamp) : List Char :=
  yearText t.year ++ '-' :: padded 2 t.month ++ '-' :: padded 2 t.day

def clockText (t : Timestamp) : List Char :=
  padded 2 t.hour ++ ':' :: padded 2 t.minute ++ ':' :: padded 2 t.shownSecond

/-- No fraction, or the first of three, six and nine digits that loses nothing. -/
def briefFraction (nanosecond : Nat) : List Char :=
  if nanosecond = 0 then []
  else if nanosecond % 1000000 = 0 then '.' :: padded 3 (nanosecond / 1000000)
  else if nanosecond % 1000 = 0 then '.' :: padded 6 (nanosecond / 1000)
  else '.' :: padded 9 nanosecond

def storedChars (t : Timestamp) : List Char :=
  t.dateText ++ ' ' :: t.clockText ++ '.' :: padded 9 t.shownNanosecond

def storedText (t : Timestamp) : String := String.ofList t.storedChars

def shownText (t : Timestamp) : String :=
  String.ofList (t.dateText ++ ' ' :: t.clockText ++ briefFraction t.shownNanosecond)

def interchangeText (t : Timestamp) : String :=
  String.ofList (t.dateText ++ 'T' :: t.clockText ++ briefFraction t.shownNanosecond)

/-! ## Reading -/

/-- A part of a written time. -/
inductive Piece
  | year
  | month
  | day
  | hour
  | minute
  | second
  /-- The point and exactly nine digits, or nothing. -/
  | fullFraction
  /-- The point and any digits, of which nine count, or nothing. -/
  | looseFraction
  /-- White space of any length. -/
  | blanks
  | mark (c : Char)

/-- A year without a sign has at most four digits. -/
def readYear? (cs : List Char) : Option (Int × List Char) :=
  match cs with
  | '-' :: rest => (readNat? rest.length rest).map fun (n, r) => (-(n : Int), r)
  | '+' :: rest => (readNat? rest.length rest).map fun (n, r) => ((n : Int), r)
  | _ => (readNat? 4 cs).map fun (n, r) => ((n : Int), r)

/-- The first nine digits as nanoseconds, missing ones being zero. -/
def nanosOfDigits (ds : List Char) : Nat :=
  natOfDigits (ds.take 9 ++ List.replicate (9 - ds.length) '0')

/-- White space before a number is passed over. -/
def Piece.read? (piece : Piece) (f : Fields) (cs : List Char) : Option (Fields × List Char) :=
  let number (set : Nat → Fields) := (readNat? 2 (skipBlanks cs)).map fun (n, r) => (set n, r)
  match piece with
  | .year => (readYear? (skipBlanks cs)).map fun (y, r) => ({ f with year := y }, r)
  | .month => number fun n => { f with month := n }
  | .day => number fun n => { f with day := n }
  | .hour => number fun n => { f with hour := n }
  | .minute => number fun n => { f with minute := n }
  | .second => number fun n => { f with second := n }
  | .fullFraction =>
    match cs with
    | '.' :: rest =>
      let (ds, r) := spanDigits 9 rest
      if ds.length = 9 then some ({ f with nanosecond := natOfDigits ds }, r) else none
    | _ => some (f, cs)
  | .looseFraction =>
    match cs with
    | '.' :: rest =>
      let (ds, r) := spanDigits rest.length rest
      if ds.isEmpty then none else some ({ f with nanosecond := nanosOfDigits ds }, r)
    | _ => some (f, cs)
  | .blanks => some (f, skipBlanks cs)
  | .mark c =>
    match cs with
    | d :: rest => if d = c then some (f, rest) else none
    | [] => none

def readPieces? : List Piece → Fields → List Char → Option (Fields × List Char)
  | [], f, cs => some (f, cs)
  | piece :: rest, f, cs => (piece.read? f cs).bind fun (f', cs') => readPieces? rest f' cs'

/-- Second 60 is second 59 with a further thousand million nanoseconds. -/
def Fields.foldLeap (f : Fields) : Fields :=
  if f.second = 60 then { f with second := 59, nanosecond := f.nanosecond + secondLength } else f

def noFields : Fields := ⟨0, 0, 0, 0, 0, 0, 0⟩

/-- Reads a whole text by its pieces. -/
def read? (pieces : List Piece) (cs : List Char) : Option Timestamp :=
  match readPieces? pieces noFields cs with
  | some (f, []) => ofFields? f.foldLeap
  | _ => none

def storedPieces : List Piece :=
  [.year, .mark '-', .month, .mark '-', .day, .blanks, .hour, .mark ':', .minute, .mark ':',
    .second, .fullFraction]

def interchangePieces : List Piece :=
  [.year, .blanks, .mark '-', .month, .blanks, .mark '-', .day, .blanks, .mark 'T', .hour, .blanks,
    .mark ':', .minute, .blanks, .mark ':', .second, .looseFraction, .blanks]

def ofStoredText? (s : String) : Option Timestamp := read? storedPieces s.toList

def ofInterchangeText? (s : String) : Option Timestamp := read? interchangePieces s.toList

end Chronicle.Timestamp
