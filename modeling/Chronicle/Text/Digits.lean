/-! # Runs of decimal digits -/
namespace Chronicle.Text

def digits (n : Nat) : List Char := Nat.toDigits 10 n

/-- Digits of `n`, with leading zeros up to the given width. -/
def padded (width n : Nat) : List Char :=
  List.replicate (width - (digits n).length) '0' ++ digits n

def digitValue (c : Char) : Nat := c.toNat - '0'.toNat

/-- The number that a run of digits writes. -/
def natOfDigits (cs : List Char) : Nat := cs.foldl (fun n c => 10 * n + digitValue c) 0

/-- Takes at most `limit` leading digits. -/
def spanDigits : Nat → List Char → List Char × List Char
  | 0, cs => ([], cs)
  | _, [] => ([], [])
  | limit + 1, c :: cs =>
    if c.isDigit then
      let (ds, rest) := spanDigits limit cs
      (c :: ds, rest)
    else ([], c :: cs)

/-- A number of at least one and at most `limit` digits, and what follows it. -/
def readNat? (limit : Nat) (cs : List Char) : Option (Nat × List Char) :=
  match spanDigits limit cs with
  | ([], _) => none
  | (ds, rest) => some (natOfDigits ds, rest)

end Chronicle.Text
