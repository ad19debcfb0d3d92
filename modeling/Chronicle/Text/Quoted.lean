import Chronicle.Unicode.Property

/-! # Quoted text

Text between quotation marks in which a quotation mark, a backslash and every character without a
visible form of its own are escaped. -/
namespace Chronicle.Text
open Unicode

/-- Control, format, private and unassigned characters, and all separators but the space. -/
def formlessSet : CharSet :=
  (ofCategories ["Cc", "Cf", "Cs", "Co", "Cn", "Zl", "Zp", "Zs"]).diff (.singleton ' ')

/-- Characters that only modify the one before them. -/
def extendingSet : CharSet := property "graphemeextend"

def isPlain (c : Char) : Bool :=
  if c.toNat < 0x7f then decide (0x20 ≤ c.toNat)
  else !formlessSet.contains c.toNat && !extendingSet.contains c.toNat

def escapeByNumber (c : Char) : List Char :=
  '\\' :: 'u' :: '\x7b' :: Nat.toDigits 16 c.toNat ++ ['\x7d']

def escape (c : Char) : List Char :=
  match c with
  | '\x00' => ['\\', '0']
  | '\t' => ['\\', 't']
  | '\r' => ['\\', 'r']
  | '\n' => ['\\', 'n']
  | '"' => ['\\', '"']
  | '\\' => ['\\', '\\']
  | c => if isPlain c then [c] else escapeByNumber c

def quoted (s : String) : String :=
  String.ofList ('"' :: s.toList.flatMap escape ++ ['"'])

end Chronicle.Text
