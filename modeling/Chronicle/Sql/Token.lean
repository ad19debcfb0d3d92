import Chronicle.Value

/-! # The tokens of a text

Letters, digits and underscores that stand together are one lexeme, so are the characters of operators, and
any other character is a lexeme by itself. Blanks only separate. The question marks stand for the
parameters, one after the other. -/
namespace Chronicle.Sql

inductive CharClass
  | word
  | operator
  | blank
  | single
deriving DecidableEq

def CharClass.of (c : Char) : CharClass :=
  if c.isAlphanum || c == '_' then .word
  else if c == '<' || c == '=' || c == '>' then .operator
  else if c == ' ' then .blank
  else .single

def CharClass.sticks : CharClass → Bool
  | word | operator => true
  | blank | single => false

/-- Whether two characters that stand together belong to one lexeme. -/
def glued (c d : Char) : Bool := CharClass.of c == CharClass.of d && (CharClass.of c).sticks

/-- The lexemes and blanks of a text. -/
def pieces (text : String) : List (List Char) := text.toList.splitBy glued

def lexemes (text : String) : List String :=
  ((pieces text).filter fun p => p != [' ']).map String.ofList

/-- A lexeme, or the value that a question mark stands for. -/
inductive Token
  | lexeme (text : String)
  | bound (v : Value)

/-- There must be as many parameters as question marks. -/
def tokens? : List String → List Value → Option (List Token)
  | [], [] => some []
  | [], _ :: _ => none
  | l :: ls, vs =>
    if l = "?" then
      match vs with
      | [] => none
      | v :: vs => (tokens? ls vs).map (.bound v :: ·)
    else (tokens? ls vs).map (.lexeme l :: ·)

def keywords : List String :=
  ["and", "by", "exists", "from", "not", "or", "order", "regexp", "select", "where"]

/-- Whether a lexeme can be the name of a column or a table. -/
def isName (l : String) : Bool :=
  l.toList.head?.any (fun c => c.isAlpha || c == '_') && l.toList.all (CharClass.of · == .word) &&
    !keywords.contains l

end Chronicle.Sql
