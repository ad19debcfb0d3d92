import Chronicle.Json.Token

/-! # Trees of interchange text

A tree is built from its tokens by a machine with a stack of the arrays and objects that are still open,
so any depth can be read. Writing a tree puts nothing between the tokens. -/
namespace Chronicle

inductive Json
  | null
  | bool (b : Bool)
  | number (n : Json.Numeral)
  | text (l : Json.Literal)
  | array (items : List Json)
  | object (members : List (Json.Literal × Json))

namespace Json
open Text Utf8

mutual

def tokens : Json → List Token
  | null => [.null]
  | bool b => [.bool b]
  | number n => [.number n]
  | text l => [.text l]
  | array items => .openArray :: itemTokens items ++ [.closeArray]
  | object members => .openObject :: memberTokens members ++ [.closeObject]

def itemTokens : List Json → List Token
  | [] => []
  | [j] => j.tokens
  | j :: rest => j.tokens ++ .comma :: itemTokens rest

def memberTokens : List (Literal × Json) → List Token
  | [] => []
  | [(k, j)] => .text k :: .colon :: j.tokens
  | (k, j) :: rest => .text k :: .colon :: j.tokens ++ .comma :: memberTokens rest

end

def chars (j : Json) : List Char := j.tokens.flatMap Token.chars

/-- An array or object that is still open, what it holds so far in reverse. -/
inductive Frame
  | items (done : List Json)
  | members (done : List (Literal × Json)) (key : Literal)

/-- What may come next. -/
inductive Stage
  | value
  | firstItem
  | firstKey (done : List (Literal × Json))
  | key (done : List (Literal × Json))
  | colon (done : List (Literal × Json)) (key : Literal)
  | closed (j : Json)

structure Builder where
  stack : List Frame
  stage : Stage

namespace Builder

def take (b : Builder) (j : Json) : Option Builder :=
  match b.stage with
  | .value | .firstItem => some { b with stage := .closed j }
  | _ => none

/-- Opens an array or object where a value may stand. -/
def opens (b : Builder) (t : Token) : Option Builder :=
  match b.stage with
  | .value | .firstItem =>
    match t with
    | .openArray => some ⟨.items [] :: b.stack, .firstItem⟩
    | _ => some ⟨b.stack, .firstKey []⟩
  | _ => none

def step (b : Builder) (t : Token) : Option Builder :=
  match t with
  | .null => b.take .null
  | .bool v => b.take (.bool v)
  | .number n => b.take (.number n)
  | .text l =>
    match b.stage with
    | .firstKey done | .key done => some { b with stage := .colon done l }
    | _ => b.take (.text l)
  | .openArray | .openObject => b.opens t
  | .colon =>
    match b.stage with
    | .colon done key => some ⟨.members done key :: b.stack, .value⟩
    | _ => none
  | .comma =>
    match b.stage, b.stack with
    | .closed j, .items done :: rest => some ⟨.items (j :: done) :: rest, .value⟩
    | .closed j, .members done key :: rest => some ⟨rest, .key ((key, j) :: done)⟩
    | _, _ => none
  | .closeArray =>
    match b.stage, b.stack with
    | .firstItem, .items _ :: rest => some ⟨rest, .closed (.array [])⟩
    | .closed j, .items done :: rest => some ⟨rest, .closed (.array (j :: done).reverse)⟩
    | _, _ => none
  | .closeObject =>
    match b.stage, b.stack with
    | .firstKey _, rest => some ⟨rest, .closed (.object [])⟩
    | .closed j, .members done key :: rest =>
      some ⟨rest, .closed (.object ((key, j) :: done).reverse)⟩
    | _, _ => none

def run (b : Builder) : List Token → Option Builder
  | [] => some b
  | t :: rest => (b.step t).bind fun b' => run b' rest

end Builder

def ofTokens? (ts : List Token) : Option Json :=
  match Builder.run ⟨[], .value⟩ ts with
  | some ⟨[], .closed j⟩ => some j
  | _ => none

def parse? (bytes : Bytes) : Option Json := (Token.lex? bytes).bind ofTokens?

end Json

end Chronicle
