import Chronicle.Settings.Scalar

/-! # Settings files of keys and tables

A file is a sequence of lines with a key and its value, under headers that open tables. Keys may be
dotted. No key is set twice, and no table is opened twice. -/
namespace Chronicle.Settings.Document

/-- How a table came to be: on the way to another one, by a dotted key, or by its header. -/
inductive Origin
  | passing
  | dotted
  | header
deriving DecidableEq

inductive Node
  | value (s : Setting)
  | table (origin : Origin) (entries : List (String × Node))
  /-- A list of tables, the latest first. -/
  | tables (items : List (List (String × Node)))

abbrev Entries := List (String × Node)

def find? (es : Entries) (key : String) : Option Node :=
  (es.find? fun e => e.1 == key).map Prod.snd

def put (es : Entries) (key : String) (n : Node) : Entries :=
  match es with
  | [] => [(key, n)]
  | e :: rest => if e.1 == key then (key, n) :: rest else e :: put rest key n

/-- Sets a value under a dotted key. A table with a header is not added to. -/
def setValue? (es : Entries) (s : Setting) : List String → Option Entries
  | [] => none
  | [key] => if (find? es key).isSome then none else some (put es key (.value s))
  | key :: path =>
    match find? es key with
    | none => (setValue? [] s path).map fun inner => put es key (.table .dotted inner)
    | some (.table .header _) => none
    | some (.table origin inner) =>
      (setValue? inner s path).map fun inner => put es key (.table origin inner)
    | some _ => none

/-- Changes the table at a path, making the tables on the way; of a list of tables the latest is meant. -/
def change? (f : Entries → Option Entries) (es : Entries) : List String → Option Entries
  | [] => f es
  | key :: path =>
    match find? es key with
    | none => (change? f [] path).map fun inner => put es key (.table .passing inner)
    | some (.table origin inner) =>
      (change? f inner path).map fun inner => put es key (.table origin inner)
    | some (.tables (latest :: items)) =>
      (change? f latest path).map fun latest => put es key (.tables (latest :: items))
    | some _ => none

def openTable? (key : String) (es : Entries) : Option Entries :=
  match find? es key with
  | none => some (put es key (.table .header []))
  | some (.table .passing inner) => some (put es key (.table .header inner))
  | some _ => none

def addTable? (key : String) (es : Entries) : Option Entries :=
  match find? es key with
  | none => some (put es key (.tables [[]]))
  | some (.tables items) => some (put es key (.tables ([] :: items)))
  | some _ => none

/-- Opens the table of a header. -/
def openAt? (path : List String) (last : String → Entries → Option Entries) (es : Entries) :
    Option Entries :=
  match path.getLast? with
  | none => none
  | some key => change? (last key) es path.dropLast

/-! ## Reading -/

/-- Text without control characters, lines ending with a line feed. -/
def normalized? : List Char → Option (List Char)
  | [] => some []
  | '\r' :: '\n' :: rest => (normalized? rest).map ('\n' :: ·)
  | c :: rest =>
    if c = '\t' ∨ c = '\n' ∨ 0x20 ≤ c.toNat ∧ c.toNat ≠ 0x7f then (normalized? rest).map (c :: ·)
    else none

def isBlank (c : Char) : Bool := c == ' ' || c == '\t'

def skipBlanks (cs : List Char) : List Char := cs.dropWhile isBlank

/-- Passes over blanks, line ends and comments; `inside` is set within a comment. -/
def skipLinesFrom (inside : Bool) : List Char → List Char
  | [] => []
  | c :: rest =>
    if inside then skipLinesFrom (c != '\n') rest
    else if isBlank c || c == '\n' then skipLinesFrom false rest
    else if c == '#' then skipLinesFrom true rest
    else c :: rest

def skipLines (cs : List Char) : List Char := skipLinesFrom false cs

/-- The rest of a line may hold a comment only. -/
def endLine? (cs : List Char) : Option (List Char) :=
  match skipBlanks cs with
  | [] => some []
  | '\n' :: rest => some rest
  | '#' :: rest => some (rest.dropWhile (· != '\n'))
  | _ => none

def escaped? : Char → Option Char
  | 'b' => some '\x08'
  | 't' => some '\t'
  | 'n' => some '\n'
  | 'f' => some '\x0c'
  | 'r' => some '\r'
  | '"' => some '"'
  | '\\' => some '\\'
  | _ => none

/-- A character by its number in so many hexadecimal digits. -/
def numbered? (count : Nat) (cs : List Char) : Option (Char × List Char) :=
  let ds := cs.take count
  if ds.length = count ∧ ds.all (Scalar.isDigitBelow 16) then
    let n := Scalar.natOfBase 16 ds
    if n.isValidChar then some (.ofNat n, cs.drop count) else none
  else none

/-- An escape after its backslash. -/
def readEscape? : List Char → Option (Char × List Char)
  | 'u' :: rest => numbered? 4 rest
  | 'U' :: rest => numbered? 8 rest
  | c :: rest => (escaped? c).map (·, rest)
  | [] => none

/-- A backslash at the end of a line joins it with the next text. -/
def joinLines? (cs : List Char) : Option (List Char) :=
  match skipBlanks cs with
  | '\n' :: rest => some (rest.dropWhile fun c => isBlank c || c == '\n')
  | _ => none

/-- The rest of a quoted text on one line; escapes count between double quotes only. -/
def readLine? (quote : Char) : Nat → List Char → List Char → Option (List Char × List Char)
  | 0, _, _ => none
  | fuel + 1, done, cs =>
    match cs with
    | [] => none
    | c :: rest =>
      if c = quote then some (done.reverse, rest)
      else if c = '\n' then none
      else if c = '\\' ∧ quote = '"' then
        (readEscape? rest).bind fun (d, rest) => readLine? quote fuel (d :: done) rest
      else readLine? quote fuel (c :: done) rest

/-- The rest of a quoted text of many lines. Up to two quotes may stand before the three that end it. -/
def readLines? (quote : Char) : Nat → List Char → List Char → Option (List Char × List Char)
  | 0, _, _ => none
  | fuel + 1, done, cs =>
    let quotes := (cs.takeWhile (· == quote)).length
    if 5 < quotes then none
    else if 3 ≤ quotes then
      some ((List.replicate (quotes - 3) quote ++ done).reverse, cs.drop quotes)
    else match cs with
      | [] => none
      | c :: rest =>
        if c = '\\' ∧ quote = '"' then
          match joinLines? rest with
          | some rest => readLines? quote fuel done rest
          | none => (readEscape? rest).bind fun (d, rest) => readLines? quote fuel (d :: done) rest
        else readLines? quote fuel (c :: done) rest

/-- A quoted text after its first quote; a line end right after three quotes does not count. -/
def readQuoted? (quote : Char) (cs : List Char) : Option (List Char × List Char) :=
  match cs with
  | c :: d :: rest =>
    if c = quote ∧ d = quote then
      match rest with
      | '\n' :: rest => readLines? quote (rest.length + 1) [] rest
      | _ => readLines? quote (rest.length + 1) [] rest
    else readLine? quote (cs.length + 1) [] cs
  | _ => readLine? quote (cs.length + 1) [] cs

def isBareKey (c : Char) : Bool := c.isAlphanum || c == '-' || c == '_'

def readKeyPart? (cs : List Char) : Option (String × List Char) :=
  match cs with
  | '"' :: rest => (readLine? '"' (rest.length + 1) [] rest).map fun (k, r) => (String.ofList k, r)
  | '\'' :: rest => (readLine? '\'' (rest.length + 1) [] rest).map fun (k, r) => (String.ofList k, r)
  | cs =>
    let name := cs.takeWhile isBareKey
    if name.isEmpty then none else some (String.ofList name, cs.dropWhile isBareKey)

/-- The parts of a key, with blanks around the dots. -/
def readKey? : Nat → List Char → Option (List String × List Char)
  | 0, _ => none
  | fuel + 1, cs => do
    let (part, rest) ← readKeyPart? (skipBlanks cs)
    match skipBlanks rest with
    | '.' :: more =>
      let (parts, rest) ← readKey? fuel more
      some (part :: parts, rest)
    | rest => some ([part], rest)

def endsScalar (c : Char) : Bool :=
  isBlank c || c == '\n' || c == ',' || c == ']' || c == '\x7d' || c == '#'

/-- An unquoted value. A date may be parted from its time by a space. -/
def readScalar? (cs : List Char) : Option (Setting × List Char) :=
  let word := cs.takeWhile fun c => !endsScalar c
  let rest := cs.dropWhile fun c => !endsScalar c
  match Scalar.date? word, rest with
  | some [], ' ' :: d :: more =>
    if d.isDigit then
      let more := d :: more
      let time := more.takeWhile fun c => !endsScalar c
      (Scalar.read? (word ++ ' ' :: time)).map (·, more.dropWhile fun c => !endsScalar c)
    else (Scalar.read? word).map (·, rest)
  | _, _ => (Scalar.read? word).map (·, rest)

mutual

def readValue? : Nat → List Char → Option (Setting × List Char)
  | 0, _ => none
  | fuel + 1, cs =>
    match cs with
    | '"' :: rest => (readQuoted? '"' rest).map fun (s, r) => (.text (String.ofList s), r)
    | '\'' :: rest => (readQuoted? '\'' rest).map fun (s, r) => (.text (String.ofList s), r)
    | '[' :: rest => readItems? fuel rest
    | '\x7b' :: rest =>
      match skipBlanks rest with
      | '\x7d' :: rest => some (.compound, rest)
      | rest => readMembers? fuel [] rest
    | cs => readScalar? cs

/-- The items of a list after its opening bracket or a comma. -/
def readItems? : Nat → List Char → Option (Setting × List Char)
  | 0, _ => none
  | fuel + 1, cs =>
    match skipLines cs with
    | ']' :: rest => some (.compound, rest)
    | cs => do
      let (_, rest) ← readValue? fuel cs
      match skipLines rest with
      | ',' :: rest => readItems? fuel rest
      | ']' :: rest => some (.compound, rest)
      | _ => none

/-- The members of a table on one line. -/
def readMembers? : Nat → Entries → List Char → Option (Setting × List Char)
  | 0, _, _ => none
  | fuel + 1, es, cs => do
    let (key, rest) ← readKey? (cs.length + 1) cs
    match rest with
    | '=' :: rest =>
      let (s, rest) ← readValue? fuel (skipBlanks rest)
      let es ← setValue? es s key
      match skipBlanks rest with
      | ',' :: rest => readMembers? fuel es rest
      | '\x7d' :: rest => some (.compound, rest)
      | _ => none
    | _ => none

end

/-- A header between its brackets. -/
def readHeader? (close : List Char) (cs : List Char) : Option (List String × List Char) := do
  let (path, rest) ← readKey? (cs.length + 1) cs
  if close.isPrefixOf rest then
    let rest ← endLine? (rest.drop close.length)
    some (path, rest)
  else none

/-- One header, or one key with its value; `path` is the table that is open. -/
def readStatement? (path : List String) (es : Entries) (cs : List Char) :
    Option (List String × Entries × List Char) :=
  match cs with
  | '[' :: '[' :: rest => do
    let (path, rest) ← readHeader? [']', ']'] rest
    let es ← openAt? path addTable? es
    some (path, es, rest)
  | '[' :: rest => do
    let (path, rest) ← readHeader? [']'] rest
    let es ← openAt? path openTable? es
    some (path, es, rest)
  | cs => do
    let (key, rest) ← readKey? (cs.length + 1) cs
    match rest with
    | '=' :: rest =>
      let (s, rest) ← readValue? (rest.length + 1) (skipBlanks rest)
      let rest ← endLine? rest
      let es ← change? (fun inner => setValue? inner s key) es path
      some (path, es, rest)
    | _ => none

def readEntries? : Nat → List String → Entries → List Char → Option Entries
  | 0, _, _, _ => none
  | fuel + 1, path, es, cs =>
    match skipLines cs with
    | [] => some es
    | cs => (readStatement? path es cs).bind fun (path, es, rest) => readEntries? fuel path es rest

def Node.setting : Node → Setting
  | value s => s
  | table _ _ => .compound
  | tables _ => .compound

/-- The settings at the top of a file. -/
def read? (text : String) : Option (List (String × Setting)) := do
  let cs ← normalized? text.toList
  let es ← readEntries? (cs.length + 1) [] [] cs
  some (es.map fun (key, n) => (key, n.setting))

end Chronicle.Settings.Document
