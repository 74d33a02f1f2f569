import PlateSolver.Toml.Quoted
import PlateSolver.Toml.Table

/-!
# The statements of a document

A document is a sequence of statements on lines of their own: a key with its
value, or a header that says which table the following keys belong to.

* `Statement` — the kinds of statements.
* `path?`, `value?`, `statement?` — each read from the start of a text, with what
  follows it.
* `statements?` — all statements of a text.

## Design decisions

Reading is by fuel.  Every step takes a character off the text or opens a list or
a table that does, so the length of the text says how much is needed, and running
out is the same as a text that is no document.  Lists and tables may be nested to
a fixed depth only, and a path may have that many keys.
-/

namespace PlateSolver.Toml

/-- **Statement.** Keys are paths: `a.b` is the key `b` of the table `a`. -/
inductive Statement where
  /-- A key gets a value. -/
  | assign (path : List String) (value : Value)
  /-- The following keys belong to a table. -/
  | header (path : List String)
  /-- The following keys belong to a further table of a list of tables. -/
  | element (path : List String)

/-- Lists and tables may be nested this deep, and a path may have this many keys. -/
def depthLimit : Nat := 80

/-- The text after blanks. -/
def afterSpace (text : List Char) : List Char := text.dropWhile isSpace

/-- The text after a remark, if there is one. -/
def afterRemark : List Char → List Char
  | '#' :: rest => rest.dropWhile (· != '\n')
  | text => text

/-- The text after blanks, line ends and remarks. -/
def afterFiller (inRemark : Bool) : List Char → List Char
  | [] => []
  | c :: rest =>
    if c == '\n' then afterFiller false rest
    else if inRemark || c == '#' then afterFiller true rest
    else if isSpace c then afterFiller false rest
    else c :: rest

/-- The text after the end of a line, which the end of the text is as well. -/
def afterLine? (text : List Char) : Option (List Char) :=
  match afterRemark (afterSpace text) with
  | [] => some []
  | '\n' :: rest => some rest
  | _ => none

/-- A character of a key without quotes. -/
def isKey (c : Char) : Bool := isLetter c || Literal.isDigit c || c == '-' || c == '_'

/-- A single key at the start of a text, and what follows it. -/
def key? (text : List Char) : Option (String × List Char) :=
  let run := text.takeWhile isKey
  if run.isEmpty then quotedLine? text
  else some (String.ofList run, text.dropWhile isKey)

/-- At most `limit` keys between points at the start of a text, and what follows them
and their blanks. -/
def keys? : (limit : Nat) → List Char → Option (List String × List Char)
  | 0, _ => none
  | limit + 1, text => do
    let (key, rest) ← key? text
    match afterSpace rest with
    | '.' :: rest =>
      let (keys, rest) ← keys? limit (afterSpace rest)
      return (key :: keys, rest)
    | rest => return ([key], rest)

/-- The path at the start of a text, and what follows it and its blanks. -/
def path? (text : List Char) : Option (List String × List Char) := keys? depthLimit text

/-- A value that is neither a list nor a table, at the start of a text, and what follows it. -/
def simple? (text : List Char) : Option (Value × List Char) :=
  match quoted? text with
  | some (content, rest) => some (.text content, rest)
  | none => bare? text

mutual

/-- The value at the start of a text, and what follows it; `depth` lists and tables
may still be opened. -/
def value? : (fuel depth : Nat) → List Char → Option (Value × List Char)
  | 0, _, _ => none
  | fuel + 1, depth, text =>
    match text, depth with
    | '[' :: rest, depth + 1 => do
      let (items, rest) ← items? fuel depth (afterFiller false rest)
      return (.list items, rest)
    | '\x7b' :: rest, depth + 1 => do
      let (entries, rest) ← entries? fuel depth [] (afterFiller false rest)
      return (.table .closed entries, rest)
    | text, _ => simple? text

/-- The values up to a closing bracket, with commas between them and possibly one at the end. -/
def items? : (fuel depth : Nat) → List Char → Option (List Value × List Char)
  | 0, _, _ => none
  | fuel + 1, depth, text =>
    match text with
    | ']' :: rest => some ([], rest)
    | text => do
      let (item, rest) ← value? fuel depth text
      match afterFiller false rest with
      | ']' :: rest => return ([item], rest)
      | ',' :: rest =>
        let (items, rest) ← items? fuel depth (afterFiller false rest)
        return (item :: items, rest)
      | _ => none

/-- The keys with their values up to a closing brace, added to a table. -/
def entries? : (fuel depth : Nat) → Table → List Char → Option (Table × List Char)
  | 0, _, _, _ => none
  | fuel + 1, depth, table, text =>
    match text with
    | '\x7d' :: rest => some (table, rest)
    | text => do
      let (path, rest) ← path? text
      match afterFiller false rest with
      | '=' :: rest =>
        let (value, rest) ← value? fuel depth (afterFiller false rest)
        let table ← table.assign value path
        match afterFiller false rest with
        | '\x7d' :: rest => return (table, rest)
        | ',' :: rest => entries? fuel depth table (afterFiller false rest)
        | _ => none
      | _ => none

end

/-- The statement at the start of a text, and what follows it. -/
def statement? (fuel : Nat) (text : List Char) : Option (Statement × List Char) :=
  match text with
  | '[' :: '[' :: rest => do
    let (path, rest) ← path? (afterSpace rest)
    match rest with
    | ']' :: ']' :: rest => return (.element path, rest)
    | _ => none
  | '[' :: rest => do
    let (path, rest) ← path? (afterSpace rest)
    match rest with
    | ']' :: rest => return (.header path, rest)
    | _ => none
  | text => do
    let (path, rest) ← path? text
    match rest with
    | '=' :: rest =>
      let (value, rest) ← value? fuel depthLimit (afterSpace rest)
      return (.assign path value, rest)
    | _ => none

/-- The statements of a text.  `inner` is the fuel of each of them. -/
def statementsFrom? (inner : Nat) : (fuel : Nat) → List Char → Option (List Statement)
  | 0, _ => none
  | fuel + 1, text =>
    match afterRemark (afterSpace text) with
    | [] => some []
    | '\n' :: rest => statementsFrom? inner fuel rest
    | start => do
      let (statement, rest) ← statement? inner start
      let rest ← afterLine? rest
      let more ← statementsFrom? inner fuel rest
      return statement :: more

/-- All statements of a text. -/
def statements? (text : List Char) : Option (List Statement) :=
  statementsFrom? (2 * text.length + 2) (text.length + 1) text

end PlateSolver.Toml
