import PlateSolver.Toml.Bare

/-!
# Quoted text in a document

A text stands between quotation marks or between apostrophes.  Between quotation
marks a backslash begins an escape; between apostrophes every character stands
for itself.  Three marks instead of one open a text of many lines, which may hold
up to two of its marks in a row and whose first line end, if it comes at once, does
not count.  All other line ends belong to the text as they are written.

* `Escape`, `step` — what a backslash has begun, and what the next character does.
* `basicBody`, `literalBody` — a text after its opening marks.
* `quoted?` — a text with its marks, read from the start of a text.

A line ends with a line feed, which a carriage return may precede.  The text that is
read holds no carriage return elsewhere and no other control character but the tab.
-/

namespace PlateSolver.Toml

/-- A blank inside a line.  A carriage return only ever stands before the line feed
that ends the line, where it counts as one more blank. -/
def isSpace (c : Char) : Bool := c == ' ' || c == '\t' || c == '\r'

/-- **Escape.** What has been begun between two characters of a text. -/
inductive Escape where
  /-- Nothing. -/
  | none
  /-- A backslash was read. -/
  | begun
  /-- A code point is being read, of which some digits are owed. -/
  | code (owed value : Nat)
  /-- A backslash at the end of a line is skipping blanks; `crossed` once the line
  end was met. -/
  | folding (crossed : Bool)
  deriving DecidableEq, Repr

/-- Whether a text can end here. -/
def Escape.isSettled : Escape → Bool
  | .none | .folding true => true
  | _ => false

/-- The character that a backslash and a letter stand for. -/
def shortEscape? (c : Char) : Option Char :=
  if c == 'b' then some '\x08'
  else if c == 't' then some '\t'
  else if c == 'n' then some '\n'
  else if c == 'f' then some '\x0c'
  else if c == 'r' then some '\r'
  else if c == 'e' then some '\x1b'
  else if c == '"' then some '"'
  else if c == '\\' then some '\\'
  else none

/-- How many digits follow a backslash and a letter that begin a code point. -/
def codeLength? (c : Char) : Option Nat :=
  if c == 'x' then some 2 else if c == 'u' then some 4 else if c == 'U' then some 8 else none

/-- A character outside an escape. -/
def plainStep (many : Bool) (c : Char) : Option (List Char × Escape) :=
  if c == '\\' then some ([], .begun)
  else if c == '\n' && !many then none
  else some ([c], .none)

/-- The character after a backslash. -/
def begunStep (many : Bool) (c : Char) : Option (List Char × Escape) :=
  match shortEscape? c, codeLength? c with
  | some d, _ => some ([d], .none)
  | none, some owed => some ([], .code owed 0)
  | none, none =>
    if many && c == '\n' then some ([], .folding true)
    else if many && isSpace c then some ([], .folding false)
    else none

/-- A digit of a code point; the last one gives the character, if there is one. -/
def codeStep (owed value : Nat) (c : Char) : Option (List Char × Escape) :=
  (hexDigit? c).bind fun digit =>
    let code := 16 * value + digit
    if 1 < owed then some ([], .code (owed - 1) code)
    else if code.isValidChar then some ([Char.ofNat code], .none)
    else none

/-- A character after a backslash at the end of a line. -/
def foldStep (crossed : Bool) (c : Char) : Option (List Char × Escape) :=
  if c == '\n' then some ([], .folding true)
  else if isSpace c then some ([], .folding crossed)
  else if crossed then plainStep true c
  else none

/-- What a character adds to a text, and what is begun after it. -/
def step (many : Bool) : Escape → Char → Option (List Char × Escape)
  | .none, c => plainStep many c
  | .begun, c => begunStep many c
  | .code owed value, c => codeStep owed value c
  | .folding crossed, c => foldStep crossed c

/-- The end of a text, if it is here: the marks that still belong to the text, and
what follows the closing ones. -/
def closing? (many : Bool) (mark : Char) (text : List Char) : Option (List Char × List Char) :=
  let run := text.takeWhile (· == mark)
  if many then
    if run.length < 3 then none
    else some ((run.take 5).drop 3, text.drop (min run.length 5))
  else if run.isEmpty then none
  else some ([], text.drop 1)

/-- A text between quotation marks, after the opening ones, and what follows it. -/
def basicBody (many : Bool) : Escape → List Char → Option (List Char × List Char)
  | _, [] => none
  | state, c :: rest =>
    match if state.isSettled then closing? many '"' (c :: rest) else none with
    | some done => some done
    | none =>
      (step many state c).bind fun (here, next) =>
        (basicBody many next rest).map fun (more, after) => (here ++ more, after)

/-- A text between apostrophes, after the opening ones, and what follows it. -/
def literalBody (many : Bool) : List Char → Option (List Char × List Char)
  | [] => none
  | c :: rest =>
    match closing? many '\'' (c :: rest) with
    | some done => some done
    | none =>
      if c == '\n' && !many then none
      else (literalBody many rest).map fun (more, after) => (c :: more, after)

/-- Whether the marks that open a text, after the first one, open one of many
lines, and where its content begins. -/
def opening (mark : Char) : List Char → Bool × List Char
  | a :: b :: rest =>
    if a == mark && b == mark then
      (true, match rest with
        | '\n' :: content => content
        | '\r' :: '\n' :: content => content
        | content => content)
    else (false, a :: b :: rest)
  | text => (false, text)

/-- The content of a quoted text after its first mark, and what follows it. -/
def afterMark? (many : Bool) (mark : Char) (text : List Char) : Option (String × List Char) :=
  let body := if mark == '"' then basicBody many .none text else literalBody many text
  body.map fun (content, after) => (String.ofList content, after)

/-- The quoted text at the start of a text, on one line or on many, and what follows it. -/
def quoted? : List Char → Option (String × List Char)
  | mark :: rest =>
    if mark == '"' || mark == '\'' then
      let (many, content) := opening mark rest
      afterMark? many mark content
    else none
  | [] => none

/-- The quoted text on one line at the start of a text, and what follows it. -/
def quotedLine? : List Char → Option (String × List Char)
  | mark :: rest => if mark == '"' || mark == '\'' then afterMark? false mark rest else none
  | [] => none

end PlateSolver.Toml
