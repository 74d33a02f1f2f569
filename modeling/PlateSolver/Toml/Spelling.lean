import PlateSolver.Decimal.Shortest
import PlateSolver.Text.Quoted
import PlateSolver.Toml.Quoted

/-!
# Writing a document

A document is written as one line for every key.  A text is put between the marks
with which it needs no backslash, as far as there are such marks.

* `Quoting`, `quotingOf` — the four ways to write a text, and the choice among them.
* `quote` — a text with its marks.
* `Primitive` — the values that are written.
* `Writable` — carriers whose numbers are written, with the instance at `Float`.
* `write` — a document.
-/

namespace PlateSolver.Toml

/-- **Quoting.** The ways to write a text. -/
inductive Quoting where
  /-- Between quotation marks. -/
  | basic
  /-- Between apostrophes. -/
  | literal
  /-- Between three quotation marks. -/
  | basicLines
  /-- Between three apostrophes. -/
  | literalLines
  deriving DecidableEq, Repr

namespace Quoting

/-- The marks before and after the text. -/
def marks : Quoting → List Char
  | .basic => ['"']
  | .literal => ['\'']
  | .basicLines => ['"', '"', '"']
  | .literalLines => ['\'', '\'', '\'']

/-- Whether the text may go over several lines. -/
def isMany : Quoting → Bool
  | .basicLines | .literalLines => true
  | _ => false

/-- Whether a backslash begins an escape. -/
def hasEscapes : Quoting → Bool
  | .basic | .basicLines => true
  | _ => false

end Quoting

/-- The greatest number of times that a character comes in a row; `run` of them
were just met. -/
def longestRun (mark : Char) (run : Nat) : List Char → Nat
  | [] => run
  | c :: rest =>
    if c == mark then longestRun mark (run + 1) rest else max run (longestRun mark 0 rest)

/-- A control character that only an escape can write. -/
def needsEscape (c : Char) : Bool := (c.toNat < 0x20 && c != '\t' && c != '\n') || c == '\x7f'

/-- The way to write a text: without escapes other than that of a tab if possible,
on one line if possible, and between quotation marks if possible. -/
def quotingOf (text : List Char) : Quoting :=
  let controls := text.any needsEscape
  let backslash := text.contains '\\'
  let lines := text.contains '\n'
  let quotes := longestRun '"' 0 text
  let apostrophes := longestRun '\'' 0 text
  if !controls && !backslash && !lines && quotes == 0 then .basic
  else if !controls && !lines && apostrophes == 0 then .literal
  else if !controls && !backslash && quotes ≤ 2 then .basicLines
  else if !controls && apostrophes ≤ 2 then .literalLines
  else if lines then .basicLines
  else .basic

/-- The letter that stands for a character after a backslash, if it has one. -/
def escapeLetter? (many : Bool) (c : Char) : Option Char :=
  if c == '\x08' then some 'b'
  else if c == '\t' then some 't'
  else if c == '\n' && !many then some 'n'
  else if c == '\x0c' then some 'f'
  else if c == '\r' then some 'r'
  else if c == '\\' then some '\\'
  else none

/-- A code point as four capital hexadecimal digits. -/
def codeDigits (c : Char) : List Char :=
  Decimal.zeroFilled 4 ((Text.hexDigits c.toNat).map Char.toUpper)

/-- A text with escapes.  On several lines two quotation marks in a row stand for
themselves; `run` of them were just written. -/
def withEscapes (many : Bool) (run : Nat) : List Char → List Char
  | [] => []
  | c :: rest =>
    if c == '"' then
      if many && run < 2 then '"' :: withEscapes many (run + 1) rest
      else '\\' :: '"' :: withEscapes many 0 rest
    else match escapeLetter? many c with
      | some letter => '\\' :: letter :: withEscapes many 0 rest
      | none =>
        if needsEscape c then ['\\', 'u'] ++ codeDigits c ++ withEscapes many 0 rest
        else c :: withEscapes many 0 rest

/-- A text with its marks; one that holds a line end begins on a line of its own. -/
def quote (text : String) : List Char :=
  let chars := text.toList
  let quoting := quotingOf chars
  let opening := if quoting.isMany && chars.contains '\n' then ['\n'] else []
  let content := if quoting.hasEscapes then withEscapes quoting.isMany 0 chars else chars
  quoting.marks ++ opening ++ content ++ quoting.marks

/-- Carriers whose numbers are written. -/
class Writable (α : Type) where
  /-- A number as a document shows it. -/
  numberText : α → String

instance : Writable Float := ⟨Double.pointed⟩

/-- **Primitive.** The values that are written. -/
inductive Primitive (α : Type) where
  /-- A text. -/
  | text (content : String)
  /-- A whole number. -/
  | whole (number : Nat)
  /-- Any other number. -/
  | real (number : α)
  /-- A yes or no. -/
  | flag (yes : Bool)

/-- A value as a document shows it. -/
def Primitive.spelling {α : Type} [Writable α] : Primitive α → List Char
  | .text content => quote content
  | .whole number => Decimal.digits number
  | .real number => (Writable.numberText number).toList
  | .flag yes => if yes then ['t', 'r', 'u', 'e'] else ['f', 'a', 'l', 's', 'e']

/-- The line of a key. -/
def line {α : Type} [Writable α] (key : String) (value : Primitive α) : List Char :=
  key.toList ++ [' ', '=', ' '] ++ value.spelling ++ ['\n']

/-- A document with a line for every key. -/
def write {α : Type} [Writable α] (entries : List (String × Primitive α)) : String :=
  String.ofList (entries.flatMap fun (key, value) => line key value)

end PlateSolver.Toml
