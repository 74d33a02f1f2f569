import PlateSolver.Decimal.Figure
import PlateSolver.Text.Blank
import PlateSolver.Toml.Value

/-!
# Values written without quotes

Numbers, moments in time and the words `true` and `false` stand in a document
without quotes.  All of them are made of a few characters, so the longest run of
those is taken first and then recognised as a whole.

* `whole?` — whole numbers: decimal with an optional sign, or with a base prefix.
* `real?` — numbers with a fraction or an exponent, and the words for the others.
* `isMoment` — dates, times of day, and both together.
* `bare?` — any of them, read from the start of a text.

## Design decisions

The grammar is narrower than that of a number in a header card: an underscore
may only separate digits, a point needs digits on both sides, and a decimal number
has no leading zero.  A number that rounds to an infinite one is refused.
-/

namespace PlateSolver.Toml

open Literal (isDigit digitValue splitSign)

/-- A letter of the English alphabet. -/
def isLetter (c : Char) : Bool := ('a' ≤ c && c ≤ 'z') || ('A' ≤ c && c ≤ 'Z')

/-- The value of a hexadecimal digit. -/
def hexDigit? (c : Char) : Option Nat :=
  if isDigit c then some (digitValue c)
  else if 'a' ≤ c && c ≤ 'f' then some (c.toNat - 'a'.toNat + 10)
  else if 'A' ≤ c && c ≤ 'F' then some (c.toNat - 'A'.toNat + 10)
  else none

/-- Digits of a base, without the single underscores that may stand between them. -/
def grouped? (base : Nat) (text : List Char) : Option (List Nat) :=
  let parts := Text.split (· == '_') text
  if parts.any List.isEmpty then none
  else parts.flatten.mapM fun c => (hexDigit? c).filter (· < base)

/-- The number that digits stand for. -/
def positional (base : Nat) (digits : List Nat) : Nat :=
  digits.foldl (fun n d => base * n + d) 0

/-- Decimal digits without a leading zero. -/
def decimal? (text : List Char) : Option (List Nat) :=
  (grouped? 10 text).filter fun digits => digits.length == 1 || digits.head? != some 0

/-- A whole number of at most 128 bits. -/
def whole? (text : List Char) : Option Int :=
  let number := match text with
    | '0' :: 'x' :: digits => (grouped? 16 digits).map fun ds => (positional 16 ds : Int)
    | '0' :: 'o' :: digits => (grouped? 8 digits).map fun ds => (positional 8 ds : Int)
    | '0' :: 'b' :: digits => (grouped? 2 digits).map fun ds => (positional 2 ds : Int)
    | _ =>
      let (negative, digits) := splitSign text
      (decimal? digits).map fun ds =>
        if negative then -(positional 10 ds : Int) else positional 10 ds
  number.filter fun n => -(Nat.pow 2 127 : Int) ≤ n && n < (Nat.pow 2 128 : Int)

/-- The exponent of a number, given as what follows its mark. -/
def exponent? (text : List Char) : Option Int :=
  let (negative, digits) := splitSign text
  (grouped? 10 digits).map (Literal.scale negative)

/-- A number with a fraction or an exponent, after its sign. -/
def unsignedReal? (negative : Bool) (text : List Char) : Option Literal :=
  let isMark := fun c => c == 'e' || c == 'E'
  let mantissa := text.takeWhile (!isMark ·)
  let scale := text.dropWhile (!isMark ·)
  let units := mantissa.takeWhile (· != '.')
  let fraction := mantissa.dropWhile (· != '.')
  if scale.isEmpty && fraction.isEmpty then none
  else do
    let before ← decimal? units
    let after ← if fraction.isEmpty then some [] else grouped? 10 (fraction.drop 1)
    let exponent ← if scale.isEmpty then some 0 else exponent? (scale.drop 1)
    return .number negative (positional 10 (before ++ after)) (exponent - after.length)

/-- Whether a literal denotes an unbounded number although it does not say so. -/
def overflows : Literal → Bool
  | .number _ digits exponent => (Double.figure (Double.ofDecimal digits exponent)).isUnbounded
  | _ => false

/-- A number with a fraction or an exponent, or a word for one without a finite value. -/
def real? (text : List Char) : Option Literal :=
  let (negative, body) := splitSign text
  if body == ['i', 'n', 'f'] then some (.unbounded negative)
  else if body == ['n', 'a', 'n'] then some .undefined
  else (unsignedReal? negative body).filter (!overflows ·)

/-- A number of exactly two digits, and what follows it. -/
def pair? : List Char → Option (Nat × List Char)
  | a :: b :: rest =>
    if isDigit a && isDigit b then some (10 * digitValue a + digitValue b, rest) else none
  | _ => none

/-- What follows a given character, if the text starts with it. -/
def after? (mark : Char) : List Char → Option (List Char)
  | c :: rest => if c == mark then some rest else none
  | [] => none

/-- The number of days of a month. -/
def monthLength (year month : Nat) : Nat :=
  if month == 2 then
    if year % 4 == 0 && (year % 100 != 0 || year % 400 == 0) then 29 else 28
  else if month == 4 || month == 6 || month == 9 || month == 11 then 30
  else 31

/-- What follows a date. -/
def afterDate? (text : List Char) : Option (List Char) := do
  let (century, text) ← pair? text
  let (year, text) ← pair? text
  let (month, text) ← pair? (← after? '-' text)
  let (day, text) ← pair? (← after? '-' text)
  if 1 ≤ month && month ≤ 12 && 1 ≤ day && day ≤ monthLength (100 * century + year) month then
    some text
  else none

/-- What follows a fraction of a second, or the text itself if there is none. -/
def afterFraction? : List Char → Option (List Char)
  | '.' :: rest => if (rest.takeWhile isDigit).isEmpty then none else some (rest.dropWhile isDigit)
  | text => some text

/-- What follows a time of day; its seconds may be left out. -/
def afterTime? (text : List Char) : Option (List Char) := do
  let (hour, text) ← pair? text
  let (minute, text) ← pair? (← after? ':' text)
  if 23 < hour || 59 < minute then none
  else match text with
    | ':' :: text =>
      let (second, text) ← pair? text
      if 60 < second then none else afterFraction? text
    | _ => some text

/-- Whether a text is the offset of a local time, or nothing at all. -/
def isOffset : List Char → Bool
  | [] | ['Z'] | ['z'] => true
  | sign :: text =>
    (sign == '+' || sign == '-') && (do
      let (hour, text) ← pair? text
      let (minute, text) ← pair? (← after? ':' text)
      return hour ≤ 23 && minute ≤ 59 && text.isEmpty).getD false

/-- Whether a text is a date. -/
def isDate (text : List Char) : Bool := afterDate? text == some []

/-- Whether a text is a date, a time of day, or both with or without an offset. -/
def isMoment (text : List Char) : Bool :=
  match afterDate? text with
  | none => afterTime? text == some []
  | some [] => true
  | some (mark :: rest) =>
    (mark == 'T' || mark == 't' || mark == ' ') && ((afterTime? rest).map isOffset).getD false

/-- The value that a text without quotes is. -/
def recognise? (text : List Char) : Option Value :=
  if text == ['t', 'r', 'u', 'e'] then some (.flag true)
  else if text == ['f', 'a', 'l', 's', 'e'] then some (.flag false)
  else match whole? text with
    | some n => some (.whole n)
    | none =>
      match real? text with
      | some literal => some (.real literal)
      | none => if isMoment text then some (.moment (String.ofList text)) else none

/-- A character of a value without quotes. -/
def isBare (c : Char) : Bool :=
  isLetter c || isDigit c || c == '+' || c == '-' || c == '_' || c == '.' || c == ':'

/-- The run of characters that is a value, and what follows it.  A single blank may
stand between a date and a time of day. -/
def bareRun (text : List Char) : List Char × List Char :=
  let run := text.takeWhile isBare
  match text.dropWhile isBare with
  | ' ' :: rest =>
    if isDate run && (rest.head?.map isDigit).getD false then
      (run ++ ' ' :: rest.takeWhile isBare, rest.dropWhile isBare)
    else (run, ' ' :: rest)
  | rest => (run, rest)

/-- The value without quotes at the start of a text, and what follows it. -/
def bare? (text : List Char) : Option (Value × List Char) :=
  let (run, rest) := bareRun text
  (recognise? run).map fun value => (value, rest)

end PlateSolver.Toml
