import PlateSolver.Decimal.Literal
import PlateSolver.Text.Blank

/-!
# Header cards of an image

A header is a table of cards, each a keyword with a text or a real number.
Keywords do not distinguish ASCII case and are kept in capitals.

* `Card`, `Header` — the table.
* `Header.get?`, `set`, `remove` — look-up and change by keyword.
* `Header.text?`, `real?` — a card read as text or as a number; a text that is a
  plain number counts as one.
-/

namespace PlateSolver

/-- The value of one card. -/
inductive Card (α : Type) where
  /-- A text. -/
  | text (value : String)
  /-- A real number. -/
  | real (value : α)

/-- **Header.** Cards under pairwise different keywords. -/
structure Header (α : Type) where
  /-- The cards with their keywords, in the order they were first set. -/
  cards : List (String × Card α)

namespace Header

variable {α : Type}

/-- A header without cards. -/
def empty : Header α := ⟨[]⟩

/-- A small ASCII letter as the capital one; any other character as it is. -/
def capital (c : Char) : Char :=
  if 'a' ≤ c && c ≤ 'z' then Char.ofNat (c.toNat - 32) else c

/-- A keyword as it is kept. -/
def keyword (key : String) : String := String.ofList (key.toList.map capital)

/-- The card under a keyword. -/
def get? (header : Header α) (key : String) : Option (Card α) :=
  header.cards.lookup (keyword key)

/-- Cards with one of them set; a card that is there keeps its place. -/
def setCard (key : String) (value : Card α) : List (String × Card α) → List (String × Card α)
  | [] => [(key, value)]
  | card :: rest =>
    if card.1 = key then (key, value) :: rest else card :: setCard key value rest

/-- A header with one card set. -/
def set (header : Header α) (key : String) (value : Card α) : Header α :=
  ⟨setCard (keyword key) value header.cards⟩

/-- A header without the card under a keyword. -/
def remove (header : Header α) (key : String) : Header α :=
  ⟨header.cards.filter fun card => card.1 != keyword key⟩

/-- The number of cards. -/
def size (header : Header α) : Nat := header.cards.length

/-- The text under a keyword, if there is a card and it is a text. -/
def text? (header : Header α) (key : String) : Option String :=
  match header.get? key with
  | some (.text value) => some value
  | _ => none

/-- The number under a keyword: a real, or a text that is a number between blanks. -/
def real? [Readable α] (header : Header α) (key : String) : Option α :=
  match header.get? key with
  | some (.real value) => some value
  | some (.text value) => Readable.read? (Text.trim value.toList)
  | none => none

end Header

end PlateSolver
