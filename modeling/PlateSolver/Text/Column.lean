/-!
# Columns of text

Tables are set in columns: a text is brought to the width of its column by blanks
on one side, and one that is wider pushes the rest along.

* `padLeft`, `padRight` — blanks before a text, blanks after it.
-/

namespace PlateSolver.Text

/-- Blanks that bring a text of some length to a width. -/
def padding (width length : Nat) : String := String.ofList (List.replicate (width - length) ' ')

/-- A text at the right end of a column. -/
def padLeft (width : Nat) (text : String) : String := padding width text.length ++ text

/-- A text at the left end of a column. -/
def padRight (width : Nat) (text : String) : String := text ++ padding width text.length

end PlateSolver.Text
