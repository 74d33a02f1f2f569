import PlateSolver.Text.Invisible

/-!
# Quoted text

A message that shows a piece of foreign data puts it between quotation marks and
spells out whatever could not be seen: the usual short escapes, and the code
point in braces for everything else that leaves no visible mark.

* `quote` — a text as a message shows it.
-/

namespace PlateSolver.Text

/-- Lower-case hexadecimal digits of a number. -/
def hexDigits (n : Nat) : List Char := Nat.toDigits 16 n

/-- A character inside quotation marks. -/
def escaped (c : Char) : List Char :=
  if c == '\x00' then ['\\', '0']
  else if c == '\t' then ['\\', 't']
  else if c == '\r' then ['\\', 'r']
  else if c == '\n' then ['\\', 'n']
  else if c == '"' then ['\\', '"']
  else if c == '\\' then ['\\', '\\']
  else if isInvisible c then ['\\', 'u', '\x7b'] ++ hexDigits c.toNat ++ ['\x7d']
  else [c]

/-- A text between quotation marks. -/
def quote (text : List Char) : String :=
  String.ofList ('"' :: text.flatMap escaped ++ ['"'])

end PlateSolver.Text
