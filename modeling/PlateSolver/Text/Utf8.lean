/-!
# Reading bytes that may not be text

A message has to show a record even when its bytes are not UTF-8.  Every maximal
run of bytes that starts a character but does not finish one, and every byte that
can start none, is then shown as the replacement character.

* `Pending` — a character begun and not finished: how many bytes it is owed, and
  the range the next one has to be in.
* `lossy` — all bytes as characters.
-/

namespace PlateSolver.Text

/-- **Pending.** A character whose first bytes have been read.  The range of the
next byte excludes overlong forms, surrogates and code points out of range. -/
structure Pending where
  /-- Continuation bytes still owed, at least one. -/
  owed : Nat
  /-- The least byte that may follow. -/
  least : Nat
  /-- The greatest byte that may follow. -/
  greatest : Nat
  /-- The bits read so far. -/
  code : Nat

/-- What stands for bytes that form no character. -/
def replacement : Char := Char.ofNat 0xFFFD

/-- A byte with no character begun before it. -/
def firstByte (b : Nat) : List Char × Option Pending :=
  if b ≤ 0x7F then ([Char.ofNat b], none)
  else if 0xC2 ≤ b && b ≤ 0xDF then ([], some ⟨1, 0x80, 0xBF, b - 0xC0⟩)
  else if b == 0xE0 then ([], some ⟨2, 0xA0, 0xBF, 0⟩)
  else if b == 0xED then ([], some ⟨2, 0x80, 0x9F, 0xD⟩)
  else if 0xE1 ≤ b && b ≤ 0xEF then ([], some ⟨2, 0x80, 0xBF, b - 0xE0⟩)
  else if b == 0xF0 then ([], some ⟨3, 0x90, 0xBF, 0⟩)
  else if 0xF1 ≤ b && b ≤ 0xF3 then ([], some ⟨3, 0x80, 0xBF, b - 0xF0⟩)
  else if b == 0xF4 then ([], some ⟨3, 0x80, 0x8F, 4⟩)
  else ([replacement], none)

/-- A byte after a pending character or after none: the characters it settles, and
what is pending after it. -/
def nextByte (pending : Option Pending) (b : Nat) : List Char × Option Pending :=
  match pending with
  | none => firstByte b
  | some p =>
    if p.least ≤ b && b ≤ p.greatest then
      let code := p.code * 64 + (b - 0x80)
      if p.owed ≤ 1 then ([Char.ofNat code], none)
      else ([], some ⟨p.owed - 1, 0x80, 0xBF, code⟩)
    else
      let (settled, next) := firstByte b
      (replacement :: settled, next)

/-- Bytes as characters, after a pending character or after none. -/
def lossyFrom (pending : Option Pending) : List Nat → List Char
  | [] => if pending.isSome then [replacement] else []
  | b :: rest =>
    let (settled, next) := nextByte pending b
    settled ++ lossyFrom next rest

/-- Bytes as characters, whatever they are. -/
def lossy (bytes : ByteArray) : List Char :=
  lossyFrom none (bytes.toList.map UInt8.toNat)

end PlateSolver.Text
