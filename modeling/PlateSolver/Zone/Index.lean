import PlateSolver.Decimal.Literal
import PlateSolver.Text.Blank

/-!
# Records of a zone index

A zone's index has one thirty-byte text record for every 3.75 degrees of right
ascension: a key, which has to be a number but is otherwise ignored, and the
number of the data record where the bin starts, counted from one.

* `Index.count?` — a count as a field shows it.
* `Index.parse?` — the record number in an index record.
-/

namespace PlateSolver.Zone.Index

/-- Bytes in an index record. -/
def recordSize : Nat := 30

/-- The greatest count a field can hold. -/
def countLimit : Nat := Nat.pow 2 64 - 1

/-- A count: digits, perhaps after a plus sign, of a number within the limit. -/
def count? (field : List Char) : Option Nat :=
  let figures := match field with
    | '+' :: rest => rest
    | figures => figures
  (Literal.natural? figures).filter fun n => n ≤ countLimit

/-- The record number in an index record: its second field, if its first is a
number and record numbers may have that value. -/
def parse? (bytes : ByteArray) : Option Nat := do
  let text ← String.fromUTF8? bytes
  match Text.fields Text.isBlank text.toList with
  | key :: number :: _ =>
    let _ ← Literal.read? key
    (count? number).filter fun n => 1 ≤ n
  | _ => none

end PlateSolver.Zone.Index
