import PlateSolver.Toml.Document
import PlateSolver.Toml.Spelling

/-!
# Records as documents

A record is written as a document with a key for each of its fields.  Read back,
a key that is missing leaves its field as it was, and a key that belongs to no
field is passed over; a value that a field cannot take refuses the whole document.

* `Slot` — a field under its key: how it is written and how it is set.
* `Slot.count`, `Slot.number`, `Slot.flag`, `Slot.maybeText` — the usual ones.
* `write`, `update?` — a record as a document, and a document read into a record.
-/

namespace PlateSolver.Toml

/-- **Slot.** A field of a record, under its key in a document. -/
structure Slot (ρ α : Type) where
  /-- The key. -/
  key : String
  /-- What is written for the field, if anything. -/
  show? : ρ → Option (Primitive α)
  /-- The record with the field set to a value, if it can take it. -/
  set? : Value → ρ → Option ρ

/-- The greatest whole number that a field takes, unless a smaller one is given. -/
def wholeLimit : Nat := Nat.pow 2 64 - 1

/-- The least whole number that a field takes is the opposite of this one. -/
def negativeLimit : Nat := Nat.pow 2 63

/-- The whole number that a value is, from zero up to a limit. -/
def Value.count? (limit : Nat) : Value → Option Nat
  | .whole n => if 0 ≤ n ∧ n ≤ limit then some n.toNat else none
  | _ => none

/-- The number that a value is; a whole number is one too. -/
def Value.number? {α : Type} [Readable α] : Value → Option α
  | .real literal => Readable.ofLiteral? literal
  | .whole n =>
    if -(negativeLimit : Int) ≤ n ∧ n ≤ wholeLimit then
      Readable.ofLiteral? (.number (n < 0) n.natAbs 0)
    else none
  | _ => none

/-- The yes or no that a value is. -/
def Value.flag? : Value → Option Bool
  | .flag yes => some yes
  | _ => none

/-- The text that a value is. -/
def Value.text? : Value → Option String
  | .text content => some content
  | _ => none

namespace Slot

variable {ρ α : Type}

/-- A field that holds a whole number up to a limit. -/
def count (key : String) (limit : Nat) (get : ρ → Nat) (set : Nat → ρ → ρ) : Slot ρ α where
  key := key
  show? := fun r => some (.whole (get r))
  set? := fun value r => (value.count? limit).map fun n => set n r

/-- A field that holds a number. -/
def number [Readable α] (key : String) (get : ρ → α) (set : α → ρ → ρ) : Slot ρ α where
  key := key
  show? := fun r => some (.real (get r))
  set? := fun value r => value.number?.map fun x => set x r

/-- A field that holds a yes or no. -/
def flag (key : String) (get : ρ → Bool) (set : Bool → ρ → ρ) : Slot ρ α where
  key := key
  show? := fun r => some (.flag (get r))
  set? := fun value r => value.flag?.map fun b => set b r

/-- A field that may hold a text; without one, nothing is written. -/
def maybeText (key : String) (get : ρ → Option String) (set : Option String → ρ → ρ) :
    Slot ρ α where
  key := key
  show? := fun r => (get r).map .text
  set? := fun value r => value.text?.map fun t => set (some t) r

end Slot

variable {ρ α : Type}

/-- The entries that are written for a record. -/
def entries (slots : List (Slot ρ α)) (record : ρ) : List (String × Primitive α) :=
  slots.filterMap fun slot => (slot.show? record).map fun value => (slot.key, value)

/-- A record as a document. -/
def writeRecord [Writable α] (slots : List (Slot ρ α)) (record : ρ) : String :=
  write (entries slots record)

/-- A record with the fields set whose keys are in a table. -/
def fill? (slots : List (Slot ρ α)) (table : Table) (record : ρ) : Option ρ :=
  slots.foldlM (fun r slot =>
    match table.lookup slot.key with
    | none => some r
    | some value => slot.set? value r) record

/-- A record with the fields set whose keys are in a document. -/
def update? (slots : List (Slot ρ α)) (record : ρ) (text : String) : Option ρ :=
  (read? text).bind fun table => fill? slots table record

/-- Whether a table has a key for every field. -/
def isComplete (slots : List (Slot ρ α)) (table : Table) : Bool :=
  slots.all fun slot => (table.lookup slot.key).isSome

/-- A record all of whose fields are set by a document. -/
def replace? (slots : List (Slot ρ α)) (record : ρ) (text : String) : Option ρ :=
  (read? text).bind fun table =>
    if isComplete slots table then fill? slots table record else none

end PlateSolver.Toml
