import PlateSolver.Catalog.Entry

/-!
# Accumulators of query results

Several catalogs write into one accumulator, and a query that fails takes back
what it wrote.  Room is asked for in fixed steps, and only when the last step is
used up, so that a query too large for the memory at hand fails by itself instead
of taking the program with it.

* `Accumulator` — entries in the order they came, and the room made for them.
* `Grants` — what the allocator says to a request for room.
* `append`, `extend`, `truncate` — the operations.

## Design decisions

An operation that needs room says whether it got it and returns the accumulator
either way.  So there is one accumulator at a time, whose entries can be kept in
one piece of memory.
-/

namespace PlateSolver

/-- Whether the allocator grants room for a given number of entries. -/
abbrev Grants := Nat → Bool

/-- An allocator that grants every request. -/
def Grants.always : Grants := fun _ => true

/-- Room is made for this many further entries at a time. -/
def growStep : Nat := 16

/-- **Accumulator.** Entries of query results, with the room made for them. -/
structure Accumulator (α : Type) where
  /-- The entries, in the order they were appended. -/
  entries : Array (Entry α)
  /-- How many entries there is room for. -/
  capacity : Nat

namespace Accumulator

variable {α : Type}

/-- No entries and no room. -/
def empty : Accumulator α := ⟨#[], 0⟩

/-- The number of entries. -/
def size (acc : Accumulator α) : Nat := acc.entries.size

/-- The entries as a list. -/
def toList (acc : Accumulator α) : List (Entry α) := acc.entries.toList

/-- One more entry at the end, and whether there was room for it.  When there is no
room left, `growStep` more places are asked for; without them nothing changes. -/
def append (grants : Grants) (acc : Accumulator α) (entry : Entry α) : Bool × Accumulator α :=
  match acc with
  | ⟨entries, capacity⟩ =>
    let size := entries.size
    if size < capacity then (true, ⟨entries.push entry, capacity⟩)
    else if grants (size + growStep) then (true, ⟨entries.push entry, size + growStep⟩)
    else (false, ⟨entries, capacity⟩)

/-- Entries appended one after the other, and whether there was room for all. -/
def extend (grants : Grants) (acc : Accumulator α) : List (Entry α) → Bool × Accumulator α
  | [] => (true, acc)
  | entry :: rest =>
    match acc.append grants entry with
    | (false, same) => (false, same)
    | (true, more) => more.extend grants rest

/-- The first entries alone; the room stays. -/
def truncate (acc : Accumulator α) (size : Nat) : Accumulator α :=
  { acc with entries := acc.entries.take size }

end Accumulator

end PlateSolver
