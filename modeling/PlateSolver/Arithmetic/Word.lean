/-!
# Words

Positions and counts that a program computes with are words of 64 bits.  A sum or
a product that is too large for a word is not reduced to one: the program breaks
off there and then.  Nothing that was to follow happens, and nobody gets an
answer, not even an error that could be dealt with.

* `Word.limit` — the first number that is not a word.
* `Word.ofNat?` — a number as a word, if it is one.

## Design decisions

A computation that may break off gives an `Option`, and `none` says that it did.
An error that a caller is to see is a value of its own type inside of it, so that
nobody can mistake one for the other: what is done about errors is written down
where it is done, and about a computation that breaks off nothing can be done.
-/

namespace PlateSolver.Word

/-- The first number that is not a word. -/
def limit : Nat := Nat.pow 2 64

/-- A number as a word; a computation that needs it breaks off if it is none. -/
def ofNat? (n : Nat) : Option Nat := if n < limit then some n else none

theorem ofNat?_of_lt {n : Nat} (h : n < limit) : ofNat? n = some n := if_pos h

theorem ofNat?_eq_none_iff {n : Nat} : ofNat? n = none ↔ limit ≤ n := by
  simp [ofNat?]

theorem ofNat?_eq_some_iff {n word : Nat} : ofNat? n = some word ↔ n < limit ∧ word = n := by
  simp [ofNat?, eq_comm]

end PlateSolver.Word
