import PlateSolver.Catalog.Accumulator
import PlateSolver.Catalog.Error

/-!
# A catalog held as a list

A small catalog can be kept in memory and asked by measuring the distance of
every entry.  It is the plain meaning of a cone query, against which a catalog
that works harder can be compared.

* `Listed` — a named list of entries.
* `Listed.contains` — whether an entry answers a query.
* `Listed.fetch` — a query into an accumulator.
-/

namespace PlateSolver

/-- **A catalog in memory.** -/
structure Listed (α : Type) where
  /-- The name used in reports. -/
  name : String
  /-- All its entries. -/
  entries : List (Entry α)

namespace Listed

variable {α : Type} [Analytic α]

/-- Whether an entry lies in the cone and is no fainter than the limit. -/
def contains (cone : Cone α) (limit : α) (entry : Entry α) : Bool :=
  entry.mag ≤ limit && Angle.separation cone.ra cone.dec entry.ra entry.dec ≤ cone.radius

/-- The entries of a cone appended in the order of the list, and their number.
A query without room for all of them appends none. -/
def fetch (catalog : Listed α) (grants : Grants) (cone : Cone α) (limit : α)
    (acc : Accumulator α) : Except (CatalogError α) Nat × Accumulator α :=
  let (complete, filled) := acc.extend grants (catalog.entries.filter (contains cone limit))
  if complete then (.ok (filled.size - acc.size), filled)
  else (.error (.scan .outOfMemory), filled.truncate acc.size)

end Listed

end PlateSolver
