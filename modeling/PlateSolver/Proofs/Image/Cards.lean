import PlateSolver.Image.Solution

/-!
# What writing a solution does to a header

Writing a solution sets nine cards, whatever the header was: cards that are there
already, as text or as a number and under any spelling of their keywords, are
overwritten in place, and no other card is touched.  A header is looked into by
keyword only, so both halves are said by look-up, for every spelling of a keyword.

* `Header.get?_set` — one card set.
* `Header.setAll`, `get?_setAll_of_notMem`, `get?_setAll_of_mem` — several cards set.
* `Header.Carries` — the nine cards of a solution.
* `Solution.write_carries`, `Solution.get?_write_of_notMem` — what a solution writes, and
  what it leaves alone.

That the nine keywords differ pairwise is what makes the order of writing immaterial.
-/

namespace PlateSolver

variable {α : Type}

namespace Header

/-! ## Setting cards -/

theorem lookup_cons_eq (card : String × Card α) (rest : List (String × Card α)) (key : String) :
    (card :: rest).lookup key = if key = card.1 then some card.2 else rest.lookup key := by
  obtain ⟨name, value⟩ := card
  rw [List.lookup_cons]
  by_cases hkey : key = name
  · rw [if_pos hkey, beq_iff_eq.mpr hkey]
  · rw [if_neg hkey, beq_false_of_ne hkey]

theorem lookup_setCard (key other : String) (value : Card α) (cards : List (String × Card α)) :
    (setCard key value cards).lookup other =
      if other = key then some value else cards.lookup other := by
  induction cards with
  | nil => rw [setCard, lookup_cons_eq]
  | cons card rest ih =>
      by_cases hcard : card.1 = key
      · rw [setCard, if_pos hcard, lookup_cons_eq, lookup_cons_eq, hcard]
        by_cases hother : other = key
        · rw [if_pos hother, if_pos hother]
        · simp only [if_neg hother]
      · rw [setCard, if_neg hcard, lookup_cons_eq, lookup_cons_eq, ih]
        by_cases hother : other = key
        · have hne : ¬ other = card.1 := fun h => hcard (h.symm.trans hother)
          rw [if_neg hne, if_pos hother, if_pos hother]
        · simp only [if_neg hother]

theorem get?_set (header : Header α) (key other : String) (value : Card α) :
    (header.set key value).get? other =
      if keyword other = keyword key then some value else header.get? other :=
  lookup_setCard (keyword key) (keyword other) value header.cards

/-- Cards set one after the other. -/
def setAll (header : Header α) (cards : List (String × Card α)) : Header α :=
  cards.foldl (fun h card => h.set card.1 card.2) header

theorem get?_setAll_of_notMem {cards : List (String × Card α)} {key : String}
    (hkey : keyword key ∉ cards.map fun card => keyword card.1) (header : Header α) :
    (header.setAll cards).get? key = header.get? key := by
  induction cards generalizing header with
  | nil => rfl
  | cons card rest ih =>
      rw [List.map_cons, List.mem_cons, not_or] at hkey
      show ((header.set card.1 card.2).setAll rest).get? key = header.get? key
      rw [ih hkey.2, get?_set, if_neg hkey.1]

/-- Of cards under different keywords, each is there when all are set. -/
theorem get?_setAll_of_mem {cards : List (String × Card α)} {card : String × Card α}
    {key : String} (hnodup : (cards.map fun card => keyword card.1).Nodup) (hcard : card ∈ cards)
    (hkey : keyword key = keyword card.1) (header : Header α) :
    (header.setAll cards).get? key = some card.2 := by
  induction cards generalizing header with
  | nil => cases hcard
  | cons first rest ih =>
      rw [List.map_cons, List.nodup_cons] at hnodup
      show ((header.set first.1 first.2).setAll rest).get? key = some card.2
      rcases List.mem_cons.mp hcard with rfl | hrest
      · -- The cards set after it leave it alone.
        rw [get?_setAll_of_notMem (hkey ▸ hnodup.1), get?_set, if_pos hkey]
      · exact ih hnodup.2 hrest _

/-! ## The nine cards -/

section Solution

variable [Analytic α]

/-- **A header that carries a solution**, angles in degrees. -/
structure Carries (header : Header α) (s : Solution α) : Prop where
  typeX : header.get? "CTYPE1" = some (.text "RA---TAN")
  typeY : header.get? "CTYPE2" = some (.text "DEC--TAN")
  ra : header.get? "CRVAL1" = some (.real (Angle.toDegrees s.ra))
  dec : header.get? "CRVAL2" = some (.real (Angle.toDegrees s.dec))
  scaleX : header.get? "CDELT1" = some (.real (Angle.toDegrees s.scaleX))
  scaleY : header.get? "CDELT2" = some (.real (Angle.toDegrees s.scaleY))
  rotation : header.get? "CROTA2" = some (.real (Angle.toDegrees s.rotation))
  pixelX : header.get? "CRPIX1" = some (.real s.pixelX)
  pixelY : header.get? "CRPIX2" = some (.real s.pixelY)

end Solution

end Header

namespace Solution

open Header

/-- The keywords of the cards of a solution. -/
def keywords : List String :=
  ["CTYPE1", "CTYPE2", "CRVAL1", "CRVAL2", "CDELT1", "CDELT2", "CROTA2", "CRPIX1", "CRPIX2"]

variable [Analytic α]

theorem map_keyword_cards (s : Solution α) :
    (s.cards.map fun card => keyword card.1) = keywords := by
  show (keywords.map keyword) = keywords
  decide

theorem write_eq_setAll (s : Solution α) (header : Header α) :
    s.write header = header.setAll s.cards := rfl

theorem get?_write_of_mem {s : Solution α} {card : String × Card α} (hcard : card ∈ s.cards)
    {key : String} (hkey : keyword key = keyword card.1) (header : Header α) :
    (s.write header).get? key = some card.2 := by
  have hnodup : (s.cards.map fun card => keyword card.1).Nodup := by
    rw [map_keyword_cards]
    decide
  rw [write_eq_setAll]
  exact get?_setAll_of_mem hnodup hcard hkey header

theorem get?_write_of_notMem {key : String} (hkey : keyword key ∉ keywords) (s : Solution α)
    (header : Header α) : (s.write header).get? key = header.get? key := by
  rw [← s.map_keyword_cards] at hkey
  rw [write_eq_setAll]
  exact get?_setAll_of_notMem hkey header

/-- **A header carries the solution that was written into it**, whatever it was before. -/
theorem write_carries (s : Solution α) (header : Header α) : (s.write header).Carries s := by
  have hread {name : String} {card : Card α} (hcard : (name, card) ∈ s.cards) :
      (s.write header).get? name = some card := get?_write_of_mem hcard rfl header
  constructor <;> exact hread (by simp [cards])

end Solution

end PlateSolver
