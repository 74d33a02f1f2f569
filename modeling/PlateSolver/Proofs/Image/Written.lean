import PlateSolver.Image.Pointing
import PlateSolver.Proofs.Angle.Sphere
import PlateSolver.Proofs.Image.Cards

/-!
# A written solution is found again

A solved header is the start of the next search.  What was written into it must come back as the
same solution, and the nominal pointing that is taken from it must be that of the solution, unless
the telescope left cards of its own, which win.

The degrees of the cards and the radians of a solution are the same angle, so everything rests on
which cards a header carries.  Writing again sets cards that are there already, and in a header
that is a table with places even the places stay.

* `Header.set_of_get?`, `setAll_of_get?` — setting what is there changes nothing.
* `Angle.ofDegrees_toDegrees` — degrees and back, whether or not there is a number.
* `Solution.fieldOfView_eq` — the field of view of a solution is that of a pointing.
* `Header.Carries.read?`, `Carries.ofHeader` — what is read from a header with a solution.
* `Solution.write_reproduces` — all of it, for any header.
-/

namespace PlateSolver

open Exact

namespace Header

variable {α : Type}

/-! ## Setting what is there -/

theorem setCard_of_lookup {key : String} {value : Card α} {cards : List (String × Card α)}
    (h : cards.lookup key = some value) : setCard key value cards = cards := by
  induction cards with
  | nil => cases h
  | cons card rest ih =>
      rw [lookup_cons_eq] at h
      rw [setCard]
      split_ifs at h ⊢ with hkey hcard hcard
      · exact congrArg (· :: rest) (Prod.ext hcard (Option.some.inj h).symm)
      · exact absurd hkey.symm hcard
      · exact absurd hcard.symm hkey
      · rw [ih h]

theorem set_of_get? {header : Header α} {key : String} {value : Card α}
    (h : header.get? key = some value) : header.set key value = header := by
  rw [set, setCard_of_lookup h]

/-- **Setting cards that are there changes nothing**, not even their places. -/
theorem setAll_of_get? {header : Header α} {cards : List (String × Card α)}
    (h : ∀ card ∈ cards, header.get? card.1 = some card.2) : header.setAll cards = header := by
  induction cards with
  | nil => rfl
  | cons card rest ih =>
      obtain ⟨hcard, hrest⟩ := List.forall_mem_cons.mp h
      show (header.set card.1 card.2).setAll rest = header
      rw [set_of_get? hcard, ih hrest]

end Header

/-! ## Degrees and back -/

/-- **Degrees and back**: an angle is what it was, and one that is no number stays none. -/
theorem Angle.ofDegrees_toDegrees (angle : Exact) : ofDegrees (toDegrees angle) = angle := by
  cases angle with
  | real x => rw [toDegrees_real, ofDegrees_real, radians_degrees]
  | undefined => rfl

/-- **Two formulas for one field of view**: that of a solution and that of a nominal pointing have
their factors in different orders. -/
theorem Solution.fieldOfView_eq (s : Solution Exact) (width height : ℕ) :
    let x := Scalar.ofNat width * s.scaleX
    let y := Scalar.ofNat height * s.scaleY
    s.fieldOfView width height = Analytic.sqrt (x * x + y * y) := by
  unfold fieldOfView diagonal
  dsimp only
  rw [ofNat_eq, ofNat_eq, mul_real_comm, mul_real_comm]

/-! ## Reading -/

namespace Header

variable {header : Header Exact} {key : String}

theorem real?_of_get? {value : Exact} (h : header.get? key = some (.real value)) :
    header.real? key = some value := by
  rw [real?, h]

theorem text?_of_get? {value : String} (h : header.get? key = some (.text value)) :
    header.text? key = some value := by
  rw [text?, h]

theorem text?_congr {other : Header Exact} (h : header.get? key = other.get? key) :
    header.text? key = other.text? key := by
  rw [text?, text?, h]

namespace Carries

variable {s : Solution Exact}

/-- **The solution is read back** from a header that carries it. -/
theorem read? (h : header.Carries s) : Solution.read? header = some s := by
  unfold Solution.read?
  simp only [real?_of_get? h.ra, real?_of_get? h.dec, real?_of_get? h.scaleX,
    real?_of_get? h.scaleY, real?_of_get? h.rotation, real?_of_get? h.pixelX,
    real?_of_get? h.pixelY, Angle.ofDegrees_toDegrees, Option.bind_eq_bind, Option.bind_some]
  rfl

/-- A coordinate of the solution, where there is a card that says what it is. -/
theorem solved? {kindKey valueKey kind : String} {angle : Exact}
    (hkind : header.get? kindKey = some (.text kind)) (htrim : Text.trim kind.toList = kind.toList)
    (hvalue : header.get? valueKey = some (.real (Angle.toDegrees angle))) :
    Pointing.solved? header kindKey kind valueKey = some angle := by
  rw [Pointing.solved?, text?_of_get? hkind]
  dsimp only
  rw [if_pos htrim, real?_of_get? hvalue, Option.map_some, Angle.ofDegrees_toDegrees]

/-- **The nominal pointing is that of the solution**, unless there is a card of the telescope. -/
theorem ofHeader (h : header.Carries s)
    (hcards : ∀ key ∈ Pointing.raKeys ++ Pointing.decKeys, header.text? key = none)
    (width height : ℕ) :
    Pointing.ofHeader header width height =
      .ok ⟨s.ra, s.dec, s.fieldOfView width height, s.scaleX, s.scaleY⟩ := by
  obtain ⟨hraCards, hdecCards⟩ := List.forall_mem_append.mp hcards
  have hnone {keys : List String} (hkeys : ∀ key ∈ keys, header.text? key = none) :
      Pointing.firstSexagesimal? header keys = none := by
    rw [Pointing.firstSexagesimal?, List.findSome?_eq_none_iff.mpr hkeys]
    rfl
  have hra : Pointing.ra? header = some s.ra := by
    rw [Pointing.ra?, hnone hraCards, solved? h.typeX (by decide) h.ra]
    rfl
  have hdec : Pointing.dec? header = some s.dec := by
    rw [Pointing.dec?, hnone hdecCards, solved? h.typeY (by decide) h.dec]
    rfl
  rw [Pointing.ofHeader, hra]
  dsimp only
  rw [hdec]
  dsimp only
  rw [real?_of_get? h.scaleX, real?_of_get? h.scaleY]
  dsimp only
  rw [Angle.ofDegrees_toDegrees, Angle.ofDegrees_toDegrees, s.fieldOfView_eq]

end Carries

end Header

/-! ## Writing again -/

namespace Solution

theorem write_write (s : Solution Exact) (header : Header Exact) :
    s.write (s.write header) = s.write header := by
  rw [s.write_eq_setAll (s.write header)]
  exact Header.setAll_of_get? fun card hcard => get?_write_of_mem hcard rfl header

/-- **A written solution is found again.**  Whatever solution is written into whatever header:

* the solution is read back as it was;
* its cards are there under every spelling of their keywords, whatever was there before;
* every other card is as it was;
* if there is no text under any keyword of the telescope, the nominal pointing is that of the
  solution, for every size of the image;
* and writing the solution again changes nothing at all. -/
theorem write_reproduces (s : Solution Exact) (header : Header Exact) :
    Solution.read? (s.write header) = some s ∧
      (∀ card ∈ s.cards, ∀ key, Header.keyword key = Header.keyword card.1 →
        (s.write header).get? key = some card.2) ∧
      (∀ key, Header.keyword key ∉ keywords →
        (s.write header).get? key = header.get? key) ∧
      ((∀ key ∈ Pointing.raKeys ++ Pointing.decKeys, header.text? key = none) →
        ∀ width height, Pointing.ofHeader (s.write header) width height =
          .ok ⟨s.ra, s.dec, s.fieldOfView width height, s.scaleX, s.scaleY⟩) ∧
      s.write (s.write header) = s.write header := by
  have hcarries := s.write_carries header
  refine ⟨hcarries.read?, fun card hcard key hkey => get?_write_of_mem hcard hkey header,
    fun key hkey => get?_write_of_notMem hkey s header, fun hcards => hcarries.ofHeader ?_,
    s.write_write header⟩
  intro key hkey
  -- None of the nine cards is one of the telescope.
  have hapart : ∀ key ∈ Pointing.raKeys ++ Pointing.decKeys, Header.keyword key ∉ keywords := by
    decide
  rw [Header.text?_congr (get?_write_of_notMem (hapart key hkey) s header)]
  exact hcards key hkey

/-- A header with cards under two of the keywords, of the other kind than a solution's, and with a
number where the telescope would leave a text. -/
def olderHeader : Header Exact :=
  ⟨[("CDELT1", .text "1.5"), ("OBJECT", .text "M 31"), ("CTYPE2", .real (.real 0)),
    ("RA", .real (.real 1))]⟩

/-- A solution at a corner of the image. -/
def cornerSolution : Solution Exact :=
  ⟨.real 1, .real (-1), .real 0, .real (-1), .real 1, .real 1, .real 1⟩

theorem write_reproduces_older :
    (∀ key ∈ Pointing.raKeys ++ Pointing.decKeys, olderHeader.text? key = none) ∧
      Solution.read? (cornerSolution.write olderHeader) = some cornerSolution ∧
      (cornerSolution.write olderHeader).get? "object" = some (.text "M 31") ∧
      Pointing.ofHeader (cornerSolution.write olderHeader) 4 3 =
        .ok ⟨.real 1, .real (-1), cornerSolution.fieldOfView 4 3, .real (-1), .real 1⟩ := by
  have hcards : ∀ key ∈ Pointing.raKeys ++ Pointing.decKeys, olderHeader.text? key = none := by
    decide
  obtain ⟨hread, -, hothers, hpointing, -⟩ := write_reproduces cornerSolution olderHeader
  exact ⟨hcards, hread, hothers "object" (by decide), hpointing hcards 4 3⟩

end Solution

end PlateSolver
