import PlateSolver.Proofs.Angle.Acceptance
import PlateSolver.Proofs.Solve.HandOver

/-!
# Positions that a header writes in sexagesimal

A header says where an image points in a text of its own or by an older solution, and the text
wins.  A text that writes no number is passed over as if it were not there, unless it is one of the
misleading ones; those win as well, and the search begins at a position that is none.

* `ra?_of_text`, `dec?_of_text` — a text that is not read leaves the older solution.
* `parse?_number` — which texts are read, as what, and what becomes of the others.
-/

namespace PlateSolver.Pointing

open Double Sexagesimal

variable {text : String}

section Cards

variable {α : Type} [Analytic α] [Readable α] {header : Header α}

/-- A text that is not read leaves the older solution. -/
theorem ra?_of_text (htext : raKeys.findSome? header.text? = some text)
    (hnone : (parse? text : Option α) = none) :
    ra? header = solved? header "CTYPE1" "RA---TAN" "CRVAL1" := by
  rw [ra?, firstSexagesimal?, htext, Option.bind_some, hnone]
  rfl

theorem dec?_of_text (htext : decKeys.findSome? header.text? = some text)
    (hnone : (parse? text : Option α) = none) :
    dec? header = solved? header "CTYPE2" "DEC--TAN" "CRVAL2" := by
  rw [dec?, firstSexagesimal?, htext, Option.bind_some, hnone]
  rfl

end Cards

/-- **A text that is passed over**, as if there were no card for the coordinate. -/
structure PassedOver (text : String) (header : Header Float) (width height : ℕ) : Prop where
  /-- The right ascension is that of an older solution. -/
  ra?_eq : raKeys.findSome? header.text? = some text →
    ra? header = solved? header "CTYPE1" "RA---TAN" "CRVAL1"
  /-- If there is none, that is what is reported. -/
  missingRa : raKeys.findSome? header.text? = some text →
    solved? header "CTYPE1" "RA---TAN" "CRVAL1" = none →
    ofHeader header width height = .error .missingRa
  /-- So is the declination. -/
  dec?_eq : decKeys.findSome? header.text? = some text →
    dec? header = solved? header "CTYPE2" "DEC--TAN" "CRVAL2"
  /-- What is reported is the first that is missing. -/
  missingDec : decKeys.findSome? header.text? = some text →
    solved? header "CTYPE2" "DEC--TAN" "CRVAL2" = none → ra? header ≠ none →
    ofHeader header width height = .error .missingDec

theorem passedOver (hnone : (parse? text : Option Float) = none) (header : Header Float)
    (width height : ℕ) : PassedOver text header width height where
  ra?_eq htext := ra?_of_text htext hnone
  missingRa htext hsolved :=
    ofHeader_eq_error_iff.mpr (ra?_eq_none_iff.mp ((ra?_of_text htext hnone).trans hsolved))
  dec?_eq htext := dec?_of_text htext hnone
  missingDec htext hsolved hra :=
    ofHeader_eq_error_iff.mpr ⟨not_not.mp (ra?_eq_none_iff.not.mp hra),
      dec?_eq_none_iff.mp ((dec?_of_text htext hnone).trans hsolved)⟩

/-- **Only numbers are read, but for misleading texts.**  Nothing but a text that writes a number is
read, if and only if the text is not misleading; with a word among its fields, what is read is not
finite.  Every text that writes a number is read, and as long as it is not too long and no field is
too large for the format, as that number, up to rounding.  Any other text is not read, and the
header is looked at as if the text were not there. -/
theorem parse?_number (text : String) :
    ((∀ v : Float, parse? text = some v → IsNumber text) ↔ ¬ Misleading text) ∧
      (HasWord text → ∀ v : Float, parse? text = some v → ¬ IsFinite v) ∧
      (∀ sign sizes, Writes text sign sizes → ∃ v : Float, parse? text = some v ∧
        (text.length ≤ 60000 → (∀ size ∈ sizes, size ≤ 2 ^ 1021) →
          ∃ p : ℝ, value? v = some (p : EReal) ∧
            |p - worth sign sizes| ≤ |worth sign sizes| * 2 ^ (-47 : ℤ) + 2 ^ (-1069 : ℤ))) ∧
      (¬ IsNumber text → ¬ Misleading text →
        (parse? text : Option Float) = none ∧
          ∀ header width height, PassedOver text header width height) := by
  have hread := exists_parse?_iff text
  refine ⟨⟨fun hnumbers hmisleading => ?_, fun hclear v hv => ?_⟩, fun h v hv => h.not_isFinite hv,
    fun sign sizes h => h.exists_near, fun hnumber hclear => ?_⟩
  · obtain ⟨v, hv⟩ := hread.mpr (.inr hmisleading)
    exact hmisleading.not_isNumber (hnumbers v hv)
  · exact (hread.mp ⟨v, hv⟩).resolve_right hclear
  · have hnone : (parse? text : Option Float) = none :=
      Option.eq_none_iff_forall_ne_some.mpr fun v hv =>
        (hread.mp ⟨v, hv⟩).elim hnumber hclear
    exact ⟨hnone, passedOver hnone⟩

/-- A word for a right ascension wins over an older solution. -/
theorem ofHeader_nan :
    ¬ IsNumber "nan" ∧ (∃ v : Float, parse? "nan" = some v ∧ ¬ IsFinite v) ∧
      ∃ pointing : Pointing Float,
        ofHeader ⟨[("RA", .text "nan"), ("CTYPE1", .text "RA---TAN"), ("CRVAL1", .real 10),
          ("DEC", .text "12:30"), ("CDELT1", .real 1), ("CDELT2", .real 1)]⟩ 100 100 =
            .ok pointing ∧ ¬ IsFinite pointing.ra := by
  have hundefined {v : Float} (hv : value? v = none) : ¬ IsFinite v := by
    rintro ⟨p, hp⟩
    rw [hv] at hp
    cases hp
  have htaken : TakenApart "nan" .absent [['n', 'a', 'n']] :=
    ⟨['n', 'a', 'n'], rfl, fun _ c hc => by obtain rfl := Option.some.inj hc; decide,
      Text.fields_eq_iff.mp (by decide)⟩
  have hword : IsWord ['n', 'a', 'n'] := .inr (Literal.read?_eq_some_iff.mp (by decide))
  have hmisleading : Misleading "nan" :=
    ⟨_, _, htaken, by decide, List.forall_mem_singleton.mpr (.inr (.word hword)), _,
      List.mem_singleton_self _, .word hword⟩
  exact ⟨hmisleading.not_isNumber, ⟨_, rfl, hundefined rfl⟩, _, rfl, hundefined rfl⟩

/-- Minus twelve and a half, a word that is read, and one that is not. -/
theorem parse?_number_south :
    (∃ v : Float, parse? "-12:30" = some v ∧ ∃ p : ℝ, value? v = some (p : EReal) ∧
      |p + 25 / 2| ≤ 25 / 2 * 2 ^ (-47 : ℤ) + 2 ^ (-1069 : ℤ)) ∧
      (∃ v : Float, parse? "inf" = some v ∧ ¬ IsFinite v) ∧
      ∀ header width height, PassedOver "south" header width height := by
  refine ⟨?_, ?_, ?_⟩
  · have htaken : TakenApart "-12:30" .minus [['1', '2'], ['3', '0']] :=
      ⟨['1', '2', ':', '3', '0'], rfl, fun hsign => (by cases hsign),
        Text.fields_eq_iff.mp (by decide)⟩
    have htwelve : FieldOf ['1', '2'] 12 := by
      simpa [Literal.value, Literal.digitValue] using
        fieldOf_of_isDigit ⟨List.cons_ne_nil '1' ['2'], List.all_eq_true.mp rfl⟩
    have hthirty : FieldOf ['3', '0'] 30 := by
      simpa [Literal.value, Literal.digitValue] using
        fieldOf_of_isDigit ⟨List.cons_ne_nil '3' ['0'], List.all_eq_true.mp rfl⟩
    have hwrites : Writes "-12:30" .minus [12, 30] :=
      { exists_fields := ⟨_, htaken, .cons htwelve (.cons hthirty .nil)⟩
        ne_nil := List.cons_ne_nil _ _
        length_le := by decide }
    have hworth : worth .minus [12, 30] = -(25 / 2) := by
      rw [worth, Literal.Sign.isMinus, if_pos rfl]
      norm_num
    obtain ⟨v, hv, hnear⟩ := (parse?_number "-12:30").2.2.1 _ _ hwrites
    have hlarge : ∀ size ∈ [12, 30], size ≤ (2 : ℝ) ^ 1021 := by
      have hroom : (2 : ℝ) ^ 5 ≤ 2 ^ 1021 := pow_le_pow_right₀ one_le_two (by norm_num)
      exact List.forall_mem_cons.mpr ⟨le_trans (by norm_num) hroom,
        List.forall_mem_singleton.mpr (le_trans (by norm_num) hroom)⟩
    obtain ⟨p, hp, hcost⟩ := hnear (by decide) hlarge
    rw [hworth, sub_neg_eq_add, abs_neg, abs_of_pos (by norm_num : (0 : ℝ) < 25 / 2)] at hcost
    exact ⟨v, hv, p, hp, hcost⟩
  · have htaken : TakenApart "inf" .absent [['i', 'n', 'f']] :=
      ⟨['i', 'n', 'f'], rfl, fun _ c hc => by obtain rfl := Option.some.inj hc; decide,
        Text.fields_eq_iff.mp (by decide)⟩
    have hword : HasWord "inf" :=
      ⟨_, _, htaken, _, List.mem_singleton_self _, .inl (Literal.read?_eq_some_iff.mp (by decide))⟩
    exact ⟨_, rfl, (parse?_number "inf").2.1 hword _ rfl⟩
  · have hnone : ¬ ∃ v : Float, parse? "south" = some v := by
      rintro ⟨v, hv⟩
      have : (parse? "south" : Option Float) = none := rfl
      rw [this] at hv
      cases hv
    obtain ⟨hnumber, hclear⟩ := not_or.mp (mt (exists_parse?_iff "south").mpr hnone)
    exact ((parse?_number "south").2.2.2 hnumber hclear).2

end PlateSolver.Pointing
