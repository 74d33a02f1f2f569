import PlateSolver.Angle.Sexagesimal
import PlateSolver.Proofs.Decimal.Figures
import PlateSolver.Proofs.Text.Fields

/-!
# Sexagesimal values written and read back

A value is rounded before it is split, so what is written is a count of units of the last printed
place.  Units, minutes, seconds and decimals are the digits of this count in a mixed base, and
whatever the rounding carries, none of them reaches its base.  What is read is that count again,
as a fraction of a unit.

* `Sixtieths`, `Layout` — how a value is laid out, well formed by construction.
* `Layout.text`, `Layout.value` — what is written, and what it stands for.
* `Layout.eq_of_size_eq` — there is only one layout for a number and a sign.
* `Layout.ofCount` — the layout of a count.
* `format_real` — what is written is the layout of the nearest count.
* `parse?_text` — what is laid out is read as what it stands for.
* `format_canonical` — so a value, written and read back, is off by no more than half a unit of the
  last place.
-/

namespace PlateSolver.Sexagesimal

open Exact Decimal

/-! ## Layouts -/

/-- **Sixtieths.** Two figures that stand for less than sixty. -/
@[ext]
structure Sixtieths where
  /-- The figures. -/
  figures : List Char
  /-- They are digits. -/
  isDigit_figures : ∀ c ∈ figures, Literal.isDigit c = true
  /-- There are two of them. -/
  length_figures : figures.length = 2
  /-- Sixty carries. -/
  value_lt : Literal.value 0 figures < 60

theorem Sixtieths.figures_ne_nil (s : Sixtieths) : s.figures ≠ [] :=
  List.length_pos_iff.mp (s.length_figures ▸ Nat.zero_lt_two)

/-- The figures of a number below sixty. -/
def Sixtieths.ofNat (n : ℕ) (h : n < 60) : Sixtieths where
  figures := zeroFilled 2 (digits n)
  isDigit_figures := isDigit_of_mem_zeroFilled
  length_figures := length_zeroFilled_digits (by decide) (h.trans (by decide))
  value_lt := (value_zeroFilled 2 n).trans_lt h

/-- **Layout.** A value as units, minutes and seconds, with `places` decimals on the seconds. -/
@[ext]
structure Layout (places : ℕ) where
  /-- Whether there is a minus sign. -/
  negative : Bool
  /-- The whole units. -/
  units : List Char
  /-- The minutes. -/
  minutes : Sixtieths
  /-- The whole seconds. -/
  seconds : Sixtieths
  /-- The decimals of the seconds. -/
  fraction : List Char
  /-- The units are digits. -/
  isDigit_units : ∀ c ∈ units, Literal.isDigit c = true
  /-- There are at least two of them. -/
  two_le_length : 2 ≤ units.length
  /-- Where there are more, they do not begin with a zero. -/
  head?_units : 2 < units.length → units.head? ≠ some '0'
  /-- The decimals are digits. -/
  isDigit_fraction : ∀ c ∈ fraction, Literal.isDigit c = true
  /-- There is one for each place. -/
  length_fraction : fraction.length = places

namespace Layout

variable {places : ℕ} (t : Layout places)

theorem units_ne_nil : t.units ≠ [] :=
  List.length_pos_iff.mp (Nat.zero_lt_two.trans_le t.two_le_length)

/-- What follows the sign. -/
def body : List Char :=
  t.units ++ ':' :: (t.minutes.figures ++ ':' :: withPoint t.seconds.figures t.fraction)

/-- **A layout as it is written.** -/
def text : List Char := (if t.negative then ['-'] else []) ++ t.body

/-- What the fields stand for together. -/
def size : ℚ :=
  Literal.value 0 t.units + Literal.value 0 t.minutes.figures / 60 +
    (Literal.value 0 t.seconds.figures + Literal.value 0 t.fraction / 10 ^ places) / 3600

/-- **What a layout stands for.** -/
def value : ℚ := if t.negative then -t.size else t.size

end Layout

/-! ## One layout for a number -/

namespace Layout

variable {places : ℕ} {s t : Layout places}

/-- The number of units of the last place. -/
def count (t : Layout places) : ℕ :=
  ((Literal.value 0 t.units * 60 + Literal.value 0 t.minutes.figures) * 60 +
    Literal.value 0 t.seconds.figures) * 10 ^ places + Literal.value 0 t.fraction

theorem count_eq (t : Layout places) : (t.count : ℚ) = t.size * (3600 * 10 ^ places) := by
  rw [count, size]
  push_cast
  field_simp
  ring

/-- The units are at least two digits wide, and otherwise as wide as they must be. -/
theorem units_eq (t : Layout places) :
    t.units = zeroFilled 2 (digits (Literal.value 0 t.units)) := by
  have hunits := zeroFilled_value t.units_ne_nil t.isDigit_units
  rcases t.two_le_length.eq_or_lt with htwo | hmore
  · rw [htwo, hunits]
  · have hwidth : t.units.length ≤ (digits (Literal.value 0 t.units)).length := by
      by_contra hless
      have hzero := head?_zeroFilled_of_lt (not_le.mp hless)
      rw [hunits] at hzero
      exact t.head?_units hmore hzero
    rw [zeroFilled_of_le (hmore.le.trans hwidth), ← zeroFilled_of_le hwidth, hunits]

/-- The decimals are what a count leaves of a second. -/
theorem count_mod (t : Layout places) : t.count % 10 ^ places = Literal.value 0 t.fraction := by
  have hfraction := value_lt_pow t.isDigit_fraction
  rw [t.length_fraction] at hfraction
  rw [count, mul_comm _ (10 ^ places), Nat.mul_add_mod, Nat.mod_eq_of_lt hfraction]

theorem count_div (t : Layout places) :
    t.count / 10 ^ places =
      (Literal.value 0 t.units * 60 + Literal.value 0 t.minutes.figures) * 60 +
        Literal.value 0 t.seconds.figures := by
  have hfraction := value_lt_pow t.isDigit_fraction
  rw [t.length_fraction] at hfraction
  rw [count, mul_comm _ (10 ^ places), Nat.mul_add_div (by positivity),
    Nat.div_eq_of_lt hfraction, add_zero]

/-- **There is only one layout for a number** and a sign. -/
theorem eq_of_size_eq (hsign : s.negative = t.negative) (hsize : s.size = t.size) : s = t := by
  have hcount : s.count = t.count := by
    have hrat : (s.count : ℚ) = t.count := by rw [count_eq, count_eq, hsize]
    exact_mod_cast hrat
  have hfraction : Literal.value 0 s.fraction = Literal.value 0 t.fraction := by
    rw [← s.count_mod, ← t.count_mod, hcount]
  have hfields := s.count_div.symm.trans ((congrArg (· / 10 ^ places) hcount).trans t.count_div)
  have hsixtieths {a b : Sixtieths} (h : Literal.value 0 a.figures = Literal.value 0 b.figures) :
      a = b :=
    Sixtieths.ext (eq_of_value_eq a.isDigit_figures b.isDigit_figures
      (a.length_figures.trans b.length_figures.symm) h)
  -- Fields below their base are told apart by what they come to.
  have := s.minutes.value_lt
  have := s.seconds.value_lt
  have := t.minutes.value_lt
  have := t.seconds.value_lt
  have hunits : Literal.value 0 s.units = Literal.value 0 t.units := by omega
  refine Layout.ext hsign ?_ (hsixtieths (by omega)) (hsixtieths (by omega)) ?_
  · rw [s.units_eq, t.units_eq, hunits]
  · exact eq_of_value_eq s.isDigit_fraction t.isDigit_fraction
      (s.length_fraction.trans t.length_fraction.symm) hfraction

end Layout

/-! ## Counts of the last place -/

/-- The units of a number, which are at least two figures and no more than needed. -/
theorem head?_zeroFilled_two (n : ℕ) (h : 2 < (zeroFilled 2 (digits n)).length) :
    (zeroFilled 2 (digits n)).head? ≠ some '0' := by
  rw [length_zeroFilled] at h
  have hlength : 2 < (digits n).length := by omega
  rw [zeroFilled_of_le hlength.le]
  rcases digits_eq_zero_or n with hzero | ⟨c, rest, hdigits, hc⟩
  · rw [hzero] at hlength
    exact absurd hlength (by decide)
  · rw [hdigits, List.head?_cons]
    exact fun hsome => hc (Option.some.inj hsome)

/-- What a count leaves of its last unit. -/
def belowUnit (places count : ℕ) : ℕ := count % (10 ^ places * 3600)

/-- What a count leaves of its last minute. -/
def belowMinute (places count : ℕ) : ℕ := belowUnit places count % (10 ^ places * 60)

theorem minutes_lt (places count : ℕ) : belowUnit places count / (10 ^ places * 60) < 60 := by
  rw [Nat.div_lt_iff_lt_mul (by positivity)]
  exact (Nat.mod_lt _ (by positivity)).trans_eq (by ring)

theorem seconds_lt (places count : ℕ) : belowMinute places count / 10 ^ places < 60 := by
  rw [Nat.div_lt_iff_lt_mul (by positivity), mul_comm 60]
  exact Nat.mod_lt _ (by positivity)

/-- **The layout of a count** of units of the last place. -/
def Layout.ofCount (negative : Bool) (places count : ℕ) : Layout places where
  negative := negative
  units := zeroFilled 2 (digits (count / (10 ^ places * 3600)))
  minutes := .ofNat (belowUnit places count / (10 ^ places * 60)) (minutes_lt places count)
  seconds := .ofNat (belowMinute places count / 10 ^ places) (seconds_lt places count)
  fraction := decimals places (belowMinute places count % 10 ^ places)
  isDigit_units := isDigit_of_mem_zeroFilled
  two_le_length := by
    rw [length_zeroFilled]
    exact le_max_left 2 _
  head?_units := head?_zeroFilled_two _
  isDigit_fraction := isDigit_of_mem_decimals
  length_fraction := length_decimals (Nat.mod_lt _ (by positivity))

/-- **The fields of a count come to it again.** -/
theorem Layout.count_ofCount (negative : Bool) (places count : ℕ) :
    (ofCount negative places count).count = count := by
  have hfraction : belowMinute places count % 10 ^ places < 10 ^ places :=
    Nat.mod_lt _ (by positivity)
  simp only [Layout.count, ofCount, Sixtieths.ofNat, value_zeroFilled, value_decimals hfraction]
  calc _ = 10 ^ places * 3600 * (count / (10 ^ places * 3600)) +
        (10 ^ places * 60 * (belowUnit places count / (10 ^ places * 60)) +
          (10 ^ places * (belowMinute places count / 10 ^ places) +
            belowMinute places count % 10 ^ places)) := by ring
    _ = count := by
      rw [Nat.div_add_mod, belowMinute, Nat.div_add_mod, belowUnit, Nat.div_add_mod]

theorem Layout.size_ofCount (negative : Bool) (places count : ℕ) :
    (ofCount negative places count).size = count / (3600 * 10 ^ places) := by
  rw [eq_div_iff (by positivity), ← count_eq, count_ofCount]

/-! ## Writing -/

/-- Rounding makes a value a count of units of the last place. -/
theorem rounded_real (v : ℝ) (places : ℕ) :
    Scalar.round (Scalar.abs (real v) * 3600 * Scalar.power 10 places) / Scalar.power 10 places =
      real (nearest (|v| * 3600 * 10 ^ places) / 10 ^ places) := by
  have hnonneg : 0 ≤ |v| * 3600 * 10 ^ places := by positivity
  have hne : (10 ^ places : ℝ) ≠ 0 := by positivity
  rw [numeral_eq, numeral_eq, abs_real, power_real, real_mul, real_mul, round_real hnonneg,
    real_div _ hne]

/-- Its units are still those of a signed 64-bit number. -/
theorem units_le {v : ℝ} (hv : |v| ≤ 2 ^ 62) (places : ℕ) :
    nearest (|v| * 3600 * 10 ^ places) / (10 ^ places * 3600) ≤ Nat.pow 2 63 - 1 := by
  have hscaled : |v| * 3600 * 10 ^ places ≤ 2 ^ 62 * 3600 * 10 ^ places := by gcongr
  have hmost : nearest (|v| * 3600 * 10 ^ places) ≤ 2 ^ 62 * 3600 * 10 ^ places := by
    rw [← nearest_natCast (2 ^ 62 * 3600 * 10 ^ places)]
    exact nearest_mono (by exact_mod_cast hscaled)
  have hunits : nearest (|v| * 3600 * 10 ^ places) / (10 ^ places * 3600) ≤ 2 ^ 62 :=
    Nat.div_le_of_le_mul (hmost.trans_eq (by ring))
  exact hunits.trans (by decide)

/-- Whole steps of a count, and what they leave of it. -/
theorem split_real (count places : ℕ) {step : ℕ} (hstep : 0 < step) :
    Scalar.floor (real (count / 10 ^ places) / real step) =
        real (count / (10 ^ places * step) : ℕ) ∧
      real (count / 10 ^ places) - real (count / (10 ^ places * step) : ℕ) * real step =
        real ((count % (10 ^ places * step) : ℕ) / 10 ^ places) := by
  have hne : (step : ℝ) ≠ 0 := by positivity
  have hsplit : (count : ℝ) =
      10 ^ places * step * (count / (10 ^ places * step) : ℕ) +
        (count % (10 ^ places * step) : ℕ) := by
    exact_mod_cast (Nat.div_add_mod count (10 ^ places * step)).symm
  constructor
  · have hproduct : (10 ^ places * step : ℝ) = (10 ^ places * step : ℕ) := by push_cast; rfl
    rw [real_div _ hne, div_div, hproduct, floor_natCast_div]
  · rw [real_mul, real_sub, hsplit]
    congr 1
    field_simp
    ring

/-- **What is written is the layout of the nearest count** of units of the last place. -/
theorem format_real {v : ℝ} (hv : |v| ≤ 2 ^ 62) (places : ℕ) :
    format (real v) places =
      String.ofList
        (Layout.ofCount (v < 0) places (nearest (|v| * 3600 * 10 ^ places))).text := by
  have hunits := units_le hv places
  have hrounded := rounded_real v places
  generalize nearest (|v| * 3600 * 10 ^ places) = count at hunits hrounded ⊢
  have hminutes : belowUnit places count / (10 ^ places * 60) ≤ Nat.pow 2 63 - 1 :=
    (minutes_lt places count).le.trans (by decide)
  obtain ⟨hunitsOf, hbelowUnit⟩ := split_real count places (by decide : 0 < 3600)
  obtain ⟨hminutesOf, hbelowMinute⟩ := split_real (belowUnit places count) places
    (by decide : 0 < 60)
  rw [← belowUnit] at hbelowUnit
  rw [← belowMinute] at hbelowMinute
  have hseconds := zeroFixed_of_count 2 places (belowMinute places count)
  have hwidth : places + 3 = places + (1 + 2) := rfl
  have hsign : (if real v < 0 then ['-'] else []) = if decide (v < 0) then ['-'] else [] := by
    rcases lt_or_ge v 0 with hneg | hpos
    · rw [if_pos (by rwa [zero_eq, real_lt]), if_pos (decide_eq_true hneg)]
    · rw [if_neg (by rwa [zero_eq, real_lt, not_lt]), decide_eq_false hpos.not_gt,
        if_neg Bool.false_ne_true]
  rw [Nat.cast_ofNat] at hunitsOf hbelowUnit hminutesOf hbelowMinute
  rw [format, hrounded, numeral_eq 3600, hunitsOf, hbelowUnit, numeral_eq 60, hminutesOf,
    hbelowMinute, wholeInt_natCast hunits, wholeInt_natCast hminutes, integerText_natCast,
    integerText_natCast, hsign, hwidth, hseconds, List.append_assoc, List.append_assoc]
  rfl

/-! ## Reading -/

theorem separates_of_isDigit {c : Char} (h : Literal.isDigit c = true) : separates c = false := by
  have hcolon : c ≠ ':' := by
    rintro rfl
    exact absurd h (by decide)
  rw [separates, Literal.isBlank_of_isDigit h, Bool.or_false]
  exact beq_eq_false_iff_ne.mpr hcolon

/-- Figures with a point among them are one field. -/
theorem separates_of_mem_withPoint {whole fraction : List Char}
    (hwhole : ∀ c ∈ whole, Literal.isDigit c = true)
    (hfraction : ∀ c ∈ fraction, Literal.isDigit c = true) :
    ∀ c ∈ withPoint whole fraction, separates c = false := by
  have hbefore : ∀ c ∈ whole, separates c = false := fun c hc => separates_of_isDigit (hwhole c hc)
  rw [withPoint]
  split_ifs
  · exact hbefore
  · exact List.forall_mem_append.mpr ⟨hbefore, List.forall_mem_cons.mpr
      ⟨rfl, fun c hc => separates_of_isDigit (hfraction c hc)⟩⟩

theorem isBlank_of_separates {c : Char} (h : separates c = false) : Text.isBlank c = false :=
  (Bool.or_eq_false_iff.mp h).2

namespace Layout

variable {places : ℕ} (t : Layout places)

theorem separates_units : ∀ c ∈ t.units, separates c = false :=
  fun c hc => separates_of_isDigit (t.isDigit_units c hc)

theorem separates_minutes : ∀ c ∈ t.minutes.figures, separates c = false :=
  fun c hc => separates_of_isDigit (t.minutes.isDigit_figures c hc)

theorem separates_seconds : ∀ c ∈ withPoint t.seconds.figures t.fraction, separates c = false :=
  separates_of_mem_withPoint t.seconds.isDigit_figures t.isDigit_fraction

theorem seconds_ne_nil : withPoint t.seconds.figures t.fraction ≠ [] := by
  rw [withPoint]
  split_ifs
  · exact t.seconds.figures_ne_nil
  · exact List.append_ne_nil_of_left_ne_nil t.seconds.figures_ne_nil _

/-- **The fields of a layout** are found between its colons. -/
theorem fields_body :
    Text.fields separates t.body =
      [t.units, t.minutes.figures, withPoint t.seconds.figures t.fraction] := by
  have hnone : ∀ c ∈ ([] : List Char), separates c = true := List.forall_mem_nil _
  have hcolon : ∀ c ∈ [':'], separates c = true := List.forall_mem_singleton.mpr rfl
  have hbefore (rest : List Char) : ∀ c, (':' :: rest).head? = some c → separates c = true := by
    intro c hc
    obtain rfl : ':' = c := Option.some.inj hc
    rfl
  have hlaid : Text.LaidOut separates t.body
      [t.units, t.minutes.figures, withPoint t.seconds.figures t.fraction] := by
    have hseconds : Text.LaidOut separates (':' :: withPoint t.seconds.figures t.fraction)
        [withPoint t.seconds.figures t.fraction] := by
      have h := Text.LaidOut.field hcolon ⟨t.seconds_ne_nil, t.separates_seconds⟩
        (fun c hc => by cases hc) (.done hnone)
      rwa [List.append_nil] at h
    exact .field hnone ⟨t.units_ne_nil, t.separates_units⟩ (hbefore _)
      (.field hcolon ⟨t.minutes.figures_ne_nil, t.separates_minutes⟩ (hbefore _) hseconds)
  exact hlaid.fields_eq

theorem isBlank_body : ∀ c ∈ t.body, Text.isBlank c = false :=
  List.forall_mem_append.mpr ⟨fun c hc => isBlank_of_separates (t.separates_units c hc),
    List.forall_mem_cons.mpr ⟨rfl, List.forall_mem_append.mpr
      ⟨fun c hc => isBlank_of_separates (t.separates_minutes c hc), List.forall_mem_cons.mpr
        ⟨rfl, fun c hc => isBlank_of_separates (t.separates_seconds c hc)⟩⟩⟩⟩

/-- A layout begins with its sign, or with a digit. -/
theorem parts_text :
    parts (String.ofList t.text) =
      (t.negative, [t.units, t.minutes.figures, withPoint t.seconds.figures t.fraction]) := by
  have hdigit : ∀ c, t.body.head? = some c → c ≠ '-' ∧ c ≠ '+' := by
    obtain ⟨first, rest, hunits⟩ := List.exists_cons_of_ne_nil t.units_ne_nil
    intro c hc
    rw [body, hunits] at hc
    obtain rfl : first = c := Option.some.inj hc
    exact Literal.ne_sign_of_isDigit (t.isDigit_units first (hunits ▸ List.mem_cons_self))
  have hblank : ∀ c ∈ t.text, Text.isBlank c = false := by
    refine List.forall_mem_append.mpr ⟨?_, t.isBlank_body⟩
    split
    · exact List.forall_mem_singleton.mpr rfl
    · exact List.forall_mem_nil _
  have hsplit : Literal.splitSign t.text = (t.negative, t.body) := by
    cases hnegative : t.negative with
    | true =>
        rw [text, hnegative]
        exact Literal.Sign.minus.splitSign_append hdigit
    | false =>
        rw [text, hnegative]
        exact Literal.Sign.absent.splitSign_append hdigit
  rw [parts, String.toList_ofList, Text.trim_eq_self hblank, hsplit]
  exact congrArg (Prod.mk t.negative) t.fields_body

end Layout

theorem field?_of_read? {text : List Char} {x : ℝ} (hread : Readable.read? text = some (real x))
    (hx : 0 ≤ x) : field? text = some (real x) := by
  have hnonneg : ¬ real x < 0 := by rwa [zero_eq, real_lt, not_lt]
  rw [field?, hread]
  exact Option.filter_eq_some_iff.mpr ⟨rfl, by rw [decide_eq_false hnonneg]; rfl⟩

/-- Digits are a field that counts their number. -/
theorem field?_of_isDigit {figures : List Char}
    (h : figures ≠ [] ∧ ∀ c ∈ figures, Literal.isDigit c = true) :
    field? figures = some (real (Literal.value 0 figures)) := by
  refine field?_of_read? ?_ (Nat.cast_nonneg _)
  have hread := read?_withPoint h (List.forall_mem_nil fun c => Literal.isDigit c = true)
  simpa [withPoint, Literal.value] using hread

/-- The value of one to three fields is their total, with the sign that stands before them. -/
theorem parse?_of_parts {α : Type} [Scalar α] [Readable α] {text : String} {negative : Bool}
    {fields : List (List Char)} {values : List α} (hparts : parts text = (negative, fields))
    (hne : fields ≠ []) (hlength : fields.length ≤ 3) (hvalues : fields.mapM field? = some values) :
    parse? text = some (if negative then -total 0 1 values else total 0 1 values) := by
  have hcount : ¬ (fields.isEmpty || decide (3 < fields.length)) = true := by
    simpa using ⟨hne, hlength⟩
  rw [parse?, hparts]
  exact (if_neg hcount).trans (by rw [hvalues]; rfl)

/-- Each field counts a sixtieth of the one before. -/
theorem total_three (a b c : ℝ) :
    total 0 1 [real a, real b, real c] = real (a + b / 60 + c / 3600) := by
  have hsixty : (60 : ℝ) ≠ 0 := by norm_num
  rw [total, total, total, total, zero_eq, one_eq, numeral_eq, real_mul, real_mul,
    real_div _ one_ne_zero, real_div _ (mul_ne_zero one_ne_zero hsixty),
    real_div _ (mul_ne_zero (mul_ne_zero one_ne_zero hsixty) hsixty), real_add, real_add, real_add]
  congr 1
  ring

/-- **What is laid out is read as what it stands for.** -/
theorem parse?_text {places : ℕ} (t : Layout places) :
    (parse? (String.ofList t.text) : Option Exact) = some (real t.value) := by
  have hunits := field?_of_isDigit ⟨t.units_ne_nil, t.isDigit_units⟩
  have hminutes := field?_of_isDigit ⟨t.minutes.figures_ne_nil, t.minutes.isDigit_figures⟩
  have hseconds := field?_of_read?
    (read?_withPoint ⟨t.seconds.figures_ne_nil, t.seconds.isDigit_figures⟩ t.isDigit_fraction)
    (by positivity)
  rw [t.length_fraction] at hseconds
  have hfields : [t.units, t.minutes.figures, withPoint t.seconds.figures t.fraction].mapM field? =
      some [real (Literal.value 0 t.units), real (Literal.value 0 t.minutes.figures),
        real (Literal.value 0 t.seconds.figures + Literal.value 0 t.fraction / 10 ^ places)] := by
    simp [hunits, hminutes, hseconds]
  have htotal : total 0 1 [real (Literal.value 0 t.units),
      real (Literal.value 0 t.minutes.figures),
      real (Literal.value 0 t.seconds.figures + Literal.value 0 t.fraction / 10 ^ places)] =
      real t.size := by
    rw [total_three, Layout.size]
    push_cast
    rfl
  have hsigned : (if t.negative then -real t.size else real t.size) = real t.value := by
    rw [Layout.value]
    split_ifs
    · rw [real_neg, Rat.cast_neg]
    · rfl
  rw [parse?_of_parts t.parts_text (List.cons_ne_nil _ _) le_rfl hfields, htotal, hsigned]

/-- **A value, written and read back.**  What is written is laid out as signed units, minutes and
seconds, with a minus sign for values below zero and for no others, and its fields stand for the
value rounded to a whole number of units of the last place, halves away from zero.  No other layout
stands for that.  What is read is what the layout stands for, with its sign, so it is off by no more
than half a unit of the last place. -/
theorem format_canonical (v : ℝ) (hv : |v| ≤ 2 ^ 62) (places : ℕ) :
    ∃ t : Layout places,
      format (real v) places = String.ofList t.text ∧ (t.negative = true ↔ v < 0) ∧
      t.size = nearest (|v| * 3600 * 10 ^ places) / (3600 * 10 ^ places) ∧
      (∀ s : Layout places, s.negative = t.negative → s.size = t.size → s = t) ∧
      parse? (format (real v) places) = some (real t.value) ∧
      |t.value - v| ≤ 1 / (3600 * 10 ^ places) / 2 := by
  have hscale : (0 : ℝ) < 3600 * 10 ^ places := by positivity
  have htext := format_real hv places
  set count := nearest (|v| * 3600 * 10 ^ places) with hcount
  have hnear : |count / (3600 * 10 ^ places) - (|v|)| ≤ 1 / (3600 * 10 ^ places) / 2 := by
    rw [hcount, mul_assoc]
    exact abs_nearest_div_sub |v| hscale (by positivity)
  have hsize := Layout.size_ofCount (v < 0) places count
  have hvalue : ((Layout.ofCount (v < 0) places count).value : ℝ) =
      if v < 0 then -((count : ℝ) / (3600 * 10 ^ places))
      else (count : ℝ) / (3600 * 10 ^ places) := by
    rw [Layout.value, hsize]
    simp only [Layout.ofCount, decide_eq_true_eq]
    split_ifs <;> push_cast <;> rfl
  refine ⟨.ofCount (v < 0) places count, htext, decide_eq_true_iff, hsize,
    fun s => Layout.eq_of_size_eq, htext ▸ parse?_text _, ?_⟩
  -- A value below zero is as far from what is read as both are on the other side of zero.
  rw [hvalue]
  split_ifs with hneg
  · rw [abs_of_neg hneg] at hnear
    rwa [← abs_neg, neg_sub, sub_neg_eq_add, add_comm, ← sub_neg_eq_add]
  · rwa [abs_of_nonneg (not_lt.mp hneg)] at hnear

/-- Just above minus twenty-one, rounding carries into every field. -/
theorem format_canonical_carry :
    |(-(20 + 59 / 60 + 599 / 36000) : ℝ)| ≤ 2 ^ 62 ∧
      format (real (-(20 + 59 / 60 + 599 / 36000))) 0 = "-21:00:00" ∧
      parse? "-21:00:00" = some (real (-21)) := by
  have hbound : |(-(20 + 59 / 60 + 599 / 36000) : ℝ)| ≤ 2 ^ 62 := by
    rw [abs_neg, abs_of_pos (by norm_num)]
    norm_num
  have hcount : nearest (|(-(20 + 59 / 60 + 599 / 36000) : ℝ)| * 3600 * 10 ^ 0) = 75600 := by
    rw [abs_neg, abs_of_pos (by norm_num), nearest_eq_floor, Nat.floor_eq_iff (by norm_num)]
    norm_num
  obtain ⟨t, htext, hsign, hsize, hunique, hparse, -⟩ := format_canonical _ hbound 0
  have hminus : t.negative = true := hsign.mpr (by norm_num)
  rw [hcount] at hsize
  obtain rfl : .ofCount true 0 75600 = t :=
    hunique _ hminus.symm ((Layout.size_ofCount true 0 75600).trans hsize.symm)
  have hwritten : String.ofList (Layout.ofCount true 0 75600).text = "-21:00:00" := by decide
  have hvalue : (Layout.ofCount true 0 75600).value = -21 := by
    rw [Layout.value, hsize, if_pos hminus]
    norm_num
  rw [htext, hwritten] at hparse
  rw [hvalue] at hparse
  exact ⟨hbound, htext.trans hwritten, by exact_mod_cast hparse⟩

end PlateSolver.Sexagesimal
