import PlateSolver.Decimal.Figure
import PlateSolver.Proofs.Arithmetic.Exact
import PlateSolver.Proofs.Decimal.Literals

/-!
# Decimal places

A number that is a whole count of units of its last decimal place is printed without rounding.
Its figures are those of the count, cut in two by the point: the quotient by a power of ten before
it and the remainder behind it, which zeros bring to its width.

* `zeroFilled_add` — digits at a width, cut in two.
* `zeroFilled_value` — every run of digits is that of a number at a width.
* `value_append` — what two runs of digits stand for.
* `pointed_eq` — what stands before the point and behind it.
* The instance `Figured Exact`, and `zeroFixed_of_count` — a count of units, as it is printed.
* `read?_withPoint` — a decimal fraction, as it is read.
-/

namespace PlateSolver

open Decimal

namespace Decimal

/-! ## Digits at a width -/

theorem zeroFilled_of_le {width : ℕ} {text : List Char} (h : width ≤ text.length) :
    zeroFilled width text = text := by
  rw [zeroFilled, Nat.sub_eq_zero_of_le h, List.replicate_zero, List.nil_append]

theorem head?_zeroFilled_of_lt {width : ℕ} {text : List Char} (h : text.length < width) :
    (zeroFilled width text).head? = some '0' := by
  obtain ⟨more, hmore⟩ := Nat.exists_eq_add_one.mpr (Nat.sub_pos_of_lt h)
  rw [zeroFilled, hmore, List.replicate_succ, List.cons_append, List.head?_cons]

/-- The last digit of a number at a width, and those before it. -/
theorem zeroFilled_succ {width : ℕ} (hwidth : 0 < width) (n : ℕ) :
    zeroFilled (width + 1) (digits n) =
      zeroFilled width (digits (n / 10)) ++ [(n % 10).digitChar] := by
  rcases lt_or_ge n 10 with hsmall | hlarge
  · have hdigits : digits n = [n.digitChar] := Nat.toDigits_of_lt_base hsmall
    have hwhole : digits (n / 10) = ['0'] := by
      rw [Nat.div_eq_of_lt hsmall]
      rfl
    obtain ⟨fewer, rfl⟩ := Nat.exists_eq_add_one.mpr hwidth
    rw [hdigits, hwhole, Nat.mod_eq_of_lt hsmall, zeroFilled, zeroFilled, List.length_singleton,
      List.length_singleton, Nat.add_sub_cancel, Nat.add_sub_cancel, List.replicate_succ']
  · have hdigits : digits n = digits (n / 10) ++ [(n % 10).digitChar] := by
      rw [digits, Nat.toDigits_eq_if (by decide), if_neg (not_lt.mpr hlarge)]
      rfl
    rw [hdigits, zeroFilled, zeroFilled, List.length_append, List.length_singleton,
      Nat.add_sub_add_right, List.append_assoc]

theorem zeroFilled_one (n : ℕ) : zeroFilled 1 (digits n) = digits n :=
  zeroFilled_of_le (List.length_pos_iff.mpr (digits_ne_nil n))

/-- **Digits at a width, cut in two**: those of the quotient by a power of ten, and those of the
remainder. -/
theorem zeroFilled_add {width places : ℕ} (hwidth : 0 < width) (hplaces : 1 ≤ places) (n : ℕ) :
    zeroFilled (width + places) (digits n) =
      zeroFilled width (digits (n / 10 ^ places)) ++
        zeroFilled places (digits (n % 10 ^ places)) := by
  -- The last digits are taken one by one.
  induction places, hplaces using Nat.le_induction generalizing n with
  | base =>
      have hlast : digits (n % 10) = [(n % 10).digitChar] :=
        Nat.toDigits_of_lt_base (Nat.mod_lt n (by decide))
      rw [pow_one, zeroFilled_succ hwidth, zeroFilled_one, hlast]
  | succ places hplaces ih =>
      have hpow : 10 ^ (places + 1) = 10 * 10 ^ places := pow_succ' 10 places
      have hlast : n % 10 ^ (places + 1) % 10 = n % 10 :=
        Nat.mod_mod_of_dvd n (hpow ▸ Nat.dvd_mul_right 10 _)
      have hrest : n % 10 ^ (places + 1) / 10 = n / 10 % 10 ^ places := by
        rw [hpow, Nat.mod_mul_right_div_self]
      rw [← add_assoc, zeroFilled_succ (by omega), ih, zeroFilled_succ hplaces, hlast, hrest,
        List.append_assoc, Nat.div_div_eq_div_mul, hpow]

theorem length_zeroFilled (width : ℕ) (text : List Char) :
    (zeroFilled width text).length = max width text.length := by
  rw [zeroFilled, List.length_append, List.length_replicate]
  omega

/-- A number that fits into a width fills it. -/
theorem length_zeroFilled_digits {width n : ℕ} (hwidth : 0 < width) (h : n < 10 ^ width) :
    (zeroFilled width (digits n)).length = width := by
  rw [length_zeroFilled]
  exact max_eq_left ((Nat.length_toDigits_le_iff (by decide) hwidth).mpr h)

theorem isDigit_of_mem_zeroFilled {width n : ℕ} :
    ∀ c ∈ zeroFilled width (digits n), Literal.isDigit c = true := by
  refine List.forall_mem_append.mpr ⟨fun c hc => ?_, fun c hc => isDigit_of_mem_digits hc⟩
  rw [(List.mem_replicate.mp hc).2]
  rfl

/-- **What two runs of digits stand for** together. -/
theorem value_append (first second : List Char) :
    Literal.value 0 (first ++ second) =
      10 ^ second.length * Literal.value 0 first + Literal.value 0 second :=
  (Nat.ofDigitChars_append 0).trans Nat.ofDigitChars_eq_ofDigitChars_zero

theorem value_concat (run : List Char) (c : Char) :
    Literal.value 0 (run ++ [c]) = 10 * Literal.value 0 run + Literal.digitValue c :=
  List.foldl_append

theorem digitChar_digitValue {c : Char} (h : Literal.isDigit c = true) :
    (Literal.digitValue c).digitChar = c := by
  have hchar : ∀ n < 10, '0'.toNat ≤ n.digitChar.toNat ∧ Literal.digitValue n.digitChar = n := by
    decide
  obtain ⟨hlow, hsame⟩ := hchar _ (digitValue_lt_ten h)
  have hvalue : (Literal.digitValue c).digitChar.toNat - '0'.toNat = c.toNat - '0'.toNat := hsame
  have hleast := (toNat_le_of_isDigit h).1
  exact Char.toNat_inj.mp (by omega)

/-- **A run of digits is that of its number** at its width. -/
theorem zeroFilled_value {run : List Char} (hne : run ≠ [])
    (hdigits : ∀ c ∈ run, Literal.isDigit c = true) :
    zeroFilled run.length (digits (Literal.value 0 run)) = run := by
  induction run using List.reverseRecOn with
  | nil => exact absurd rfl hne
  | append_singleton run c ih =>
      obtain ⟨hrun, hlast⟩ := List.forall_mem_append.mp hdigits
      have hc : Literal.isDigit c = true := hlast c List.mem_cons_self
      have hten := digitValue_lt_ten hc
      rw [List.length_append, List.length_singleton, value_concat]
      rcases eq_or_ne run [] with rfl | hbefore
      · have hvalue : 10 * Literal.value 0 [] + Literal.digitValue c = Literal.digitValue c :=
          Nat.zero_add _
        rw [hvalue, List.length_nil, zero_add, zeroFilled_one, digits,
          Nat.toDigits_of_lt_base hten, digitChar_digitValue hc, List.nil_append]
      · have hquotient : (10 * Literal.value 0 run + Literal.digitValue c) / 10 =
            Literal.value 0 run := by omega
        have hremainder : (10 * Literal.value 0 run + Literal.digitValue c) % 10 =
            Literal.digitValue c := by omega
        rw [zeroFilled_succ (List.length_pos_iff.mpr hbefore), hquotient, hremainder,
          ih hbefore hrun, digitChar_digitValue hc]

/-- Runs of the same width are told apart by their numbers. -/
theorem eq_of_value_eq {first second : List Char}
    (hfirst : ∀ c ∈ first, Literal.isDigit c = true)
    (hsecond : ∀ c ∈ second, Literal.isDigit c = true) (hlength : first.length = second.length)
    (hvalue : Literal.value 0 first = Literal.value 0 second) : first = second := by
  rcases eq_or_ne first [] with rfl | hne
  · exact (List.length_eq_zero_iff.mp hlength.symm).symm
  · have hother : second ≠ [] := by
      rintro rfl
      exact hne (List.length_eq_zero_iff.mp hlength)
    rw [← zeroFilled_value hne hfirst, hlength, hvalue, zeroFilled_value hother hsecond]

theorem value_lt_pow {run : List Char} (hdigits : ∀ c ∈ run, Literal.isDigit c = true) :
    Literal.value 0 run < 10 ^ run.length := by
  rcases eq_or_ne run [] with rfl | hne
  · exact zero_lt_one
  · have hlength := congrArg List.length (zeroFilled_value hne hdigits)
    rw [length_zeroFilled] at hlength
    exact (Nat.length_toDigits_le_iff (by decide) (List.length_pos_iff.mpr hne)).mp
      (max_eq_left_iff.mp hlength)

/-! ## Figures with a point -/

/-- An exact quotient needs no rounding. -/
theorem roundQuotient_mul (n : ℕ) {d : ℕ} (hd : 0 < d) : roundQuotient (n * d) d = n := by
  rw [roundQuotient, Nat.mul_mod_left, Nat.mul_div_cancel n hd]
  exact if_pos (by simpa using Or.inl hd)

/-- The decimals behind a point: as many figures as there are places, which may be none. -/
def decimals (places n : ℕ) : List Char := if places = 0 then [] else zeroFilled places (digits n)

theorem isDigit_of_mem_decimals {places n : ℕ} :
    ∀ c ∈ decimals places n, Literal.isDigit c = true := by
  rw [decimals]
  split_ifs
  · exact List.forall_mem_nil _
  · exact isDigit_of_mem_zeroFilled

theorem length_decimals {places n : ℕ} (h : n < 10 ^ places) :
    (decimals places n).length = places := by
  rw [decimals]
  split_ifs with hplaces
  · exact hplaces.symm
  · exact length_zeroFilled_digits (Nat.pos_of_ne_zero hplaces) h

theorem value_decimals {places n : ℕ} (h : n < 10 ^ places) :
    Literal.value 0 (decimals places n) = n := by
  rw [decimals]
  split_ifs with hplaces
  · rw [hplaces, pow_zero, Nat.lt_one_iff] at h
    exact h.symm
  · exact value_zeroFilled places n

/-- Figures before a point and behind it; where there are none behind it, there is no point. -/
def withPoint (whole fraction : List Char) : List Char :=
  if fraction = [] then whole else whole ++ '.' :: fraction

/-- Zeros go before the figures in front of the point. -/
theorem zeroFilled_withPoint (width : ℕ) (whole fraction : List Char) :
    zeroFilled (if 0 < fraction.length then fraction.length + (1 + width) else width)
        (withPoint whole fraction) = withPoint (zeroFilled width whole) fraction := by
  rcases eq_or_ne fraction [] with rfl | hne
  · rfl
  · have hlength : fraction.length + (1 + width) - (whole.length + (fraction.length + 1)) =
        width - whole.length := by omega
    rw [if_pos (List.length_pos_iff.mpr hne), withPoint, withPoint, if_neg hne, if_neg hne,
      zeroFilled, zeroFilled, List.length_append, List.length_cons, hlength, List.append_assoc]

/-- **What stands before the point and behind it.** -/
theorem pointed_eq (places units : ℕ) :
    Figure.pointed places units =
      withPoint (digits (units / 10 ^ places)) (decimals places (units % 10 ^ places)) := by
  rcases Nat.eq_zero_or_pos places with rfl | hplaces
  · rw [pow_zero, Nat.div_one]
    rfl
  · have hsplit := zeroFilled_add zero_lt_one hplaces units
    have hfraction : (zeroFilled places (digits (units % 10 ^ places))).length = places :=
      length_zeroFilled_digits hplaces (Nat.mod_lt units (by positivity))
    rw [zeroFilled_one, add_comm] at hsplit
    have hwhole : (digits (units / 10 ^ places)).length =
        (zeroFilled (places + 1) (digits units)).length - places := by
      rw [hsplit, List.length_append, hfraction, Nat.add_sub_cancel]
    have hne : zeroFilled places (digits (units % 10 ^ places)) ≠ [] := by
      rwa [← List.length_pos_iff, hfraction]
    rw [Figure.pointed, if_neg hplaces.ne', decimals, if_neg hplaces.ne', withPoint, if_neg hne]
    dsimp only
    rw [← hwhole, hsplit, List.take_left, List.drop_left]

end Decimal

/-! ## Printed counts -/

theorem Decimal.integerText_natCast (width n : ℕ) :
    integerText width n = zeroFilled width (digits n) := by
  have hnonneg : decide ((n : ℤ) < 0) = false := decide_eq_false (Int.natCast_nonneg n).not_gt
  rw [integerText, hnonneg, padZero, if_neg Bool.false_ne_true, Int.natAbs_natCast]

namespace Exact

open Classical in
/-- The figure of a number is its quotient in lowest terms.  A number that is no quotient has none,
and none is ever printed. -/
noncomputable instance : Figured Exact where
  figure
    | real x =>
      if h : ∃ q : ℚ, (q : ℝ) = x then .quotient (h.choose < 0) h.choose.num.natAbs h.choose.den
      else .undefined
    | undefined => .undefined

theorem figure_ratCast (q : ℚ) :
    Figured.figure (real q) = .quotient (q < 0) q.num.natAbs q.den := by
  have h : ∃ p : ℚ, (p : ℝ) = q := ⟨q, rfl⟩
  have hchoose : h.choose = q := Rat.cast_injective h.choose_spec
  refine (dif_pos h).trans ?_
  rw [hchoose]

/-- In lowest terms, a quotient of counts is as exact as in any other. -/
theorem natAbs_num_mul {q : ℚ} {n d : ℕ} (hd : 0 < d) (hq : q = n / d) :
    q.num.natAbs * d = n * q.den := by
  have hnonneg : 0 ≤ q := by
    rw [hq]
    positivity
  have hnum : (q.num.natAbs : ℚ) = q * q.den := by
    rw [Rat.mul_den_eq_num, Nat.cast_natAbs, abs_of_nonneg (Rat.num_nonneg.mpr hnonneg)]
  have hvalue : q * d = n := by rw [hq, div_mul_cancel₀ _ (by positivity)]
  have hrat : (q.num.natAbs * d : ℚ) = n * q.den := by rw [hnum, mul_right_comm, hvalue]
  exact_mod_cast hrat

/-- **A count of units of the last decimal place** is printed as it is, with the figures before the
point brought to a width. -/
theorem zeroFixed_of_count (width places units : ℕ) :
    (Figured.figure (real (units / 10 ^ places))).zeroFixed
        (if 0 < places then places + (1 + width) else width) places =
      withPoint (zeroFilled width (digits (units / 10 ^ places)))
        (decimals places (units % 10 ^ places)) := by
  set q : ℚ := units / 10 ^ places with hq
  have hcast : (units / 10 ^ places : ℝ) = (q : ℝ) := by
    rw [hq]
    push_cast
    rfl
  have hnonneg : 0 ≤ q := by positivity
  have hnegative : decide (q < 0) = false := decide_eq_false hnonneg.not_gt
  have hpow : Nat.pow 10 places = 10 ^ places := rfl
  have hexact : q.num.natAbs * 10 ^ places = units * q.den :=
    natAbs_num_mul (by positivity) (by rw [hq]; push_cast; rfl)
  have hplaces : (decimals places (units % 10 ^ places)).length = places :=
    length_decimals (Nat.mod_lt units (by positivity))
  have hfilled := zeroFilled_withPoint width (digits (units / 10 ^ places))
    (decimals places (units % 10 ^ places))
  rw [hplaces] at hfilled
  rw [hcast, figure_ratCast, Figure.zeroFixed, Figure.unsignedFixed, Figure.isNegative, hnegative,
    hpow, hexact, roundQuotient_mul units q.den_pos, padZero, if_neg Bool.false_ne_true, pointed_eq,
    hfilled]

/-! ## Decimal fractions read back -/

/-- **A decimal fraction is read** as what stands before the point and what stands behind it. -/
theorem read?_withPoint {whole fraction : List Char}
    (hwhole : whole ≠ [] ∧ ∀ c ∈ whole, Literal.isDigit c = true)
    (hfraction : ∀ c ∈ fraction, Literal.isDigit c = true) :
    Readable.read? (withPoint whole fraction) =
      some (real (Literal.value 0 whole + Literal.value 0 fraction / 10 ^ fraction.length)) := by
  obtain ⟨hne, hdigits⟩ := hwhole
  obtain ⟨n, htext, hliteral⟩ : ∃ n : Literal.Numeral, n.text = withPoint whole fraction ∧
      n.literal = .number false (Literal.value 0 (whole ++ fraction)) (0 - fraction.length) := by
    rcases eq_or_ne fraction [] with rfl | hpoint
    · exact ⟨⟨.absent, whole, none, none, hdigits, hfraction, by simpa using hne⟩,
        List.append_nil _, rfl⟩
    · refine ⟨⟨.absent, whole, some fraction, none, hdigits, hfraction, by simp [hne]⟩, ?_, rfl⟩
      rw [withPoint, if_neg hpoint]
      exact congrArg (whole ++ ·) (List.append_nil _)
  have hvalue : (Literal.value 0 (whole ++ fraction) : ℝ) * 10 ^ (0 - fraction.length : ℤ) =
      Literal.value 0 whole + Literal.value 0 fraction / 10 ^ fraction.length := by
    rw [value_append, zero_sub, zpow_neg, zpow_natCast]
    push_cast
    field_simp
  rw [Readable.read?, ← htext, Literal.read?_text, hliteral, Option.bind_some, ← hvalue]
  rfl

end Exact

end PlateSolver
