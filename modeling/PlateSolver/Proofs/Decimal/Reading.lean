import PlateSolver.Proofs.Arithmetic.Operations
import PlateSolver.Proofs.Decimal.Figures
import PlateSolver.Proofs.Decimal.Literals

/-!
# Numerals as binary numbers

A numeral stands for a real number, and what is read of it is that number, rounded.  It takes three
ways there: few digits and a small power of ten are multiplied or divided as binary numbers, which
rounds once since both are known exactly; other powers of ten are brought to a mantissa first; and
digits that are too many for the format are not looked at.  Where the exponent is not looked at to
its end, the number is beyond the format with any exponent that begins like this.

* `Numeral.number` — the number that a numeral stands for.
* `value?_ofDecimal` — digits and a power of ten are read as the number, rounded.
* `Numeral.value?_ofLiteral` — so is a numeral, if it is not longer than any exponent can make up
  for.
-/

namespace PlateSolver.Double

open Float.Model Float.Model.UnpackedFloat

/-! ## Numbers beyond the format -/

section Beyond

variable {v w : ℝ} {p : EReal}

/-- What is too large for the format is rounded to an infinity. -/
theorem rounds_top (hv : 2 ^ 1024 ≤ v) : Rounds v ⊤ where
  ge_of_ge _ _ := le_top
  le_of_le hr hvr := by
    have hform : Canonical (2 ^ 52) 972 :=
      { mantissa_lt := by norm_num, le_exponent := by norm_num, full := .inl le_rfl }
    refine (hform.rounds_top le_rfl).le_of_le hr (le_trans ?_ hvr)
    rw [EReal.coe_le_coe_iff]
    refine le_trans (le_of_eq ?_) hv
    rw [Nat.cast_pow, Nat.cast_ofNat, ← zpow_natCast, ← two_zpow_add, ← zpow_natCast]
    rfl

/-- What is smaller than any positive number of the format is rounded to zero. -/
theorem rounds_zero (hv : 0 ≤ v) (hlt : v < 2 ^ (-1074 : ℤ)) : Rounds v ((0 : ℝ) : EReal) := by
  have h := Canonical.zero.rounds (by simpa using hv) (by simpa using hlt) (.inl rfl) fun _ => rfl
  rwa [Nat.cast_zero, zero_mul] at h

/-- Numbers that are too large are rounded alike. -/
theorem Rounds.of_large (h : Rounds v p) (hv : 2 ^ 1024 ≤ v) (hw : 2 ^ 1024 ≤ w) : Rounds w p where
  le_of_le hr hwr := le_top.trans ((rounds_top hw).le_of_le hr hwr)
  ge_of_ge hr hrw := by
    refine h.ge_of_ge hr (le_of_not_gt fun hvr => ?_)
    exact ((rounds_top hv).le_of_le hr hvr.le).not_gt (hrw.trans_lt (EReal.coe_lt_top w))

/-- So are positive numbers that are too small. -/
theorem Rounds.of_small (h : Rounds v p) (hv : 0 < v) (hw : 0 < w) (hvlt : v < 2 ^ (-1074 : ℤ))
    (hwlt : w < 2 ^ (-1074 : ℤ)) : Rounds w p where
  le_of_le hr hwr := by
    refine h.le_of_le hr (le_of_not_gt fun hrv => ?_)
    exact ((rounds_zero hv.le hvlt).ge_of_ge hr hrv.le).not_gt
      ((EReal.coe_lt_coe_iff.mpr hw).trans_le hwr)
  ge_of_ge hr hrw := by
    refine h.ge_of_ge hr (((rounds_zero hw.le hwlt).ge_of_ge hr hrw).trans ?_)
    exact EReal.coe_le_coe_iff.mpr hv.le

end Beyond

/-! ## Digits and a power of ten -/

theorem ten_zpow_pos (e : ℤ) : (0 : ℝ) < 10 ^ e := zpow_pos (by norm_num) e

/-- Powers of ten outgrow those of two, on both sides of one. -/
theorem two_zpow_le_ten_zpow {e : ℤ} (he : 0 ≤ e) : (2 : ℝ) ^ e ≤ 10 ^ e :=
  zpow_le_zpow_left₀ he (by norm_num) (by norm_num)

theorem ten_zpow_le_two_zpow {e : ℤ} (he : e ≤ 0) : (10 : ℝ) ^ e ≤ 2 ^ e := by
  have h := two_zpow_le_ten_zpow (neg_nonneg.mpr he)
  rwa [zpow_neg, zpow_neg, inv_le_inv₀ (two_zpow_pos e) (ten_zpow_pos e)] at h

theorem large_of_exponent {m : ℕ} {e : ℤ} (hm : 0 < m) (he : 1024 ≤ e) :
    (2 : ℝ) ^ 1024 ≤ m * 10 ^ e := by
  have hone : (1 : ℝ) ≤ m := by exact_mod_cast hm
  calc (2 : ℝ) ^ 1024 = 2 ^ (1024 : ℤ) := (zpow_natCast 2 1024).symm
    _ ≤ 2 ^ e := zpow_le_zpow_right₀ one_le_two he
    _ ≤ 10 ^ e := two_zpow_le_ten_zpow (by omega)
    _ ≤ m * 10 ^ e := le_mul_of_one_le_left (ten_zpow_pos e).le hone

theorem small_of_exponent {m k : ℕ} {e : ℤ} (hm : m < 10 ^ k) (he : e + k ≤ -1074) :
    (m : ℝ) * 10 ^ e < 2 ^ (-1074 : ℤ) := by
  have hm' : (m : ℝ) < 10 ^ k := by exact_mod_cast hm
  calc (m : ℝ) * 10 ^ e < 10 ^ k * 10 ^ e := by
        have := ten_zpow_pos e
        gcongr
    _ = 10 ^ (e + k) := by rw [zpow_add₀ (by norm_num), zpow_natCast, mul_comm]
    _ ≤ 2 ^ (e + k) := ten_zpow_le_two_zpow (by omega)
    _ ≤ 2 ^ (-1074 : ℤ) := zpow_le_zpow_right₀ one_le_two he

/-- **A mantissa and a power of ten** are rounded. -/
theorem ofScientific_rounds (m : ℕ) (e : ℤ) :
    ∃ p, valueOf (Float.Model.pack (UnpackedFloat.ofScientific Format.binary64 m e)).unpack =
      some p ∧ Rounds ((m * 10 ^ e : ℝ) : ℝ) p := by
  have hbits : (2 : ℤ) ^ Format.binary64.exponentBits = 2048 := rfl
  rw [UnpackedFloat.ofScientific, hbits]
  split_ifs with hm hlarge hsmall hnonneg
  · exact ⟨0, by rw [unpack_pack_zero, valueOf], by simpa [hm] using Rounds.refl 0⟩
  all_goals have hpos : 0 < m := Nat.pos_of_ne_zero hm
  · refine ⟨⊤, by rw [unpack_pack_infinity, valueOf, signed], ?_⟩
    exact rounds_top (large_of_exponent hpos (by omega))
  · refine ⟨0, by rw [unpack_pack_zero, valueOf], rounds_zero (by positivity) ?_⟩
    refine small_of_exponent (k := m.log2 + 1) ?_ (by omega)
    exact Nat.lt_log2_self.trans_le (Nat.pow_le_pow_left (by decide) _)
  · refine roundWithAccuracy_rounds (.exact ?_) (.inl ?_) .positive
    · have hshift := shiftLeft_mul m Format.binary64.mantissaBits 0
      rw [zero_sub, zpow_zero, mul_one] at hshift
      obtain ⟨k, rfl⟩ := Int.eq_ofNat_of_zero_le hnonneg
      rw [add_zero, Nat.cast_mul, mul_right_comm, hshift, Int.toNat_natCast, zpow_natCast]
      push_cast
      rfl
    · rw [Nat.shiftLeft_eq]
      calc 2 ^ 52 ≤ 1 * 2 ^ 53 * 1 := by norm_num
        _ ≤ m * 2 ^ 53 * 10 ^ e.toNat := by
            gcongr
            · exact hpos
            · exact Nat.one_le_pow _ _ (by decide)
  · have hten : 0 < 10 ^ (-e).toNat := Nat.pow_pos (by decide)
    have hmagnitude := magnitude_pos hten 0
    obtain ⟨p, hp, hrounds⟩ := div_rounds (valueOf_finite .positive 0 hpos)
      (valueOf_finite .positive 0 hten) hmagnitude.ne'
    refine ⟨p, hp, ?_⟩
    obtain ⟨k, rfl⟩ := Int.exists_eq_neg_ofNat (not_le.mp hnonneg).le
    rw [neg_neg, Int.toNat_natCast, zpow_zero, mul_one, mul_one, Nat.cast_pow] at hrounds
    rwa [zpow_neg, zpow_natCast, ← div_eq_mul_inv]

theorem value?_of_figure {x : Float} {n d : ℕ} (h : figure x = .quotient false n d) :
    value? x = some ((n / d : ℝ) : EReal) := by
  rw [figure] at h
  rw [value?]
  cases hunpack : x.toModel.unpack with
  | notANumber => simp [hunpack] at h
  | infinity sign => simp [hunpack] at h
  | zero sign =>
      simp only [hunpack, Figure.quotient.injEq] at h
      obtain ⟨-, rfl, rfl⟩ := h
      simp [valueOf]
  | finite sign m e hm =>
      simp only [hunpack] at h
      cases sign with
      | negative => split_ifs at h <;> simp at h
      | positive =>
          rw [valueOf_finite, signed]
          split_ifs at h with he
          · obtain ⟨-, rfl, rfl⟩ := Figure.quotient.inj h
            have hexponent : (2 : ℝ) ^ e = 2 ^ e.toNat := by
              rw [← zpow_natCast, Int.toNat_of_nonneg he]
            push_cast [hexponent]
            simp
          · obtain ⟨-, rfl, rfl⟩ := Figure.quotient.inj h
            have hexponent : (2 : ℝ) ^ e = (2 ^ (-e).toNat)⁻¹ := by
              rw [← zpow_natCast, Int.toNat_of_nonneg (by omega), ← zpow_neg, neg_neg]
            push_cast [hexponent]
            simp [div_eq_mul_inv]

/-- The powers of ten that are numbers of the format. -/
theorem figure_powerOfTen : ∀ k : Fin Float.exactlyRepresentablePowersOfTen.size,
    figure Float.exactlyRepresentablePowersOfTen[k] =
      .quotient false (10 ^ (k : ℕ) * 2 ^ (52 - (5 ^ (k : ℕ)).log2 - (k : ℕ)))
        (2 ^ (52 - (5 ^ (k : ℕ)).log2 - (k : ℕ))) := by
  decide +kernel

theorem value?_powerOfTen {k : ℕ} (hk : k < Float.exactlyRepresentablePowersOfTen.size) :
    value? Float.exactlyRepresentablePowersOfTen[k] = some ((10 ^ k : ℝ) : EReal) := by
  refine (value?_of_figure (figure_powerOfTen ⟨k, hk⟩)).trans ?_
  rw [Nat.cast_mul, mul_div_cancel_right₀ _ (by positivity), Nat.cast_pow, Nat.cast_ofNat]

theorem value?_unbounded : value? (ofLiteral (.unbounded false)) = some ⊤ := rfl

theorem value?_negUnbounded : value? (ofLiteral (.unbounded true)) = some ⊥ := rfl

theorem value?_undefined : value? (ofLiteral .undefined) = none := rfl

/-- **Digits that are too many** for the format. -/
theorem large_of_isOverlong {digits : ℕ} {exponent : ℤ} (h : isOverlong digits exponent = true) :
    (2 : ℝ) ^ 1024 ≤ digits * 10 ^ exponent := by
  rw [isOverlong, decide_eq_true_eq] at h
  generalize hk : (-exponent).toNat = k at h
  have hpower : 10 ^ k ≤ 2 ^ (10 * k / 3 + 1) := by
    refine le_of_pow_le_pow_left₀ (by decide : 3 ≠ 0) (Nat.zero_le _) ?_
    calc (10 ^ k) ^ 3 = (10 ^ 3) ^ k := by rw [← pow_mul, ← pow_mul, mul_comm]
      _ ≤ (2 ^ 10) ^ k := Nat.pow_le_pow_left (by decide) k
      _ = 2 ^ (10 * k) := (pow_mul 2 10 k).symm
      _ ≤ 2 ^ ((10 * k / 3 + 1) * 3) := Nat.pow_le_pow_right two_pos (by omega)
      _ = (2 ^ (10 * k / 3 + 1)) ^ 3 := pow_mul 2 _ 3
  have hdigits : 2 ^ 1024 * 10 ^ k ≤ digits := by
    have hne : digits ≠ 0 := by
      rintro rfl
      simp at h
    calc 2 ^ 1024 * 10 ^ k ≤ 2 ^ 1024 * 2 ^ (10 * k / 3 + 1) := Nat.mul_le_mul_left _ hpower
      _ = 2 ^ (1025 + 10 * k / 3) := by rw [← pow_add]; congr 1; omega
      _ ≤ 2 ^ digits.log2 := Nat.pow_le_pow_right two_pos h
      _ ≤ digits := Nat.log2_self_le hne
  have hscale : (10 ^ k : ℝ)⁻¹ ≤ 10 ^ exponent := by
    rw [← zpow_natCast, ← zpow_neg]
    exact zpow_le_zpow_right₀ (by norm_num) (by omega)
  calc (2 : ℝ) ^ 1024 = 2 ^ 1024 * 10 ^ k * (10 ^ k : ℝ)⁻¹ := by
        rw [mul_assoc, mul_inv_cancel₀ (by positivity), mul_one]
    _ ≤ (digits : ℝ) * 10 ^ exponent := by
        gcongr
        exact_mod_cast hdigits

/-- **Digits and a power of ten are read as the number they stand for**, rounded. -/
theorem value?_ofDecimal (digits : ℕ) (exponent : ℤ) :
    ∃ p, value? (ofDecimal digits exponent) = some p ∧
      Rounds ((digits * 10 ^ exponent : ℝ) : ℝ) p := by
  rw [ofDecimal]
  split_ifs with hoverlong
  · exact ⟨⊤, value?_unbounded, rounds_top (large_of_isOverlong hoverlong)⟩
  rw [Float.ofScientific]
  split_ifs with hexact hnegative hnegative
  -- What is known exactly is divided or multiplied once.
  · have hten := value?_powerOfTen (Nat.lt_succ_of_le hexact.2)
    obtain ⟨p, hp, hrounds⟩ := value?_div (value?_toFloat hexact.1) hten (by positivity)
    refine ⟨p, hp, ?_⟩
    have hexponent : exponent = -exponent.natAbs := by
      have := of_decide_eq_true hnegative
      omega
    rw [hexponent, zpow_neg, zpow_natCast, ← div_eq_mul_inv]
    exact hrounds
  · have hten := value?_powerOfTen (Nat.lt_succ_of_le hexact.2)
    obtain ⟨p, hp, hrounds⟩ := value?_mul (value?_toFloat hexact.1) hten (by positivity)
    refine ⟨p, hp, ?_⟩
    have hexponent : exponent = exponent.natAbs := by
      have := of_decide_eq_false (Bool.eq_false_iff.mpr hnegative)
      omega
    rw [hexponent, zpow_natCast, EReal.coe_mul]
    exact hrounds
  -- Otherwise the power of ten is brought to a mantissa.
  · have hexponent : Int.negOfNat exponent.natAbs = exponent := by
      have := of_decide_eq_true hnegative
      rw [Int.negOfNat_eq, Int.ofNat_eq_natCast]
      omega
    dsimp only
    rw [hexponent]
    exact ofScientific_rounds digits exponent
  · have hexponent : Int.ofNat exponent.natAbs = exponent := by
      have := of_decide_eq_false (Bool.eq_false_iff.mpr hnegative)
      rw [Int.ofNat_eq_natCast]
      omega
    dsimp only
    rw [hexponent]
    exact ofScientific_rounds digits exponent

end PlateSolver.Double

namespace PlateSolver.Literal

/-! ## Numerals -/

/-- The power of ten that an exponent stands for, all of its digits counted. -/
def Exponent.exact (e : Exponent) : ℤ :=
  if e.sign.isMinus then -(value 0 e.digits : ℤ) else value 0 e.digits

/-- The power of ten that the digits of a numeral count. -/
def Numeral.place (n : Numeral) : ℤ :=
  n.exponent.elim 0 Exponent.exact - (n.fraction.getD []).length

/-- **The number that a numeral stands for.** -/
noncomputable def Numeral.number (n : Numeral) : ℝ :=
  (if n.sign.isMinus then -(value 0 n.digits : ℝ) else value 0 n.digits) *
    ((10 : ℕ) : ℝ) ^ n.place

/-- A text that stands for a number in decimal notation. -/
def Denotes (text : List Char) (x : ℝ) : Prop := ∃ n : Numeral, n.text = text ∧ n.number = x

/-- Digits stand for their number. -/
theorem denotes_of_isDigit {figures : List Char}
    (h : figures ≠ [] ∧ ∀ c ∈ figures, isDigit c = true) : Denotes figures (value 0 figures) := by
  obtain ⟨hne, hdigits⟩ := h
  refine ⟨⟨.absent, figures, none, none, hdigits, List.forall_mem_nil _, ?_⟩, ?_, ?_⟩
  · rwa [Option.getD_none, List.append_nil]
  · exact List.append_nil figures
  · simp [Numeral.number, Numeral.place, Numeral.digits, Sign.isMinus]

/-- A numeral below zero has a minus sign, and a digit other than zero. -/
theorem Numeral.number_neg_iff (n : Numeral) :
    n.number < 0 ↔ n.sign.isMinus = true ∧ value 0 n.digits ≠ 0 := by
  have hscale := Double.ten_zpow_pos n.place
  rw [number, Nat.cast_ofNat]
  split_ifs with hminus
  · rw [neg_mul, neg_lt_zero, mul_pos_iff_of_pos_right hscale, Nat.cast_pos, Nat.pos_iff_ne_zero,
      and_iff_right hminus]
  · have hnonneg : (0 : ℝ) ≤ value 0 n.digits * 10 ^ n.place := by positivity
    exact iff_of_false hnonneg.not_gt fun h => hminus h.1

/-- So the literal that it is tells on which side of zero it is. -/
theorem Numeral.number_neg_congr {m n : Numeral} (h : m.literal = n.literal) :
    m.number < 0 ↔ n.number < 0 := by
  obtain ⟨hsign, hdigits, -⟩ := Literal.number.inj h
  rw [m.number_neg_iff, n.number_neg_iff, hsign, hdigits]

/-! ### Exponents that are not looked at to their end -/

/-- Either all digits count, or the bound is reached with those that do and with all of them. -/
theorem saturated (digits : List Char) {reached exact : ℕ}
    (h : reached = exact ∨ exponentBound ≤ reached ∧ exponentBound ≤ exact) :
    let size := (digits.map digitValue).foldl
      (fun n d => if n < exponentBound then 10 * n + d else n) reached
    size = value exact digits ∨ exponentBound ≤ size ∧ exponentBound ≤ value exact digits := by
  induction digits generalizing reached exact with
  | nil => exact h
  | cons c digits ih =>
      refine ih ?_
      dsimp only
      split_ifs with hbelow
      · left
        omega
      · right
        omega

theorem Exponent.power_eq_or (e : Exponent) :
    e.power = e.exact ∨ exponentBound ≤ e.power ∧ exponentBound ≤ e.exact ∨
      e.power ≤ -exponentBound ∧ e.exact ≤ -exponentBound := by
  have h := saturated e.digits (.inl (rfl : 0 = 0))
  rw [power, exact, scale]
  dsimp only at h ⊢
  split_ifs <;> omega

namespace Numeral

/-- The power of ten that is read of a numeral. -/
def readPlace (n : Numeral) : ℤ :=
  n.exponent.elim 0 Exponent.power - (n.fraction.getD []).length

theorem readPlace_eq_or (n : Numeral) :
    n.readPlace = n.place ∨
      (exponentBound ≤ n.readPlace + (n.fraction.getD []).length ∧
        exponentBound ≤ n.place + (n.fraction.getD []).length) ∨
      (n.readPlace + (n.fraction.getD []).length ≤ -exponentBound ∧
        n.place + (n.fraction.getD []).length ≤ -exponentBound) := by
  rw [readPlace, place]
  cases n.exponent with
  | none => exact .inl rfl
  | some e =>
      have h := e.power_eq_or
      dsimp only [Option.elim_some]
      omega

theorem length_digits_le (n : Numeral) : n.digits.length ≤ n.text.length := by
  rw [digits, text, body, tail]
  cases n.fraction <;> simp <;> omega

/-- What is read of an exponent does for all of it, as long as there are not so many digits that
they make up for what is left out. -/
theorem rounds_of_readPlace (n : Numeral) (hlength : n.text.length ≤ 60000) {p : EReal}
    (h : Double.Rounds ((value 0 n.digits * 10 ^ n.readPlace : ℝ) : ℝ) p) :
    Double.Rounds ((value 0 n.digits * 10 ^ n.place : ℝ) : ℝ) p := by
  have hdigits := n.length_digits_le
  have hfraction : (n.fraction.getD []).length ≤ n.digits.length := by
    rw [digits, List.length_append]
    exact Nat.le_add_left _ _
  have hbound : exponentBound = 65536 := rfl
  have hlt : value 0 n.digits < 10 ^ n.digits.length :=
    Decimal.value_lt_pow (List.forall_mem_append.mpr ⟨n.isDigit_whole, n.isDigit_fraction⟩)
  rcases Nat.eq_zero_or_pos (value 0 n.digits) with hzero | hpos
  · rwa [hzero, Nat.cast_zero, zero_mul] at h ⊢
  have hpositive (e : ℤ) : (0 : ℝ) < value 0 n.digits * 10 ^ e :=
    mul_pos (Nat.cast_pos.mpr hpos) (Double.ten_zpow_pos e)
  rcases n.readPlace_eq_or with heq | ⟨hread, hplace⟩ | ⟨hread, hplace⟩
  · rwa [heq] at h
  · exact h.of_large (Double.large_of_exponent hpos (by omega))
      (Double.large_of_exponent hpos (by omega))
  · exact h.of_small (hpositive _) (hpositive _) (Double.small_of_exponent hlt (by omega))
      (Double.small_of_exponent hlt (by omega))

/-- **A numeral is read as a number**, which is not on the other side of zero, and which is the
number that the numeral stands for, rounded, unless it is longer than exponents are. -/
theorem value?_ofLiteral (n : Numeral) :
    ∃ p, Double.value? (Double.ofLiteral n.literal) = some p ∧ (0 ≤ n.number → 0 ≤ p) ∧
      (n.number < 0 → p ≤ 0) ∧ (n.text.length ≤ 60000 → Double.Rounds n.number p) := by
  obtain ⟨p, hp, hrounds⟩ := Double.value?_ofDecimal (value 0 n.digits) n.readPlace
  have hnonneg : 0 ≤ p :=
    hrounds.ge_of_ge Double.number_zero (EReal.coe_nonneg.mpr (by positivity))
  have hsign := n.number_neg_iff
  rw [number, Nat.cast_ofNat] at hsign ⊢
  rw [literal, Double.ofLiteral]
  split_ifs at hsign ⊢ with hminus
  · refine ⟨-p, Double.value?_neg hp, fun hnumber => ?_, fun _ => EReal.neg_le_zero.mpr hnonneg,
      fun hlength => ?_⟩
    · have hzero : value 0 n.digits = 0 := by
        by_contra hne
        exact hnumber.not_gt (hsign.mpr ⟨hminus, hne⟩)
      rw [hzero, Nat.cast_zero, zero_mul] at hrounds
      rw [hrounds.eq_of_number Double.number_zero, EReal.coe_zero, neg_zero]
    · rw [neg_mul, EReal.coe_neg]
      exact (n.rounds_of_readPlace hlength hrounds).neg
  · exact ⟨p, hp, fun _ => hnonneg, fun hneg => absurd (hsign.mp hneg).1 hminus,
      fun hlength => n.rounds_of_readPlace hlength hrounds⟩

end Numeral

end PlateSolver.Literal
