import PlateSolver.Proofs.Arithmetic.Rounding

/-!
# The operations of binary floating point

Sums, differences, products and quotients are computed exactly, from mantissas brought to a common
power of two, multiplied, or divided with a remainder, and then rounded.

* `value?_add`, `value?_sub`, `value?_mul`, `value?_div` — the results stand for the exact ones.
* `value?_add_undefined`, `value?_sub_undefined` — with an undefined operand there is none.
* `le_whole_iff` — a count is the whole part of a number.
* `value?_of_unpack`, `value?_ofNat` — the numbers that literals and counts stand for.
* `Rounds.add_nonneg` — a sum that comes out as zero is not negative.
* `IsFinite.of_add`, `IsFinite.of_div` — finite results come from finite numbers.
* `le_iff_of_value`, `lt_iff_of_value` — comparing numbers that are known.
-/

namespace PlateSolver.Double

open Float.Model Float.Model.UnpackedFloat ExtendedMantissa

/-! ## Sums -/

theorem signed_top_add (sign : Sign) (q : ℝ) : signed sign ⊤ + q = signed sign ⊤ := by
  cases sign
  · exact EReal.bot_add q
  · exact EReal.top_add_coe q

theorem not_real_infinity (sign : Sign) (q : ℝ) : valueOf (.infinity sign) ≠ some (q : EReal) := by
  cases sign <;> simp [valueOf, signed]

/-- **Sums are rounded.**  The first summand may be infinite. -/
theorem add_rounds {x y : UnpackedFloat} (hx : InForm x) (hy : InForm y) {p : EReal} {q : ℝ}
    (hp : valueOf x = some p) (hq : valueOf y = some (q : EReal)) :
    ∃ s, valueOf (Float.Model.pack (UnpackedFloat.add Format.binary64 x y)).unpack = some s ∧
      Rounds (p + q) s := by
  cases y with
  | notANumber => simp [valueOf] at hq
  | infinity t => exact absurd hq (not_real_infinity t q)
  | zero t =>
    obtain rfl : q = 0 := EReal.coe_injective (Option.some.inj hq).symm
    cases x with
    | notANumber => simp [valueOf] at hp
    | infinity s =>
      rw [UnpackedFloat.add, unpack_pack hx, hp, EReal.coe_zero, add_zero]
      · exact ⟨_, rfl, .refl _⟩
      all_goals simp
    | zero s =>
      have hzero : ∃ u, UnpackedFloat.add Format.binary64 (.zero s) (.zero t) = .zero u := by
        cases s <;> cases t <;> exact ⟨_, rfl⟩
      obtain ⟨u, hu⟩ := hzero
      rw [hu, unpack_pack_zero, ← Option.some.inj hp]
      exact ⟨0, rfl, by simpa using Rounds.refl 0⟩
    | finite s m e hm =>
      rw [UnpackedFloat.add, unpack_pack hx, hp, EReal.coe_zero, add_zero]
      · exact ⟨_, rfl, .refl _⟩
      all_goals simp
  | finite t n f hn =>
    cases x with
    | notANumber => simp [valueOf] at hp
    | infinity s =>
      obtain rfl := Option.some.inj hp
      rw [UnpackedFloat.add, unpack_pack hx, hp, signed_top_add]
      · exact ⟨_, rfl, .refl _⟩
      all_goals simp
    | zero s =>
      obtain rfl : 0 = p := Option.some.inj hp
      rw [UnpackedFloat.add, unpack_pack hy, hq, zero_add]
      · exact ⟨_, rfl, .refl _⟩
      all_goals simp
    | finite s m e hm =>
      rw [valueOf_finite, signed_coe] at hp hq
      rw [← Option.some.inj hp, ← Option.some.inj hq, ← EReal.coe_add,
        ← signed_decrease s m (min_le_left e f), ← signed_decrease t n (min_le_right e f),
        ← add_mul, ← Int.cast_add]
      exact normalize_rounds _ _ .positive

/-- A sum with an undefined summand is undefined. -/
theorem add_undefined {x y : UnpackedFloat} (h : valueOf x = none) :
    valueOf (Float.Model.pack (UnpackedFloat.add Format.binary64 x y)).unpack = none := by
  cases x with
  | notANumber => rw [UnpackedFloat.add, unpack_pack_notANumber, valueOf]
  | infinity | zero | finite => simp [valueOf] at h

/-- **A difference is the sum with the opposite.** -/
theorem sub_eq_add_opposite (x y : UnpackedFloat) :
    UnpackedFloat.sub Format.binary64 x y = UnpackedFloat.add Format.binary64 x y.neg := by
  cases x with
  | finite s m e hm =>
    cases y with
    | finite t n f hn =>
      have hsign (k : ℕ) : (-t).apply k = -t.apply k := by
        cases t
        · exact (neg_neg (k : ℤ)).symm
        · rfl
      simp only [UnpackedFloat.sub, UnpackedFloat.add, UnpackedFloat.neg, hsign]
      rfl
    | notANumber | infinity | zero => rfl
  | notANumber | infinity | zero => cases y <;> rfl

theorem valueOf_neg {x : UnpackedFloat} {p : EReal} (h : valueOf x = some p) :
    valueOf x.neg = some (-p) := by
  cases x with
  | notANumber => simp [valueOf] at h
  | infinity s | finite s =>
    rw [← Option.some.inj h, UnpackedFloat.neg, valueOf, signed_neg]
  | zero s =>
    rw [← Option.some.inj h, UnpackedFloat.neg, valueOf, neg_zero]

theorem inForm_neg {x : UnpackedFloat} (h : InForm x) : InForm x.neg := by
  cases x <;> exact h

/-! ## Products -/

theorem signed_mul (s t : Sign) (a b : EReal) :
    signed (s * t) (a * b) = signed s a * signed t b := by
  cases s <;> cases t <;> simp [signed]

/-- A product of mantissas holds enough bits. -/
theorem large_mul {m n : ℕ} {e f : ℤ} (hm : 0 < m) (hn : 0 < n) (hx : Canonical m e)
    (hy : Canonical n f) : 2 ^ 52 ≤ m * n ∨ e + f ≤ -1074 := by
  rcases hx.full with hfull | hleast
  · exact .inl (hfull.trans (Nat.le_mul_of_pos_right m hn))
  rcases hy.full with hfull | hleast'
  · exact .inl (hfull.trans (Nat.le_mul_of_pos_left n hm))
  · right
    omega

/-- **Products are rounded.**  The first factor may be infinite, the second is neither that nor
zero. -/
theorem mul_rounds {x y : UnpackedFloat} (hx : InForm x) (hy : InForm y) {p : EReal} {q : ℝ}
    (hp : valueOf x = some p) (hq : valueOf y = some (q : EReal)) (hne : q ≠ 0) :
    ∃ s, valueOf (Float.Model.pack (UnpackedFloat.mul Format.binary64 x y)).unpack = some s ∧
      Rounds (p * q) s := by
  cases y with
  | notANumber => simp [valueOf] at hq
  | infinity t => exact absurd hq (not_real_infinity t q)
  | zero t => exact absurd (EReal.coe_injective (Option.some.inj hq).symm) hne
  | finite t n f hn =>
    rw [valueOf_finite] at hq
    rw [← Option.some.inj hq]
    cases x with
    | notANumber => simp [valueOf] at hp
    | infinity s =>
      obtain rfl := Option.some.inj hp
      rw [UnpackedFloat.mul, unpack_pack_infinity, ← signed_mul,
        EReal.top_mul_coe_of_pos (magnitude_pos hn f)]
      exact ⟨_, rfl, .refl _⟩
    | zero s =>
      obtain rfl : 0 = p := Option.some.inj hp
      rw [UnpackedFloat.mul, unpack_pack_zero, zero_mul]
      exact ⟨0, rfl, .refl _⟩
    | finite s m e hm =>
      rw [valueOf_finite] at hp
      rw [← Option.some.inj hp, ← signed_mul, ← EReal.coe_mul]
      refine roundWithAccuracy_rounds (.exact ?_) (large_mul hm hn hx.1 hy.1) (s * t)
      rw [two_zpow_add, Nat.cast_mul]
      ring

/-! ## Quotients -/

/-- A division with a remainder says how accurate it is. -/
theorem within_div (m : ℕ) {n : ℕ} (e : ℤ) (hn : 0 < n) :
    Within ((m : ℝ) / n * 2 ^ e) (m / n) e (accuracyOfFraction (m % n) n) := by
  have hscale := two_zpow_pos e
  have hn' : (0 : ℝ) < n := by exact_mod_cast hn
  have hm : (m : ℝ) = n * (m / n : ℕ) + (m % n : ℕ) := by exact_mod_cast (Nat.div_add_mod m n).symm
  have hrest : m % n < n := Nat.mod_lt m hn
  rcases Nat.eq_zero_or_pos (m % n) with hzero | hpos
  · rw [accuracyOfFraction, if_pos hzero]
    refine .exact ?_
    rw [hm, hzero]
    simp [hn'.ne']
  · rw [accuracyOfFraction, if_neg hpos.ne']
    refine .inexact _ ?_ ?_
    · gcongr
      rw [lt_div_iff₀ hn', hm]
      have : (0 : ℝ) < (m % n : ℕ) := by exact_mod_cast hpos
      linarith
    · gcongr
      rw [div_lt_iff₀ hn', hm]
      have : ((m % n : ℕ) : ℝ) < n := by exact_mod_cast hrest
      push_cast
      linarith

/-- **A quotient of mantissas** holds the leading bits of a quotient, and enough of them. -/
theorem divCore_spec {m n : ℕ} (e f : ℤ) (hm : 0 < m) (hn : 0 < n) :
    let (quotient, exponent, acc) := divCore Format.binary64 m e n f
    Within ((m * 2 ^ e : ℝ) / (n * 2 ^ f)) quotient exponent acc ∧
      (2 ^ 52 ≤ quotient ∨ exponent ≤ -1074) := by
  have htarget : Format.binary64.targetExponent (totalExponent m e - totalExponent n f) =
      max (m.log2 + e - (n.log2 + f) - 53) (-1074) := by
    simp [Format.targetExponent, totalExponent, Format.mantissaBits, Format.minExponent]
    omega
  simp only [divCore, htarget]
  generalize htar : min (e - f) (max (m.log2 + e - (n.log2 + f) - 53) (-1074)) = target
  have hexponent : e - f - (e - f - target).toNat = target := by omega
  have hvalue : (m * 2 ^ e : ℝ) / (n * 2 ^ f) =
      ((m <<< (e - f - target).toNat : ℕ) : ℝ) / n * 2 ^ target := by
    have hshift := shiftLeft_mul m (e - f - target).toNat (e - f)
    rw [hexponent] at hshift
    rw [div_mul_eq_mul_div, hshift, zpow_sub₀ two_ne_zero]
    field_simp
  constructor
  · rw [hvalue]
    exact within_div _ target hn
  · rcases le_or_gt target (-1074) with hleast | hgreater
    · exact .inr hleast
    · left
      rw [Nat.le_div_iff_mul_le hn, Nat.shiftLeft_eq]
      calc 2 ^ 52 * n ≤ 2 ^ 52 * 2 ^ (n.log2 + 1) := by
            gcongr
            exact Nat.lt_log2_self.le
        _ ≤ 2 ^ m.log2 * 2 ^ (e - f - target).toNat := by
            rw [← pow_add, ← pow_add]
            exact Nat.pow_le_pow_right two_pos (by omega)
        _ ≤ m * 2 ^ (e - f - target).toNat := by
            gcongr
            exact Nat.log2_self_le hm.ne'

/-- The sign of a quotient. -/
theorem signed_div (s t : Sign) (m n : ℕ) (e f : ℤ) :
    signed (s / t) (((m * 2 ^ e : ℝ) / (n * 2 ^ f) : ℝ) : ℝ) =
      (((s.apply m : ℤ) * 2 ^ e : ℝ) / ((t.apply n : ℤ) * 2 ^ f) : ℝ) := by
  cases s <;> cases t <;>
    simp only [Sign.apply, Int.cast_neg, Int.cast_natCast, neg_mul, neg_div, div_neg, neg_neg,
      EReal.coe_neg] <;> rfl

/-- **Quotients are rounded.** -/
theorem div_rounds {x y : UnpackedFloat} {p q : ℝ} (hp : valueOf x = some (p : EReal))
    (hq : valueOf y = some (q : EReal)) (hne : q ≠ 0) :
    ∃ s, valueOf (Float.Model.pack (UnpackedFloat.div Format.binary64 x y)).unpack = some s ∧
      Rounds ((p / q : ℝ) : ℝ) s := by
  cases y with
  | notANumber => simp [valueOf] at hq
  | infinity t => exact absurd hq (not_real_infinity t q)
  | zero t => exact absurd (EReal.coe_injective (Option.some.inj hq).symm) hne
  | finite t n f hn =>
    cases x with
    | notANumber => simp [valueOf] at hp
    | infinity s => exact absurd hp (not_real_infinity s p)
    | zero s =>
      obtain rfl : p = 0 := EReal.coe_injective (Option.some.inj hp).symm
      rw [UnpackedFloat.div, unpack_pack_zero, zero_div]
      exact ⟨0, rfl, .refl _⟩
    | finite s m e hm =>
      rw [valueOf_finite, signed_coe] at hp hq
      obtain rfl := EReal.coe_injective (Option.some.inj hp)
      obtain rfl := EReal.coe_injective (Option.some.inj hq)
      obtain ⟨hwithin, hlarge⟩ := divCore_spec e f hm hn
      obtain ⟨w, hw, hrounds⟩ := roundWithAccuracy_rounds hwithin hlarge (s / t)
      refine ⟨w, hw, ?_⟩
      rwa [signed_div] at hrounds

/-! ## Counts -/

/-- The whole part of a finite number. -/
theorem roundToInt_eq (sign : Sign) (m : ℕ) (e : ℤ) :
    roundToInt sign m e = sign.apply ⌊(m * 2 ^ e : ℝ)⌋₊ := by
  simp only [roundToInt, decreaseExponent, shiftToExponent, shiftRight_mantissa,
    ofMantissaAndAccuracy_mantissa]
  rcases le_total 0 e with hpos | hneg
  · obtain ⟨k, rfl⟩ := Int.eq_ofNat_of_zero_le hpos
    have hfloor : ⌊(m * 2 ^ (k : ℤ) : ℝ)⌋₊ = m * 2 ^ k := by
      rw [zpow_natCast]
      exact_mod_cast Nat.floor_natCast (R := ℝ) (m * 2 ^ k)
    rw [hfloor]
    simp [Nat.shiftLeft_eq]
  · obtain ⟨k, rfl⟩ := Int.exists_eq_neg_ofNat hneg
    have hfloor : ⌊(m * 2 ^ (-k : ℤ) : ℝ)⌋₊ = m / 2 ^ k := by
      rw [zpow_neg, zpow_natCast, ← div_eq_mul_inv]
      exact_mod_cast Nat.floor_div_eq_div (K := ℝ) m (2 ^ k)
    rw [hfloor]
    simp

theorem toNat_ofNatClamp (n : ℕ) : (UInt64.ofNatClamp n).toNat = min n (2 ^ 64 - 1) := by
  unfold UInt64.ofNatClamp
  split
  · next h =>
    have : n < 2 ^ 64 := h
    simp
    omega
  · next h =>
    have : 2 ^ 64 ≤ n := not_lt.mp h
    simp
    omega

/-- **Counting** is taking the whole part, between zero and the greatest count. -/
theorem le_toUInt64_iff {x : UnpackedFloat} {p : EReal} (hx : valueOf x = some p) {n : ℕ}
    (hpos : 0 < n) (hn : n < 2 ^ 64) : n ≤ x.toUInt64.toNat ↔ (n : EReal) ≤ p := by
  have hmax : n ≤ 2 ^ 64 - 1 := by omega
  have hcount : (0 : EReal) < n := by exact_mod_cast hpos
  rw [UnpackedFloat.toUInt64, toNat_ofNatClamp, le_min_iff, and_iff_left hmax]
  cases x with
  | notANumber => simp [valueOf] at hx
  | infinity s =>
    obtain rfl := Option.some.inj hx
    cases s
    · have hneg : signed .negative ⊤ < 0 := EReal.neg_lt_zero.mpr EReal.zero_lt_top
      exact iff_of_false (by simp [toInt, hpos.ne']) (hneg.trans hcount).not_ge
    · exact iff_of_true (by simpa [toInt, UInt64.size] using hmax) le_top
  | zero s =>
    obtain rfl : 0 = p := Option.some.inj hx
    exact iff_of_false (by simp [toInt, hpos.ne']) hcount.not_ge
  | finite s m e hm =>
    obtain rfl := Option.some.inj hx
    have hmagnitude := magnitude_pos hm e
    rw [toInt, roundToInt_eq]
    cases s
    · have hneg : signed .negative ((m * 2 ^ e : ℝ) : ℝ) < 0 :=
        EReal.neg_lt_zero.mpr (EReal.coe_pos.mpr hmagnitude)
      exact iff_of_false (by simp [Sign.apply, hpos.ne']) (hneg.trans hcount).not_ge
    · rw [Sign.apply, Int.toNat_natCast, Nat.le_floor_iff hmagnitude.le, signed]
      exact_mod_cast Iff.rfl

/-! ## Numbers as they are stored -/

section Floats

variable {x y : Float} {p : EReal} {q : ℝ}

theorem value?_add (hx : value? x = some p) (hy : value? y = some (q : EReal)) :
    ∃ s, value? (x + y) = some s ∧ Rounds (p + q) s :=
  add_rounds (inForm_unpack x) (inForm_unpack y) hx hy

/-- A difference as a sum. -/
theorem value?_sub_eq (x y : Float) :
    value? (x - y) = valueOf (Float.Model.pack
      (UnpackedFloat.add Format.binary64 x.toModel.unpack y.toModel.unpack.neg)).unpack := by
  rw [← sub_eq_add_opposite]
  rfl

theorem value?_sub (hx : value? x = some p) (hy : value? y = some (q : EReal)) :
    ∃ s, value? (x - y) = some s ∧ Rounds (p - q) s := by
  have hopposite : valueOf y.toModel.unpack.neg = some ((-q : ℝ) : EReal) := valueOf_neg hy
  rw [value?_sub_eq, sub_eq_add_neg]
  exact add_rounds (inForm_unpack x) (inForm_neg (inForm_unpack y)) hx hopposite

theorem value?_mul (hx : value? x = some p) (hy : value? y = some (q : EReal)) (hne : q ≠ 0) :
    ∃ s, value? (x * y) = some s ∧ Rounds (p * q) s :=
  mul_rounds (inForm_unpack x) (inForm_unpack y) hx hy hne

theorem value?_div {p : ℝ} (hx : value? x = some (p : EReal)) (hy : value? y = some (q : EReal))
    (hne : q ≠ 0) : ∃ s, value? (x / y) = some s ∧ Rounds ((p / q : ℝ) : ℝ) s :=
  div_rounds hx hy hne

theorem value?_neg (hx : value? x = some p) : value? (-x) = some (-p) := by
  change valueOf (Float.Model.pack x.toModel.unpack.neg).unpack = _
  rw [unpack_pack (inForm_neg (inForm_unpack x))]
  exact valueOf_neg hx

theorem value?_add_undefined (hx : value? x = none) : value? (x + y) = none :=
  add_undefined hx

theorem value?_sub_undefined (hx : value? x = none) : value? (x - y) = none := by
  rw [value?_sub_eq]
  exact add_undefined hx

theorem le_whole_iff (hx : value? x = some p) {n : ℕ}
    (hpos : 0 < n) (hn : n < 2 ^ 64) : n ≤ Scalar.whole x ↔ (n : EReal) ≤ p :=
  le_toUInt64_iff hx hpos hn

theorem whole_of_undefined (hx : value? x = none) : Scalar.whole x = 0 := by
  have hunpack : x.toModel.unpack = .notANumber := by
    rw [value?] at hx
    cases hdatum : x.toModel.unpack with
    | notANumber => rfl
    | infinity | zero | finite => simp [hdatum, valueOf] at hx
  change x.toModel.unpack.toUInt64.toNat = 0
  rw [hunpack]
  rfl

end Floats

/-- Reading off a positive number. -/
theorem value?_of_unpack {x : Float} {m : ℕ} {e : ℤ} (hm : 0 < m)
    (hx : x.toModel.unpack = .finite .positive m e hm) {r : ℝ} (hr : m * 2 ^ e = r) :
    value? x = some (r : EReal) := by
  rw [value?, hx, valueOf_finite, signed, hr]

theorem value?_zero : value? 0 = some ((0 : ℝ) : EReal) := rfl

theorem number_zero : Number ((0 : ℝ) : EReal) := ⟨0, value?_zero⟩

/-- A whole number that fits into a mantissa is a number of the format. -/
theorem number_natCast {n : ℕ} (hn : n < 2 ^ 53) : Number ((n : ℝ) : EReal) := by
  rcases Nat.eq_zero_or_pos n with rfl | hpos
  · simpa using number_zero
  have hlog : n.log2 ≤ 52 := Nat.le_of_lt_succ ((Nat.log2_lt hpos.ne').mpr hn)
  have hshift : 2 ^ n.log2 * 2 ^ (52 - n.log2) = 2 ^ 52 := by
    rw [← pow_add, Nat.add_sub_cancel' hlog]
  have hform : Canonical (n * 2 ^ (52 - n.log2)) (-((52 - n.log2 : ℕ) : ℤ)) :=
    { mantissa_lt := by
        calc n * 2 ^ (52 - n.log2) < 2 ^ (n.log2 + 1) * 2 ^ (52 - n.log2) := by
              gcongr
              exact Nat.lt_log2_self
          _ = 2 ^ 53 := by rw [pow_succ, mul_right_comm, hshift, ← pow_succ]
      le_exponent := by omega
      full := .inl (hshift.symm.trans_le (Nat.mul_le_mul_right _ (Nat.log2_self_le hpos.ne'))) }
  have h := hform.number (by omega) .positive
  rwa [Nat.cast_mul, Nat.cast_pow, Nat.cast_ofNat, zpow_neg, zpow_natCast,
    mul_assoc, mul_inv_cancel₀ (by positivity), mul_one] at h

/-- A count that fits into a mantissa stands for itself. -/
theorem value?_toFloat {n : ℕ} (hn : n < 2 ^ 53) :
    value? n.toUInt64.toFloat = some ((n : ℝ) : EReal) := by
  have hword : n.toUInt64.toNat = n := by
    simp
    omega
  obtain ⟨p, hp, hrounds⟩ := normalize_rounds n 0 .positive
  have hfloat : value? n.toUInt64.toFloat = some p := by
    rw [← hp, value?]
    change valueOf (Float.Model.ofUInt64 n.toUInt64).unpack = _
    rw [Float.Model.ofUInt64, UnpackedFloat.ofUInt64, hword]
    rfl
  rw [zpow_zero, mul_one, Int.cast_natCast] at hrounds
  rw [hfloat, hrounds.eq_of_number (number_natCast hn)]

/-- **Whole numbers that fit into a mantissa** are represented as they are. -/
theorem value?_ofNat {n : ℕ} (hn : n < 2 ^ 53) :
    value? (Scalar.ofNat n) = some ((n : ℝ) : EReal) := by
  have hone : value? (Float.ofBits 4607182418800017408) = some ((1 : ℝ) : EReal) :=
    value?_of_unpack (m := 2 ^ 52) (e := -52) (by decide) rfl (by norm_num)
  obtain ⟨s, hs, hrounds⟩ := value?_mul (value?_toFloat hn) hone one_ne_zero
  have hvalue : value? (Scalar.ofNat n) = some s := by
    rw [← hs]
    change value? (Float.ofScientific n false 0) = _
    rw [Float.ofScientific, dif_pos ⟨hn, by decide⟩]
    rfl
  rw [EReal.coe_one, mul_one] at hrounds
  rw [hvalue, hrounds.eq_of_number (number_natCast hn)]

/-- The least positive number of the format, on the other side of zero. -/
theorem number_neg_least : Number ((-(2 ^ (-1074 : ℤ)) : ℝ) : EReal) := by
  have hform : Canonical 1 (-1074) :=
    { mantissa_lt := by norm_num, le_exponent := le_rfl, full := .inr rfl }
  have h := hform.number (by norm_num) .negative
  rwa [signed_coe, Sign.apply, Nat.cast_one, Int.cast_neg, Int.cast_one, neg_one_mul] at h

/-- **A negative sum is not rounded to zero**, for sums are multiples of the least positive
number. -/
theorem Rounds.add_nonneg {p q : ℝ} {s : EReal} (hs : Rounds ((p + q : ℝ) : ℝ) s)
    (hp : Number (p : EReal)) (hq : Number (q : EReal)) (hnonneg : 0 ≤ s) : 0 ≤ p + q := by
  by_contra! hneg
  obtain ⟨a, rfl⟩ := hp.exists_int
  obtain ⟨b, rfl⟩ := hq.exists_int
  have hunit := two_zpow_pos (-1074)
  have hsum : (a : ℝ) + b < 0 := by
    rw [← add_mul] at hneg
    exact neg_of_mul_neg_left hneg hunit.le
  have hint : (a : ℝ) + b ≤ -1 := by
    have h : a + b < 0 := by exact_mod_cast hsum
    exact_mod_cast (Int.le_sub_one_iff.mpr h : a + b ≤ 0 - 1)
  have hbelow : s ≤ ((-(2 ^ (-1074 : ℤ)) : ℝ) : EReal) := by
    refine hs.le_of_le number_neg_least (EReal.coe_le_coe_iff.mpr ?_)
    linarith [mul_le_mul_of_nonneg_right hint hunit.le]
  have hleast := EReal.coe_nonneg.mp (hnonneg.trans hbelow)
  linarith

/-! ## Finite numbers -/

/-- A datum that stands for no real number. -/
def Beyond (x : UnpackedFloat) : Prop := x = .notANumber ∨ ∃ sign, x = .infinity sign

/-- **A finite number** stands for a real one. -/
def IsFinite (x : Float) : Prop := ∃ p : ℝ, value? x = some (p : EReal)

theorem isFinite_iff {x : Float} : IsFinite x ↔ ¬ Beyond x.toModel.unpack := by
  rw [IsFinite, value?]
  cases x.toModel.unpack with
  | notANumber => simp [valueOf, Beyond]
  | infinity sign => simp [not_real_infinity, Beyond]
  | zero => exact iff_of_true ⟨0, rfl⟩ (by simp [Beyond])
  | finite sign m e hm =>
    refine iff_of_true ⟨sign.apply m * 2 ^ e, ?_⟩ (by simp [Beyond])
    rw [valueOf_finite, signed_coe]

theorem Beyond.unpack_pack {x : UnpackedFloat} (h : Beyond x) :
    Beyond (Float.Model.pack x).unpack := by
  obtain rfl | ⟨sign, rfl⟩ := h
  · exact .inl unpack_pack_notANumber
  · exact .inr ⟨sign, unpack_pack_infinity sign⟩

theorem Beyond.add {x y : UnpackedFloat} (h : Beyond x ∨ Beyond y) :
    Beyond (UnpackedFloat.add Format.binary64 x y) := by
  obtain (rfl | ⟨s, rfl⟩) | (rfl | ⟨s, rfl⟩) := h
  · exact .inl rfl
  · cases y with
    | notANumber => exact .inl rfl
    | infinity t => cases s <;> cases t <;> simp [Beyond, UnpackedFloat.add]
    | zero | finite => exact .inr ⟨s, rfl⟩
  · cases x <;> exact .inl rfl
  · cases x with
    | notANumber => exact .inl rfl
    | infinity t => cases s <;> cases t <;> simp [Beyond, UnpackedFloat.add]
    | zero | finite => exact .inr ⟨s, rfl⟩

theorem Beyond.div {x : UnpackedFloat} (h : Beyond x) (y : UnpackedFloat) :
    Beyond (UnpackedFloat.div Format.binary64 x y) := by
  obtain rfl | ⟨s, rfl⟩ := h
  · exact .inl rfl
  · cases y with
    | notANumber | infinity => exact .inl rfl
    | zero t | finite t => exact .inr ⟨s / t, rfl⟩

/-- **No sum with an infinite or undefined summand is finite.** -/
theorem IsFinite.of_add {x y : Float} (h : IsFinite (x + y)) : IsFinite x ∧ IsFinite y := by
  rw [isFinite_iff] at h
  rw [isFinite_iff, isFinite_iff, ← not_or]
  exact fun hbeyond => h (Beyond.add hbeyond).unpack_pack

/-- Nor is a quotient. -/
theorem IsFinite.of_div {x y : Float} (h : IsFinite (x / y)) : IsFinite x := by
  rw [isFinite_iff] at h ⊢
  exact fun hbeyond => h (hbeyond.div y.toModel.unpack).unpack_pack

theorem IsFinite.of_neg {x : Float} (h : IsFinite (-x)) : IsFinite x := by
  rw [isFinite_iff] at h ⊢
  intro hbeyond
  refine h (Beyond.unpack_pack ?_ : Beyond (Float.Model.pack x.toModel.unpack.neg).unpack)
  obtain hundefined | ⟨sign, hinfinity⟩ := hbeyond
  · rw [hundefined]
    exact .inl rfl
  · rw [hinfinity]
    exact .inr ⟨-sign, rfl⟩

/-! ## Comparisons -/

theorem le_iff_of_value {x y : Float} {p q : EReal} (hx : value? x = some p)
    (hy : value? y = some q) : x ≤ y ↔ p ≤ q := by
  simp [le_iff, hx, hy]

theorem lt_iff_of_value {x y : Float} {p q : EReal} (hx : value? x = some p)
    (hy : value? y = some q) : x < y ↔ p < q := by
  simp [lt_iff, hx, hy]

theorem le_of_le_of_le {x y z : Float} (hxy : x ≤ y) (hyz : y ≤ z) : x ≤ z := by
  obtain ⟨p, q, hp, hq, hpq⟩ := le_iff.mp hxy
  obtain ⟨q', r, hq', hr, hqr⟩ := le_iff.mp hyz
  obtain rfl : q = q' := Option.some.inj (hq.symm.trans hq')
  exact le_iff.mpr ⟨p, r, hp, hr, hpq.trans hqr⟩

theorem not_le_of_undefined {x y : Float} (h : value? x = none ∨ value? y = none) : ¬ x ≤ y := by
  intro hle
  obtain ⟨p, q, hp, hq, -⟩ := le_iff.mp hle
  simp [hp, hq] at h

theorem not_lt_of_undefined {x y : Float} (h : value? x = none ∨ value? y = none) : ¬ x < y := by
  intro hlt
  obtain ⟨p, q, hp, hq, -⟩ := lt_iff.mp hlt
  simp [hp, hq] at h

/-- What is not above a bound is at most the bound, unless that is undefined. -/
theorem not_lt_iff {x y : Float} (hy : value? y ≠ none) : ¬ x < y ↔ ¬ x ≤ x ∨ y ≤ x := by
  obtain ⟨q, hq⟩ := Option.ne_none_iff_exists'.mp hy
  cases hx : value? x with
  | none => simp [not_lt_of_undefined (.inl hx), not_le_of_undefined (.inl hx)]
  | some p => simp [lt_iff_of_value hx hq, le_iff_of_value hx hx, le_iff_of_value hq hx]

end PlateSolver.Double
