import Mathlib
import PlateSolver.Arithmetic.Double

/-!
# What binary numbers stand for

A number of the 64-bit binary format is a sign, a mantissa and a power of two, and stands for
a real number, or for one of the two infinities.  Comparisons do not compute that number: they
look at the powers of two first and at the mantissas only if these are equal.  That is the
order of the numbers all the same, since a mantissa is as long as it can be wherever the power
of two is not the least there is.

* `Canonical` — mantissas and exponents of the format.
* `valueOf`, `value?` — the number that a datum stands for; an undefined one stands for none.
* `inForm_unpack` — what is stored is canonical.
* `unpack_pack` — and is read back as it was; `unpack_pack_large` — a number that is too large
  becomes infinite.
* `lt_iff`, `le_iff` — comparisons compare numbers.
-/

namespace PlateSolver.Double

open Float.Model Float.Model.UnpackedFloat

/-- **Canonical form** of a finite number: the mantissa has 53 bits, unless the exponent is the
least one, in which case it may have fewer. -/
structure Canonical (mantissa : ℕ) (exponent : ℤ) : Prop where
  /-- There are no more than 53 bits. -/
  mantissa_lt : mantissa < 2 ^ 53
  /-- The least exponent. -/
  le_exponent : -1074 ≤ exponent
  /-- There are no fewer than 53 bits, if the exponent can be made smaller. -/
  full : 2 ^ 52 ≤ mantissa ∨ exponent = -1074

/-- A magnitude with a sign. -/
noncomputable def signed : Sign → EReal → EReal
  | .negative, magnitude => -magnitude
  | .positive, magnitude => magnitude

/-- The number that a datum stands for. -/
noncomputable def valueOf : UnpackedFloat → Option EReal
  | .notANumber => none
  | .infinity sign => some (signed sign ⊤)
  | .zero _ => some 0
  | .finite sign mantissa exponent _ =>
    some (signed sign ((mantissa * ((2 : ℕ) : ℝ) ^ exponent : ℝ) : ℝ))

theorem valueOf_finite (sign : Sign) {m : ℕ} (e : ℤ) (hm : 0 < m) :
    valueOf (.finite sign m e hm) = some (signed sign ((m * 2 ^ e : ℝ) : ℝ)) := rfl

/-- **The number that a binary number stands for.** -/
noncomputable def value? (x : Float) : Option EReal := valueOf x.toModel.unpack

/-- A datum that can be stored as it is. -/
def InForm : UnpackedFloat → Prop
  | .finite _ mantissa exponent _ => Canonical mantissa exponent ∧ exponent ≤ 971
  | _ => True

/-! ## Storing -/

/-- The bit that is not stored. -/
theorem toNat_append_one (mantissa : BitVec 52) :
    (1#1 ++ mantissa).toNat = 2 ^ 52 + mantissa.toNat := by
  rw [BitVec.toNat_append, ← Nat.shiftLeft_add_eq_or_of_lt mantissa.isLt]
  simp [Nat.shiftLeft_eq]

/-- What is stored is in canonical form. -/
theorem inForm_unpack (x : Float) : InForm x.toModel.unpack := by
  rw [Float.Model.unpack]
  fun_cases UnpackedFloat.unpack with
  | case1 => trivial
  | case2 => trivial
  | case3 => trivial
  | case4 mantissa biased e bit sign hfinite hbiased hmantissa =>
    -- a subnormal number
    have hlt : mantissa.toNat < 2 ^ 52 := mantissa.isLt
    have he : e + 1 = -1074 := by simp [e, hbiased, Format.exponentBias]
    exact ⟨{ mantissa_lt := by omega, le_exponent := he.ge, full := .inr he }, by omega⟩
  | case5 mantissa biased e bit sign hfinite hbiased =>
    -- a normal number
    have hlt : mantissa.toNat < 2 ^ 52 := mantissa.isLt
    have happend : (1#1 ++ mantissa).toNat = 2 ^ 52 + mantissa.toNat := toNat_append_one mantissa
    have hfirst : biased.toNat ≠ 0 := by simpa [← BitVec.toNat_inj] using hbiased
    have hlast : biased.toNat ≠ 2047 := by simpa [← BitVec.toNat_inj] using hfinite
    have hbits : biased.toNat < 2048 := biased.isLt
    have he : e = biased.toNat - 1075 := by simp [e, Format.exponentBias]
    exact ⟨{ mantissa_lt := by omega, le_exponent := by omega, full := .inl (by omega) }, by omega⟩

/-- What is stored for a finite number: its mantissa without the first bit, if that bit is set,
next to the biased exponent. -/
theorem pack_finite {m : ℕ} {e : ℤ} (sign : Sign) (hm : 0 < m) (hform : Canonical m e)
    (he : e ≤ 971) :
    UnpackedFloat.pack Format.binary64 (.finite sign m e hm) =
      packComponents Format.binary64 sign
        (BitVec.ofNat 11 (if 2 ^ 52 ≤ m then (e + 1075).toNat else 0)) (BitVec.ofNat 52 m) := by
  have hlog : m.log2 + 1 = 53 ↔ 2 ^ 52 ≤ m := by
    have := (Nat.log2_lt hm.ne').mpr hform.mantissa_lt
    rw [← Nat.le_log2 hm.ne']
    omega
  have hbiased : e + Format.binary64.exponentBias +
      Format.binary64.mantissaBitsWithoutImplicit = e + 1075 := by
    simp [Format.exponentBias]
    ring
  have := hform.le_exponent
  simp only [UnpackedFloat.pack, hbiased]
  rw [if_neg (by simp; omega)]
  simp only [Format.mantissaBits, hlog]
  split <;> simp_all

/-- A finite number is read back as it was stored. -/
theorem unpack_pack_finite {m : ℕ} {e : ℤ} (sign : Sign) (hm : 0 < m) (hform : Canonical m e)
    (he : e ≤ 971) :
    (Float.Model.pack (.finite sign m e hm)).unpack = .finite sign m e hm := by
  have hlt := hform.mantissa_lt
  have hle := hform.le_exponent
  change UnpackedFloat.unpack Format.binary64 (UnpackedFloat.pack _ _) = _
  rw [pack_finite sign hm hform he, UnpackedFloat.unpack]
  simp only [unpackMantissa_packComponents, unpackExponent_packComponents,
    unpackSign_packComponents, Sign.ofBitVec_toBitVec]
  by_cases hnormal : 2 ^ 52 ≤ m
  · have hbiased : (BitVec.ofNat 11 (e + 1075).toNat).toNat = (e + 1075).toNat :=
      Nat.mod_eq_of_lt (by omega)
    have hmantissa : (BitVec.ofNat 52 m).toNat = m - 2 ^ 52 := by
      rw [BitVec.toNat_ofNat]
      omega
    rw [if_pos hnormal, if_neg, if_neg]
    · congr
      · rw [toNat_append_one, hmantissa]
        omega
      · rw [hbiased]
        simp [Format.exponentBias]
        omega
    · simp [← BitVec.toNat_inj, hbiased]
      omega
    · simp [← BitVec.toNat_inj, hbiased]
      omega
  · have hmantissa : (BitVec.ofNat 52 m).toNat = m := Nat.mod_eq_of_lt (by omega)
    have he : e = -1074 := hform.full.resolve_left hnormal
    rw [if_neg hnormal, if_neg, if_pos, dif_neg]
    · congr
      simp [Format.exponentBias, he]
    · simp [← BitVec.toNat_inj, hmantissa, hm.ne']
    · rfl
    · simp

@[simp]
theorem unpack_pack_zero (sign : Sign) : (Float.Model.pack (.zero sign)).unpack = .zero sign := by
  cases sign <;> rfl

@[simp]
theorem unpack_pack_infinity (sign : Sign) :
    (Float.Model.pack (.infinity sign)).unpack = .infinity sign := by
  cases sign <;> rfl

@[simp]
theorem unpack_pack_notANumber : (Float.Model.pack .notANumber).unpack = .notANumber := rfl

/-- What can be stored is read back as it was. -/
theorem unpack_pack {x : UnpackedFloat} (h : InForm x) : (Float.Model.pack x).unpack = x := by
  cases x with
  | notANumber => exact unpack_pack_notANumber
  | infinity sign => exact unpack_pack_infinity sign
  | zero sign => exact unpack_pack_zero sign
  | finite sign m e hm => exact unpack_pack_finite sign hm h.1 h.2

/-- Storing a number that is too large leaves an infinity. -/
theorem unpack_pack_large {m : ℕ} {e : ℤ} (sign : Sign) (hm : 0 < m) (he : 972 ≤ e) :
    (Float.Model.pack (.finite sign m e hm)).unpack = .infinity sign := by
  change UnpackedFloat.unpack Format.binary64 (UnpackedFloat.pack _ _) = _
  have hpack : UnpackedFloat.pack Format.binary64 (.finite sign m e hm) =
      packedInfinity Format.binary64 sign := by
    rw [UnpackedFloat.pack, if_pos]
    simp [Format.exponentBias]
    omega
  rw [hpack]
  exact unpack_pack_infinity sign

/-! ## The order -/

theorem two_zpow_pos (e : ℤ) : (0 : ℝ) < 2 ^ e := zpow_pos two_pos e

theorem two_zpow_add (e f : ℤ) : (2 : ℝ) ^ (e + f) = 2 ^ e * 2 ^ f := zpow_add₀ two_ne_zero e f

/-- A canonical number with a greater exponent is greater. -/
theorem Canonical.lt_of_exponent_lt {m n : ℕ} {e f : ℤ} (hm : Canonical m e) (hn : Canonical n f)
    (hexponent : e < f) : (m : ℝ) * 2 ^ e < n * 2 ^ f := by
  have hfull : 2 ^ 52 ≤ n := hn.full.resolve_right (by have := hm.le_exponent; omega)
  calc (m : ℝ) * 2 ^ e < 2 ^ 53 * 2 ^ e := by
        have := two_zpow_pos e
        gcongr
        exact_mod_cast hm.mantissa_lt
    _ = 2 ^ 52 * 2 ^ (e + 1) := by
        rw [two_zpow_add, zpow_one]
        ring
    _ ≤ n * 2 ^ f := by
        gcongr
        · exact_mod_cast hfull
        · norm_num
        · omega

/-- **Exponents first, then mantissas** is the order of the numbers. -/
theorem Canonical.compare_eq {m n : ℕ} {e f : ℤ} (hm : Canonical m e) (hn : Canonical n f) :
    (compare e f).then (compare m n) = compare ((m : ℝ) * 2 ^ e) (n * 2 ^ f) := by
  rcases lt_trichotomy e f with hlt | rfl | hgt
  · rw [compare_lt_iff_lt.mpr hlt, compare_lt_iff_lt.mpr (hm.lt_of_exponent_lt hn hlt)]
    rfl
  · have hscale : StrictMono fun k : ℕ => (k : ℝ) * 2 ^ e :=
      Nat.strictMono_cast.mul_const (two_zpow_pos e)
    rw [compare_eq_iff_eq.mpr rfl, ← cmp_eq_compare, ← cmp_eq_compare]
    exact (hscale.cmp_map_eq m n).symm
  · rw [compare_gt_iff_gt.mpr hgt, compare_gt_iff_gt.mpr (hn.lt_of_exponent_lt hm hgt)]
    rfl

theorem magnitude_pos {m : ℕ} (hm : 0 < m) (e : ℤ) : (0 : ℝ) < m * 2 ^ e :=
  mul_pos (by exact_mod_cast hm) (two_zpow_pos e)

/-- Numbers of opposite signs. -/
theorem neg_magnitude_lt {m n : ℕ} (hm : 0 < m) (hn : 0 < n) (e f : ℤ) :
    (-(m * 2 ^ e) : ℝ) < n * 2 ^ f := by
  linarith [magnitude_pos hm e, magnitude_pos hn f]

theorem compare_coe (a b : ℝ) : compare (a : EReal) b = compare a b := by
  rw [← cmp_eq_compare, ← cmp_eq_compare]
  exact EReal.coe_strictMono.cmp_map_eq a b

theorem compare_neg (a b : ℝ) : compare (-a) (-b) = (compare a b).swap := by
  rw [← cmp_eq_compare, ← cmp_eq_compare, cmp_swap]
  exact StrictAnti.cmp_map_eq (fun _ _ h => neg_lt_neg h) a b

theorem signed_lt_top (s : Sign) (a : ℝ) : signed s a < ⊤ := by
  cases s
  · exact EReal.coe_lt_top (-a)
  · exact EReal.coe_lt_top a

theorem bot_lt_signed (s : Sign) (a : ℝ) : ⊥ < signed s a := by
  cases s
  · exact EReal.bot_lt_coe (-a)
  · exact EReal.bot_lt_coe a

/-- **Comparing data is comparing numbers**, if both are canonical. -/
theorem compare_valueOf {x y : UnpackedFloat} {p q : EReal} (hx : InForm x) (hy : InForm y)
    (hp : valueOf x = some p) (hq : valueOf y = some q) :
    x.compare y = some (compare p q) := by
  symm
  have below {a b : EReal} (h : a < b) : some (compare a b) = some .lt :=
    congrArg some (compare_lt_iff_lt.mpr h)
  have above {a b : EReal} (h : b < a) : some (compare a b) = some .gt :=
    congrArg some (compare_gt_iff_gt.mpr h)
  match x, y, hp, hq with
  | .zero _, .zero _, rfl, rfl => simp [UnpackedFloat.compare]
  | .infinity s, .infinity t, rfl, rfl => cases s <;> cases t <;> rfl
  -- an infinity on one side
  | .infinity .positive, .zero _, rfl, rfl => exact above EReal.zero_lt_top
  | .infinity .negative, .zero _, rfl, rfl => exact below EReal.bot_lt_zero
  | .zero _, .infinity .positive, rfl, rfl => exact below EReal.zero_lt_top
  | .zero _, .infinity .negative, rfl, rfl => exact above EReal.bot_lt_zero
  | .infinity .positive, .finite t n f hn, rfl, rfl => exact above (signed_lt_top t _)
  | .infinity .negative, .finite t n f hn, rfl, rfl => exact below (bot_lt_signed t _)
  | .finite s m e hm, .infinity .positive, rfl, rfl => exact below (signed_lt_top s _)
  | .finite s m e hm, .infinity .negative, rfl, rfl => exact above (bot_lt_signed s _)
  -- different signs
  | .zero _, .finite .positive n f hn, rfl, rfl =>
    exact below (EReal.coe_pos.mpr (magnitude_pos hn f))
  | .zero _, .finite .negative n f hn, rfl, rfl =>
    exact above (EReal.neg_lt_zero.mpr (EReal.coe_pos.mpr (magnitude_pos hn f)))
  | .finite .positive m e hm, .zero _, rfl, rfl =>
    exact above (EReal.coe_pos.mpr (magnitude_pos hm e))
  | .finite .negative m e hm, .zero _, rfl, rfl =>
    exact below (EReal.neg_lt_zero.mpr (EReal.coe_pos.mpr (magnitude_pos hm e)))
  | .finite .negative m e hm, .finite .positive n f hn, rfl, rfl =>
    exact below (EReal.coe_lt_coe_iff.mpr (neg_magnitude_lt hm hn e f))
  | .finite .positive m e hm, .finite .negative n f hn, rfl, rfl =>
    exact above (EReal.coe_lt_coe_iff.mpr (neg_magnitude_lt hn hm f e))
  -- equal signs
  | .finite .positive m e hm, .finite .positive n f hn, rfl, rfl =>
    rw [UnpackedFloat.compare, Canonical.compare_eq hx.1 hy.1]
    exact congrArg some (compare_coe _ _)
  | .finite .negative m e hm, .finite .negative n f hn, rfl, rfl =>
    rw [UnpackedFloat.compare, Canonical.compare_eq hx.1 hy.1, ← compare_neg]
    exact congrArg some (compare_coe _ _)

/-- An undefined datum compares with none. -/
theorem compare_undefined {x y : UnpackedFloat} (h : valueOf x = none ∨ valueOf y = none) :
    x.compare y = none := by
  cases x <;> cases y <;> simp_all [valueOf, UnpackedFloat.compare]

/-- A strict comparison in terms of data. -/
theorem lt_def (x y : Float) : x < y ↔ x.toModel.unpack.compare y.toModel.unpack = some .lt := by
  change decide ((x.toModel.unpack.compare y.toModel.unpack == some Ordering.lt) = true) = true ↔ _
  simp

/-- A comparison in terms of data. -/
theorem le_def (x y : Float) :
    x ≤ y ↔ (x.toModel.unpack.compare y.toModel.unpack).any (·.isLE) = true := by
  change decide ((x.toModel.unpack.compare y.toModel.unpack).any (·.isLE) = true) = true ↔ _
  simp

theorem lt_iff {x y : Float} :
    x < y ↔ ∃ p q, value? x = some p ∧ value? y = some q ∧ p < q := by
  rw [lt_def]
  cases hx : value? x with
  | none => simp [compare_undefined (.inl hx)]
  | some p =>
    cases hy : value? y with
    | none => simp [compare_undefined (.inr hy)]
    | some q =>
      rw [compare_valueOf (inForm_unpack x) (inForm_unpack y) hx hy]
      simp [compare_lt_iff_lt]

theorem le_iff {x y : Float} :
    x ≤ y ↔ ∃ p q, value? x = some p ∧ value? y = some q ∧ p ≤ q := by
  rw [le_def]
  cases hx : value? x with
  | none => simp [compare_undefined (.inl hx)]
  | some p =>
    cases hy : value? y with
    | none => simp [compare_undefined (.inr hy)]
    | some q =>
      rw [compare_valueOf (inForm_unpack x) (inForm_unpack y) hx hy]
      simp [← Ordering.ne_gt_iff_isLE, compare_le_iff_le]

end PlateSolver.Double
