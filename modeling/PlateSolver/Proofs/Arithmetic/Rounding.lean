import PlateSolver.Proofs.Arithmetic.Binary

/-!
# Rounding

What a computation yields is brought to 53 bits, or to the least power of two, and the last bit
kept is chosen by the bits left out.  Which way it goes does not matter for questions of order:
the result and the value it stands for lie on the same side of every number of the format.

* `Number` — the numbers of the format, the infinities among them.
* `Rounds` — no number of the format lies between a value and what stands for it.
* `Canonical.rounds` — taking one of the two neighbours of a value is rounding it, if a value
  that has no neighbours is kept.
* `Within` — what a mantissa with an accuracy knows of a value.
* `roundWithAccuracy_rounds`, `normalize_rounds` — the rounding of the format, and storing
  what it yields, is rounding in this sense.

## Design decisions

To the nearest number, and to the even one of two, is more than `Rounds` tells.  What it tells
is enough to compare a result with a number of the format, and no more is ever asked.
-/

namespace PlateSolver.Double

open Float.Model Float.Model.UnpackedFloat ExtendedMantissa

/-! ## Numbers of the format -/

/-- **The numbers of the format.** -/
def Number (r : EReal) : Prop := ∃ x : Float, value? x = some r

/-- **Rounding.** A number of the format stands for a value as well as any can: no number of
the format separates the two. -/
structure Rounds (v p : EReal) : Prop where
  /-- Nothing above the value is exceeded. -/
  le_of_le {r : EReal} : Number r → v ≤ r → p ≤ r
  /-- Nothing below it is undercut. -/
  ge_of_ge {r : EReal} : Number r → r ≤ v → r ≤ p

theorem signed_neg (sign : Sign) (p : EReal) : signed (-sign) p = -signed sign p := by
  cases sign
  · exact (neg_neg p).symm
  · rfl

theorem Canonical.zero : Canonical 0 (-1074) :=
  { mantissa_lt := by norm_num, le_exponent := le_rfl, full := .inr rfl }

/-- Canonical numbers that are not too large are numbers of the format. -/
theorem Canonical.number {m : ℕ} {e : ℤ} (hform : Canonical m e) (he : e ≤ 971) (sign : Sign) :
    Number (signed sign ((m * 2 ^ e : ℝ) : ℝ)) := by
  rcases Nat.eq_zero_or_pos m with rfl | hm
  · have hvalue : value? 0 = some 0 := rfl
    refine ⟨0, hvalue.trans ?_⟩
    cases sign <;> simp [Double.signed]
  · refine ⟨Float.ofModel (Float.Model.pack (.finite sign m e hm)), ?_⟩
    rw [value?, unpack_pack_finite sign hm hform he, valueOf_finite]

/-- There are no others, but for the infinities. -/
theorem Number.cases {r : EReal} (h : Number r) :
    (∃ sign, r = signed sign ⊤) ∨
      ∃ sign m e, Canonical m e ∧ e ≤ 971 ∧ r = signed sign ((m * 2 ^ e : ℝ) : ℝ) := by
  obtain ⟨x, hx⟩ := h
  have hform := inForm_unpack x
  rw [value?] at hx
  cases hunpack : x.toModel.unpack with
  | notANumber => simp [hunpack, valueOf] at hx
  | infinity sign =>
    rw [hunpack] at hx
    exact .inl ⟨sign, (Option.some.inj hx).symm⟩
  | zero sign =>
    rw [hunpack] at hx
    refine .inr ⟨.positive, 0, -1074, .zero, by norm_num, ?_⟩
    simpa [signed] using (Option.some.inj hx).symm
  | finite sign m e hm =>
    rw [hunpack] at hx hform
    exact .inr ⟨sign, m, e, hform.1, hform.2, (Option.some.inj hx).symm⟩

theorem Number.neg {r : EReal} (h : Number r) : Number (-r) := by
  rcases h.cases with ⟨sign, rfl⟩ | ⟨sign, m, e, hform, he, rfl⟩
  · rw [← signed_neg]
    exact ⟨Float.ofModel (Float.Model.pack (.infinity (-sign))), by simp [value?, valueOf]⟩
  · rw [← signed_neg]
    exact hform.number he (-sign)

/-- A number of the format that is not negative. -/
theorem Number.cases_of_nonneg {r : EReal} (h : Number r) (hr : 0 ≤ r) :
    r = ⊤ ∨ ∃ m e, Canonical m e ∧ e ≤ 971 ∧ r = ((m * 2 ^ e : ℝ) : ℝ) := by
  rcases h.cases with ⟨sign, rfl⟩ | ⟨sign, m, e, hform, he, rfl⟩
  · cases sign
    · exact absurd hr (by simp [Double.signed])
    · exact .inl rfl
  · right
    cases sign
    · have hzero : (m : ℝ) * 2 ^ e ≤ 0 := by
        rw [Double.signed, EReal.le_neg, neg_zero] at hr
        exact_mod_cast hr
      have hm : (m : ℝ) * 2 ^ e = 0 := le_antisymm hzero (by positivity)
      exact ⟨0, -1074, .zero, by norm_num, by simp [Double.signed, hm]⟩
    · exact ⟨m, e, hform, he, rfl⟩

theorem Rounds.refl (v : EReal) : Rounds v v := ⟨fun _ h => h, fun _ h => h⟩

theorem Rounds.trans {v p q : EReal} (h : Rounds v p) (h' : Rounds p q) : Rounds v q :=
  ⟨fun hr hv => h'.le_of_le hr (h.le_of_le hr hv), fun hr hv => h'.ge_of_ge hr (h.ge_of_ge hr hv)⟩

/-- What stands for a value is not below a number of the format unless the value is. -/
theorem Rounds.lt_of_lt {v p r : EReal} (h : Rounds v p) (hr : Number r) (hlt : p < r) : v < r :=
  lt_of_not_ge fun hle => (h.ge_of_ge hr hle).not_gt hlt

/-- What is a number of the format already, rounding keeps. -/
theorem Rounds.eq_of_number {v p : EReal} (h : Rounds v p) (hv : Number v) : p = v :=
  le_antisymm (h.le_of_le hv le_rfl) (h.ge_of_ge hv le_rfl)

theorem Rounds.neg {v p : EReal} (h : Rounds v p) : Rounds (-v) (-p) where
  le_of_le hr hv := EReal.neg_le.mp (h.ge_of_ge hr.neg (EReal.neg_le.mp hv))
  ge_of_ge hr hv := EReal.le_neg.mp (h.le_of_le hr.neg (EReal.le_neg.mp hv))

theorem Rounds.signed {v p : EReal} (h : Rounds v p) (sign : Sign) :
    Rounds (signed sign v) (signed sign p) := by
  cases sign
  · exact h.neg
  · exact h

/-! ## Neighbours -/

/-- Between a canonical number and the next one there is none. -/
theorem Canonical.succ_le {m n : ℕ} {e f : ℤ} (hm : Canonical m e) (hn : Canonical n f)
    (h : (m : ℝ) * 2 ^ e < n * 2 ^ f) : ((m + 1 : ℕ) : ℝ) * 2 ^ e ≤ n * 2 ^ f := by
  rcases lt_trichotomy e f with hlt | rfl | hgt
  · have hfull : 2 ^ 52 ≤ n := hn.full.resolve_right (by have := hm.le_exponent; omega)
    have hm' : m + 1 ≤ 2 ^ 53 := hm.mantissa_lt
    calc ((m + 1 : ℕ) : ℝ) * 2 ^ e ≤ 2 ^ 53 * 2 ^ e := by
          gcongr
          exact_mod_cast hm'
      _ = 2 ^ 52 * 2 ^ (e + 1) := by
          rw [two_zpow_add, zpow_one]
          ring
      _ ≤ n * 2 ^ f := by
          gcongr
          · exact_mod_cast hfull
          · norm_num
          · omega
  · have hmn : m < n := by exact_mod_cast lt_of_mul_lt_mul_right h (two_zpow_pos e).le
    gcongr
    exact hmn
  · exact absurd (hn.lt_of_exponent_lt hm hgt) h.not_gt

/-- A value between a canonical number and the next one is rounded if one of the two is taken,
and the first one if it is that. -/
theorem Canonical.rounds {m t : ℕ} {e : ℤ} {v : ℝ} (hm : Canonical m e) (hle : (m : ℝ) * 2 ^ e ≤ v)
    (hlt : v < ((m + 1 : ℕ) : ℝ) * 2 ^ e) (ht : t = m ∨ t = m + 1)
    (hexact : v = m * 2 ^ e → t = m) : Rounds v ((t * 2 ^ e : ℝ) : ℝ) := by
  have hupper : (t : ℝ) * 2 ^ e ≤ ((m + 1 : ℕ) : ℝ) * 2 ^ e := by
    have := two_zpow_pos e
    gcongr
    omega
  have hlower : (m : ℝ) * 2 ^ e ≤ t * 2 ^ e := by
    have := two_zpow_pos e
    gcongr
    omega
  have hv : 0 ≤ v := le_trans (by positivity) hle
  constructor
  · intro r hr hvr
    rcases hr.cases_of_nonneg (le_trans (EReal.coe_nonneg.mpr hv) hvr) with
      rfl | ⟨n, f, hn, -, rfl⟩
    · exact le_top
    · rw [EReal.coe_le_coe_iff] at hvr ⊢
      rcases hle.eq_or_lt with heq | hbelow
      · rw [hexact heq.symm, heq]
        exact hvr
      · exact hupper.trans (hm.succ_le hn (hbelow.trans_le hvr))
  · intro r hr hvr
    rcases lt_or_ge r 0 with hneg | hnonneg
    · exact hneg.le.trans (EReal.coe_nonneg.mpr (by positivity))
    rcases hr.cases_of_nonneg hnonneg with rfl | ⟨n, f, hn, -, rfl⟩
    · exact absurd hvr (EReal.coe_lt_top v).not_ge
    · rw [EReal.coe_le_coe_iff] at hvr ⊢
      have hnot : ¬ (m : ℝ) * 2 ^ e < n * 2 ^ f := fun h =>
        (hm.succ_le hn h).not_gt (hvr.trans_lt hlt)
      exact (not_lt.mp hnot).trans hlower

/-- A number that is too large is rounded to an infinity. -/
theorem Canonical.rounds_top {m : ℕ} {e : ℤ} (hform : Canonical m e) (he : 972 ≤ e) :
    Rounds ((m * 2 ^ e : ℝ) : ℝ) ⊤ where
  ge_of_ge _ _ := le_top
  le_of_le {r} hr hle := by
    have hnonneg : 0 ≤ r := le_trans (EReal.coe_nonneg.mpr (by positivity)) hle
    rcases hr.cases_of_nonneg hnonneg with rfl | ⟨n, f, hn, hf, rfl⟩
    · exact le_rfl
    · have hlt : (n : ℝ) * 2 ^ f < m * 2 ^ e := hn.lt_of_exponent_lt hform (by omega)
      exact absurd (EReal.coe_le_coe_iff.mp hle) hlt.not_ge

/-- **Storing** rounds a number, if it changes it at all. -/
theorem Canonical.rounds_pack {m : ℕ} {e : ℤ} (hform : Canonical m e) (sign : Sign) (hm : 0 < m) :
    ∃ p, valueOf (Float.Model.pack (.finite sign m e hm)).unpack = some p ∧
      Rounds (Double.signed sign ((m * 2 ^ e : ℝ) : ℝ)) p := by
  rcases lt_or_ge e 972 with hsmall | hlarge
  · rw [unpack_pack_finite sign hm hform (by omega)]
    exact ⟨_, rfl, .refl _⟩
  · rw [unpack_pack_large sign hm hlarge]
    exact ⟨_, rfl, (hform.rounds_top hlarge).signed sign⟩

/-! ## Shifting -/

/-- A value of which the mantissa holds the leading bits, as far as the accuracy tells: it is
reached, or it lies before the next mantissa. -/
inductive Within (v : ℝ) (m : ℕ) (e : ℤ) : Accuracy → Prop
  /-- The mantissa holds all of it. -/
  | exact : v = m * 2 ^ e → Within v m e .exact
  /-- There is more. -/
  | inexact (side : Ordering) : (m : ℝ) * 2 ^ e < v → v < ((m + 1 : ℕ) : ℝ) * 2 ^ e →
    Within v m e (.inexact side)

theorem Within.le {v : ℝ} {m : ℕ} {e : ℤ} {acc : Accuracy} (h : Within v m e acc) :
    (m : ℝ) * 2 ^ e ≤ v := by
  cases h with
  | exact heq => exact heq.ge
  | inexact side hlt => exact hlt.le

theorem Within.lt {v : ℝ} {m : ℕ} {e : ℤ} {acc : Accuracy} (h : Within v m e acc) :
    v < ((m + 1 : ℕ) : ℝ) * 2 ^ e := by
  cases h with
  | exact heq =>
    have := two_zpow_pos e
    rw [heq]
    gcongr
    omega
  | inexact side _ hlt => exact hlt

theorem shiftRight_zero (em : ExtendedMantissa) : em >>> 0 = em := rfl

theorem shiftRight_succ (em : ExtendedMantissa) (k : ℕ) :
    em >>> (k + 1) = (em >>> k).shiftRightOne := rfl

theorem shiftRight_mantissa (em : ExtendedMantissa) (k : ℕ) :
    (em >>> k).mantissa = em.mantissa / 2 ^ k := by
  induction k with
  | zero => simp [shiftRight_zero]
  | succ k ih => simp [shiftRight_succ, shiftRightOne, ih, Nat.div_div_eq_div_mul, pow_succ]

/-- Bits that are not set leave no trace. -/
theorem shiftRight_exact (n k : ℕ) :
    (⟨n * 2 ^ k, false, false⟩ : ExtendedMantissa) >>> k = ⟨n, false, false⟩ := by
  induction k generalizing n with
  | zero => simp [shiftRight_zero]
  | succ k ih =>
    rw [shiftRight_succ, pow_succ', ← mul_assoc, ih]
    simp [shiftRightOne]

/-- Rounding keeps a mantissa or goes to the next. -/
theorem roundedMantissa_cases (em : ExtendedMantissa) :
    em.roundedMantissa = em.mantissa ∨ em.roundedMantissa = em.mantissa + 1 := by
  obtain ⟨m, rnd, sticky⟩ := em
  cases rnd <;> cases sticky <;> simp [roundedMantissa, accuracy, Accuracy.roundToNearestEven]
  omega

theorem targetExponent_eq (m : ℕ) (e : ℤ) :
    Format.binary64.targetExponent (totalExponent m e) = max (m.log2 + e - 52) (-1074) := by
  simp [Format.targetExponent, totalExponent, Format.mantissaBits, Format.minExponent]
  omega

/-- The shift that brings a mantissa to 53 bits, or to the least exponent. -/
def narrowing (m : ℕ) (e : ℤ) : ℕ := (max (m.log2 + e - 52) (-1074) - e).toNat

/-- What is shifted out was not needed. -/
theorem canonical_narrowing {m : ℕ} {e : ℤ} (hlarge : 2 ^ 52 ≤ m ∨ e ≤ -1074) :
    Canonical (m / 2 ^ narrowing m e) (e + narrowing m e) := by
  rcases Nat.eq_zero_or_pos m with rfl | hm
  · have he : e ≤ -1074 := hlarge.resolve_left (by norm_num)
    rw [Nat.zero_div]
    exact { mantissa_lt := by norm_num
            le_exponent := by simp [narrowing]; omega
            full := .inr (by simp [narrowing]; omega) }
  have hlow : 2 ^ m.log2 ≤ m := Nat.log2_self_le hm.ne'
  have hhigh : m < 2 ^ (m.log2 + 1) := Nat.lt_log2_self
  have hlog : 52 ≤ m.log2 ∨ e ≤ -1074 := hlarge.imp_left (Nat.le_log2 hm.ne').mpr
  have hlt : m / 2 ^ narrowing m e < 2 ^ 53 := by
    rw [Nat.div_lt_iff_lt_mul (by positivity), ← pow_add]
    refine hhigh.trans_le (Nat.pow_le_pow_right two_pos ?_)
    unfold narrowing
    omega
  refine { mantissa_lt := hlt, le_exponent := by unfold narrowing; omega, full := ?_ }
  rcases le_or_gt (-1074) (m.log2 + e - 52) with hnormal | hsubnormal
  · left
    rw [Nat.le_div_iff_mul_le (by positivity), ← pow_add]
    refine le_trans (Nat.pow_le_pow_right two_pos ?_) hlow
    unfold narrowing
    omega
  · right
    unfold narrowing
    omega

theorem shiftToTargetExponent_eq (m : ℕ) (e : ℤ) (acc : Accuracy) :
    shiftToTargetExponent Format.binary64 m e acc =
      (ofMantissaAndAccuracy m acc >>> narrowing m e, e + narrowing m e) := by
  rw [shiftToTargetExponent, targetExponent_eq, shiftToExponent, narrowing]

theorem ofMantissaAndAccuracy_mantissa (m : ℕ) (acc : Accuracy) :
    (ofMantissaAndAccuracy m acc).mantissa = m := by
  unfold ofMantissaAndAccuracy
  split <;> rfl

/-- The exponent of a shifted mantissa makes up for the shift. -/
theorem two_zpow_add_nat (e : ℤ) (k : ℕ) : (2 : ℝ) ^ (e + k) = 2 ^ k * 2 ^ e := by
  rw [two_zpow_add, zpow_natCast, mul_comm]

/-- What a shift keeps of a value: the leading bits, and all of it if there are no others. -/
theorem Within.shift {v : ℝ} {m : ℕ} {e : ℤ} {acc : Accuracy} (h : Within v m e acc) (k : ℕ) :
    ((m / 2 ^ k : ℕ) : ℝ) * 2 ^ (e + k) ≤ v ∧ v < ((m / 2 ^ k + 1 : ℕ) : ℝ) * 2 ^ (e + k) ∧
      (v = ((m / 2 ^ k : ℕ) : ℝ) * 2 ^ (e + k) →
        (ofMantissaAndAccuracy m acc >>> k).roundedMantissa = m / 2 ^ k) := by
  have hscale := two_zpow_pos e
  have hlower : ((m / 2 ^ k : ℕ) : ℝ) * 2 ^ (e + k) ≤ m * 2 ^ e := by
    rw [two_zpow_add_nat, ← mul_assoc]
    gcongr
    exact_mod_cast Nat.div_mul_le_self m (2 ^ k)
  have hupper : ((m + 1 : ℕ) : ℝ) * 2 ^ e ≤ ((m / 2 ^ k + 1 : ℕ) : ℝ) * 2 ^ (e + k) := by
    rw [two_zpow_add_nat, ← mul_assoc]
    gcongr
    have hlt : m < (m / 2 ^ k + 1) * 2 ^ k :=
      Nat.lt_mul_of_div_lt (Nat.lt_succ_self _) (by positivity)
    exact_mod_cast hlt
  refine ⟨hlower.trans h.le, h.lt.trans_le hupper, fun heq => ?_⟩
  cases h with
  | inexact side hlt => exact absurd heq (hlower.trans_lt hlt).ne'
  | exact hvalue =>
    have hm : m / 2 ^ k * 2 ^ k = m := by
      have hreal : ((m / 2 ^ k : ℕ) : ℝ) * 2 ^ k * 2 ^ e = m * 2 ^ e := by
        rw [mul_assoc, ← two_zpow_add_nat, ← heq]
        exact hvalue
      exact_mod_cast mul_right_cancel₀ hscale.ne' hreal
    have hexact := shiftRight_exact (m / 2 ^ k) k
    rw [hm] at hexact
    rw [ofMantissaAndAccuracy, hexact]
    rfl

/-! ## The rounding of the format -/

/-- **The carry.** A mantissa that rounding has made one bit too long is shifted once more. -/
theorem carry {m t : ℕ} {e : ℤ} (hform : Canonical m e) (ht : t = m ∨ t = m + 1) :
    let carried := shiftToTargetExponent Format.binary64 t e .exact
    Canonical carried.1.mantissa carried.2 ∧
      (carried.1.mantissa : ℝ) * 2 ^ carried.2 = t * 2 ^ e := by
  have hle := hform.le_exponent
  have hm := hform.mantissa_lt
  simp only [shiftToTargetExponent_eq, shiftRight_mantissa, ofMantissaAndAccuracy_mantissa]
  rcases lt_or_ge t (2 ^ 53) with hshort | hlong
  · have hk : narrowing t e = 0 := by
      have hlog : t.log2 ≤ 52 := by
        rcases Nat.eq_zero_or_pos t with rfl | hpos
        · simp
        · exact Nat.lt_succ_iff.mp ((Nat.log2_lt hpos.ne').mpr hshort)
      unfold narrowing
      omega
    have hfull : 2 ^ 52 ≤ t ∨ e = -1074 := hform.full.imp_left fun h => by omega
    simpa [hk] using ⟨hshort, hle, hfull⟩
  · obtain rfl : t = 2 ^ 53 := by omega
    have hk : narrowing (2 ^ 53) e = 1 := by
      rw [narrowing, Nat.log2_two_pow]
      omega
    rw [hk]
    refine ⟨{ mantissa_lt := by norm_num, le_exponent := by omega, full := .inl (by norm_num) }, ?_⟩
    rw [two_zpow_add_nat]
    norm_num
    ring

/-- **Rounding what is within known bounds**, to a number that is then stored. -/
theorem roundWithAccuracy_rounds {v : ℝ} {m : ℕ} {e : ℤ} {acc : Accuracy} (h : Within v m e acc)
    (hlarge : 2 ^ 52 ≤ m ∨ e ≤ -1074) (sign : Sign) :
    ∃ p, valueOf (Float.Model.pack (roundWithAccuracy Format.binary64 sign m e acc)).unpack =
      some p ∧ Rounds (signed sign v) p := by
  obtain ⟨hle, hlt, hexact⟩ := h.shift (narrowing m e)
  have hform := canonical_narrowing hlarge
  have hround := roundedMantissa_cases (ofMantissaAndAccuracy m acc >>> narrowing m e)
  rw [shiftRight_mantissa, ofMantissaAndAccuracy_mantissa] at hround
  have hrounds := (hform.rounds hle hlt hround hexact).signed sign
  obtain ⟨hcarried, hvalue⟩ := carry hform hround
  rw [← hvalue] at hrounds
  rw [roundWithAccuracy, shiftToTargetExponent_eq]
  simp only
  split
  · next hzero =>
    refine ⟨0, by simp [valueOf], ?_⟩
    cases sign <;> simpa [hzero, signed] using hrounds
  · next hpos =>
    obtain ⟨p, hp, hstored⟩ := hcarried.rounds_pack sign (Nat.pos_of_ne_zero hpos)
    exact ⟨p, hp, hrounds.trans hstored⟩

/-- Decreasing an exponent leaves the number as it was. -/
theorem shiftLeft_mul (m k : ℕ) (e : ℤ) : ((m <<< k : ℕ) : ℝ) * 2 ^ (e - k) = m * 2 ^ e := by
  have hscale : (2 : ℝ) ^ e = 2 ^ k * 2 ^ (e - k) := by
    rw [← two_zpow_add_nat, sub_add_cancel]
  rw [Nat.shiftLeft_eq, hscale]
  push_cast
  ring

/-- Rounding a finite number. -/
theorem round_rounds (sign : Sign) {m : ℕ} (e : ℤ) (hm : 0 < m) :
    ∃ p, valueOf (Float.Model.pack (UnpackedFloat.round Format.binary64 sign m e)).unpack =
      some p ∧ Rounds (signed sign ((m * 2 ^ e : ℝ) : ℝ)) p := by
  rw [UnpackedFloat.round, targetExponent_eq, decreaseExponent]
  have hwithin (k : ℕ) : Within ((m : ℝ) * 2 ^ e) (m <<< k) (e - k) .exact :=
    .exact (shiftLeft_mul m k e).symm
  refine roundWithAccuracy_rounds (hwithin _) ?_ sign
  rcases le_or_gt (-1074) (m.log2 + e - 52) with hnormal | hsubnormal
  · left
    rw [Nat.shiftLeft_eq]
    calc 2 ^ 52 ≤ 2 ^ m.log2 * 2 ^ (e - max (m.log2 + e - 52) (-1074)).toNat := by
          rw [← pow_add]
          exact Nat.pow_le_pow_right two_pos (by omega)
      _ ≤ _ := Nat.mul_le_mul_right _ (Nat.log2_self_le hm.ne')
  · right
    omega

/-- The number that a finite datum stands for, by its signed mantissa. -/
theorem signed_coe (sign : Sign) (m : ℕ) (e : ℤ) :
    signed sign ((m * 2 ^ e : ℝ) : ℝ) = ((((sign.apply m : ℤ) : ℝ) * 2 ^ e : ℝ) : EReal) := by
  cases sign
  · rw [signed, Sign.apply, ← EReal.coe_neg, Int.cast_neg, Int.cast_natCast, neg_mul]
  · rw [signed, Sign.apply, Int.cast_natCast]

/-- Rounding a number given by a signed mantissa. -/
theorem normalize_rounds (m : ℤ) (e : ℤ) (zeroSign : Sign) :
    ∃ p, valueOf (Float.Model.pack (UnpackedFloat.normalize Format.binary64 m e zeroSign)).unpack =
      some p ∧ Rounds ((m * 2 ^ e : ℝ) : ℝ) p := by
  rcases lt_trichotomy m 0 with hneg | rfl | hpos
  · have hround := round_rounds .negative e (m := (-m).toNat) (by omega)
    have hm : Sign.negative.apply (-m).toNat = m := by
      rw [Sign.apply]
      omega
    rw [signed_coe, hm] at hround
    rw [UnpackedFloat.normalize, compare_lt_iff_lt.mpr hneg]
    exact hround
  · have hzero : UnpackedFloat.normalize Format.binary64 0 e zeroSign = .zero zeroSign := rfl
    rw [hzero, unpack_pack_zero]
    exact ⟨0, rfl, by simpa using Rounds.refl 0⟩
  · have hround := round_rounds .positive e (m := m.toNat) (by omega)
    have hm : Sign.positive.apply m.toNat = m := by
      rw [Sign.apply]
      omega
    rw [signed_coe, hm] at hround
    rw [UnpackedFloat.normalize, compare_gt_iff_gt.mpr hpos]
    exact hround

/-- A signed mantissa for a smaller exponent. -/
theorem signed_decrease (sign : Sign) (m : ℕ) {e f : ℤ} (hf : f ≤ e) :
    ((sign.apply (m <<< (e - f).toNat : ℕ) : ℤ) : ℝ) * 2 ^ f = (sign.apply m : ℤ) * 2 ^ e := by
  have hexponent : e - (e - f).toNat = f := by omega
  have hshift := shiftLeft_mul m (e - f).toNat e
  rw [hexponent] at hshift
  cases sign
  · rw [Sign.apply, Sign.apply, Int.cast_neg, Int.cast_neg, neg_mul, neg_mul]
    exact congrArg Neg.neg hshift
  · exact hshift

/-- Every number of the format is a multiple of the least positive one. -/
theorem Number.exists_int {r : ℝ} (h : Number (r : EReal)) : ∃ z : ℤ, r = z * 2 ^ (-1074 : ℤ) := by
  rcases h.cases with ⟨sign, hinf⟩ | ⟨sign, m, e, hform, -, hr⟩
  · cases sign <;> simp [signed] at hinf
  · rw [signed_coe] at hr
    obtain rfl := EReal.coe_injective hr
    have hshift := signed_decrease sign m hform.le_exponent
    exact ⟨_, hshift.symm⟩

end PlateSolver.Double
