import PlateSolver.Proofs.Arithmetic.Operations
import PlateSolver.Proofs.Zone.FullScan

/-!
# Edges of windows, with rounding

A window of right ascension has its edges a half-width before and after its centre, and is cut
where they leave the turn.  On the carrier that the program runs on every one of these sums is
rounded, and so is the quotient that says in which bin of an index a window begins.  No number
is ever carried past a number of the format, so whole turns and the number of bins bound what
comes out.

* `indexBin_lt_iff` — what begins before the end of a turn begins in one of its bins.
* `Edges`, `edges` — what is left of the order of the edges.
-/

namespace PlateSolver.Zone

open Double

/-! ## Angles as numbers -/

theorem value?_halfTurn : value? 180 = some ((180 : ℝ) : EReal) :=
  value?_of_unpack (m := 180 * 2 ^ 45) (e := -45) (by decide) rfl (by norm_num)

theorem value?_turn : value? 360 = some ((360 : ℝ) : EReal) :=
  value?_of_unpack (m := 360 * 2 ^ 44) (e := -44) (by decide) rfl (by norm_num)

theorem value?_step : value? (15 / 4 : Float) = some ((15 / 4 : ℝ) : EReal) :=
  value?_of_unpack (m := 15 * 2 ^ 49) (e := -51) (by decide) rfl (by norm_num)

/-- The degrees in an hour. -/
theorem value?_fifteen : value? 15 = some ((15 : ℝ) : EReal) :=
  value?_of_unpack (m := 15 * 2 ^ 49) (e := -49) (by decide) rfl (by norm_num)

/-- The radians in a degree. -/
theorem value?_radian : value? (Analytic.pi / 180) =
    some ((5030569068109113 * 2 ^ (-58 : ℤ) : ℝ) : EReal) :=
  value?_of_unpack (m := 5030569068109113) (e := -58) (by decide) rfl (by norm_num)

/-- The degrees in a radian. -/
theorem value?_degree : value? (180 / Analytic.pi) =
    some ((8063664102031864 * 2 ^ (-47 : ℤ) : ℝ) : EReal) :=
  value?_of_unpack (m := 8063664102031864) (e := -47) (by decide) rfl (by norm_num)

theorem number_turn : Number ((360 : ℝ) : EReal) := ⟨360, value?_turn⟩

/-! ## Bins -/

/-- **The last number before the end of a turn.** -/
theorem le_of_lt_turn {p : ℝ} (hp : Number (p : EReal)) (hlt : p < 360) :
    p ≤ 360 - 2 ^ (-44 : ℤ) := by
  have hform : Canonical (360 * 2 ^ 44 - 1) (-44) :=
    { mantissa_lt := by norm_num, le_exponent := by norm_num, full := .inl (by norm_num) }
  by_contra! hgt
  have hnonneg : (0 : EReal) ≤ (p : EReal) := EReal.coe_nonneg.mpr (by norm_num at hgt; linarith)
  rcases hp.cases_of_nonneg hnonneg with htop | ⟨n, f, hn, -, hr⟩
  · exact absurd htop (EReal.coe_ne_top p)
  · obtain rfl := EReal.coe_injective hr
    have hnext := hform.succ_le hn (by norm_num at hgt ⊢; linarith)
    norm_num at hnext hlt
    linarith

/-- The last number before the bins end. -/
theorem number_last_bin : Number ((96 - 2 ^ (-46 : ℤ) : ℝ) : EReal) := by
  have hform : Canonical (96 * 2 ^ 46 - 1) (-46) :=
    { mantissa_lt := by norm_num, le_exponent := by norm_num, full := .inl (by norm_num) }
  have hvalue : ((96 * 2 ^ 46 - 1 : ℕ) : ℝ) * 2 ^ (-46 : ℤ) = 96 - 2 ^ (-46 : ℤ) := by norm_num
  rw [← hvalue]
  exact hform.number (by norm_num) .positive

/-- **The bins of a turn.**  A window begins in one of the bins if and only if it begins before
the end of the turn, although its lower edge is divided by the width of a bin with rounding. -/
theorem indexBin_lt_iff {range : Range Float} {p : ℝ} (hp : value? range.raMin = some (p : EReal)) :
    indexBin range < binCount ↔ p < 360 := by
  obtain ⟨s, hs, hrounds⟩ := value?_div hp value?_step (by norm_num)
  have hbin : indexBin range < binCount ↔ ¬ 96 ≤ Scalar.whole (range.raMin / (15 / 4)) := by
    simp only [indexBin, binCount]
    rw [min_lt_iff, not_le]
    simp [Word.limit]
  rw [hbin, le_whole_iff hs (by norm_num) (by norm_num), not_le]
  constructor
  · intro hlt
    by_contra! hle
    have hend : Number ((96 : ℝ) : EReal) :=
      ⟨96, value?_of_unpack (m := 96 * 2 ^ 46) (e := -46) (by decide) rfl (by norm_num)⟩
    have habove := hrounds.ge_of_ge hend (EReal.coe_le_coe_iff.mpr (by linarith))
    exact absurd hlt (not_lt.mpr (by exact_mod_cast habove))
  · intro hlt
    -- The quotient of the last number before the end is not past the last one before the bins end.
    have hlast := le_of_lt_turn ⟨_, hp⟩ hlt
    have hbelow : s ≤ ((96 - 2 ^ (-46 : ℤ) : ℝ) : EReal) := by
      refine hrounds.le_of_le number_last_bin (EReal.coe_le_coe_iff.mpr ?_)
      norm_num at hlast ⊢
      linarith
    have hend : (96 - 2 ^ (-46 : ℤ) : ℝ) < 96 := by norm_num
    exact hbelow.trans_lt (EReal.coe_lt_coe_iff.mpr hend)

/-! ## Edges -/

/-- **Edges.** What rounding keeps of the edges of a window. -/
structure Edges (centre low high : EReal) : Prop where
  /-- The lower edge is not past the centre. -/
  low_le : low ≤ centre
  /-- The upper edge is not before it. -/
  le_high : centre ≤ high
  /-- A window that begins before a turn does not reach its end. -/
  high_le : low < 0 → high ≤ ((360 : ℝ) : EReal)
  /-- Nor does it begin before the turn that ends there, if it reaches it. -/
  le_low : low < 0 → 0 ≤ high → ((-360 : ℝ) : EReal) ≤ low
  /-- A window that begins within a turn ends within the next. -/
  high_le_two : low < ((360 : ℝ) : EReal) → high ≤ ((720 : ℝ) : EReal)

/-- The edges around a centre have these properties, if the half-width is less than half a
turn. -/
theorem edges {ra halfWidth : Float} {p : EReal} {c : ℝ} (hra : value? ra = some p)
    (hhalf : value? halfWidth = some (c : EReal)) (hc : 0 ≤ c ∧ c < 180) :
    ∃ low high, value? (ra - halfWidth) = some low ∧ value? (ra + halfWidth) = some high ∧
      Edges p low high := by
  obtain ⟨low, hlow, hsub⟩ := value?_sub hra hhalf
  obtain ⟨high, hhigh, hadd⟩ := value?_add hra hhalf
  obtain ⟨hnonneg, hlt⟩ := hc
  refine ⟨low, high, hlow, hhigh, ?_⟩
  induction p with
  | bot =>
    obtain rfl : low = ⊥ := hsub.eq_of_number ⟨ra, hra⟩
    obtain rfl : high = ⊥ := (EReal.bot_add c ▸ hadd).eq_of_number ⟨ra, hra⟩
    exact
      { low_le := le_rfl
        le_high := le_rfl
        high_le := fun _ => bot_le
        le_low := fun _ hreach => absurd hreach (by simp)
        high_le_two := fun _ => bot_le }
  | top =>
    obtain rfl : low = ⊤ := (EReal.top_sub_coe c ▸ hsub).eq_of_number ⟨ra, hra⟩
    obtain rfl : high = ⊤ := (EReal.top_add_coe c ▸ hadd).eq_of_number ⟨ra, hra⟩
    exact
      { low_le := le_rfl
        le_high := le_rfl
        high_le := fun h => absurd h (by simp)
        le_low := fun _ _ => le_top
        high_le_two := fun h => absurd h (by simp) }
  | coe p =>
    rw [← EReal.coe_sub] at hsub
    rw [← EReal.coe_add] at hadd
    refine
      { low_le := hsub.le_of_le ⟨ra, hra⟩ (EReal.coe_le_coe_iff.mpr (by linarith))
        le_high := hadd.ge_of_ge ⟨ra, hra⟩ (EReal.coe_le_coe_iff.mpr (by linarith))
        high_le := fun hneg => ?_
        le_low := fun hneg hreach => ?_
        high_le_two := fun hbegin => ?_ }
    · have hexact := EReal.coe_lt_coe_iff.mp (hsub.lt_of_lt number_zero hneg)
      exact hadd.le_of_le number_turn (EReal.coe_le_coe_iff.mpr (by linarith))
    · have hexact := hadd.add_nonneg ⟨ra, hra⟩ ⟨halfWidth, hhalf⟩ hreach
      have hturn : Number ((-360 : ℝ) : EReal) := by simpa using number_turn.neg
      exact hsub.ge_of_ge hturn (EReal.coe_le_coe_iff.mpr (by linarith))
    · have hexact := EReal.coe_lt_coe_iff.mp (hsub.lt_of_lt number_turn hbegin)
      have htwice : Number ((720 : ℝ) : EReal) :=
        ⟨720, value?_of_unpack (m := 720 * 2 ^ 43) (e := -43) (by decide) rfl (by norm_num)⟩
      exact hadd.le_of_le htwice (EReal.coe_le_coe_iff.mpr (by linarith))

/-- A half-width that is less than half a turn is a number. -/
theorem exists_value_of_narrow {halfWidth : Float} (h : 0 ≤ halfWidth ∧ halfWidth < 180) :
    ∃ c : ℝ, value? halfWidth = some (c : EReal) ∧ 0 ≤ c ∧ c < 180 := by
  obtain ⟨_, p, hzero, hhalf, hnonneg⟩ := le_iff.mp h.1
  have hlt : p < ((180 : ℝ) : EReal) := (lt_iff_of_value hhalf value?_halfTurn).mp h.2
  rw [← Option.some.inj (value?_zero.symm.trans hzero)] at hnonneg
  induction p with
  | bot => exact absurd hnonneg (by simp)
  | top => exact absurd hlt (by simp)
  | coe c => exact ⟨c, hhalf, EReal.coe_le_coe_iff.mp hnonneg, EReal.coe_lt_coe_iff.mp hlt⟩

end PlateSolver.Zone
