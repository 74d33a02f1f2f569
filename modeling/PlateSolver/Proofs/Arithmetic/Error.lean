import PlateSolver.Proofs.Arithmetic.Operations

/-!
# How far off a computation is

Rounding takes a number to one of its two neighbours in the format, which are no farther apart than
their last bit counts.  So one rounding costs a small part of the number, or the least positive
number where there are no smaller parts, and a computation with numbers that are not negative costs
no more than its roundings together: sums and quotients do not make an error greater in proportion.

* `Canonical.exists_near` — the neighbours of a number.
* `Rounds.exists_abs_sub_le` — what one rounding costs.
* `slack`, `Near` — a computed number, and what its roundings may have cost.
* `Near.div`, `Near.add` — quotients and sums.
* `Near.abs_sub_le` — what up to sixteen roundings cost.
-/

namespace PlateSolver.Double

/-! ## One rounding -/

/-- Every number has a canonical one before it, and lies before the next. -/
theorem Canonical.exists_near {v : ℝ} (hv : 0 ≤ v) :
    ∃ m e, Canonical m e ∧ (m : ℝ) * 2 ^ e ≤ v ∧ v < ((m + 1 : ℕ) : ℝ) * 2 ^ e := by
  rcases hv.eq_or_lt with rfl | hpos
  · exact ⟨0, -1074, .zero, by simp, by simp⟩
  have hlow : (2 : ℝ) ^ Int.log 2 v ≤ v := Int.zpow_log_le_self one_lt_two hpos
  have hhigh : v < (2 : ℝ) ^ (Int.log 2 v + 1) := Int.lt_zpow_succ_log_self one_lt_two v
  generalize Int.log 2 v = log at hlow hhigh
  generalize he : max (log - 52) (-1074) = e
  have hscale := two_zpow_pos e
  refine ⟨⌊v / 2 ^ e⌋₊, e, ?_, ?_, ?_⟩
  · refine { mantissa_lt := ?_, le_exponent := by omega, full := ?_ }
    · rw [Nat.floor_lt (by positivity), div_lt_iff₀ hscale]
      calc v < 2 ^ (log + 1) := hhigh
        _ ≤ 2 ^ (53 + e) := zpow_le_zpow_right₀ one_le_two (by omega)
        _ = ((2 ^ 53 : ℕ) : ℝ) * 2 ^ e := by
            rw [two_zpow_add]
            norm_num
    · rcases le_or_gt (-1074) (log - 52) with hnormal | hsubnormal
      · left
        rw [Nat.le_floor_iff (by positivity), le_div_iff₀ hscale]
        calc ((2 ^ 52 : ℕ) : ℝ) * 2 ^ e = 2 ^ (52 + e) := by
              rw [two_zpow_add]
              norm_num
          _ ≤ 2 ^ log := zpow_le_zpow_right₀ one_le_two (by omega)
          _ ≤ v := hlow
      · right
        omega
  · rw [← le_div_iff₀ hscale]
    exact Nat.floor_le (by positivity)
  · rw [← div_lt_iff₀ hscale]
    exact_mod_cast Nat.lt_floor_add_one (v / 2 ^ e)

/-- The next number is one of the format, too. -/
theorem Canonical.number_succ {m : ℕ} {e : ℤ} (hform : Canonical m e) (he : e ≤ 970) :
    Number ((((m + 1 : ℕ) : ℝ) * 2 ^ e : ℝ) : EReal) := by
  have hle := hform.le_exponent
  rcases (Nat.succ_le_of_lt hform.mantissa_lt).lt_or_eq with hlt | hcarry
  · have hnext : Canonical (m + 1) e :=
      { mantissa_lt := hlt
        le_exponent := hle
        full := hform.full.imp_left fun h => h.trans (Nat.le_succ m) }
    exact hnext.number (by omega) .positive
  · have hnext : Canonical (2 ^ 52) (e + 1) :=
      { mantissa_lt := by norm_num, le_exponent := by omega, full := .inl le_rfl }
    have hvalue : ((m + 1 : ℕ) : ℝ) * 2 ^ e = ((2 ^ 52 : ℕ) : ℝ) * 2 ^ (e + 1) := by
      rw [← Nat.succ_eq_add_one, hcarry, two_zpow_add, zpow_one]
      push_cast
      ring
    rw [hvalue]
    exact hnext.number (by omega) .positive

/-- **One rounding** costs no more than the last bit of the number. -/
theorem Rounds.exists_abs_sub_le {v : ℝ} {p : EReal} (h : Rounds v p) (hv : 0 ≤ v)
    (hmax : v < 2 ^ 1023) :
    ∃ r : ℝ, p = r ∧ 0 ≤ r ∧ |r - v| ≤ v * 2 ^ (-52 : ℤ) + 2 ^ (-1074 : ℤ) := by
  obtain ⟨m, e, hform, hle, hlt⟩ := Canonical.exists_near hv
  have hunit := two_zpow_pos e
  have hbit : (2 : ℝ) ^ e ≤ v * 2 ^ (-52 : ℤ) + 2 ^ (-1074 : ℤ) := by
    rcases hform.full with hfull | rfl
    · have hlast : (2 : ℝ) ^ e ≤ v * 2 ^ (-52 : ℤ) := by
        rw [zpow_neg, ← div_eq_mul_inv, le_div_iff₀ (two_zpow_pos 52), mul_comm]
        refine le_trans ?_ hle
        gcongr
        exact_mod_cast hfull
      linarith [two_zpow_pos (-1074)]
    · have := mul_nonneg hv (two_zpow_pos (-52)).le
      linarith
  have he : e ≤ 970 := by
    rcases hform.full with hfull | rfl
    · have hexponent : (2 : ℝ) ^ (52 + e) < 2 ^ (1023 : ℤ) := by
        refine lt_of_le_of_lt ?_ hmax
        refine le_trans ?_ hle
        rw [two_zpow_add]
        gcongr
        exact_mod_cast hfull
      have := (zpow_lt_zpow_iff_right₀ one_lt_two).mp hexponent
      omega
    · norm_num
  have hlower := h.ge_of_ge (hform.number (by omega) .positive) (EReal.coe_le_coe_iff.mpr hle)
  have hupper := h.le_of_le (hform.number_succ he) (EReal.coe_le_coe_iff.mpr hlt.le)
  have hnonneg := h.ge_of_ge number_zero (EReal.coe_le_coe_iff.mpr hv)
  lift p to ℝ using ⟨ne_top_of_le_ne_top (EReal.coe_ne_top _) hupper,
    ne_bot_of_le_ne_bot (EReal.coe_ne_bot _) hnonneg⟩
  rw [EReal.coe_le_coe_iff] at hupper hnonneg
  have hlower : (m : ℝ) * 2 ^ e ≤ p := EReal.coe_le_coe_iff.mp hlower
  refine ⟨p, rfl, hnonneg, ?_⟩
  rw [Nat.cast_succ, add_one_mul] at hlt hupper
  rw [abs_le]
  constructor <;> linarith

/-! ## Several roundings -/

/-- **What one rounding may cost**, with room for what earlier roundings have added to the number:
the last bit but one. -/
noncomputable def slack (x : ℝ) : ℝ := x * ((2 : ℕ) : ℝ) ^ (-51 : ℤ) + ((2 : ℕ) : ℝ) ^ (-1073 : ℤ)

/-- **A computed number**, which is not negative, and what its roundings may have cost. -/
def Near (roundings : ℕ) (v : Float) (x : ℝ) : Prop :=
  ∃ p : ℝ, value? v = some (p : EReal) ∧ 0 ≤ p ∧ |p - x| ≤ roundings * slack x

theorem slack_nonneg {x : ℝ} (hx : 0 ≤ x) : 0 ≤ slack x := by
  unfold slack
  positivity

theorem slack_mono : Monotone slack := by
  intro x y h
  unfold slack
  gcongr

theorem Near.of_value {v : Float} {x : ℝ} (hv : value? v = some (x : EReal)) (hx : 0 ≤ x) :
    Near 0 v x := ⟨x, hv, hx, by simp⟩

section Cost

variable {k bit least q r x : ℝ}

/-- As long as errors come to less than half the number. -/
theorem le_of_near (hcount : k * bit ≤ 1 / 2) (hx : 0 ≤ x)
    (hnear : |q - x| ≤ k * (x * bit + least)) : q ≤ x + (x / 2 + k * least) := by
  have herror := (abs_le.mp hnear).2
  have hgrown : k * bit * x ≤ 1 / 2 * x := mul_le_mul_of_nonneg_right hcount hx
  linarith

/-- One rounding more, which costs half a bit of a number that is already off. -/
theorem abs_sub_le_of_near (hcount : k * bit ≤ 1 / 2) (hx : 0 ≤ x) (hbit : 0 ≤ bit)
    (hleast : 0 ≤ least) (hnear : |q - x| ≤ k * (x * bit + least))
    (hcost : |r - q| ≤ q * (bit / 2) + least / 2) : |r - x| ≤ (k + 1) * (x * bit + least) := by
  have hbits := mul_le_mul_of_nonneg_right (le_of_near hcount hx hnear) hbit
  have hadded : k * bit * least ≤ 1 / 2 * least := mul_le_mul_of_nonneg_right hcount hleast
  have hxbit := mul_nonneg hx hbit
  linarith [abs_sub_le r q x]

end Cost

/-- **One rounding more.** -/
theorem Near.of_rounds {k : ℕ} {v : Float} {q x : ℝ} {p : EReal} (hv : value? v = some p)
    (hrounds : Rounds q p) (hq : 0 ≤ q) (hnear : |q - x| ≤ k * slack x) (hk : k ≤ 2 ^ 50)
    (hx : 0 ≤ x) (hmax : x ≤ 2 ^ 1022) : Near (k + 1) v x := by
  have hbit : (2 : ℝ) ^ (-52 : ℤ) = 2 ^ (-51 : ℤ) / 2 := zpow_sub_one₀ two_ne_zero (-51)
  have hleast : (2 : ℝ) ^ (-1074 : ℤ) = 2 ^ (-1073 : ℤ) / 2 :=
    zpow_sub_one₀ two_ne_zero (-1073)
  have hk' : (k : ℝ) ≤ 2 ^ 50 := by exact_mod_cast hk
  have hcount : (k : ℝ) * 2 ^ (-51 : ℤ) ≤ 1 / 2 := by
    calc (k : ℝ) * 2 ^ (-51 : ℤ) ≤ 2 ^ 50 * 2 ^ (-51 : ℤ) := by gcongr
      _ = 1 / 2 := by norm_num
  have hsmall : (k : ℝ) * 2 ^ (-1073 : ℤ) ≤ 1 / 2 := by
    refine le_trans ?_ hcount
    gcongr
    · exact one_le_two
    · norm_num
  have hupper (bound : ℝ) (hle : x ≤ bound) (htwo : 2 ≤ bound) : q < bound * 2 := by
    have := le_of_near hcount hx hnear
    linarith
  have hlt : q < 2 ^ 1023 := by
    rw [pow_succ]
    exact hupper _ hmax (le_self_pow₀ one_le_two (by norm_num))
  obtain ⟨r, rfl, hr, hcost⟩ := hrounds.exists_abs_sub_le hq hlt
  rw [hbit, hleast] at hcost
  refine ⟨r, hv, hr, ?_⟩
  rw [Nat.cast_succ]
  exact abs_sub_le_of_near hcount hx (two_zpow_pos _).le (two_zpow_pos _).le hnear hcost

/-- **Quotients** by what is known exactly. -/
theorem Near.div {k : ℕ} {v s : Float} {x c : ℝ} (h : Near k v x) (hs : value? s = some (c : EReal))
    (hc : 1 ≤ c) (hk : k ≤ 2 ^ 50) (hx : 0 ≤ x) (hmax : x ≤ 2 ^ 1022) :
    Near (k + 1) (v / s) (x / c) := by
  obtain ⟨p, hp, hnonneg, hnear⟩ := h
  have hpos : 0 < c := one_pos.trans_le hc
  obtain ⟨q, hq, hrounds⟩ := value?_div hp hs hpos.ne'
  refine Near.of_rounds hq hrounds (by positivity) ?_ hk (by positivity)
    ((div_le_self hx hc).trans hmax)
  have hslack : slack x / c ≤ slack (x / c) := by
    rw [slack, slack, add_div, mul_div_right_comm]
    gcongr
    exact div_le_self (by positivity) hc
  calc |p / c - x / c| = |p - x| / c := by rw [← sub_div, abs_div, abs_of_pos hpos]
    _ ≤ k * slack x / c := by gcongr
    _ ≤ k * slack (x / c) := by
        rw [mul_div_assoc]
        gcongr

/-- **Sums.** -/
theorem Near.add {j k : ℕ} {v w : Float} {x y : ℝ} (hv : Near j v x) (hw : Near k w y)
    (hk : j + k ≤ 2 ^ 50) (hx : 0 ≤ x) (hy : 0 ≤ y) (hmax : x + y ≤ 2 ^ 1022) :
    Near (j + k + 1) (v + w) (x + y) := by
  obtain ⟨p, hp, hp0, hpnear⟩ := hv
  obtain ⟨q, hq, hq0, hqnear⟩ := hw
  obtain ⟨s, hs, hrounds⟩ := value?_add hp hq
  rw [← EReal.coe_add] at hrounds
  refine Near.of_rounds hs hrounds (by positivity) ?_ hk (by positivity) hmax
  have hleft := slack_mono (le_add_of_nonneg_right hy : x ≤ x + y)
  have hright := slack_mono (le_add_of_nonneg_left hx : y ≤ x + y)
  calc |p + q - (x + y)| = |p - x + (q - y)| := by ring_nf
    _ ≤ |p - x| + |q - y| := abs_add_le _ _
    _ ≤ j * slack x + k * slack y := add_le_add hpnear hqnear
    _ ≤ j * slack (x + y) + k * slack (x + y) := by gcongr
    _ = ((j + k : ℕ) : ℝ) * slack (x + y) := by
        push_cast
        ring

/-- **Up to sixteen roundings** cost no more than the last six bits. -/
theorem Near.abs_sub_le {k : ℕ} {v : Float} {x : ℝ} (h : Near k v x) (hk : k ≤ 16) (hx : 0 ≤ x) :
    ∃ p : ℝ, value? v = some (p : EReal) ∧
      |p - x| ≤ x * 2 ^ (-47 : ℤ) + 2 ^ (-1069 : ℤ) := by
  obtain ⟨p, hp, -, hnear⟩ := h
  have hbits (e : ℤ) : (16 : ℝ) * 2 ^ e = 2 ^ (4 + e) := by
    rw [two_zpow_add]
    norm_num
  refine ⟨p, hp, ?_⟩
  calc |p - x| ≤ k * slack x := hnear
    _ ≤ 16 * slack x := by
        have := slack_nonneg hx
        gcongr
        exact_mod_cast hk
    _ = x * (16 * 2 ^ (-51 : ℤ)) + 16 * 2 ^ (-1073 : ℤ) := by
        rw [slack, Nat.cast_ofNat]
        ring
    _ = x * 2 ^ (-47 : ℤ) + 2 ^ (-1069 : ℤ) := by
        rw [hbits, hbits]
        rfl

end PlateSolver.Double
