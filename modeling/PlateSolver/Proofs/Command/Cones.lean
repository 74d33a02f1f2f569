import PlateSolver.Command.Run
import PlateSolver.Proofs.Zone.Turn

/-!
# Cones that the command line accepts

A query breaks off where one of its ranges begins so far to the east that no word says where the
index has its record.  That does not happen on the command line.  There the centre of a cone is
given in hours, of which a turn has twenty-four, and though it is turned into radians and back,
with rounding at every step, it does not get far: no number is ever carried past a number of the
format, so a bound for every exact result is a bound for the rounded one.

* `UpTo` — numbers from zero up to a bound.
* `UpTo.mul`, `UpTo.div` — what a product, or a quotient, of such numbers is bounded by.
* `upTo_toDegrees_ofHours` — the centre of a cone, in degrees.
* `spans_upTo` — where its windows begin.
* `exists_fetch_of_cone` — a query about it has an answer.

The bounds are generous.  All that is asked of them is that thirty times a bin is a word.
-/

namespace PlateSolver.Command

open Double Zone

/-! ## Bounded numbers -/

/-- **A number from zero up to a bound.** -/
def UpTo (x : Float) (bound : ℝ) : Prop :=
  ∃ p : ℝ, value? x = some (p : EReal) ∧ 0 ≤ p ∧ p ≤ bound

namespace UpTo

variable {x y : Float} {a b c : ℝ}

theorem mono (h : UpTo x a) (hab : a ≤ b) : UpTo x b := by
  obtain ⟨p, hp, hnonneg, hle⟩ := h
  exact ⟨p, hp, hnonneg, hle.trans hab⟩

theorem of_value {s : EReal} (hx : value? x = some s) (hnonneg : 0 ≤ s) (hle : s ≤ (b : EReal)) :
    UpTo x b := by
  lift s to ℝ using ⟨ne_top_of_le_ne_top (EReal.coe_ne_top b) hle,
    ne_bot_of_le_ne_bot (EReal.coe_ne_bot 0) hnonneg⟩
  exact ⟨s, hx, EReal.coe_le_coe_iff.mp hnonneg, EReal.coe_le_coe_iff.mp hle⟩

/-- What is rounded stays within bounds that are numbers themselves. -/
theorem of_rounds {v : ℝ} {s : EReal} (hx : value? x = some s) (hs : Rounds (v : EReal) s)
    (hv : 0 ≤ v ∧ v ≤ b) (hb : Number (b : EReal)) : UpTo x b :=
  of_value hx (hs.ge_of_ge number_zero (EReal.coe_le_coe_iff.mpr hv.1))
    (hs.le_of_le hb (EReal.coe_le_coe_iff.mpr hv.2))

/-- A product with a positive number that is known. -/
theorem mul (hx : UpTo x a) (hy : value? y = some (c : EReal)) (hc : 0 < c) (hb : a * c ≤ b)
    (hnumber : Number (b : EReal)) : UpTo (x * y) b := by
  obtain ⟨p, hp, hnonneg, hle⟩ := hx
  obtain ⟨s, hs, hrounds⟩ := value?_mul hp hy hc.ne'
  rw [← EReal.coe_mul] at hrounds
  refine of_rounds hs hrounds ⟨mul_nonneg hnonneg hc.le, ?_⟩ hnumber
  exact (mul_le_mul_of_nonneg_right hle hc.le).trans hb

/-- A quotient by one. -/
theorem div (hx : UpTo x a) (hy : value? y = some (c : EReal)) (hc : 0 < c) (hb : a / c ≤ b)
    (hnumber : Number (b : EReal)) : UpTo (x / y) b := by
  obtain ⟨p, hp, hnonneg, hle⟩ := hx
  obtain ⟨s, hs, hrounds⟩ := value?_div hp hy hc.ne'
  refine of_rounds hs hrounds ⟨div_nonneg hnonneg hc.le, ?_⟩ hnumber
  exact (div_le_div_of_nonneg_right hle hc.le).trans hb

end UpTo

/-! ## The centre of a cone -/

/-- **A right ascension that the command line accepts** is bounded, in degrees. -/
theorem upTo_toDegrees_ofHours {hours : Float} (h : 0 ≤ hours ∧ hours < 24) :
    UpTo (Angle.toDegrees (Angle.ofHours hours)) 23040 := by
  have hday : value? 24 = some ((24 : ℝ) : EReal) :=
    value?_of_unpack (m := 24 * 2 ^ 48) (e := -48) (by decide) rfl (by norm_num)
  have hhours : UpTo hours 24 := by
    obtain ⟨_, p, hzero, hp, hnonneg⟩ := le_iff.mp h.1
    have hlt := (lt_iff_of_value hp hday).mp h.2
    rw [← Option.some.inj (value?_zero.symm.trans hzero)] at hnonneg
    exact .of_value hp hnonneg hlt.le
  have hdegrees : UpTo (hours * 15) 360 :=
    hhours.mul value?_fifteen (by norm_num) (by norm_num) number_turn
  have hradians : UpTo (Angle.ofHours hours) 360 :=
    hdegrees.mul value?_radian (by norm_num) (by norm_num) number_turn
  exact hradians.mul value?_degree (by norm_num) (by norm_num) (number_natCast (by norm_num))

/-! ## Its windows and ranges -/

/-- A window that begins before the turn begins within it, once it is brought there. -/
theorem upTo_turned {x : Float} {low : EReal} (hlow : value? x = some low) (hneg : low < 0)
    (hreach : ((-360 : ℝ) : EReal) ≤ low) : UpTo (360 + x) 360 := by
  lift low to ℝ using ⟨ne_top_of_lt hneg, ne_bot_of_le_ne_bot (EReal.coe_ne_bot _) hreach⟩
  obtain ⟨s, hs, hsum⟩ := value?_add value?_turn hlow
  rw [← EReal.coe_add] at hsum
  have hnegative := EReal.coe_lt_coe_iff.mp hneg
  have hbound := EReal.coe_le_coe_iff.mp hreach
  exact .of_rounds hs hsum ⟨by linarith, by linarith⟩ number_turn

/-- **Where the windows of a cone begin**: not past its centre, or within a turn. -/
theorem spans_upTo {ra dec radius : Float} (hra : UpTo ra 23040) :
    ∀ window ∈ spans ra dec radius, UpTo window.1 23040 := by
  have hzero : UpTo 0 23040 := ⟨0, value?_zero, le_rfl, by norm_num⟩
  unfold spans
  simp only
  generalize radius / Analytic.cos (Angle.ofDegrees dec) = halfWidth
  by_cases hnarrow : 0 ≤ halfWidth ∧ halfWidth < 180
  swap
  · rw [if_neg hnarrow]
    exact List.forall_mem_singleton.mpr hzero
  rw [if_pos hnarrow]
  obtain ⟨c, hhalf, hc⟩ := exists_value_of_narrow hnarrow
  obtain ⟨p, hp, hnonneg, hle⟩ := hra
  obtain ⟨low, high, hlow, -, hedges⟩ := edges hp hhalf hc
  have hreach : 0 ≤ high := (EReal.coe_nonneg.mpr hnonneg).trans hedges.le_high
  have hinside (hneg : ¬ ra - halfWidth < 0) : UpTo (ra - halfWidth) 23040 := by
    rw [lt_iff_of_value hlow value?_zero, not_lt] at hneg
    exact .of_value hlow hneg (hedges.low_le.trans (EReal.coe_le_coe_iff.mpr hle))
  split_ifs with hneg hpast
  · rw [lt_iff_of_value hlow value?_zero] at hneg
    have hturned := (upTo_turned hlow hneg (hedges.le_low hneg hreach)).mono
      (by norm_num : (360 : ℝ) ≤ 23040)
    exact List.forall_mem_cons.mpr ⟨hzero, List.forall_mem_singleton.mpr hturned⟩
  · exact List.forall_mem_cons.mpr ⟨hzero, List.forall_mem_singleton.mpr (hinside hneg)⟩
  · exact List.forall_mem_singleton.mpr (hinside hneg)

/-- A range that begins within the bound has a bin that the program can find. -/
theorem not_tooFarEast_of_upTo {range : Range Float} (h : UpTo range.raMin 23040) :
    ¬ TooFarEast range := by
  obtain ⟨s, hs, -, hle⟩ : UpTo (range.raMin / (15 / 4)) 6144 :=
    h.div value?_step (by norm_num) (by norm_num) (number_natCast (by norm_num))
  have hwhole : ¬ 6145 ≤ Scalar.whole (range.raMin / (15 / 4)) := by
    rw [le_whole_iff hs (by norm_num) (by norm_num), not_le]
    have hlt : s < (6145 : ℕ) := hle.trans_lt (by norm_num)
    exact EReal.coe_lt_coe_iff.mpr hlt
  have hbin : indexBin range ≤ 6144 :=
    (Nat.min_le_left _ _).trans (Nat.le_of_lt_succ (not_le.mp hwhole))
  have hword : Index.recordSize * 6144 < Word.limit := by decide
  exact Nat.not_le.mpr ((Nat.mul_le_mul_left Index.recordSize hbin).trans_lt hword)

/-- The centre of a cone that the command line accepts. -/
theorem exists_hours_of_cone {text : ConeText} {cone : Cone Float} (h : text.cone = .ok cone) :
    ∃ hours : Float, (0 ≤ hours ∧ hours < 24) ∧ cone.ra = Angle.ofHours hours := by
  unfold ConeText.cone at h
  split at h
  · cases h
  · cases h
  · next hours degrees _ _ =>
    by_cases hhours : 0 ≤ hours ∧ hours < 24
    · refine ⟨hours, hhours, ?_⟩
      split_ifs at h
      cases h
      rfl
    · have hrefused : (!(0 ≤ hours && hours < 24)) = true := by
        rw [Bool.not_eq_true', ← Bool.not_eq_true, Bool.and_eq_true, decide_eq_true_iff,
          decide_eq_true_iff]
        exact hhours
      rw [if_pos hrefused] at h
      cases h

/-- **A query about a cone of the command line has an answer**, whatever the catalog, the disk,
the limit and what was found before. -/
theorem exists_fetch_of_cone {text : ConeText} {cone : Cone Float} (h : text.cone = .ok cone)
    (catalog : ZoneCatalog) (disk : Disk) (grants : Grants) (limit : Float)
    (acc : Accumulator Float) :
    ∃ answer, catalog.fetch disk grants cone limit acc = some answer := by
  rw [← Option.ne_none_iff_exists']
  intro hnone
  obtain ⟨ranges, hpartition, range, hrange, hfar⟩ := ZoneCatalog.exists_tooFarEast_of_fetch hnone
  rw [partition_eq hpartition] at hrange
  obtain ⟨band, -, hrange⟩ := List.mem_flatMap.mp hrange
  obtain ⟨window, hwindow, rfl⟩ := List.mem_map.mp hrange
  obtain ⟨hours, hhours, hra⟩ := exists_hours_of_cone h
  have hcentre := upTo_toDegrees_ofHours hhours
  rw [← hra] at hcentre
  have hbegins : UpTo (band.range window).raMin 23040 := spans_upTo hcentre window hwindow
  exact not_tooFarEast_of_upTo hbegins hfar

end PlateSolver.Command
