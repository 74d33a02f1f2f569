import PlateSolver.Proofs.Arithmetic.Exact
import PlateSolver.Zone.Record

/-!
# Photometry in a word

A word holds a blue and a red magnitude as decimal digits, and one bit of provenance above them.
The digits are six, so they stay far below the bit as well as below the limit from which on a word
holds no magnitudes: what is packed is unpacked digit by digit, whatever the magnitudes are.  The
other way round, what a word says depends on its provenance in one place only.

* `provenanceBit`, `toNat_or_provenanceBit`, `toNat_without_provenanceBit` — the bit, in numbers.
* `Photometry.ofMag?` — a photometry by its magnitude, if it has one, and its provenance.
* `colorMag?`, `ofWord_eq` — a word says what its digits say, and its bit.
* `toNat_photometryWord` — what is packed.
* `photometry_round_trip` — packing and unpacking, and the provenance of every word.
-/

namespace PlateSolver.Zone

open Exact

/-! ## The bit of provenance -/

/-- The highest bit of a word: the record also belongs to the secondary catalog. -/
def provenanceBit : UInt32 := 0x80000000

theorem toNat_without_provenanceBit (word : UInt32) :
    (word &&& ~~~provenanceBit).toNat = word.toNat % Nat.pow 2 31 := by
  have hmask : (~~~provenanceBit).toNat = 2 ^ 31 - 1 := by decide
  rw [UInt32.toNat_and, hmask]
  exact Nat.and_two_pow_sub_one_eq_mod _ 31

theorem toNat_or_provenanceBit (word : UInt32) :
    (word ||| provenanceBit).toNat = Nat.pow 2 31 + word.toNat % Nat.pow 2 31 := by
  have hword : word.toNat < 2 ^ 32 := word.toNat_lt
  have hpow : Nat.pow 2 31 = 2 ^ 31 := rfl
  have hbit : provenanceBit.toNat = 2 ^ 31 := by decide
  have hadd {n : ℕ} (hn : n < 2 ^ 31) : 2 ^ 31 + n = 2 ^ 31 ||| n := by
    simpa using Nat.two_pow_add_eq_or_of_lt hn 1
  rw [UInt32.toNat_or, hbit, Nat.or_comm, hpow]
  rcases lt_or_ge word.toNat (2 ^ 31) with hclear | hset
  · rw [Nat.mod_eq_of_lt hclear, hadd hclear]
  · -- The bit is there already, and setting it again changes nothing.
    have hrest : 2 ^ 31 + word.toNat % 2 ^ 31 = word.toNat := by omega
    have hor : 2 ^ 31 ||| word.toNat % 2 ^ 31 = word.toNat := by
      rw [← hadd (Nat.mod_lt _ (by decide)), hrest]
    rw [hrest, ← hor, ← Nat.or_assoc, Nat.or_self]

theorem and_provenanceBit_eq_zero_iff (word : UInt32) :
    word &&& provenanceBit = 0 ↔ word.toNat < Nat.pow 2 31 := by
  have hword : word.toNat < 2 ^ 32 := word.toNat_lt
  have hpow : Nat.pow 2 31 = 2 ^ 31 := rfl
  have hbit : provenanceBit.toNat = 2 ^ 31 := by decide
  rw [← UInt32.toNat_inj, UInt32.toNat_and, hbit, Nat.and_two_pow,
    Nat.testBit_eq_decide_div_mod_eq, hpow]
  by_cases hset : word.toNat / 2 ^ 31 % 2 = 1
  · simp only [hset, decide_true, Bool.toNat_true, one_mul, UInt32.toNat_zero]
    omega
  · simp only [hset, decide_false, Bool.toNat_false, zero_mul, UInt32.toNat_zero, true_iff]
    omega

/-! ## Magnitude and provenance -/

namespace Photometry

variable {α : Type}

/-- A photometry by its magnitude, if it has one, and its provenance. -/
def ofMag? (mag? : Option α) (secondary : Bool) : Photometry α :=
  mag?.elim (.unusable secondary) (.usable · secondary)

/-- The magnitude of a photometry, whatever its provenance. -/
def mag? : Photometry α → Option α
  | .usable mag _ => some mag
  | .unusable _ => none

/-- A photometry with another provenance. -/
def withSecondary (secondary : Bool) (light : Photometry α) : Photometry α :=
  ofMag? light.mag? secondary

@[simp] theorem mag?_ofMag? (mag? : Option α) (secondary : Bool) :
    (ofMag? mag? secondary).mag? = mag? := by
  cases mag? <;> rfl

@[simp] theorem accepted_ofMag? (mag? : Option α) (secondary keepSecondary : Bool) :
    (ofMag? mag? secondary).accepted keepSecondary =
      if secondary && !keepSecondary then none else mag? := by
  cases mag? with
  | none => exact (ite_self none).symm
  | some mag => rfl

end Photometry

/-- **The magnitude to go by in the digits of a word**: the red one if it is usable, else the
blue one. -/
def colorMag? {α : Type} [Scalar α] (colors : ℕ) : Option α :=
  let red := colors % 1000
  let blue := colors / 1000 % 1000
  if Photometry.wordLimit ≤ colors then none
  else if red ≤ Photometry.colorLimit then some (Scalar.ofNat red / 10)
  else if blue ≤ Photometry.colorLimit then some (Scalar.ofNat blue / 10)
  else none

/-- **A word says what its digits say**, and its highest bit is its provenance. -/
theorem ofWord_eq {α : Type} [Scalar α] (word : UInt32) :
    (Photometry.ofWord word : Photometry α) =
      .ofMag? (colorMag? (word.toNat % Nat.pow 2 31)) (Nat.pow 2 31 ≤ word.toNat) := by
  unfold Photometry.ofWord colorMag?
  dsimp only
  split_ifs <;> rfl

/-- Setting the bit of provenance changes nothing else. -/
theorem ofWord_or_provenanceBit {α : Type} [Scalar α] (word : UInt32) :
    (Photometry.ofWord (word ||| provenanceBit) : Photometry α) =
      (Photometry.ofWord word).withSecondary true := by
  have hcolors : (word ||| provenanceBit).toNat % Nat.pow 2 31 = word.toNat % Nat.pow 2 31 := by
    rw [toNat_or_provenanceBit, Nat.add_mod_left, Nat.mod_mod]
  have hset : Nat.pow 2 31 ≤ (word ||| provenanceBit).toNat := by
    rw [toNat_or_provenanceBit]
    exact Nat.le_add_right _ _
  rw [ofWord_eq, ofWord_eq word, hcolors, Photometry.withSecondary, Photometry.mag?_ofMag?,
    decide_eq_true hset]

theorem accepted_true_ofWord {α : Type} [Scalar α] (word : UInt32) :
    (Photometry.ofWord word : Photometry α).accepted true = (Photometry.ofWord word).mag? := by
  rw [ofWord_eq, Photometry.accepted_ofMag?, Photometry.mag?_ofMag?, Bool.not_true,
    Bool.and_false, if_neg Bool.false_ne_true]

theorem accepted_false_ofWord {α : Type} [Scalar α] (word : UInt32) :
    (Photometry.ofWord word : Photometry α).accepted false =
      if word &&& provenanceBit = 0 then (Photometry.ofWord word).mag? else none := by
  rw [ofWord_eq, Photometry.accepted_ofMag?, Photometry.mag?_ofMag?, Bool.not_false,
    Bool.and_true]
  by_cases hclear : word.toNat < Nat.pow 2 31
  · rw [if_pos ((and_provenanceBit_eq_zero_iff word).mpr hclear),
      if_neg (by simpa using hclear)]
  · rw [if_neg ((and_provenanceBit_eq_zero_iff word).not.mpr hclear),
      if_pos (by simpa using hclear)]

/-! ## Packing -/

/-- Three digits hold the tenths of a magnitude, up to the greatest that they can show. -/
theorem tenths_real (mag : ℝ) : tenths (real mag) = min (nearest (10 * mag)) 999 := by
  rw [tenths, numeral_eq, real_mul, whole_round_real, mul_comm]

theorem tenths_le {α : Type} [Scalar α] (mag : α) : tenths mag ≤ 999 := min_le_right _ _

/-- The digits of two magnitudes stay below the bit of provenance. -/
theorem tenths_lt {α : Type} [Scalar α] (blue red : α) :
    tenths blue * 1000 + tenths red < Nat.pow 2 31 := by
  have hblue := tenths_le blue
  have hred := tenths_le red
  have hpow : Nat.pow 2 31 = 2 ^ 31 := rfl
  rw [hpow]
  omega

theorem toNat_photometryWord {α : Type} [Scalar α] (blue red : α) (secondary : Bool) :
    (photometryWord blue red secondary).toNat =
      tenths blue * 1000 + tenths red + if secondary then Nat.pow 2 31 else 0 := by
  have hblue := tenths_le blue
  have hred := tenths_le red
  have hpow : Nat.pow 2 31 = 2 ^ 31 := rfl
  rw [photometryWord, UInt32.toNat_ofNat_of_lt']
  simp only [UInt32.size, hpow]
  split_ifs <;> omega

/-- Below the bit of provenance there are the digits of the two magnitudes. -/
theorem colors_photometryWord {α : Type} [Scalar α] (blue red : α) (secondary : Bool) :
    (photometryWord blue red secondary).toNat % Nat.pow 2 31 =
      tenths blue * 1000 + tenths red := by
  rw [toNat_photometryWord]
  split_ifs
  · rw [Nat.add_mod_right, Nat.mod_eq_of_lt (tenths_lt blue red)]
  · rw [Nat.add_zero, Nat.mod_eq_of_lt (tenths_lt blue red)]

theorem le_photometryWord_iff {α : Type} [Scalar α] (blue red : α) (secondary : Bool) :
    Nat.pow 2 31 ≤ (photometryWord blue red secondary).toNat ↔ secondary = true := by
  rw [toNat_photometryWord]
  cases secondary with
  | true => exact iff_of_true (Nat.le_add_left _ _) rfl
  | false =>
      rw [if_neg Bool.false_ne_true, Nat.add_zero]
      exact iff_of_false (tenths_lt blue red).not_ge Bool.false_ne_true

/-- Two numbers of three digits are told apart in the digits of a word. -/
theorem colorMag?_digits {blue red : ℕ} (hblue : blue ≤ 999) (hred : red ≤ 999) :
    (colorMag? (blue * 1000 + red) : Option Exact) =
      if red ≤ 250 then some (real (red / 10))
      else if blue ≤ 250 then some (real (blue / 10)) else none := by
  have hlimit : ¬ Photometry.wordLimit ≤ blue * 1000 + red := by
    rw [Photometry.wordLimit]
    omega
  have hredDigits : (blue * 1000 + red) % 1000 = red := by omega
  have hblueDigits : (blue * 1000 + red) / 1000 % 1000 = blue := by omega
  have htenth (n : ℕ) : (Scalar.ofNat n / 10 : Exact) = real (n / 10) := by
    rw [ofNat_eq, numeral_eq, real_div _ (by norm_num)]
  simp only [colorMag?, if_neg hlimit, hredDigits, hblueDigits, htenth, Photometry.colorLimit]

/-- **Magnitudes in a word.**  Two magnitudes are packed in tenths, rounded and at most `999`.

* Without its highest bit the word is below the limit of words that hold magnitudes, and what it
  says is the provenance that was packed with the red magnitude, if that is at most `25`, or else
  with the blue one, if that is; otherwise it says that there is none.
* Of any word, setting the highest bit changes nothing but the provenance.  Where the secondary
  catalog is kept, every magnitude is accepted as it is; where it is not, those without the bit are
  and no others. -/
theorem photometry_round_trip :
    (∀ (blue red : ℝ) (secondary : Bool),
      let word := photometryWord (real blue) (real red) secondary
      let b := min (nearest (10 * blue)) 999
      let r := min (nearest (10 * red)) 999
      (word &&& ~~~provenanceBit).toNat < Photometry.wordLimit ∧
        (Photometry.ofWord word : Photometry Exact) =
          if r ≤ 250 then .usable (real (r / 10)) secondary
          else if b ≤ 250 then .usable (real (b / 10)) secondary
          else .unusable secondary) ∧
    ∀ (α : Type) [Scalar α] (word : UInt32),
      let light : Photometry α := Photometry.ofWord word
      Photometry.ofWord (word ||| provenanceBit) = light.withSecondary true ∧
        light.accepted true = light.mag? ∧
        light.accepted false = if word &&& provenanceBit = 0 then light.mag? else none := by
  refine ⟨?_, fun α _ word => ⟨ofWord_or_provenanceBit word, accepted_true_ofWord word,
    accepted_false_ofWord word⟩⟩
  intro blue red secondary word b r
  have hblue : tenths (real blue) = b := tenths_real blue
  have hred : tenths (real red) = r := tenths_real red
  have hb : b ≤ 999 := min_le_right _ _
  have hr : r ≤ 999 := min_le_right _ _
  have hcolors : word.toNat % Nat.pow 2 31 = b * 1000 + r := by
    rw [colors_photometryWord, hblue, hred]
  constructor
  · rw [toNat_without_provenanceBit, hcolors, Photometry.wordLimit]
    omega
  · have hsecondary : decide (Nat.pow 2 31 ≤ word.toNat) = secondary := by
      rw [Bool.decide_congr (le_photometryWord_iff _ _ _), Bool.decide_eq_true]
    rw [ofWord_eq, hcolors, hsecondary, colorMag?_digits hb hr]
    split_ifs <;> rfl

end PlateSolver.Zone
