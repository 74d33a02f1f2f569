import PlateSolver.Decimal.Figure
import PlateSolver.Decimal.Literal

/-!
# Digits read back

The decimal digits of a natural number are digits, stand for that number, and do not begin
with a zero but for zero itself.  Zeros before them change nothing of what they stand for, so
a number can be told from its digits at any width.

* `isDigit_of_mem_digits`, `digits_eq_zero_or` — what digits look like.
* `value_digits`, `value_zeroFilled` — what they stand for.
* `zeroFilled_digits_injective` — numbers brought to a width are told apart.
-/

namespace PlateSolver.Decimal

theorem isDigit_of_mem_digits {n : Nat} {c : Char} (h : c ∈ digits n) :
    Literal.isDigit c = true := by
  have hdigit : c.isDigit = true := Nat.isDigit_of_mem_toDigits (by decide) (by decide) h
  simp only [Char.isDigit, Bool.and_eq_true, decide_eq_true_eq] at hdigit
  simp only [Literal.isDigit, Bool.and_eq_true, decide_eq_true_eq]
  exact hdigit

theorem toNat_le_of_isDigit {c : Char} (h : Literal.isDigit c = true) :
    '0'.toNat ≤ c.toNat ∧ c.toNat ≤ '9'.toNat := by
  simpa only [Literal.isDigit, Bool.and_eq_true, decide_eq_true_eq, Char.le_def,
    UInt32.le_iff_toNat_le, Char.toNat_val] using h

theorem digitValue_lt_ten {c : Char} (h : Literal.isDigit c = true) :
    Literal.digitValue c < 10 := by
  have hzero : '0'.toNat = 48 := rfl
  have hnine : '9'.toNat = 57 := rfl
  have := toNat_le_of_isDigit h
  rw [Literal.digitValue]
  omega

/-- Only the digit zero has the value zero. -/
theorem digitValue_ne_zero {c : Char} (h : Literal.isDigit c = true) (hc : c ≠ '0') :
    Literal.digitValue c ≠ 0 := by
  have hne : c.toNat ≠ '0'.toNat := fun heq => hc (Char.toNat_inj.mp heq)
  have := toNat_le_of_isDigit h
  rw [Literal.digitValue]
  omega

theorem digits_ne_nil (n : Nat) : digits n ≠ [] := Nat.toDigits_ne_nil

/-- **Digits stand for their number.** -/
theorem value_digits (n : Nat) : Literal.value 0 (digits n) = n := Nat.ofDigitChars_ten_toDigits

/-- So they do behind zeros. -/
theorem value_zeroFilled (width n : Nat) :
    Literal.value 0 (zeroFilled width (digits n)) = n := by
  have happend := Nat.ofDigitChars_append (b := 10)
    (l := List.replicate (width - (digits n).length) '0') (m := digits n) 0
  rw [Nat.ofDigitChars_replicate_zero, Nat.mul_zero] at happend
  exact happend.trans (value_digits n)

/-- Numbers brought to a width by zeros are told apart, those with more digits too. -/
theorem zeroFilled_digits_injective (width : Nat) :
    Function.Injective fun n => zeroFilled width (digits n) := by
  intro first second h
  rw [← value_zeroFilled width first, ← value_zeroFilled width second]
  exact congrArg (Literal.value 0) h

/-- **Digits do not begin with a zero**, but for those of zero itself. -/
theorem digits_eq_zero_or (n : Nat) :
    digits n = ['0'] ∨ ∃ c rest, digits n = c :: rest ∧ c ≠ '0' := by
  -- The first digit is that of the number without its last digit, down to a single one.
  induction n using Nat.strongRecOn with
  | ind n ih =>
      unfold digits
      rw [Nat.toDigits_eq_if (by decide)]
      split
      · rename_i hsmall
        by_cases hzero : n = 0
        · exact Or.inl (by rw [hzero]; rfl)
        · refine Or.inr ⟨n.digitChar, [], rfl, ?_⟩
          have hdigit : ∀ m < 10, m ≠ 0 → m.digitChar ≠ '0' := by decide
          exact hdigit n hsmall hzero
      · rename_i hlarge
        rcases ih (n / 10) (by omega) with hzero | ⟨c, rest, hrest, hc⟩
        · have hvalue := value_digits (n / 10)
          rw [hzero] at hvalue
          have : (0 : Nat) = n / 10 := hvalue
          omega
        · refine Or.inr ⟨c, rest ++ [(n % 10).digitChar], ?_, hc⟩
          have hdigits : Nat.toDigits 10 (n / 10) = c :: rest := hrest
          rw [hdigits, List.cons_append]

end PlateSolver.Decimal
