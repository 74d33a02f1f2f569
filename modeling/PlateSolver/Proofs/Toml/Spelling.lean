import PlateSolver.Proofs.Decimal.Digits
import PlateSolver.Proofs.Toml.Quoted
import PlateSolver.Toml.Slot

/-!
# Written values read back

What is written for a value is read as a value again, up to the end of its line.

* `value?_of_isBare` — a value without quotes is the longest run of its characters.
* `recognise?_digits` — whole numbers.
* `ReadsBack`, `isBare_of_mem_pointed` — other numbers.
* `Primitive.value`, `Primitive.IsReadable`, `value?_spelling` — all values.

## Design decisions

That the text of a number with a fraction denotes this number again is for the carrier to
know.  It is a property of single numbers, `ReadsBack`, which the laws of documents assume of
the numbers that a document holds.  What the carrier of binary numbers does know is that the
text is a single run of characters.
-/

namespace PlateSolver.Toml

/-! ## Values without quotes -/

/-- A text that opens neither a list nor a table is a simple value. -/
theorem value?_of_simple {text : List Char} (hlist : text.head? ≠ some '[')
    (htable : text.head? ≠ some '\x7b') (fuel depth : Nat) :
    value? (fuel + 1) depth text = simple? text := by
  unfold value?
  split
  · exact absurd rfl hlist
  · exact absurd rfl htable
  · rfl

/-- A text that does not begin with a mark is not quoted. -/
theorem quoted?_eq_none {text : List Char} (hquote : text.head? ≠ some '"')
    (hapostrophe : text.head? ≠ some '\'') : quoted? text = none := by
  cases text with
  | nil => rfl
  | cons c rest =>
      have hmark : (c == '"' || c == '\'') = false := by
        rw [Bool.or_eq_false_iff, beq_eq_false_iff_ne, beq_eq_false_iff_ne]
        exact ⟨fun h => hquote (congrArg some h), fun h => hapostrophe (congrArg some h)⟩
      simp [quoted?, hmark]

/-- What a line with a value without quotes does not begin with. -/
theorem head?_ne_of_isBare {text : List Char} (htext : ∀ c ∈ text, isBare c = true) {mark : Char}
    (hmark : isBare mark = false) (hline : mark ≠ '\n') (rest : List Char) :
    (text ++ '\n' :: rest).head? ≠ some mark := by
  cases text with
  | nil => exact fun h => hline (Option.some.inj h).symm
  | cons c text =>
      intro h
      have hc := htext c List.mem_cons_self
      rw [Option.some.inj h, hmark] at hc
      cases hc

/-- **A value without quotes** goes as far as its characters do. -/
theorem value?_of_isBare {text : List Char} (htext : ∀ c ∈ text, isBare c = true)
    (fuel depth : Nat) (rest : List Char) :
    value? (fuel + 1) depth (text ++ '\n' :: rest) =
      (recognise? text).map fun value => (value, '\n' :: rest) := by
  have hhead : ∀ mark, isBare mark = false → mark ≠ '\n' →
      (text ++ '\n' :: rest).head? ≠ some mark :=
    fun mark hmark hline => head?_ne_of_isBare htext hmark hline rest
  have hquoted : quoted? (text ++ '\n' :: rest) = none :=
    quoted?_eq_none (hhead '"' rfl (by decide)) (hhead '\'' rfl (by decide))
  have hend : isBare '\n' = false := by decide
  have htake : (text ++ '\n' :: rest).takeWhile isBare = text := by
    rw [List.takeWhile_append_of_pos htext]
    simp [hend]
  have hdrop : (text ++ '\n' :: rest).dropWhile isBare = '\n' :: rest := by
    rw [List.dropWhile_append_of_pos htext]
    simp [hend]
  rw [value?_of_simple (hhead '[' rfl (by decide)) (hhead '\x7b' rfl (by decide)), simple?,
    hquoted, bare?, bareRun, htake, hdrop]
  rfl

/-! ## Whole numbers -/

theorem isBare_of_isDigit {c : Char} (h : Literal.isDigit c = true) : isBare c = true := by
  simp [isBare, h]

/-- Values that are found for every element of a list are found for the list. -/
theorem mapM_eq_some_map {β γ : Type} {read : β → Option γ} {value : β → γ} {items : List β}
    (h : ∀ item ∈ items, read item = some (value item)) :
    items.mapM read = some (items.map value) := by
  induction items with
  | nil => rfl
  | cons item rest ih =>
      rw [List.mapM_cons, h item List.mem_cons_self,
        ih fun other hother => h other (List.mem_cons_of_mem item hother)]
      rfl

/-- Digits without underscores are one group. -/
theorem grouped?_of_isDigit {text : List Char} (hne : text ≠ [])
    (htext : ∀ c ∈ text, Literal.isDigit c = true) :
    grouped? 10 text = some (text.map Literal.digitValue) := by
  have hsplit : Text.split (· == '_') text = [text] := Text.split_eq_singleton fun c hc => by
    rw [beq_eq_false_iff_ne]
    rintro rfl
    exact absurd (htext _ hc) (by decide)
  have hdigits : ∀ c ∈ text, ((hexDigit? c).filter (· < 10)) = some (Literal.digitValue c) := by
    intro c hc
    have hbound := Decimal.digitValue_lt_ten (htext c hc)
    simp [hexDigit?, htext c hc, Option.filter, hbound]
  have hempty : text.isEmpty = false := by simpa using hne
  simp only [grouped?, hsplit, List.any_cons, hempty, List.any_nil, Bool.or_self,
    Bool.false_eq_true, if_false, List.flatten_cons, List.flatten_nil, List.append_nil]
  exact mapM_eq_some_map hdigits

/-- The digits of a number are decimal digits, without a zero that need not be there. -/
theorem decimal?_digits (n : Nat) :
    decimal? (Decimal.digits n) = some ((Decimal.digits n).map Literal.digitValue) := by
  rw [decimal?, grouped?_of_isDigit (Decimal.digits_ne_nil n)
    fun c hc => Decimal.isDigit_of_mem_digits hc, Option.filter]
  rcases Decimal.digits_eq_zero_or n with hzero | ⟨c, rest, hrest, hc⟩
  · rw [hzero]
    rfl
  · have hdigit : Literal.isDigit c = true :=
      Decimal.isDigit_of_mem_digits (n := n) (hrest ▸ List.mem_cons_self)
    have hvalue : Literal.digitValue c ≠ 0 := Decimal.digitValue_ne_zero hdigit hc
    rw [hrest]
    simp [hvalue]

/-- The number that digits stand for by their values. -/
theorem positional_digits (n : Nat) :
    positional 10 ((Decimal.digits n).map Literal.digitValue) = n := by
  rw [positional, List.foldl_map]
  exact Decimal.value_digits n

theorem splitSign_digits (n : Nat) :
    Literal.splitSign (Decimal.digits n) = (false, Decimal.digits n) := by
  have hsign : ∀ c ∈ Decimal.digits n, c ≠ '-' ∧ c ≠ '+' := by
    intro c hc
    have hdigit := Decimal.isDigit_of_mem_digits hc
    constructor <;> (rintro rfl; exact absurd hdigit (by decide))
  unfold Literal.splitSign
  split
  · rename_i rest heq
    exact absurd rfl (hsign '-' (heq ▸ List.mem_cons_self)).1
  · rename_i rest heq
    exact absurd rfl (hsign '+' (heq ▸ List.mem_cons_self)).2
  · rfl

/-- The digits of a number have no prefix of another base. -/
theorem whole?_digits {n : Nat} (h : n ≤ wholeLimit) :
    whole? (Decimal.digits n) = some (n : Int) := by
  have hbase : ∀ mark rest, isLetter mark = true → Decimal.digits n ≠ '0' :: mark :: rest := by
    intro mark rest hmark heq
    rcases Decimal.digits_eq_zero_or n with hzero | ⟨c, tail, htail, hc⟩
    · rw [hzero] at heq
      simp at heq
    · rw [htail] at heq
      exact hc (List.cons.inj heq).1
  have hbound : -(Nat.pow 2 127 : Int) ≤ (n : Int) ∧ (n : Int) < (Nat.pow 2 128 : Int) := by
    have hlimit : wholeLimit < Nat.pow 2 128 := by decide
    have hneg : -(Nat.pow 2 127 : Int) ≤ 0 := by decide
    exact ⟨Int.le_trans hneg (Int.natCast_nonneg n), by exact_mod_cast lt_of_le_of_lt h hlimit⟩
  unfold whole?
  split
  · rename_i rest heq
    exact absurd heq (hbase 'x' rest rfl)
  · rename_i rest heq
    exact absurd heq (hbase 'o' rest rfl)
  · rename_i rest heq
    exact absurd heq (hbase 'b' rest rfl)
  · simp only [splitSign_digits, decimal?_digits, positional_digits, Option.map_some,
      Option.filter, Bool.false_eq_true, if_false, hbound.1, hbound.2, decide_true,
      Bool.and_self, if_true]

/-- **The digits of a whole number are read as this number.** -/
theorem recognise?_digits {n : Nat} (h : n ≤ wholeLimit) :
    recognise? (Decimal.digits n) = some (.whole n) := by
  have hword : ∀ mark rest, Literal.isDigit mark = false → Decimal.digits n ≠ mark :: rest := by
    intro mark rest hmark heq
    have hdigit : Literal.isDigit mark = true :=
      Decimal.isDigit_of_mem_digits (n := n) (heq ▸ List.mem_cons_self)
    rw [hmark] at hdigit
    cases hdigit
  rw [recognise?, if_neg (by simpa using hword 't' _ rfl), if_neg (by simpa using hword 'f' _ rfl),
    whole?_digits h]

/-! ## Other numbers -/

/-- **A number reads back** if its text is a value that is this number. -/
def ReadsBack {α : Type} [Readable α] [Writable α] (x : α) : Prop :=
  (recognise? (Writable.numberText x).toList).bind Value.number? = some x

instance {α : Type} [Readable α] [Writable α] [DecidableEq α] (x : α) : Decidable (ReadsBack x) :=
  inferInstanceAs (Decidable (_ = _))

/-- Digits with a point among them are characters of a value without quotes. -/
theorem isBare_of_mem_figures {places units : Nat} {c : Char}
    (h : c ∈ Figure.pointed places units) : isBare c = true := by
  have hdigits : ∀ c ∈ Decimal.zeroFilled (places + 1) (Decimal.digits units),
      isBare c = true := fun c hc => by
    rcases List.mem_append.mp hc with hzero | hdigit
    · rw [(List.mem_replicate.mp hzero).2]
      rfl
    · exact isBare_of_isDigit (Decimal.isDigit_of_mem_digits hdigit)
  unfold Figure.pointed at h
  split at h
  · exact isBare_of_isDigit (Decimal.isDigit_of_mem_digits h)
  · rcases List.mem_append.mp h with hwhole | hrest
    · exact hdigits c (List.mem_of_mem_take hwhole)
    · rcases List.mem_cons.mp hrest with rfl | hplace
      · rfl
      · exact hdigits c (List.mem_of_mem_drop hplace)

/-- So are the digits of a number at their places. -/
theorem isBare_of_mem_positional {units : Nat} {exponent : Int} {c : Char}
    (h : c ∈ Shortest.positional ['.', '0'] units exponent) : isBare c = true := by
  unfold Shortest.positional at h
  split at h
  · rcases List.mem_append.mp h with hfigures | htail
    · rcases List.mem_append.mp hfigures with hdigit | hzero
      · exact isBare_of_isDigit (Decimal.isDigit_of_mem_digits hdigit)
      · rw [(List.mem_replicate.mp hzero).2]
        rfl
    · rcases List.mem_cons.mp htail with rfl | hzero
      · rfl
      · rw [List.mem_singleton.mp hzero]
        rfl
  · exact isBare_of_mem_figures h

/-- **The text of a binary number is a single run** of characters of a value without quotes. -/
theorem isBare_of_mem_pointed (x : Float) : ∀ c ∈ (Double.pointed x).toList, isBare c = true := by
  unfold Double.pointed Double.shortest
  split
  · exact List.all_eq_true.mp rfl
  · split <;> exact List.all_eq_true.mp rfl
  · rename_i negative n d hfigure
    have hsigned : ∀ text : List Char, (∀ c ∈ text, isBare c = true) →
        ∀ c ∈ (String.ofList (if negative then '-' :: text else text)).toList,
          isBare c = true := by
      intro text htext
      rw [String.toList_ofList]
      split
      · exact List.forall_mem_cons.mpr ⟨rfl, htext⟩
      · exact htext
    refine hsigned _ fun c hc => ?_
    split at hc
    · exact isBare_of_mem_positional hc
    · split at hc
      · exact isBare_of_mem_positional hc
      · exact isBare_of_mem_positional hc

/-! ## All values -/

namespace Primitive

variable {α : Type} [Writable α]

/-- The value that is read for what is written. -/
def value : Primitive α → Value
  | .text content => .text content
  | .whole number => .whole number
  | .real number => (recognise? (Writable.numberText number).toList).getD (.flag false)
  | .flag yes => .flag yes

/-- **What reads back**: whole numbers up to the greatest of 64 bits, other numbers whose text
is one run of characters and a value, and all texts. -/
def IsReadable : Primitive α → Prop
  | .whole number => number ≤ wholeLimit
  | .real number =>
    (∀ c ∈ (Writable.numberText number).toList, isBare c = true) ∧
      (recognise? (Writable.numberText number).toList).isSome
  | _ => True

/-- What is not a text is written without quotes. -/
theorem eq_text_or_isBare {primitive : Primitive α} (h : primitive.IsReadable) :
    (∃ content, primitive = .text content) ∨ ∀ c ∈ primitive.spelling, isBare c = true := by
  cases primitive with
  | text content => exact Or.inl ⟨content, rfl⟩
  | whole number =>
      exact Or.inr fun c hc => isBare_of_isDigit (Decimal.isDigit_of_mem_digits hc)
  | real number => exact Or.inr h.1
  | flag yes =>
      have hwords : (∀ c ∈ ['t', 'r', 'u', 'e'], isBare c = true) ∧
          ∀ c ∈ ['f', 'a', 'l', 's', 'e'], isBare c = true :=
        ⟨List.all_eq_true.mp rfl, List.all_eq_true.mp rfl⟩
      cases yes with
      | true => exact Or.inr hwords.1
      | false => exact Or.inr hwords.2

/-- **Written values read back**, up to the end of their line. -/
theorem value?_spelling {primitive : Primitive α} (h : primitive.IsReadable) (fuel depth : Nat)
    (rest : List Char) :
    value? (fuel + 1) depth (primitive.spelling ++ '\n' :: rest) =
      some (primitive.value, '\n' :: rest) := by
  cases primitive with
  | text content =>
      obtain ⟨first, hfirst, hmark⟩ := head?_quote content
      have hhead : ∀ mark, mark ≠ '"' → mark ≠ '\'' →
          (quote content ++ '\n' :: rest).head? ≠ some mark := by
        intro mark hquote hapostrophe hsame
        rw [List.head?_append, hfirst] at hsame
        obtain rfl : first = mark := Option.some.inj hsame
        exact hmark.elim hquote hapostrophe
      rw [spelling, value?_of_simple (hhead '[' (by decide) (by decide))
        (hhead '\x7b' (by decide) (by decide)), simple?, quoted?_quote]
      rfl
  | whole number =>
      have hbare := (eq_text_or_isBare h).resolve_left (by simp)
      rw [value?_of_isBare hbare, spelling, recognise?_digits h]
      rfl
  | real number =>
      have hbare := (eq_text_or_isBare h).resolve_left (by simp)
      obtain ⟨value, hvalue⟩ := Option.isSome_iff_exists.mp h.2
      rw [value?_of_isBare hbare, spelling, Primitive.value, hvalue]
      rfl
  | flag yes =>
      have hbare := (eq_text_or_isBare h).resolve_left (by simp)
      rw [value?_of_isBare hbare]
      cases yes <;> rfl

/-- No blank stands before a value that is written. -/
theorem isSpace_of_head?_spelling {primitive : Primitive α} (h : primitive.IsReadable)
    {c : Char} {rest : List Char} (hc : (primitive.spelling ++ '\n' :: rest).head? = some c) :
    isSpace c = false := by
  rcases eq_text_or_isBare h with ⟨content, rfl⟩ | hbare
  · obtain ⟨mark, hmark, hcases⟩ := head?_quote content
    rw [spelling, List.head?_append, hmark] at hc
    obtain rfl : mark = c := Option.some.inj hc
    rcases hcases with rfl | rfl <;> rfl
  · have hne : ∀ blank, isBare blank = false → blank ≠ '\n' → c ≠ blank := by
      rintro blank hblank hline rfl
      exact head?_ne_of_isBare hbare hblank hline rest hc
    simp only [isSpace, Bool.or_eq_false_iff, beq_eq_false_iff_ne]
    exact ⟨⟨hne ' ' rfl (by decide), hne '\t' rfl (by decide)⟩, hne '\r' rfl (by decide)⟩

/-- What is written for a value may stand in a document. -/
theorem isForbidden_of_mem_spelling {primitive : Primitive α} (h : primitive.IsReadable) :
    ∀ c ∈ primitive.spelling, isForbidden c = false := by
  rcases eq_text_or_isBare h with ⟨content, rfl⟩ | hbare
  · exact isForbidden_of_mem_quote content
  · exact fun c hc => isForbidden_of_isBare (hbare c hc)

end Primitive

end PlateSolver.Toml
