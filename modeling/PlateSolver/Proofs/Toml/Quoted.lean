import Mathlib.Data.List.TakeWhile
import PlateSolver.Toml.Document
import PlateSolver.Toml.Spelling

/-!
# Quoted text reads back

Whatever a text holds, and whichever of the four ways of quoting it gets, reading what is
written gives the text again and stops right behind its marks.

* `closing?_of_ne`, `closing?_many` — where a text between marks ends.
* `basicBody_withEscapes` — the content between quotation marks.
* `literalBody_one`, `literalBody_many` — the content between apostrophes.
* `quoted?_quote` — the text with its marks.
* `isForbidden_of_mem_quote` — it holds no character that a document must not hold.

## Design decisions

Between three marks a text may end in marks of its own, and only the whole run of them shows
which those are.  So every statement about such a text is about the marks it begins with, of
which there are at most two; that is all that the way of quoting promises.
-/

namespace PlateSolver.Toml

/-! ## Where a text ends -/

/-- A text does not end at a character that is no mark. -/
theorem closing?_of_ne {mark c : Char} (h : c ≠ mark) (many : Bool) (rest : List Char) :
    closing? many mark (c :: rest) = none := by
  cases many <;> simp [closing?, h]

/-- A text between single marks ends at the first of them. -/
theorem closing?_one (mark : Char) (rest : List Char) :
    closing? false mark (mark :: rest) = some ([], rest) := by
  simp [closing?]

/-- **Where a text between three marks ends.**  Of marks that come in a row before the closing
ones, at most two belong to the text; it ends here if nothing but those is left of it. -/
theorem closing?_many (mark : Char) (hmark : mark ≠ '\n') (content : List Char)
    (hlead : (content.takeWhile (· == mark)).length ≤ 2) (rest : List Char) :
    closing? true mark (content ++ [mark, mark, mark] ++ '\n' :: rest) =
      if content.all (· == mark) then some (content, '\n' :: rest) else none := by
  have hend : ('\n' == mark) = false := by simpa using hmark.symm
  by_cases hall : content.all (· == mark)
  · obtain ⟨k, rfl⟩ : ∃ k, content = List.replicate k mark :=
      ⟨content.length, List.eq_replicate_of_mem fun c hc => by
        simpa using List.all_eq_true.mp hall c hc⟩
    have hk : k ≤ 2 := by simpa using hlead
    rw [if_pos hall]
    obtain rfl | rfl | rfl : k = 0 ∨ k = 1 ∨ k = 2 := by omega
    all_goals simp [closing?, hend, List.replicate]
  · have hsome : ¬ (content.takeWhile (· == mark)).length = content.length := by
      intro hlen
      exact hall (List.all_eq_true.mpr (List.takeWhile_eq_self_iff.mp
        ((List.takeWhile_prefix (· == mark)).eq_of_length hlen)))
    rw [if_neg hall]
    simp only [closing?, List.append_assoc, List.takeWhile_append, if_neg hsome, if_true]
    rw [if_pos (by omega)]

/-- A character of a value without quotes may stand anywhere in a document. -/
theorem isForbidden_of_isBare {c : Char} (h : isBare c = true) : isForbidden c = false := by
  have hbounds : 0x20 ≤ c.toNat ∧ c.toNat < 0x7f := by
    simp only [isBare, isLetter, Literal.isDigit, Bool.or_eq_true, Bool.and_eq_true,
      decide_eq_true_eq, beq_iff_eq, Char.le_def, UInt32.le_iff_toNat_le, Char.toNat_val] at h
    have hrange : ∀ {low high : Nat}, low ≤ c.toNat ∧ c.toNat ≤ high → 0x20 ≤ low → high < 0x7f →
        0x20 ≤ c.toNat ∧ c.toNat < 0x7f := fun h hlow hhigh =>
      ⟨le_trans hlow h.1, lt_of_le_of_lt h.2 hhigh⟩
    rcases h with ((((((h | h) | h) | rfl) | rfl) | rfl) | rfl) | rfl
    · exact hrange h (by decide) (by decide)
    · exact hrange h (by decide) (by decide)
    · exact hrange h (by decide) (by decide)
    all_goals decide
  have hne : c ≠ '\x7f' := by
    rintro rfl
    exact absurd hbounds (by decide)
  simp only [isForbidden, Bool.or_eq_false_iff, Bool.and_eq_false_iff, decide_eq_false_iff_not,
    beq_eq_false_iff_ne]
  exact ⟨Or.inl (Or.inl (by omega)), hne⟩

theorem forall_isForbidden_of_any {text : List Char} (h : text.any isForbidden = false) :
    ∀ c ∈ text, isForbidden c = false :=
  fun c hc => eq_false_of_ne_true (List.any_eq_false.mp h c hc)

/-! ## Between quotation marks -/

section Basic

variable {many : Bool} {rest more after : List Char}

/-- A text that ends right away is what belongs to it of its marks. -/
theorem basicBody_of_closing? {text : List Char} {done : List Char × List Char}
    (h : closing? many '"' text = some done) : basicBody many .none text = some done := by
  cases text with
  | nil => cases many <;> simp [closing?] at h
  | cons c rest => simp [basicBody, Escape.isSettled, h]

/-- A character that does not end a text is taken for itself or begins an escape. -/
theorem basicBody_of_closing?_eq_none {c : Char} (h : closing? many '"' (c :: rest) = none) :
    basicBody many .none (c :: rest) =
      (plainStep many c).bind fun (here, next) =>
        (basicBody many next rest).map fun (more, after) => (here ++ more, after) := by
  simp [basicBody, Escape.isSettled, h, step]

/-- A character that stands for itself. -/
theorem basicBody_plain {c : Char} (hend : closing? many '"' (c :: rest) = none)
    (hescape : c ≠ '\\') (hline : many = false → c ≠ '\n')
    (hrest : basicBody many .none rest = some (more, after)) :
    basicBody many .none (c :: rest) = some (c :: more, after) := by
  have hstep : plainStep many c = some ([c], .none) := by
    cases many with
    | false => simp [plainStep, hescape, hline rfl]
    | true => simp [plainStep, hescape]
  simp [basicBody_of_closing?_eq_none hend, hstep, hrest]

/-- A character after a backslash. -/
theorem basicBody_short {letter c : Char} (h : shortEscape? letter = some c)
    (hrest : basicBody many .none rest = some (more, after)) :
    basicBody many .none ('\\' :: letter :: rest) = some (c :: more, after) := by
  have hbegun : basicBody many .begun (letter :: rest) = some (c :: more, after) := by
    simp [basicBody, Escape.isSettled, step, begunStep, h, hrest]
  rw [basicBody_of_closing?_eq_none (closing?_of_ne (by decide) many _)]
  simp [plainStep, hbegun]

/-- A letter that is written for a character is read as that character. -/
theorem shortEscape?_of_escapeLetter? {c letter : Char}
    (h : escapeLetter? many c = some letter) : shortEscape? letter = some c := by
  unfold escapeLetter? at h
  repeat' split at h
  all_goals
    simp only [Bool.and_eq_true, beq_iff_eq, Option.some.injEq, reduceCtorEq] at *
  all_goals
    subst h
    simp_all [shortEscape?]

/-- The four digits that are written for a control character: its code is below 128. -/
theorem codeDigits_of_needsEscape {c : Char} (h : needsEscape c = true) :
    ∃ high low code, codeDigits c = ['0', '0', high, low] ∧
      codeStep 2 0 high = some ([], .code 1 code) ∧ codeStep 1 code low = some ([c], .none) ∧
      isBare high = true ∧ isBare low = true := by
  have hbound : c.toNat < 128 := by
    simp only [needsEscape, Bool.or_eq_true, Bool.and_eq_true, decide_eq_true_eq, beq_iff_eq] at h
    rcases h with ⟨⟨hlt, -⟩, -⟩ | rfl
    · omega
    · decide
  -- The digits are named by their places, so that every code can be tried.
  have hall : ∀ n < 128,
      let high := (codeDigits (Char.ofNat n)).getD 2 '0'
      let low := (codeDigits (Char.ofNat n)).getD 3 '0'
      codeDigits (Char.ofNat n) = ['0', '0', high, low] ∧
        codeStep 2 0 high = some ([], .code 1 (n / 16)) ∧
        codeStep 1 (n / 16) low = some ([Char.ofNat n], .none) ∧
        isBare high = true ∧ isBare low = true := by
    decide +kernel
  rw [← Char.ofNat_toNat c]
  exact ⟨_, _, _, hall c.toNat hbound⟩

/-- A control character after a backslash, by its code. -/
theorem basicBody_code {c : Char} (h : needsEscape c = true)
    (hrest : basicBody many .none rest = some (more, after)) :
    basicBody many .none (['\\', 'u'] ++ codeDigits c ++ rest) = some (c :: more, after) := by
  obtain ⟨high, low, code, hdigits, hhigh, hlow, -⟩ := codeDigits_of_needsEscape h
  have hbegun : begunStep many 'u' = some ([], .code 4 0) := rfl
  have hfirst : codeStep 4 0 '0' = some ([], .code 3 0) := rfl
  have hsecond : codeStep 3 0 '0' = some ([], .code 2 0) := rfl
  rw [hdigits, List.cons_append, List.cons_append,
    basicBody_of_closing?_eq_none (closing?_of_ne (by decide) many _)]
  simp [plainStep, basicBody, Escape.isSettled, step, hbegun, hfirst, hsecond, hhigh, hlow, hrest]

/-- **How a character is written** that is no quotation mark: after a backslash by a letter or
by its code, or as it is. -/
theorem withEscapes_cons_cases {c : Char} (hc : c ≠ '"') (many : Bool) (run : Nat)
    (chars : List Char) :
    (∃ letter, escapeLetter? many c = some letter ∧
        withEscapes many run (c :: chars) = '\\' :: letter :: withEscapes many 0 chars) ∨
      (needsEscape c = true ∧
        withEscapes many run (c :: chars) =
          ['\\', 'u'] ++ codeDigits c ++ withEscapes many 0 chars) ∨
      (needsEscape c = false ∧ c ≠ '\\' ∧ (many = false → c ≠ '\n') ∧
        withEscapes many run (c :: chars) = c :: withEscapes many 0 chars) := by
  cases hletter : escapeLetter? many c with
  | some letter => exact Or.inl ⟨letter, rfl, by simp [withEscapes, hc, hletter]⟩
  | none =>
      by_cases hcode : needsEscape c
      · exact Or.inr (Or.inl ⟨hcode, by simp [withEscapes, hc, hletter, hcode]⟩)
      · refine Or.inr (Or.inr ⟨by simpa using hcode, ?_, ?_,
          by simp [withEscapes, hc, hletter, hcode]⟩)
        · rintro rfl
          simp [escapeLetter?] at hletter
        · rintro rfl rfl
          simp [escapeLetter?] at hletter

/-- Quotation marks that are written for themselves come at most two in a row. -/
theorem length_takeWhile_withEscapes {run : Nat} (hrun : run ≤ 2) (chars : List Char) :
    run + ((withEscapes true run chars).takeWhile (· == '"')).length ≤ 2 := by
  induction chars generalizing run with
  | nil => simpa [withEscapes] using hrun
  | cons c chars ih =>
      by_cases hc : c = '"'
      · subst hc
        by_cases hmore : run < 2
        · have hrun' : run + 1 ≤ 2 := hmore
          have := ih hrun'
          simp only [withEscapes, hmore, beq_self_eq_true, if_true, Bool.true_and, decide_true,
            List.takeWhile_cons, List.length_cons]
          omega
        · simpa [withEscapes, hmore] using hrun
      · rcases withEscapes_cons_cases hc true run chars with
          ⟨letter, -, heq⟩ | ⟨-, heq⟩ | ⟨-, -, -, heq⟩
        all_goals simpa [heq, hc] using hrun

/-- A text that is written in quotation marks only is these marks. -/
theorem withEscapes_eq_of_all {run : Nat} {chars : List Char}
    (h : (withEscapes true run chars).all (· == '"')) : withEscapes true run chars = chars := by
  induction chars generalizing run with
  | nil => rfl
  | cons c chars ih =>
      by_cases hc : c = '"'
      · subst hc
        by_cases hmore : run < 2
        · have heq : withEscapes true run ('"' :: chars) =
              '"' :: withEscapes true (run + 1) chars := by simp [withEscapes, hmore]
          rw [heq] at h ⊢
          rw [ih (by simpa using h)]
        · simp [withEscapes, hmore] at h
      · rcases withEscapes_cons_cases hc true run chars with
          ⟨letter, -, heq⟩ | ⟨-, heq⟩ | ⟨-, -, -, heq⟩
        all_goals simp [heq, hc] at h

/-- **What stands between quotation marks**: marks, backslashes, letters and digits, and
characters of the text that need no escape. -/
theorem forall_mem_withEscapes {P : Char → Prop} (hbare : ∀ c, isBare c = true → P c)
    (hmark : P '"') (hescape : P '\\') {chars : List Char}
    (hplain : ∀ c ∈ chars, needsEscape c = false → P c) (many : Bool) (run : Nat) :
    ∀ c ∈ withEscapes many run chars, P c := by
  induction chars generalizing run with
  | nil => exact fun c hc => absurd hc List.not_mem_nil
  | cons d chars ih =>
      have hrest := fun run => ih (fun c hc => hplain c (List.mem_cons_of_mem d hc)) run
      by_cases hd : d = '"'
      · subst hd
        rw [withEscapes, if_pos (beq_self_eq_true _)]
        split
        · exact List.forall_mem_cons.mpr ⟨hmark, hrest _⟩
        · exact List.forall_mem_cons.mpr ⟨hescape, List.forall_mem_cons.mpr ⟨hmark, hrest _⟩⟩
      · rcases withEscapes_cons_cases hd many run chars with
          ⟨letter, hletter, heq⟩ | ⟨hcode, heq⟩ | ⟨hcode, -, -, heq⟩
        · have hletter : P letter := by
            unfold escapeLetter? at hletter
            repeat' split at hletter
            all_goals cases hletter
            all_goals first | exact hescape | exact hbare _ rfl
          rw [heq]
          exact List.forall_mem_cons.mpr ⟨hescape, List.forall_mem_cons.mpr ⟨hletter, hrest _⟩⟩
        · obtain ⟨high, low, -, hdigits, -, -, hhigh, hlow⟩ := codeDigits_of_needsEscape hcode
          have hdigit := hbare '0' rfl
          rw [heq, hdigits]
          refine List.forall_mem_append.mpr ⟨?_, hrest _⟩
          simp only [List.cons_append, List.nil_append, List.forall_mem_cons]
          exact ⟨hescape, hbare 'u' rfl, hdigit, hdigit, hbare high hhigh, hbare low hlow,
            fun c hc => absurd hc List.not_mem_nil⟩
        · rw [heq]
          exact List.forall_mem_cons.mpr ⟨hplain d List.mem_cons_self hcode, hrest _⟩

/-- The marks that close a text between quotation marks. -/
def basicMarks (many : Bool) : List Char := if many then ['"', '"', '"'] else ['"']

/-- Whether a text ends where its content, as it is written, begins. -/
theorem closing?_withEscapes (many : Bool) {run : Nat} (hrun : run ≤ 2) (chars rest : List Char) :
    closing? many '"' (withEscapes many run chars ++ basicMarks many ++ '\n' :: rest) =
        some (chars, '\n' :: rest) ∨
      (chars ≠ [] ∧
        closing? many '"' (withEscapes many run chars ++ basicMarks many ++ '\n' :: rest) =
          none) := by
  cases many with
  | true =>
      have hlead := length_takeWhile_withEscapes hrun chars
      have hclosing := closing?_many '"' (by decide) (withEscapes true run chars) (by omega) rest
      by_cases hall : (withEscapes true run chars).all (· == '"')
      · rw [if_pos hall, withEscapes_eq_of_all hall] at hclosing
        rw [withEscapes_eq_of_all hall]
        exact Or.inl hclosing
      · rw [if_neg hall] at hclosing
        refine Or.inr ⟨?_, hclosing⟩
        rintro rfl
        exact hall rfl
  | false =>
      cases chars with
      | nil => exact Or.inl (closing?_one '"' _)
      | cons c chars =>
          refine Or.inr ⟨List.cons_ne_nil c chars, ?_⟩
          by_cases hc : c = '"'
          · subst hc
            exact closing?_of_ne (by decide) false _
          · rcases withEscapes_cons_cases hc false run chars with
              ⟨letter, -, heq⟩ | ⟨-, heq⟩ | ⟨-, -, -, heq⟩
            · rw [heq]; exact closing?_of_ne (by decide) false _
            · rw [heq]; exact closing?_of_ne (by decide) false _
            · rw [heq]; exact closing?_of_ne hc false _

/-- **Content between quotation marks reads back**, whatever it is. -/
theorem basicBody_withEscapes (many : Bool) {run : Nat} (hrun : run ≤ 2)
    (chars rest : List Char) :
    basicBody many .none (withEscapes many run chars ++ basicMarks many ++ '\n' :: rest) =
      some (chars, '\n' :: rest) := by
  induction chars generalizing run with
  | nil =>
      rcases closing?_withEscapes many hrun [] rest with hend | ⟨hne, -⟩
      · exact basicBody_of_closing? hend
      · exact absurd rfl hne
  | cons c chars ih =>
      rcases closing?_withEscapes many hrun (c :: chars) rest with hend | ⟨-, hopen⟩
      · exact basicBody_of_closing? hend
      · by_cases hc : c = '"'
        · subst hc
          by_cases hraw : many && run < 2
          · have heq : withEscapes many run ('"' :: chars) =
                '"' :: withEscapes many (run + 1) chars := by
              rw [withEscapes, if_pos (beq_self_eq_true _), if_pos hraw]
            have hrun' : run + 1 ≤ 2 := by
              simp only [Bool.and_eq_true, decide_eq_true_eq] at hraw
              omega
            rw [heq] at hopen ⊢
            exact basicBody_plain hopen (by decide) (fun _ => by decide) (ih hrun')
          · have heq : withEscapes many run ('"' :: chars) =
                '\\' :: '"' :: withEscapes many 0 chars := by
              rw [withEscapes, if_pos (beq_self_eq_true _), if_neg hraw]
            rw [heq]
            exact basicBody_short rfl (ih (Nat.zero_le 2))
        · rcases withEscapes_cons_cases hc many run chars with
            ⟨letter, hletter, heq⟩ | ⟨hcode, heq⟩ | ⟨-, hescape, hline, heq⟩
          · rw [heq]
            exact basicBody_short (shortEscape?_of_escapeLetter? hletter) (ih (Nat.zero_le 2))
          · rw [heq, List.append_assoc, List.append_assoc]
            exact basicBody_code hcode (by rw [← List.append_assoc]; exact ih (Nat.zero_le 2))
          · rw [heq] at hopen ⊢
            exact basicBody_plain hopen hescape hline (ih (Nat.zero_le 2))

end Basic

/-! ## Between apostrophes -/

/-- How often a mark comes in a row does not get less by what came before. -/
theorem longestRun_le (mark : Char) {few many : Nat} (h : few ≤ many) (text : List Char) :
    longestRun mark few text ≤ longestRun mark many text := by
  induction text generalizing few many with
  | nil => exact h
  | cons c rest ih =>
      by_cases hc : c == mark
      · simpa [longestRun, hc] using ih (Nat.add_le_add_right h 1)
      · simp only [longestRun, hc, Bool.false_eq_true, if_false]
        omega

/-- The marks that a text begins with come in a row. -/
theorem length_takeWhile_le_longestRun (mark : Char) (run : Nat) (text : List Char) :
    run + (text.takeWhile (· == mark)).length ≤ longestRun mark run text := by
  induction text generalizing run with
  | nil => simp [longestRun]
  | cons c rest ih =>
      by_cases hc : c == mark
      · have := ih (run + 1)
        simp only [longestRun, hc, if_true, List.takeWhile_cons, List.length_cons]
        omega
      · simp only [longestRun, hc, List.takeWhile_cons]
        exact Nat.le_max_left run _

/-- What is in a text does not come more often in a row in the rest of it. -/
theorem longestRun_tail_le (mark c : Char) (text : List Char) :
    longestRun mark 0 text ≤ longestRun mark 0 (c :: text) := by
  by_cases hc : c == mark
  · simpa [longestRun, hc] using longestRun_le mark (Nat.zero_le 1) text
  · simp [longestRun, hc]

/-- A text with a mark in it has a run of marks. -/
theorem not_mem_of_longestRun_eq_zero {mark : Char} {text : List Char}
    (h : longestRun mark 0 text = 0) : mark ∉ text := by
  induction text with
  | nil => exact List.not_mem_nil
  | cons c rest ih =>
      have hlead := length_takeWhile_le_longestRun mark 0 (c :: rest)
      have htail := longestRun_tail_le mark c rest
      rw [h] at hlead htail
      rw [List.mem_cons, not_or]
      refine ⟨?_, ih (by omega)⟩
      rintro rfl
      simp at hlead

section Literal

variable {many : Bool} {rest : List Char}

/-- A text that ends right away is what belongs to it of its marks. -/
theorem literalBody_of_closing? {text : List Char} {done : List Char × List Char}
    (h : closing? many '\'' text = some done) : literalBody many text = some done := by
  cases text with
  | nil => cases many <;> simp [closing?] at h
  | cons c rest => simp [literalBody, h]

/-- A character that does not end a text is taken for itself. -/
theorem literalBody_of_closing?_eq_none {c : Char} {more after : List Char}
    (h : closing? many '\'' (c :: rest) = none) (hline : many = false → c ≠ '\n')
    (hrest : literalBody many rest = some (more, after)) :
    literalBody many (c :: rest) = some (c :: more, after) := by
  have hcond : (c == '\n' && !many) = false := by
    cases many with
    | false => simpa using hline rfl
    | true => simp
  simp [literalBody, h, hcond, hrest]

/-- **Content between single apostrophes reads back** if it holds none, nor a line end. -/
theorem literalBody_one {chars : List Char} (hmark : '\'' ∉ chars) (hline : '\n' ∉ chars)
    (rest : List Char) :
    literalBody false (chars ++ ['\''] ++ rest) = some (chars, rest) := by
  induction chars with
  | nil => exact literalBody_of_closing? (closing?_one '\'' rest)
  | cons c chars ih =>
      rw [List.mem_cons, not_or] at hmark hline
      exact literalBody_of_closing?_eq_none (closing?_of_ne (Ne.symm hmark.1) false _)
        (fun _ => Ne.symm hline.1) (ih hmark.2 hline.2)

/-- **Content between three apostrophes reads back** if no three of them in a row are in it. -/
theorem literalBody_many {chars : List Char} (hruns : longestRun '\'' 0 chars ≤ 2)
    (rest : List Char) :
    literalBody true (chars ++ ['\'', '\'', '\''] ++ '\n' :: rest) =
      some (chars, '\n' :: rest) := by
  induction chars with
  | nil => exact literalBody_of_closing? (closing?_many '\'' (by decide) [] (by decide) rest)
  | cons c chars ih =>
      have hlead := length_takeWhile_le_longestRun '\'' 0 (c :: chars)
      have hclosing := closing?_many '\'' (by decide) (c :: chars) (by omega) rest
      by_cases hall : (c :: chars).all (· == '\'')
      · rw [if_pos hall] at hclosing
        exact literalBody_of_closing? hclosing
      · rw [if_neg hall] at hclosing
        exact literalBody_of_closing?_eq_none hclosing (fun h => by cases h)
          (ih (le_trans (longestRun_tail_le '\'' c chars) hruns))

end Literal

/-! ## With marks -/

/-- Between apostrophes stands only what can stand there as it is. -/
theorem quotingOf_cases (text : List Char) :
    (quotingOf text).hasEscapes = true ∨
      (text.any needsEscape = false ∧
        ((quotingOf text = .literal ∧ '\'' ∉ text ∧ '\n' ∉ text) ∨
          (quotingOf text = .literalLines ∧ longestRun '\'' 0 text ≤ 2))) := by
  unfold quotingOf
  dsimp only
  split
  · exact Or.inl rfl
  split
  · rename_i h
    simp only [Bool.and_eq_true, Bool.not_eq_eq_eq_not, Bool.not_true, beq_iff_eq] at h
    exact Or.inr ⟨h.1.1, Or.inl ⟨rfl, not_mem_of_longestRun_eq_zero h.2, by simpa using h.1.2⟩⟩
  split
  · exact Or.inl rfl
  split
  · rename_i h
    simp only [Bool.and_eq_true, Bool.not_eq_eq_eq_not, Bool.not_true, decide_eq_true_eq] at h
    exact Or.inr ⟨h.1, Or.inr ⟨rfl, h.2⟩⟩
  split
  · exact Or.inl rfl
  · exact Or.inl rfl

/-- A text between single marks does not begin with two further marks. -/
theorem opening_one {mark : Char} {text : List Char} (h : ∀ rest, text ≠ mark :: mark :: rest) :
    opening mark text = (false, text) := by
  unfold opening
  split
  · rename_i a b rest
    rw [if_neg]
    rintro hmarks
    simp only [Bool.and_eq_true, beq_iff_eq] at hmarks
    exact h rest (by rw [hmarks.1, hmarks.2])
  · rfl

/-- **Between three marks** a text begins on a line of its own if it goes over several; else
its own beginning is not taken for a line end. -/
theorem opening_many {mark : Char} (hmark : mark ≠ '\n') (hreturn : mark ≠ '\r')
    {lines : Bool} {content : List Char} (hlines : lines = false → '\n' ∉ content)
    (rest : List Char) :
    opening mark ([mark, mark] ++ (if lines then ['\n'] else []) ++ content ++ mark :: rest) =
      (true, content ++ mark :: rest) := by
  cases lines with
  | true => simp [opening]
  | false =>
      have hmem := hlines rfl
      simp only [opening, Bool.false_eq_true, if_false, List.append_nil, List.cons_append,
        List.nil_append, beq_self_eq_true, Bool.and_self, if_true, Prod.mk.injEq, true_and]
      split
      · rename_i tail heq
        rcases List.append_eq_cons_iff.mp heq with ⟨-, h⟩ | ⟨tail', h, -⟩
        · exact absurd (List.cons.inj h).1 hmark
        · exact absurd (h ▸ List.mem_cons_self) hmem
      · rename_i tail heq
        rcases List.append_eq_cons_iff.mp heq with ⟨-, h⟩ | ⟨tail', h, htail⟩
        · exact absurd (List.cons.inj h).1 hreturn
        · rcases List.append_eq_cons_iff.mp htail.symm with ⟨-, hnext⟩ | ⟨tail'', hnext, -⟩
          · exact absurd (List.cons.inj hnext).1 hmark
          · exact absurd (by rw [h, hnext]; simp) hmem
      · rfl

/-- What is read behind the opening marks. -/
theorem quoted?_of_opening {mark : Char} (hmark : (mark == '"' || mark == '\'') = true)
    {text content : List Char} {many : Bool} (hopening : opening mark text = (many, content)) :
    quoted? (mark :: text) = afterMark? many mark content := by
  simp only [quoted?, hmark, if_true, hopening]

/-- A text between two quotation marks. -/
theorem quoted?_basic (chars rest : List Char) :
    quoted? ('"' :: (withEscapes false 0 chars ++ ['"'] ++ '\n' :: rest)) =
      some (String.ofList chars, '\n' :: rest) := by
  have hopening : opening '"' (withEscapes false 0 chars ++ ['"'] ++ '\n' :: rest) =
      (false, withEscapes false 0 chars ++ ['"'] ++ '\n' :: rest) := by
    refine opening_one fun tail heq => ?_
    have hend := closing?_withEscapes false (Nat.zero_le 2) chars rest
    have hone := closing?_one '"' ('"' :: tail)
    rw [← heq] at hone
    rw [basicMarks, if_neg (by decide), hone] at hend
    simp at hend
  rw [quoted?_of_opening rfl hopening]
  have hbody : basicBody false .none (withEscapes false 0 chars ++ ['"'] ++ '\n' :: rest) =
      some (chars, '\n' :: rest) := basicBody_withEscapes false (Nat.zero_le 2) chars rest
  rw [afterMark?, if_pos (by decide), hbody]
  rfl

/-- A text between six quotation marks. -/
theorem quoted?_basicLines (chars rest : List Char) :
    quoted? ('"' :: (['"', '"'] ++ (if chars.contains '\n' then ['\n'] else []) ++
      withEscapes true 0 chars ++ '"' :: '"' :: '"' :: '\n' :: rest)) =
        some (String.ofList chars, '\n' :: rest) := by
  have hlines : chars.contains '\n' = false → '\n' ∉ withEscapes true 0 chars := by
    intro h hmem
    refine forall_mem_withEscapes (P := (· ≠ '\n')) ?_ (by decide) (by decide) ?_ true 0 _ hmem rfl
    · rintro c hc rfl
      exact absurd hc (by decide)
    · rintro c hc - rfl
      rw [List.contains_iff_mem.mpr hc] at h
      cases h
  rw [quoted?_of_opening rfl (opening_many (by decide) (by decide) hlines _)]
  have hbody := basicBody_withEscapes true (Nat.zero_le 2) chars rest
  simp only [basicMarks, if_true, List.append_assoc, List.cons_append, List.nil_append] at hbody
  rw [afterMark?, if_pos (by decide), hbody]
  rfl

/-- A text between two apostrophes. -/
theorem quoted?_literal {chars : List Char} (hmark : '\'' ∉ chars) (hline : '\n' ∉ chars)
    (rest : List Char) :
    quoted? ('\'' :: (chars ++ ['\''] ++ '\n' :: rest)) =
      some (String.ofList chars, '\n' :: rest) := by
  have hopening : opening '\'' (chars ++ ['\''] ++ '\n' :: rest) =
      (false, chars ++ ['\''] ++ '\n' :: rest) := by
    refine opening_one fun tail heq => ?_
    cases chars with
    | nil => simp at heq
    | cons c chars =>
        rw [List.cons_append, List.cons_append] at heq
        exact hmark ((List.cons.inj heq).1 ▸ List.mem_cons_self)
  rw [quoted?_of_opening rfl hopening]
  rw [afterMark?, if_neg (by decide), literalBody_one hmark hline]
  rfl

/-- A text between six apostrophes. -/
theorem quoted?_literalLines {chars : List Char} (hruns : longestRun '\'' 0 chars ≤ 2)
    (rest : List Char) :
    quoted? ('\'' :: (['\'', '\''] ++ (if chars.contains '\n' then ['\n'] else []) ++
      chars ++ '\'' :: '\'' :: '\'' :: '\n' :: rest)) =
        some (String.ofList chars, '\n' :: rest) := by
  have hlines : chars.contains '\n' = false → '\n' ∉ chars := by simp
  rw [quoted?_of_opening rfl (opening_many (by decide) (by decide) hlines _)]
  have hbody := literalBody_many hruns rest
  simp only [List.append_assoc, List.cons_append, List.nil_append] at hbody
  rw [afterMark?, if_neg (by decide), hbody]
  rfl

/-- **Quoted text reads back.** -/
theorem quoted?_quote (text : String) (rest : List Char) :
    quoted? (quote text ++ '\n' :: rest) = some (text, '\n' :: rest) := by
  have htext : String.ofList text.toList = text := String.ofList_toList
  have hcases := quotingOf_cases text.toList
  cases hquoting : quotingOf text.toList with
  | basic =>
      have hread := quoted?_basic text.toList rest
      rw [htext] at hread
      simpa [quote, hquoting, Quoting.marks, Quoting.isMany, Quoting.hasEscapes] using hread
  | basicLines =>
      have hread := quoted?_basicLines text.toList rest
      rw [htext] at hread
      simpa [quote, hquoting, Quoting.marks, Quoting.isMany, Quoting.hasEscapes] using hread
  | literal =>
      simp only [hquoting, Quoting.hasEscapes, Bool.false_eq_true, false_or, true_and,
        reduceCtorEq, false_and, or_false] at hcases
      have hread := quoted?_literal hcases.2.1 hcases.2.2 rest
      rw [htext] at hread
      simpa [quote, hquoting, Quoting.marks, Quoting.isMany, Quoting.hasEscapes] using hread
  | literalLines =>
      simp only [hquoting, Quoting.hasEscapes, Bool.false_eq_true, false_or, true_and,
        reduceCtorEq, false_and] at hcases
      have hread := quoted?_literalLines hcases.2 rest
      rw [htext] at hread
      simpa [quote, hquoting, Quoting.marks, Quoting.isMany, Quoting.hasEscapes] using hread

/-- A quoted text begins with a mark. -/
theorem head?_quote (text : String) :
    ∃ mark, (quote text).head? = some mark ∧ (mark = '"' ∨ mark = '\'') := by
  cases hquoting : quotingOf text.toList with
  | basic => exact ⟨'"', by simp [quote, hquoting, Quoting.marks], Or.inl rfl⟩
  | literal => exact ⟨'\'', by simp [quote, hquoting, Quoting.marks], Or.inr rfl⟩
  | basicLines => exact ⟨'"', by simp [quote, hquoting, Quoting.marks], Or.inl rfl⟩
  | literalLines => exact ⟨'\'', by simp [quote, hquoting, Quoting.marks], Or.inr rfl⟩

/-- A quoted text holds no character that a document must not hold. -/
theorem isForbidden_of_mem_quote (text : String) : ∀ c ∈ quote text, isForbidden c = false := by
  have hmarks : ∀ c ∈ (quotingOf text.toList).marks, isForbidden c = false := by
    cases quotingOf text.toList <;> exact forall_isForbidden_of_any rfl
  have hcontent : ∀ c ∈ (if (quotingOf text.toList).hasEscapes then
      withEscapes (quotingOf text.toList).isMany 0 text.toList else text.toList),
      isForbidden c = false := by
    rcases quotingOf_cases text.toList with hescapes | ⟨hplain, hquoting⟩
    · rw [if_pos hescapes]
      exact forall_mem_withEscapes (fun c hc => isForbidden_of_isBare hc) (by decide) (by decide)
        (fun c _ hc => hc) _ _
    · have hraw : (quotingOf text.toList).hasEscapes = false := by
        rcases hquoting with ⟨h, -⟩ | ⟨h, -⟩ <;> rw [h] <;> rfl
      rw [hraw, if_neg (by decide)]
      exact forall_isForbidden_of_any hplain
  unfold quote
  refine List.forall_mem_append.mpr ⟨List.forall_mem_append.mpr ⟨List.forall_mem_append.mpr
    ⟨hmarks, ?_⟩, hcontent⟩, hmarks⟩
  split
  · exact forall_isForbidden_of_any rfl
  · exact forall_isForbidden_of_any rfl


end PlateSolver.Toml
