import Mathlib.Data.List.TakeWhile
import Mathlib.Tactic.SplitIfs
import PlateSolver.Proofs.Decimal.Digits
import PlateSolver.Text.Blank

/-!
# The grammar of literals

A literal is read by taking it apart: its sign, its digits up to a point, those behind it, the
exponent.  What is accepted in this way can be said from the other end.  A numeral is made of its
parts, each of which may be missing or not, and a text is a literal if it is the text of a numeral
or, after a sign, one of three words.

* `Sign`, `Exponent`, `Numeral` — the parts of a number, well formed by construction.
* `Numeral.text`, `Numeral.literal` — how a numeral is written, and what it stands for.
* `Spells` — the literals that a text may be.
* `read?_eq_some_iff` — the literal that is read is the one that the text spells.
* `Spells.isBlank` — no literal has a blank in it.
-/

namespace PlateSolver.Literal

/-! ## Runs of characters -/

section Runs

variable {p : Char → Bool} {run rest : List Char}

/-- A run ends where a character of another kind follows, or nothing. -/
theorem takeWhile_run_append (hrun : ∀ c ∈ run, p c = true)
    (hrest : ∀ c, rest.head? = some c → p c = false) : (run ++ rest).takeWhile p = run := by
  rw [List.takeWhile_append_of_pos hrun]
  cases rest with
  | nil => exact List.append_nil run
  | cons c rest => rw [List.takeWhile_cons, hrest c rfl, if_neg Bool.false_ne_true, List.append_nil]

theorem dropWhile_run_append (hrun : ∀ c ∈ run, p c = true)
    (hrest : ∀ c, rest.head? = some c → p c = false) : (run ++ rest).dropWhile p = rest := by
  rw [List.dropWhile_append_of_pos hrun]
  cases rest with
  | nil => rfl
  | cons c rest => rw [List.dropWhile_cons, hrest c rfl, if_neg Bool.false_ne_true]

end Runs

theorem isDigit_of_mem_takeWhile {text : List Char} :
    ∀ c ∈ text.takeWhile isDigit, isDigit c = true := fun _ hc => List.mem_takeWhile_imp hc

/-! ## Signs -/

/-- **Sign.** What may stand before a number. -/
inductive Sign where
  /-- Nothing. -/
  | absent
  /-- A plus. -/
  | plus
  /-- A minus. -/
  | minus

namespace Sign

/-- A sign as it is written. -/
def text : Sign → List Char
  | absent => []
  | plus => ['+']
  | minus => ['-']

/-- Whether a sign makes a number negative. -/
def isMinus : Sign → Bool
  | minus => true
  | _ => false

/-- A sign is told from what follows it, unless that begins with a sign itself. -/
theorem splitSign_append (sign : Sign) {body : List Char}
    (hbody : ∀ c, body.head? = some c → c ≠ '-' ∧ c ≠ '+') :
    splitSign (sign.text ++ body) = (sign.isMinus, body) := by
  cases sign with
  | plus => rfl
  | minus => rfl
  | absent =>
      rw [text, List.nil_append]
      unfold splitSign
      split
      · exact absurd rfl (hbody '-' rfl).1
      · exact absurd rfl (hbody '+' rfl).2
      · rfl

theorem exists_splitSign (text : List Char) :
    ∃ (sign : Sign) (body : List Char), text = sign.text ++ body ∧
      splitSign text = (sign.isMinus, body) := by
  unfold splitSign
  split
  · exact ⟨minus, _, rfl, rfl⟩
  · exact ⟨plus, _, rfl, rfl⟩
  · exact ⟨absent, _, rfl, rfl⟩

end Sign

/-! ## Exponents -/

/-- **Exponent.** A mark, a sign and digits. -/
structure Exponent where
  /-- The mark that begins it. -/
  mark : Char
  /-- Its sign. -/
  sign : Sign
  /-- Its digits. -/
  digits : List Char
  /-- The mark is a letter, in either case. -/
  isMark : mark = 'e' ∨ mark = 'E'
  /-- There are digits. -/
  digits_ne_nil : digits ≠ []
  /-- And nothing else. -/
  isDigit_digits : ∀ c ∈ digits, isDigit c = true

/-- A digit is no sign. -/
theorem ne_sign_of_isDigit {c : Char} (h : isDigit c = true) : c ≠ '-' ∧ c ≠ '+' := by
  constructor <;> (rintro rfl; exact absurd h (by decide))

theorem forall_head?_of_forall {P : Char → Prop} {text : List Char} (h : ∀ c ∈ text, P c) :
    ∀ c, text.head? = some c → P c := fun c hc => h c (List.mem_of_head? hc)

namespace Exponent

/-- An exponent as it is written. -/
def text (e : Exponent) : List Char := e.mark :: (e.sign.text ++ e.digits)

/-- The power of ten that an exponent stands for. -/
def power (e : Exponent) : Int := scale e.sign.isMinus (e.digits.map digitValue)

theorem exponent?_text (e : Exponent) : exponent? e.text = some e.power := by
  have hmark : (e.mark == 'e' || e.mark == 'E') = true := by simpa using e.isMark
  have hsign : splitSign (e.sign.text ++ e.digits) = (e.sign.isMinus, e.digits) :=
    e.sign.splitSign_append fun c hc =>
      ne_sign_of_isDigit (forall_head?_of_forall e.isDigit_digits c hc)
  have hdigits : (e.digits.isEmpty || !e.digits.all isDigit) = false := by
    simpa using ⟨e.digits_ne_nil, e.isDigit_digits⟩
  rw [text, exponent?, if_pos hmark, hsign]
  dsimp only
  rw [hdigits, if_neg Bool.false_ne_true, power]

/-- What is read as an exponent is one, if there is anything. -/
theorem exists_of_exponent? {rest : List Char} {power : Int} (h : exponent? rest = some power) :
    ∃ exponent : Option Exponent, rest = exponent.elim [] text ∧
      power = exponent.elim 0 Exponent.power := by
  cases rest with
  | nil => exact ⟨none, rfl, (Option.some.inj h).symm⟩
  | cons mark rest =>
      obtain ⟨sign, digits, rfl, hsplit⟩ := Sign.exists_splitSign rest
      rw [exponent?, hsplit] at h
      dsimp only at h
      split_ifs at h with hmark hdigits
      have hgood : digits ≠ [] ∧ ∀ c ∈ digits, isDigit c = true := by simpa using hdigits
      exact ⟨some ⟨mark, sign, digits, by simpa using hmark, hgood.1, hgood.2⟩, rfl,
        (Option.some.inj h).symm⟩

end Exponent

/-! ## Numerals -/

/-- **Numeral.** A number in decimal notation, part by part. -/
structure Numeral where
  /-- The sign. -/
  sign : Sign
  /-- The digits before the point. -/
  whole : List Char
  /-- The digits behind the point, if there is a point. -/
  fraction : Option (List Char)
  /-- The exponent, if there is one. -/
  exponent : Option Exponent
  /-- Before the point there are digits only. -/
  isDigit_whole : ∀ c ∈ whole, isDigit c = true
  /-- So there are behind it. -/
  isDigit_fraction : ∀ c ∈ fraction.getD [], isDigit c = true
  /-- There is a digit on one of its sides. -/
  digits_ne_nil : whole ++ fraction.getD [] ≠ []

namespace Numeral

/-- All digits of a numeral. -/
def digits (n : Numeral) : List Char := n.whole ++ n.fraction.getD []

/-- What follows the digits before the point. -/
def tail (n : Numeral) : List Char :=
  n.fraction.elim [] ('.' :: ·) ++ n.exponent.elim [] Exponent.text

/-- A numeral as it is written, without its sign. -/
def body (n : Numeral) : List Char := n.whole ++ n.tail

/-- **A numeral as it is written.** -/
def text (n : Numeral) : List Char := n.sign.text ++ n.body

/-- **What a numeral stands for.** -/
def literal (n : Numeral) : Literal :=
  .number n.sign.isMinus (value 0 n.digits)
    (n.exponent.elim 0 Exponent.power - (n.fraction.getD []).length)

/-- An exponent begins with its mark, which is no digit and no point. -/
theorem head?_exponent (n : Numeral) :
    ∀ c, (n.exponent.elim [] Exponent.text).head? = some c → isDigit c = false ∧ c ≠ '.' := by
  intro c hc
  cases he : n.exponent with
  | none =>
      rw [he] at hc
      cases hc
  | some e =>
      rw [he] at hc
      obtain rfl : e.mark = c := Option.some.inj hc
      rcases e.isMark with hmark | hmark <;> (rw [hmark]; decide)

/-- Where the digits end, a point or a mark follows, if anything does. -/
theorem head?_tail (n : Numeral) : ∀ c, n.tail.head? = some c → isDigit c = false := by
  intro c hc
  rw [tail] at hc
  cases hf : n.fraction with
  | none =>
      rw [hf] at hc
      exact (n.head?_exponent c hc).1
  | some digits =>
      rw [hf] at hc
      obtain rfl : '.' = c := Option.some.inj hc
      decide

theorem splitFraction_tail (n : Numeral) :
    splitFraction n.tail = (n.fraction.getD [], n.exponent.elim [] Exponent.text) := by
  have hdigits := n.isDigit_fraction
  have hexponent : ∀ c, (n.exponent.elim [] Exponent.text).head? = some c → isDigit c = false :=
    fun c hc => (n.head?_exponent c hc).1
  rw [tail]
  cases hf : n.fraction with
  | none =>
      rw [Option.elim_none, List.nil_append, Option.getD_none]
      unfold splitFraction
      split
      · next hpoint => exact absurd rfl (n.head?_exponent '.' (by rw [hpoint]; rfl)).2
      · rfl
  | some digits =>
      rw [hf] at hdigits
      rw [Option.getD_some] at hdigits
      rw [Option.elim_some, List.cons_append, splitFraction, Option.getD_some,
        takeWhile_run_append hdigits hexponent, dropWhile_run_append hdigits hexponent]

/-- A numeral is read as what it stands for. -/
theorem unsigned?_body (n : Numeral) : unsigned? n.sign.isMinus n.body = some n.literal := by
  have hempty : (n.whole.isEmpty && (n.fraction.getD []).isEmpty) = false := by
    simpa [List.append_eq_nil_iff] using n.digits_ne_nil
  have hexponent : exponent? (n.exponent.elim [] Exponent.text) =
      some (n.exponent.elim 0 Exponent.power) := by
    cases n.exponent with
    | none => rfl
    | some e => exact e.exponent?_text
  rw [unsigned?, body, takeWhile_run_append n.isDigit_whole n.head?_tail,
    dropWhile_run_append n.isDigit_whole n.head?_tail, n.splitFraction_tail]
  dsimp only
  rw [hempty, if_neg Bool.false_ne_true, hexponent, Option.map_some, literal, digits]

/-- A numeral begins with a digit or a point, after its sign. -/
theorem head?_body (n : Numeral) :
    ∃ c, n.body.head? = some c ∧ (isDigit c = true ∨ c = '.') := by
  rw [body]
  cases hwhole : n.whole with
  | cons c whole =>
      exact ⟨c, rfl, Or.inl (n.isDigit_whole c (hwhole ▸ List.mem_cons_self))⟩
  | nil =>
      cases hf : n.fraction with
      | none => exact absurd (by rw [hwhole, hf]; rfl) n.digits_ne_nil
      | some digits => exact ⟨'.', by rw [tail, hf]; rfl, Or.inr rfl⟩

end Numeral

/-- **What is read as a number is the text of a numeral.** -/
theorem exists_of_unsigned? {sign : Sign} {text : List Char} {literal : Literal}
    (h : unsigned? sign.isMinus text = some literal) :
    ∃ n : Numeral, n.sign = sign ∧ n.body = text ∧ n.literal = literal := by
  rw [unsigned?] at h
  generalize hwhole : text.takeWhile isDigit = whole at h
  generalize htail : text.dropWhile isDigit = tail at h
  have htext : text = whole ++ tail := by
    rw [← hwhole, ← htail, List.takeWhile_append_dropWhile]
  have hdigits : ∀ c ∈ whole, isDigit c = true := hwhole ▸ isDigit_of_mem_takeWhile
  -- The tail begins with a point, or it is an exponent as it is.
  obtain ⟨fraction, rest, hfraction, rfl, hsplit⟩ : ∃ (fraction : Option (List Char)) (rest : _),
      (∀ c ∈ fraction.getD [], isDigit c = true) ∧ tail = fraction.elim [] ('.' :: ·) ++ rest ∧
        splitFraction tail = (fraction.getD [], rest) := by
    unfold splitFraction
    split
    · next behind =>
        exact ⟨some (behind.takeWhile isDigit), behind.dropWhile isDigit,
          isDigit_of_mem_takeWhile,
          congrArg ('.' :: ·) List.takeWhile_append_dropWhile.symm, rfl⟩
    · exact ⟨none, tail, fun c hc => (List.not_mem_nil hc).elim, rfl, rfl⟩
  rw [hsplit] at h
  dsimp only at h
  split_ifs at h with hempty
  obtain ⟨power, hpower, rfl⟩ := Option.map_eq_some_iff.mp h
  obtain ⟨exponent, rfl, rfl⟩ := Exponent.exists_of_exponent? hpower
  have hne : whole ++ fraction.getD [] ≠ [] := by
    simpa [List.append_eq_nil_iff] using hempty
  exact ⟨⟨sign, whole, fraction, exponent, hdigits, hfraction, hne⟩, rfl, htext.symm, rfl⟩

/-! ## Literals -/

/-- **The literals that a text may be**: numerals, and three words in any case. -/
inductive Spells : List Char → Literal → Prop where
  /-- A number. -/
  | number (n : Numeral) : Spells n.text n.literal
  /-- A value beyond every bound. -/
  | unbounded (sign : Sign) {word : List Char}
      (hword : word.map Char.toLower = ['i', 'n', 'f'] ∨
        word.map Char.toLower = ['i', 'n', 'f', 'i', 'n', 'i', 't', 'y']) :
      Spells (sign.text ++ word) (.unbounded sign.isMinus)
  /-- No value. -/
  | undefined (sign : Sign) {word : List Char}
      (hword : word.map Char.toLower = ['n', 'a', 'n']) : Spells (sign.text ++ word) .undefined

/-- A letter is made small as in the words. -/
theorem lower_eq_toLower (c : Char) : lower c = c.toLower := by
  have hA : 'A'.toNat = 65 := rfl
  have hZ : 'Z'.toNat = 90 := rfl
  by_cases h : 'A' ≤ c ∧ c ≤ 'Z'
  · have hbounds : 65 ≤ c.toNat ∧ c.toNat ≤ 90 := by
      simpa only [Char.le_def, UInt32.le_iff_toNat_le, Char.toNat_val, hA, hZ] using h
    have hsmall : c.toLower.toNat = c.toNat + 32 := by
      have hcase : c.val ≥ 'A'.val ∧ c.val ≤ 'Z'.val := h
      have hval : c.toLower.val = c.val + ('a'.val - 'A'.val) := congrArg Char.val (dif_pos hcase)
      have hstep : ('a'.val - 'A'.val).toNat = 32 := rfl
      rw [← Char.toNat_val, hval, UInt32.toNat_add, Char.toNat_val, hstep]
      omega
    rw [lower, if_pos (by simpa using h), ← hsmall, Char.ofNat_toNat]
  · have hcase : ¬ (c.val ≥ 'A'.val ∧ c.val ≤ 'Z'.val) := h
    have hlower : c.toLower = c := dif_neg hcase
    rw [lower, if_neg (by simpa using h), hlower]

theorem beq_word_iff {body word : List Char} :
    (String.ofList (body.map lower) == String.ofList word) = true ↔
      body.map Char.toLower = word := by
  rw [beq_iff_eq, String.ofList_inj, funext lower_eq_toLower]

/-- A text that begins like a number is none of the words. -/
theorem lower_ne_of_number {c : Char} (h : isDigit c = true ∨ c = '.') :
    c.toLower ≠ 'i' ∧ c.toLower ≠ 'n' := by
  rcases h with hdigit | rfl
  · have hnine : '9'.toNat = 57 := rfl
    have hA : 'A'.toNat = 65 := rfl
    have hbounds := Decimal.toNat_le_of_isDigit hdigit
    have hsmall : ¬ (c.val ≥ 'A'.val ∧ c.val ≤ 'Z'.val) := by
      rintro ⟨hlow, -⟩
      have hvalue : 'A'.toNat ≤ c.toNat := UInt32.le_iff_toNat_le.mp hlow
      omega
    have hlower : c.toLower = c := dif_neg hsmall
    rw [hlower]
    constructor <;> (rintro rfl; exact absurd hdigit (by decide))
  · decide

/-- What is read of a text, if it is none of the words. -/
theorem read?_of_splitSign {text body : List Char} {negative : Bool}
    (hsplit : splitSign text = (negative, body)) :
    read? text =
      if body.map Char.toLower = ['i', 'n', 'f'] ∨
          body.map Char.toLower = ['i', 'n', 'f', 'i', 'n', 'i', 't', 'y'] then
        some (.unbounded negative)
      else if body.map Char.toLower = ['n', 'a', 'n'] then some .undefined
      else unsigned? negative body := by
  have hinf : "inf" = String.ofList ['i', 'n', 'f'] := rfl
  have hinfinity : "infinity" = String.ofList ['i', 'n', 'f', 'i', 'n', 'i', 't', 'y'] := rfl
  have hnan : "nan" = String.ofList ['n', 'a', 'n'] := rfl
  rw [read?, hsplit]
  dsimp only
  rw [hinf, hinfinity, hnan]
  simp only [Bool.or_eq_true, beq_word_iff]

/-- No word begins with a sign. -/
theorem head?_of_map_toLower {word letters : List Char} {letter : Char}
    (hword : word.map Char.toLower = letter :: letters) (hletter : letter ≠ '-' ∧ letter ≠ '+') :
    ∀ c, word.head? = some c → c ≠ '-' ∧ c ≠ '+' := by
  intro c hc
  have hlower : c.toLower = letter := by
    have hhead := congrArg List.head? hword
    rw [List.head?_map, hc] at hhead
    exact Option.some.inj hhead
  constructor
  · rintro rfl
    exact hletter.1 hlower.symm
  · rintro rfl
    exact hletter.2 hlower.symm

/-- **A numeral is read as what it stands for.** -/
theorem read?_text (n : Numeral) : read? n.text = some n.literal := by
  obtain ⟨c, hc, hnumber⟩ := n.head?_body
  have hsign : splitSign n.text = (n.sign.isMinus, n.body) := by
    refine n.sign.splitSign_append fun d hd => ?_
    obtain rfl : c = d := Option.some.inj (hc.symm.trans hd)
    rcases hnumber with hdigit | rfl
    · exact ne_sign_of_isDigit hdigit
    · decide
  have hword {letter : Char} {letters : List Char} (hletter : c.toLower ≠ letter) :
      ¬ n.body.map Char.toLower = letter :: letters := by
    intro hsame
    have hhead := congrArg List.head? hsame
    rw [List.head?_map, hc] at hhead
    exact hletter (Option.some.inj hhead)
  obtain ⟨hi, hn⟩ := lower_ne_of_number hnumber
  rw [read?_of_splitSign hsign, if_neg (not_or.mpr ⟨hword hi, hword hi⟩), if_neg (hword hn),
    n.unsigned?_body]

/-- **The literal that is read is the one that the text spells**, and every text that spells one
is read. -/
theorem read?_eq_some_iff {text : List Char} {literal : Literal} :
    read? text = some literal ↔ Spells text literal := by
  constructor
  · intro h
    obtain ⟨sign, body, rfl, hsplit⟩ := Sign.exists_splitSign text
    rw [read?_of_splitSign hsplit] at h
    split_ifs at h with hunbounded hundefined
    · exact Option.some.inj h ▸ .unbounded sign hunbounded
    · exact Option.some.inj h ▸ .undefined sign hundefined
    · obtain ⟨n, rfl, rfl, rfl⟩ := exists_of_unsigned? h
      exact .number n
  · intro h
    cases h with
    | number n => exact read?_text n
    | @unbounded sign word hword =>
        have hhead : ∀ c, word.head? = some c → c ≠ '-' ∧ c ≠ '+' := by
          rcases hword with hword | hword <;> exact head?_of_map_toLower hword (by decide)
        rw [read?_of_splitSign (sign.splitSign_append hhead), if_pos hword]
    | @undefined sign word hword =>
        have hhead := head?_of_map_toLower hword (by decide)
        have hother : ¬ (word.map Char.toLower = ['i', 'n', 'f'] ∨
            word.map Char.toLower = ['i', 'n', 'f', 'i', 'n', 'i', 't', 'y']) := by
          rw [hword]
          decide
        rw [read?_of_splitSign (sign.splitSign_append hhead), if_neg hother, if_pos hword]

/-- A text spells one literal only. -/
theorem Spells.eq {text : List Char} {first second : Literal} (h : Spells text first)
    (h' : Spells text second) : first = second :=
  Option.some.inj ((read?_eq_some_iff.mpr h).symm.trans (read?_eq_some_iff.mpr h'))

/-! ## Blanks -/

open Text (isBlank)

theorem isBlank_of_isDigit {c : Char} (h : isDigit c = true) : isBlank c = false := by
  have hzero : '0'.toNat = 48 := rfl
  have hnine : '9'.toNat = 57 := rfl
  have hbounds := Decimal.toNat_le_of_isDigit h
  simp only [isBlank, Bool.or_eq_false_iff, Bool.and_eq_false_iff, decide_eq_false_iff_not,
    beq_eq_false_iff_ne]
  omega

/-- A blank is no letter, so its case does not matter. -/
theorem toLower_of_isBlank {c : Char} (h : isBlank c = true) : c.toLower = c := by
  have hA : 'A'.toNat = 65 := rfl
  have hZ : 'Z'.toNat = 90 := rfl
  refine dif_neg ?_
  rintro ⟨hlow, hhigh⟩
  have hleast : 'A'.toNat ≤ c.toNat := UInt32.le_iff_toNat_le.mp hlow
  have hgreatest : c.toNat ≤ 'Z'.toNat := UInt32.le_iff_toNat_le.mp hhigh
  simp only [isBlank, Bool.or_eq_true, Bool.and_eq_true, decide_eq_true_eq, beq_iff_eq] at h
  omega

theorem isBlank_of_map_toLower {word letters : List Char} (hword : word.map Char.toLower = letters)
    (hletters : letters.all fun c => !isBlank c) : ∀ c ∈ word, isBlank c = false := by
  intro c hc
  by_contra hblank
  have hlower : c.toLower ∈ letters := hword ▸ List.mem_map_of_mem hc
  rw [toLower_of_isBlank (by simpa using hblank)] at hlower
  exact hblank (by simpa using List.all_eq_true.mp hletters c hlower)

theorem Sign.isBlank (sign : Sign) : ∀ c ∈ sign.text, isBlank c = false := by
  cases sign with
  | absent => exact List.forall_mem_nil _
  | plus => exact List.forall_mem_singleton.mpr rfl
  | minus => exact List.forall_mem_singleton.mpr rfl

theorem Exponent.isBlank (e : Exponent) : ∀ c ∈ e.text, isBlank c = false := by
  have hmark : Text.isBlank e.mark = false := by
    rcases e.isMark with hmark | hmark <;> (rw [hmark]; rfl)
  exact List.forall_mem_cons.mpr ⟨hmark, List.forall_mem_append.mpr ⟨e.sign.isBlank,
    fun c hc => isBlank_of_isDigit (e.isDigit_digits c hc)⟩⟩

theorem Numeral.isBlank (n : Numeral) : ∀ c ∈ n.text, isBlank c = false := by
  have hwhole : ∀ c ∈ n.whole, Text.isBlank c = false :=
    fun c hc => isBlank_of_isDigit (n.isDigit_whole c hc)
  have hfraction : ∀ c ∈ n.fraction.elim [] ('.' :: ·), Text.isBlank c = false := by
    have hdigits := n.isDigit_fraction
    cases hf : n.fraction with
    | none => exact List.forall_mem_nil _
    | some digits =>
        rw [hf] at hdigits
        exact List.forall_mem_cons.mpr ⟨rfl, fun c hc => isBlank_of_isDigit (hdigits c hc)⟩
  have hexponent : ∀ c ∈ n.exponent.elim [] Exponent.text, Text.isBlank c = false := by
    cases n.exponent with
    | none => exact List.forall_mem_nil _
    | some e => exact e.isBlank
  exact List.forall_mem_append.mpr ⟨n.sign.isBlank, List.forall_mem_append.mpr ⟨hwhole,
    List.forall_mem_append.mpr ⟨hfraction, hexponent⟩⟩⟩

/-- **A literal is one run of characters**, none of which is a blank. -/
theorem Spells.isBlank {text : List Char} {literal : Literal} (h : Spells text literal) :
    text ≠ [] ∧ ∀ c ∈ text, isBlank c = false := by
  have hne {letter : Char} {letters word : List Char}
      (hword : word.map Char.toLower = letter :: letters) (sign : Sign) :
      sign.text ++ word ≠ [] := by
    rintro hnil
    rw [(List.append_eq_nil_iff.mp hnil).2] at hword
    cases hword
  cases h with
  | number n =>
      obtain ⟨c, hc, -⟩ := n.head?_body
      refine ⟨fun hnil => ?_, n.isBlank⟩
      rw [(List.append_eq_nil_iff.mp hnil).2] at hc
      cases hc
  | unbounded sign hword =>
      rcases hword with hword | hword <;>
        exact ⟨hne hword sign, List.forall_mem_append.mpr
          ⟨sign.isBlank, isBlank_of_map_toLower hword rfl⟩⟩
  | undefined sign hword =>
      exact ⟨hne hword sign, List.forall_mem_append.mpr
        ⟨sign.isBlank, isBlank_of_map_toLower hword rfl⟩⟩

end PlateSolver.Literal
