import PlateSolver.Proofs.Decimal.Literals
import PlateSolver.Proofs.Text.Fields
import PlateSolver.Zone.Index

/-!
# What an index record may be

An index is written by other programs, and a record of it is taken as it comes: any thirty bytes,
with a key that nobody looks at and a number that decides where a scan begins.  So it matters what
is accepted.  A record is accepted if it is a text, its first field is a literal, and its second
field shows a count that a record number may be, and nothing else is.

* `Shows` — a count as a field shows it.
* `IsRecord` — the grammar of index records.
* `render` — an index record as it is written, with any space around its fields.
* `parse_grammar` — what is read of bytes is what the grammar says.
-/

namespace PlateSolver.Zone.Index

open Text (LaidOut isBlank)

/-! ## Counts -/

/-- **A count as a field shows it**: digits, perhaps behind a plus sign, that stand for it. -/
def Shows (field : List Char) (n : Nat) : Prop :=
  ∃ figures : List Char, (field = figures ∨ field = '+' :: figures) ∧ figures ≠ [] ∧
    (∀ c ∈ figures, Literal.isDigit c = true) ∧ Nat.ofDigitChars 10 figures 0 = n

theorem natural?_eq_some_iff {text : List Char} {n : Nat} :
    Literal.natural? text = some n ↔
      text ≠ [] ∧ (∀ c ∈ text, Literal.isDigit c = true) ∧ Nat.ofDigitChars 10 text 0 = n := by
  rw [Literal.natural?]
  split_ifs with hbad
  · have hgood : ¬ (text ≠ [] ∧ ∀ c ∈ text, Literal.isDigit c = true) := by
      rintro ⟨hne, hdigits⟩
      rw [List.isEmpty_eq_false_iff.mpr hne, List.all_eq_true.mpr hdigits] at hbad
      cases hbad
    exact iff_of_false (by simp) fun h => hgood ⟨h.1, h.2.1⟩
  · have hgood : text ≠ [] ∧ ∀ c ∈ text, Literal.isDigit c = true := by simpa using hbad
    exact ⟨fun h => ⟨hgood.1, hgood.2, Option.some.inj h⟩, fun h => congrArg some h.2.2⟩

/-- A plus sign that begins a field is no part of its figures. -/
theorem exists_figures (field : List Char) :
    ∃ figures, (field = figures ∨ field = '+' :: figures) ∧
      count? field = (Literal.natural? figures).filter fun n => n ≤ countLimit := by
  unfold count?
  split
  · exact ⟨_, Or.inr rfl, rfl⟩
  · exact ⟨_, Or.inl rfl, rfl⟩

theorem count?_of_figures {field figures : List Char}
    (hfield : field = figures ∨ field = '+' :: figures)
    (hdigits : ∀ c ∈ figures, Literal.isDigit c = true) :
    count? field = (Literal.natural? figures).filter fun n => n ≤ countLimit := by
  rcases hfield with rfl | rfl
  · unfold count?
    split
    · next rest => exact absurd (hdigits '+' List.mem_cons_self) (by decide)
    · rfl
  · rfl

/-- **The count that is read of a field** is the one that it shows, unless that is too large. -/
theorem count?_eq_some_iff {field : List Char} {n : Nat} :
    count? field = some n ↔ Shows field n ∧ n ≤ countLimit := by
  constructor
  · intro h
    obtain ⟨figures, hfield, hcount⟩ := exists_figures field
    obtain ⟨hnatural, hlimit⟩ := Option.filter_eq_some_iff.mp (hcount ▸ h)
    exact ⟨⟨figures, hfield, natural?_eq_some_iff.mp hnatural⟩, of_decide_eq_true hlimit⟩
  · rintro ⟨⟨figures, hfield, hfigures⟩, hlimit⟩
    rw [count?_of_figures hfield hfigures.2.1]
    exact Option.filter_eq_some_iff.mpr
      ⟨natural?_eq_some_iff.mpr hfigures, decide_eq_true hlimit⟩

/-- The digits of a number show it. -/
theorem shows_digits (n : Nat) : Shows (Decimal.digits n) n :=
  ⟨_, Or.inl rfl, Decimal.digits_ne_nil n, fun _ hc => Decimal.isDigit_of_mem_digits hc,
    Decimal.value_digits n⟩

/-! ## Records -/

/-- **An index record**: a text in UTF-8 with two fields or more, of which the first is a literal
and the second shows a record number that a word of 64 bits can hold. -/
def IsRecord (bytes : ByteArray) (n : Nat) : Prop :=
  ∃ (text : String) (key number : List Char) (more : List (List Char)),
    text.toUTF8 = bytes ∧ LaidOut isBlank text.toList (key :: number :: more) ∧
      (∃ literal, Literal.Spells key literal) ∧ Shows number n ∧ 1 ≤ n ∧ n ≤ Nat.pow 2 64 - 1

/-- Bytes are read as the text whose bytes they are. -/
theorem fromUTF8?_eq_some_iff {bytes : ByteArray} {text : String} :
    String.fromUTF8? bytes = some text ↔ text.toUTF8 = bytes := by
  rw [String.fromUTF8?]
  split_ifs with hvalid
  · rw [Option.some_inj]
    exact ⟨fun h => h ▸ rfl, fun h => String.toByteArray_inj.mp h.symm⟩
  · refine iff_of_false (by simp) ?_
    rintro rfl
    exact hvalid text.isValidUTF8

theorem parse?_eq_some_iff {bytes : ByteArray} {n : Nat} :
    parse? bytes = some n ↔ IsRecord bytes n := by
  rw [parse?, Option.bind_eq_bind, Option.bind_eq_some_iff]
  constructor
  · rintro ⟨text, htext, h⟩
    split at h
    · next key number more hfields =>
        obtain ⟨literal, hkey, h⟩ := Option.bind_eq_some_iff.mp h
        obtain ⟨hcount, hleast⟩ := Option.filter_eq_some_iff.mp h
        obtain ⟨hnumber, hlimit⟩ := count?_eq_some_iff.mp hcount
        exact ⟨text, key, number, more, fromUTF8?_eq_some_iff.mp htext,
          Text.fields_eq_iff.mp hfields, ⟨literal, Literal.read?_eq_some_iff.mp hkey⟩, hnumber,
          of_decide_eq_true hleast, hlimit⟩
    · cases h
  · rintro ⟨text, key, number, more, htext, hlaid, ⟨literal, hkey⟩, hnumber, hleast, hlimit⟩
    refine ⟨text, fromUTF8?_eq_some_iff.mpr htext, ?_⟩
    rw [hlaid.fields_eq]
    dsimp only
    rw [Literal.read?_eq_some_iff.mpr hkey, count?_eq_some_iff.mpr ⟨hnumber, hlimit⟩]
    show (some n).filter (fun n => decide (1 ≤ n)) = some n
    exact Option.filter_eq_some_iff.mpr ⟨rfl, decide_eq_true hleast⟩

/-! ## Written records -/

/-- An index record as it is written: a key and a record number, with space before, between and
after them. -/
def render (lead key gap : List Char) (n : Nat) (tail : List Char) : ByteArray :=
  (String.ofList (lead ++ (key ++ (gap ++ (Decimal.digits n ++ tail))))).toUTF8

theorem isRecord_render {lead key gap tail : List Char} {n : Nat} {literal : Literal}
    (hlead : ∀ c ∈ lead, isBlank c = true) (hkey : Literal.Spells key literal)
    (hgap : gap ≠ [] ∧ ∀ c ∈ gap, isBlank c = true) (htail : ∀ c ∈ tail, isBlank c = true)
    (hleast : 1 ≤ n) (hlimit : n ≤ Nat.pow 2 64 - 1) :
    IsRecord (render lead key gap n tail) n := by
  have hnumber : Decimal.digits n ≠ [] ∧ ∀ c ∈ Decimal.digits n, isBlank c = false :=
    ⟨Decimal.digits_ne_nil n,
      fun c hc => Literal.isBlank_of_isDigit (Decimal.isDigit_of_mem_digits hc)⟩
  have hbetween : ∀ c, (gap ++ (Decimal.digits n ++ tail)).head? = some c → isBlank c = true := by
    obtain ⟨hne, hblank⟩ := hgap
    obtain ⟨first, rest, rfl⟩ := List.exists_cons_of_ne_nil hne
    intro c hc
    obtain rfl : first = c := Option.some.inj hc
    exact hblank first List.mem_cons_self
  have hlaid : LaidOut isBlank (lead ++ (key ++ (gap ++ (Decimal.digits n ++ tail))))
      [key, Decimal.digits n] :=
    .field hlead hkey.isBlank hbetween (.field hgap.2 hnumber
      (fun c hc => htail c (List.mem_of_head? hc)) (.done htail))
  exact ⟨_, key, Decimal.digits n, [], rfl, by rwa [String.toList_ofList], ⟨literal, hkey⟩,
    shows_digits n, hleast, hlimit⟩

/-- **Reading an index record.**  Whatever the bytes are, and however many, a record number is
read of them exactly if they are an index record that shows it.  So what is written for a record
number is read back, whatever its key and whatever space there is around its fields. -/
theorem parse_grammar :
    (∀ (bytes : ByteArray) (n : Nat), parse? bytes = some n ↔ IsRecord bytes n) ∧
    ∀ (lead key gap tail : List Char) (n : Nat), (∀ c ∈ lead, isBlank c = true) →
      (∃ literal, Literal.Spells key literal) → (gap ≠ [] ∧ ∀ c ∈ gap, isBlank c = true) →
      (∀ c ∈ tail, isBlank c = true) → 1 ≤ n → n ≤ Nat.pow 2 64 - 1 →
      parse? (render lead key gap n tail) = some n := by
  refine ⟨fun bytes n => parse?_eq_some_iff, ?_⟩
  rintro lead key gap tail n hlead ⟨literal, hkey⟩ hgap htail hleast hlimit
  exact parse?_eq_some_iff.mpr (isRecord_render hlead hkey hgap htail hleast hlimit)

/-- The greatest record number is read, behind a key that is no number. -/
theorem parse_grammar_greatest :
    (∃ literal, Literal.Spells ['-', 'I', 'n', 'F'] literal) ∧
    parse? (render ['\t'] ['-', 'I', 'n', 'F'] [' ', ' '] (Nat.pow 2 64 - 1) ['\n']) =
      some (Nat.pow 2 64 - 1) := by
  have hkey : Literal.Spells ['-', 'I', 'n', 'F'] (.unbounded true) :=
    .unbounded .minus (Or.inl rfl)
  have hgap : ∀ c ∈ [' ', ' '], isBlank c = true := List.all_eq_true.mp rfl
  exact ⟨⟨_, hkey⟩, parse_grammar.2 ['\t'] ['-', 'I', 'n', 'F'] [' ', ' '] ['\n'] _
    (List.forall_mem_singleton.mpr rfl) ⟨_, hkey⟩ ⟨List.cons_ne_nil _ _, hgap⟩
    (List.forall_mem_singleton.mpr rfl) (by decide) le_rfl⟩

end PlateSolver.Zone.Index
