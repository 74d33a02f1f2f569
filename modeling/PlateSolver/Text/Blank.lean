/-!
# Blank space

A blank is a character with the Unicode property `White_Space`.  Header texts,
index records and sexagesimal values are trimmed and split at blanks.

* `isBlank` — the property.
* `trim` — a text without the blanks at its two ends.
* `split`, `fields` — the parts of a text between separators, and the non-empty ones.
-/

namespace PlateSolver.Text

/-- The Unicode property `White_Space`, all twenty-five characters. -/
def isBlank (c : Char) : Bool :=
  let n := c.toNat
  (9 ≤ n && n ≤ 13) || n == 0x20 || n == 0x85 || n == 0xA0 || n == 0x1680 ||
    (0x2000 ≤ n && n ≤ 0x200A) || n == 0x2028 || n == 0x2029 || n == 0x202F ||
    n == 0x205F || n == 0x3000

/-- A text without the blanks at its two ends. -/
def trim (text : List Char) : List Char :=
  ((text.dropWhile isBlank).reverse.dropWhile isBlank).reverse

/-- The parts of a text between separators; there is one more of them than separators. -/
def split (separates : Char → Bool) : List Char → List (List Char)
  | [] => [[]]
  | c :: rest =>
    if separates c then [] :: split separates rest
    else match split separates rest with
      | part :: parts => (c :: part) :: parts
      | [] => [[c]]

theorem split_ne_nil (separates : Char → Bool) (text : List Char) : split separates text ≠ [] := by
  cases text with
  | nil => simp [split]
  | cons c rest =>
      rw [split]
      split
      · simp
      · split <;> simp

/-- A separator ends a part and begins another one. -/
theorem split_append_cons {separates : Char → Bool} {c : Char} (hc : separates c)
    (before after : List Char) :
    split separates (before ++ c :: after) = split separates before ++ split separates after := by
  induction before with
  | nil => simp [split, hc]
  | cons d before ih =>
      by_cases hd : separates d
      · simp [split, hd, ih]
      · rw [List.cons_append, split, split, if_neg hd, if_neg hd, ih]
        rcases hparts : split separates before with _ | ⟨part, parts⟩
        · exact absurd hparts (split_ne_nil separates before)
        · rfl

/-- A text without separators is one part. -/
theorem split_eq_singleton {separates : Char → Bool} {text : List Char}
    (h : ∀ c ∈ text, separates c = false) : split separates text = [text] := by
  induction text with
  | nil => rfl
  | cons c rest ih =>
      rw [split, h c List.mem_cons_self, ih fun d hd => h d (List.mem_cons_of_mem c hd)]
      rfl

/-- The non-empty parts of a text between separators. -/
def fields (separates : Char → Bool) (text : List Char) : List (List Char) :=
  (split separates text).filter fun part => !part.isEmpty

end PlateSolver.Text
