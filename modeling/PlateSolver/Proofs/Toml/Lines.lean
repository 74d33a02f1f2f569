import PlateSolver.Proofs.Toml.Spelling
import PlateSolver.Proofs.Toml.Table

/-!
# Documents of lines

A document of lines, each of which is a statement, is read as these statements.  A line that is
written for a key is one that assigns its value to the key.

* `Line` — a text that is a statement wherever it begins a line.
* `Line.ofEntry` — the line that is written for a key.
* `read?_lines` — a document of lines is what their statements make of an empty table.
-/

namespace PlateSolver.Toml

/-- **Line.** A text that is read as a statement, whatever stands on the lines after it. -/
structure Line where
  /-- The text, without the end of the line. -/
  text : List Char
  /-- What it is. -/
  statement : Statement
  /-- It may stand in a document. -/
  isProper_text : isProper (text ++ ['\n']) = true
  /-- It is read as its statement and the rest of a line without meaning. -/
  exists_statement? : ∀ (fuel : Nat) (rest : List Char), 2 * text.length + 2 ≤ fuel →
    ∃ after, statement? fuel (text ++ '\n' :: rest) = some (statement, after) ∧
      afterLine? after = some rest

/-! ## Where a statement begins -/

theorem isBare_of_isKey {c : Char} (h : isKey c = true) : isBare c = true := by
  simp only [isKey, Bool.or_eq_true] at h
  rcases h with ((h | h) | h) | h
  all_goals simp [isBare, h]

/-- A character that begins a statement. -/
def beginsStatement (c : Char) : Bool := c == '[' || c == '"' || c == '\'' || isKey c

/-- A key begins with a mark or a character of keys. -/
theorem exists_of_key?_eq_some {text : List Char} {result : String × List Char}
    (h : key? text = some result) : ∃ c rest, text = c :: rest ∧ beginsStatement c = true := by
  cases text with
  | nil => cases h
  | cons c rest =>
      refine ⟨c, rest, rfl, ?_⟩
      by_contra hbegins
      simp only [beginsStatement, Bool.or_eq_true, not_or, Bool.not_eq_true] at hbegins
      obtain ⟨⟨⟨-, hquote⟩, hapostrophe⟩, hkey⟩ := hbegins
      simp [key?, quotedLine?, hquote, hapostrophe, hkey] at h

theorem exists_of_statement?_eq_some {fuel : Nat} {text : List Char}
    {result : Statement × List Char} (h : statement? fuel text = some result) :
    ∃ c rest, text = c :: rest ∧ beginsStatement c = true := by
  unfold statement? at h
  split at h
  · exact ⟨_, _, rfl, rfl⟩
  · exact ⟨_, _, rfl, rfl⟩
  · cases hpath : path? text with
    | none => simp [hpath] at h
    | some path =>
        cases hkey : key? text with
        | none =>
            have hnone : path? text = none := by
              rw [path?, depthLimit, keys?, hkey]
              rfl
            rw [hnone] at hpath
            cases hpath
        | some key => exact exists_of_key?_eq_some hkey

/-- What begins a statement is no blank, no remark and no line end, nor a mark of an encoding. -/
theorem of_beginsStatement {c : Char} (h : beginsStatement c = true) :
    isSpace c = false ∧ c ≠ '#' ∧ c ≠ '\n' ∧ c.toNat ≠ 0xFEFF := by
  have hne : ∀ {d : Char}, beginsStatement d = false → c ≠ d := by
    rintro d hd rfl
    rw [hd] at h
    cases h
  refine ⟨?_, hne (by decide), hne (by decide), ?_⟩
  · simp only [isSpace, Bool.or_eq_false_iff, beq_eq_false_iff_ne]
    exact ⟨⟨hne (by decide), hne (by decide)⟩, hne (by decide)⟩
  · intro hmark
    refine hne (d := Char.ofNat 0xFEFF) (by decide) ?_
    rw [← hmark, Char.ofNat_toNat]

/-- A text that does not begin with a blank is what is left of it after blanks. -/
theorem afterSpace_eq_self {text : List Char} (h : ∀ c, text.head? = some c → isSpace c = false) :
    afterSpace text = text := by
  cases text with
  | nil => rfl
  | cons c rest => simp [afterSpace, h c rfl]

/-! ## Reading lines -/

/-- The text of lines. -/
def linesText (lines : List Line) : List Char := lines.flatMap fun line => line.text ++ ['\n']

theorem linesText_cons (line : Line) (lines : List Line) :
    linesText (line :: lines) = line.text ++ '\n' :: linesText lines := by
  simp [linesText]

theorem Line.exists_text_eq_cons (line : Line) (rest : List Char) :
    ∃ c tail, line.text ++ '\n' :: rest = c :: tail ∧ beginsStatement c = true := by
  obtain ⟨after, hread, -⟩ := line.exists_statement? _ rest le_rfl
  exact exists_of_statement?_eq_some hread

/-- **Lines are read as their statements**, with enough fuel for every line and for all. -/
theorem statementsFrom?_linesText {inner : Nat} (lines : List Line)
    (hinner : ∀ line ∈ lines, 2 * line.text.length + 2 ≤ inner) {fuel : Nat}
    (hfuel : lines.length < fuel) :
    statementsFrom? inner fuel (linesText lines) = some (lines.map Line.statement) := by
  induction lines generalizing fuel with
  | nil =>
      obtain ⟨fuel, rfl⟩ := Nat.exists_eq_add_of_lt hfuel
      rfl
  | cons line rest ih =>
      cases fuel with
      | zero => cases hfuel
      | succ fuel =>
          rw [List.forall_mem_cons] at hinner
          obtain ⟨after, hread, hafter⟩ := line.exists_statement? inner (linesText rest) hinner.1
          obtain ⟨c, tail, htext, hc⟩ := exists_of_statement?_eq_some hread
          obtain ⟨hspace, hremark, hline, -⟩ := of_beginsStatement hc
          have hrest := ih hinner.2 (Nat.lt_of_succ_lt_succ hfuel)
          have hstart : afterRemark (afterSpace (c :: tail)) = c :: tail := by
            rw [afterSpace_eq_self fun d hd => by obtain rfl := Option.some.inj hd; exact hspace]
            unfold afterRemark
            split
            · rename_i heq
              exact absurd (List.cons.inj heq).1 hremark
            · rfl
          rw [linesText_cons, htext, statementsFrom?, hstart]
          split
          · rename_i heq
            cases heq
          · rename_i heq
            exact absurd (List.cons.inj heq).1 hline
          · rw [← htext, hread]
            simp [hafter, hrest]

/-- Every line has its share of the text. -/
theorem length_text_le {line : Line} {lines : List Line} (h : line ∈ lines) :
    line.text.length ≤ (linesText lines).length := by
  induction lines with
  | nil => cases h
  | cons first rest ih =>
      rw [linesText_cons, List.length_append, List.length_cons]
      rcases List.mem_cons.mp h with rfl | hrest
      · omega
      · have := ih hrest
        omega

theorem length_le_length_linesText (lines : List Line) :
    lines.length ≤ (linesText lines).length := by
  induction lines with
  | nil => exact Nat.le_refl _
  | cons line rest ih =>
      rw [linesText_cons, List.length_append, List.length_cons, List.length_cons]
      omega

/-- A text is proper up to a line end and from there on, or not at all. -/
theorem isProper_append (before after : List Char) :
    isProper (before ++ '\n' :: after) = (isProper (before ++ ['\n']) && isProper after) := by
  induction before using isProper.induct with
  | case1 => simp [isProper, isForbidden]
  | case2 rest ih => simpa [isProper] using ih
  | case3 c rest hreturn ih =>
      by_cases hlast : c = '\r' ∧ rest = []
      · rw [hlast.1, hlast.2]
        simp [isProper]
      · have hpair : ∀ tail more, c = '\r' → rest ++ '\n' :: tail = '\n' :: more → False := by
          intro tail more hc heq
          cases rest with
          | nil => exact hlast ⟨hc, rfl⟩
          | cons d rest => exact hreturn rest hc (by rw [(List.cons.inj heq).1])
        rw [List.cons_append, List.cons_append, isProper, isProper, ih, Bool.and_assoc]
        · exact hpair []
        · exact hpair after

theorem isProper_linesText (lines : List Line) : isProper (linesText lines) = true := by
  induction lines with
  | nil => rfl
  | cons line rest ih => rw [linesText_cons, isProper_append, line.isProper_text, ih]; rfl

theorem afterOrderMark_linesText (lines : List Line) :
    afterOrderMark (linesText lines) = linesText lines := by
  cases lines with
  | nil => rfl
  | cons line rest =>
      obtain ⟨c, tail, htext, hc⟩ := line.exists_text_eq_cons (linesText rest)
      rw [linesText_cons, htext, afterOrderMark, if_neg (of_beginsStatement hc).2.2.2]

/-- **A document of lines** is what their statements make of an empty table. -/
theorem read?_linesText (lines : List Line) :
    read? (String.ofList (linesText lines)) = carryOutAll [] [] (lines.map Line.statement) := by
  have hstatements : statements? (linesText lines) = some (lines.map Line.statement) :=
    statementsFrom?_linesText lines
      (fun line hline => by have := length_text_le hline; omega)
      (Nat.lt_succ_of_le (length_le_length_linesText lines))
  rw [read?, String.toList_ofList, afterOrderMark_linesText,
    if_pos (isProper_linesText lines), hstatements]
  rfl

/-! ## Lines for keys -/

/-- A text without forbidden characters is proper. -/
theorem isProper_of_forall {text : List Char} (h : ∀ c ∈ text, isForbidden c = false) :
    isProper text = true := by
  induction text using isProper.induct with
  | case1 => rfl
  | case2 rest ih =>
      rw [isProper]
      exact ih fun c hc => h c (List.mem_cons_of_mem _ (List.mem_cons_of_mem _ hc))
  | case3 c rest hreturn ih =>
      rw [isProper, h c List.mem_cons_self, ih fun d hd => h d (List.mem_cons_of_mem c hd)]
      · rfl
      · exact hreturn

/-- A key that is written without quotes. -/
def isPlainKey (key : String) : Bool := !key.toList.isEmpty && key.toList.all isKey

theorem isPlainKey_iff {key : String} :
    isPlainKey key = true ↔ key.toList ≠ [] ∧ ∀ c ∈ key.toList, isKey c = true := by
  simp [isPlainKey]

/-- A key before an equals sign is read as a path. -/
theorem path?_of_isPlainKey {key : String} (hkey : isPlainKey key = true) (rest : List Char) :
    path? (key.toList ++ ' ' :: '=' :: rest) = some ([key], '=' :: rest) := by
  obtain ⟨hne, hchars⟩ := isPlainKey_iff.mp hkey
  have hblank : isKey ' ' = false := by decide
  have htake : (key.toList ++ ' ' :: '=' :: rest).takeWhile isKey = key.toList := by
    rw [List.takeWhile_append_of_pos hchars, List.takeWhile_cons, hblank]
    simp
  have hdrop : (key.toList ++ ' ' :: '=' :: rest).dropWhile isKey = ' ' :: '=' :: rest := by
    rw [List.dropWhile_append_of_pos hchars, List.dropWhile_cons, hblank]
    simp
  have hread : key? (key.toList ++ ' ' :: '=' :: rest) = some (key, ' ' :: '=' :: rest) := by
    have hempty : key.toList.isEmpty = false := by simpa using hne
    rw [key?, htake, hdrop, hempty, String.ofList_toList]
    rfl
  rw [path?, depthLimit, keys?, hread]
  rfl

section Entry

variable {α : Type} [Writable α] {key : String} {primitive : Primitive α}

/-- The line of a key, without its end. -/
def entryText (key : String) (primitive : Primitive α) : List Char :=
  key.toList ++ [' ', '=', ' '] ++ primitive.spelling

/-- **The line of a key assigns its value.** -/
theorem statement?_entryText (hkey : isPlainKey key = true) (h : primitive.IsReadable)
    (fuel : Nat) (rest : List Char) :
    statement? (fuel + 1) (entryText key primitive ++ '\n' :: rest) =
      some (.assign [key] primitive.value, '\n' :: rest) := by
  have htext : entryText key primitive ++ '\n' :: rest =
      key.toList ++ ' ' :: '=' :: ' ' :: (primitive.spelling ++ '\n' :: rest) := by
    simp [entryText]
  have hpath := path?_of_isPlainKey hkey (' ' :: (primitive.spelling ++ '\n' :: rest))
  have hspace : afterSpace (' ' :: (primitive.spelling ++ '\n' :: rest)) =
      primitive.spelling ++ '\n' :: rest :=
    afterSpace_eq_self fun c hc => Primitive.isSpace_of_head?_spelling h hc
  have hheader : ∀ tail, key.toList ++ ' ' :: '=' :: ' ' ::
      (primitive.spelling ++ '\n' :: rest) ≠ '[' :: tail := by
    intro tail heq
    obtain ⟨hne, hchars⟩ := isPlainKey_iff.mp hkey
    obtain ⟨c, more, hmore⟩ := List.exists_cons_of_ne_nil hne
    rw [hmore, List.cons_append] at heq
    have hc := hchars c (hmore ▸ List.mem_cons_self)
    rw [(List.cons.inj heq).1] at hc
    exact absurd hc (by decide)
  rw [htext]
  unfold statement?
  split
  · rename_i heq
    exact absurd heq (hheader _)
  · rename_i heq
    exact absurd heq (hheader _)
  · rw [hpath]
    simp [hspace, Primitive.value?_spelling h]

/-- The characters of the line of a key may stand in a document. -/
theorem isForbidden_of_mem_entryText (hkey : isPlainKey key = true) (h : primitive.IsReadable) :
    ∀ c ∈ entryText key primitive, isForbidden c = false := by
  refine List.forall_mem_append.mpr ⟨List.forall_mem_append.mpr
    ⟨fun c hc => ?_, forall_isForbidden_of_any rfl⟩, Primitive.isForbidden_of_mem_spelling h⟩
  exact isForbidden_of_isBare (isBare_of_isKey ((isPlainKey_iff.mp hkey).2 c hc))

/-- **The line that is written for a key.** -/
def Line.ofEntry (key : String) (primitive : Primitive α) (hkey : isPlainKey key = true)
    (h : primitive.IsReadable) : Line where
  text := entryText key primitive
  statement := .assign [key] primitive.value
  isProper_text := isProper_of_forall (List.forall_mem_append.mpr
    ⟨isForbidden_of_mem_entryText hkey h, forall_isForbidden_of_any rfl⟩)
  exists_statement? := fun fuel rest hfuel => by
    obtain ⟨fuel, rfl⟩ : ∃ less, fuel = less + 1 := ⟨fuel - 1, by omega⟩
    exact ⟨_, statement?_entryText hkey h fuel rest, rfl⟩

/-- It is written as such. -/
theorem line_eq (key : String) (primitive : Primitive α) :
    line key primitive = entryText key primitive ++ ['\n'] := rfl

end Entry

end PlateSolver.Toml
