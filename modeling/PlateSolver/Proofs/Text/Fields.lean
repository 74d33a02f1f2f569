import PlateSolver.Text.Blank

/-!
# Texts laid out in fields

The fields of a text are the runs of characters between separators.  The function that finds them
splits at every single separator and then leaves out what is empty.  What it finds can be said
without splitting anything: a text is laid out in fields if it is put together from them, with
separators before, between and after them, and there is only one way in which a text is.

* `LaidOut` — a text put together from its fields.
* `fields_eq_iff` — the fields that are found are those of which the text is put together.
-/

namespace PlateSolver.Text

variable {separates : Char → Bool}

/-- **A text laid out in fields.** -/
inductive LaidOut (separates : Char → Bool) : List Char → List (List Char) → Prop where
  /-- Separators alone are no field. -/
  | done {tail : List Char} (htail : ∀ c ∈ tail, separates c = true) : LaidOut separates tail []
  /-- Separators, a field, and what follows it from the next separator on. -/
  | field {lead part rest : List Char} {parts : List (List Char)}
      (hlead : ∀ c ∈ lead, separates c = true)
      (hpart : part ≠ [] ∧ ∀ c ∈ part, separates c = false)
      (hrest : ∀ c, rest.head? = some c → separates c = true)
      (hparts : LaidOut separates rest parts) :
      LaidOut separates (lead ++ (part ++ rest)) (part :: parts)

/-! ## What is found -/

/-- A separator belongs to no field. -/
theorem fields_cons_of_separates {c : Char} (hc : separates c = true) (text : List Char) :
    fields separates (c :: text) = fields separates text := by
  rw [fields, split, if_pos hc, List.filter_cons_of_neg (by simp)]
  rfl

theorem fields_append_of_separates {lead : List Char} (hlead : ∀ c ∈ lead, separates c = true)
    (text : List Char) : fields separates (lead ++ text) = fields separates text := by
  induction lead with
  | nil => rfl
  | cons c lead ih =>
      obtain ⟨hc, hlead⟩ := List.forall_mem_cons.mp hlead
      rw [List.cons_append, fields_cons_of_separates hc, ih hlead]

/-- A field ends where a separator or nothing follows. -/
theorem fields_part_append {part rest : List Char}
    (hpart : part ≠ [] ∧ ∀ c ∈ part, separates c = false)
    (hrest : ∀ c, rest.head? = some c → separates c = true) :
    fields separates (part ++ rest) = part :: fields separates rest := by
  obtain ⟨hne, hpart⟩ := hpart
  cases rest with
  | nil =>
      rw [List.append_nil, fields, split_eq_singleton hpart,
        List.filter_cons_of_pos (by simpa using hne)]
      rfl
  | cons c rest =>
      have hc := hrest c rfl
      rw [fields_cons_of_separates hc, fields, split_append_cons hc, split_eq_singleton hpart,
        List.singleton_append, List.filter_cons_of_pos (by simpa using hne)]
      rfl

/-- A text that is laid out in fields has these fields. -/
theorem LaidOut.fields_eq {text : List Char} {parts : List (List Char)}
    (h : LaidOut separates text parts) : fields separates text = parts := by
  induction h with
  | done htail =>
      have hfields := fields_append_of_separates htail []
      rwa [List.append_nil] at hfields
  | field hlead hpart hrest _ ih =>
      rw [fields_append_of_separates hlead, fields_part_append hpart hrest, ih]

/-! ## Every text is laid out in fields -/

theorem LaidOut.cons_of_separates {c : Char} {text : List Char} {parts : List (List Char)}
    (hc : separates c = true) (h : LaidOut separates text parts) :
    LaidOut separates (c :: text) parts := by
  cases h with
  | done htail => exact .done (List.forall_mem_cons.mpr ⟨hc, htail⟩)
  | field hlead hpart hrest hparts =>
      exact .field (List.forall_mem_cons.mpr ⟨hc, hlead⟩) hpart hrest hparts

/-- Another character makes the first field longer, or is a field of its own. -/
theorem LaidOut.exists_cons {c : Char} {text : List Char} {parts : List (List Char)}
    (hc : separates c = false) (h : LaidOut separates text parts) :
    ∃ parts', LaidOut separates (c :: text) parts' := by
  have hsingle : [c] ≠ [] ∧ ∀ d ∈ [c], separates d = false :=
    ⟨List.cons_ne_nil c [], List.forall_mem_singleton.mpr hc⟩
  have hnone : ∀ d ∈ ([] : List Char), separates d = true := fun d hd => by cases hd
  cases h with
  | done htail =>
      exact ⟨_, .field hnone hsingle (fun d hd => htail d (List.mem_of_head? hd)) (.done htail)⟩
  | @field lead part rest parts hlead hpart hrest hparts =>
      cases lead with
      | nil =>
          have hlonger : c :: part ≠ [] ∧ ∀ d ∈ c :: part, separates d = false :=
            ⟨List.cons_ne_nil c part, List.forall_mem_cons.mpr ⟨hc, hpart.2⟩⟩
          exact ⟨_, .field hnone hlonger hrest hparts⟩
      | cons d lead =>
          refine ⟨_, .field hnone hsingle ?_ (.field hlead hpart hrest hparts)⟩
          intro e he
          obtain rfl : d = e := Option.some.inj he
          exact hlead d List.mem_cons_self

theorem exists_laidOut (separates : Char → Bool) (text : List Char) :
    ∃ parts, LaidOut separates text parts := by
  induction text with
  | nil => exact ⟨[], .done fun c hc => by cases hc⟩
  | cons c text ih =>
      obtain ⟨parts, hparts⟩ := ih
      cases hc : separates c with
      | true => exact ⟨parts, hparts.cons_of_separates hc⟩
      | false => exact hparts.exists_cons hc

/-- **The fields of a text** are those in which it is laid out. -/
theorem fields_eq_iff {text : List Char} {parts : List (List Char)} :
    fields separates text = parts ↔ LaidOut separates text parts := by
  constructor
  · rintro rfl
    obtain ⟨parts, hparts⟩ := exists_laidOut separates text
    rwa [hparts.fields_eq]
  · exact LaidOut.fields_eq

/-- A field is no longer than the text. -/
theorem LaidOut.length_le {text part : List Char} {parts : List (List Char)}
    (h : LaidOut separates text parts) (hpart : part ∈ parts) : part.length ≤ text.length := by
  induction h with
  | done => cases hpart
  | field _ _ _ _ ih =>
      simp only [List.length_append]
      rcases List.mem_cons.mp hpart with rfl | hpart
      · omega
      · have := ih hpart
        omega

/-! ## Trimmed texts -/

theorem length_trim_le (text : List Char) : (trim text).length ≤ text.length := by
  have hlength (run : List Char) : (run.dropWhile isBlank).length ≤ run.length :=
    (List.dropWhile_sublist isBlank).length_le
  rw [trim, List.length_reverse]
  refine Nat.le_trans (hlength _) ?_
  rw [List.length_reverse]
  exact hlength text

/-- A text that has no blank in it is trimmed already. -/
theorem trim_eq_self {text : List Char} (h : ∀ c ∈ text, isBlank c = false) :
    trim text = text := by
  have hkept {run : List Char} (hrun : ∀ c ∈ run, isBlank c = false) :
      run.dropWhile isBlank = run := by
    cases run with
    | nil => rfl
    | cons c run =>
        rw [List.dropWhile_cons, hrun c List.mem_cons_self, if_neg Bool.false_ne_true]
  rw [trim, hkept h, hkept fun c hc => h c (List.mem_reverse.mp hc), List.reverse_reverse]

end PlateSolver.Text
