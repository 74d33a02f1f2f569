import PlateSolver.Proofs.Angle.Sexagesimal
import PlateSolver.Proofs.Arithmetic.Error
import PlateSolver.Proofs.Decimal.Reading

/-!
# Which texts are read as sexagesimal values

A sexagesimal text is a sign and one to three fields, each of them a number in decimal notation
that is not negative.  All such texts are read, and as long as the fields are not too large for the
format, what is read differs from what the text stands for by no more than a few roundings.  They
are not the only ones that are read.  A field is read as any literal is, and rejected if the value
is below zero; but the words for values that are no numbers are not below zero, nor is a negative
number that is rounded to zero.

* `TakenApart` — a text as a sign and fields, and `exists_takenApart`: every text is one.
* `Writes`, `IsNumber`, `worth` — the texts that stand for a number, and the number.
* `Stray`, `Misleading` — fields that are read although they are none, and texts with such fields.
* `exists_parse?_iff` — these two kinds of texts are read, and no others.
* `HasWord.not_isFinite` — a text with a word in it is read as no finite number.
* `near_total` — adding fields up, in roundings.
* `Writes.exists_near` — a text that writes a number is read as that number, up to nine of them.
-/

namespace PlateSolver.Sexagesimal

open Literal (Sign Denotes Spells Numeral)
open Double

/-! ## Texts taken apart -/

/-- **A text taken apart**: without the blanks at its two ends it begins with a sign, if it has
one, and is laid out in fields behind it. -/
def TakenApart (text : String) (sign : Sign) (fields : List (List Char)) : Prop :=
  ∃ body, Text.trim text.toList = sign.text ++ body ∧
    (sign = .absent → ∀ c, body.head? = some c → c ≠ '-' ∧ c ≠ '+') ∧
    Text.LaidOut separates body fields

variable {text : String} {sign : Sign} {fields : List (List Char)}

theorem TakenApart.parts_eq (h : TakenApart text sign fields) :
    parts text = (sign.isMinus, fields) := by
  obtain ⟨body, htext, hhead, hlaid⟩ := h
  have hsplit : Literal.splitSign (Text.trim text.toList) = (sign.isMinus, body) := by
    rw [htext]
    cases sign with
    | absent => exact Sign.absent.splitSign_append (hhead rfl)
    | plus | minus => rfl
  rw [parts, hsplit]
  exact congrArg (Prod.mk sign.isMinus) hlaid.fields_eq

/-- **Every text can be taken apart.** -/
theorem exists_takenApart (text : String) : ∃ sign fields, TakenApart text sign fields := by
  obtain ⟨sign, body, htext, hsplit⟩ := Sign.exists_splitSign (Text.trim text.toList)
  refine ⟨sign, Text.fields separates body, body, htext, ?_, Text.fields_eq_iff.mp rfl⟩
  rintro rfl c hc
  rw [htext] at hsplit
  obtain ⟨rest, rfl⟩ := List.head?_eq_some_iff.mp hc
  constructor
  · rintro rfl
    exact Bool.noConfusion (congrArg Prod.fst hsplit)
  · rintro rfl
    exact absurd (congrArg (List.length ∘ Prod.snd) hsplit) (Nat.succ_ne_self _).symm

/-- A field is no longer than the text. -/
theorem TakenApart.length_le (h : TakenApart text sign fields) {field : List Char}
    (hfield : field ∈ fields) : field.length ≤ text.length := by
  obtain ⟨body, htext, -, hlaid⟩ := h
  calc field.length ≤ body.length := hlaid.length_le hfield
    _ ≤ (sign.text ++ body).length := by
        rw [List.length_append]
        exact Nat.le_add_left _ _
    _ ≤ text.toList.length := htext ▸ Text.length_trim_le text.toList
    _ = text.length := String.length_toList

/-! ## Texts that stand for a number -/

/-- A field that stands for a number, which is not negative. -/
def FieldOf (field : List Char) (size : ℝ) : Prop := Denotes field size ∧ 0 ≤ size

/-- **A text that writes a number** as a sign and one to three fields. -/
structure Writes (text : String) (sign : Sign) (sizes : List ℝ) : Prop where
  /-- The fields stand for the sizes. -/
  exists_fields : ∃ fields, TakenApart text sign fields ∧ List.Forall₂ FieldOf fields sizes
  /-- There is a field. -/
  ne_nil : sizes ≠ []
  /-- There are no more than three. -/
  length_le : sizes.length ≤ 3

/-- **The number that a text writes.** Fields left out count as zero. -/
noncomputable def worth (sign : Sign) (sizes : List ℝ) : ℝ :=
  (if sign.isMinus then -1 else 1) *
    (sizes.getD 0 0 + sizes.getD 1 0 / ((60 : ℕ) : ℝ) + sizes.getD 2 0 / ((3600 : ℕ) : ℝ))

/-- A text that writes a number. -/
def IsNumber (text : String) : Prop := ∃ sign sizes, Writes text sign sizes

/-- A word for a value beyond every bound, or for no value. -/
def IsWord (field : List Char) : Prop :=
  Spells field (.unbounded false) ∨ Spells field .undefined

/-- A text with a word among its fields. -/
def HasWord (text : String) : Prop :=
  ∃ sign fields, TakenApart text sign fields ∧ ∃ field ∈ fields, IsWord field

/-- **A stray field**: it stands for no number, or for one below zero, and is read all the same. -/
inductive Stray (field : List Char) : Prop
  /-- A word. -/
  | word (h : IsWord field)
  /-- A number below zero that is too small for the format. -/
  | vanishing (n : Numeral) (htext : n.text = field) (hneg : n.number < 0)
    (hread : value? (ofLiteral n.literal) = some ((0 : ℝ) : EReal))

/-- **A misleading text**: one to three fields, and a stray one among them. -/
def Misleading (text : String) : Prop :=
  ∃ sign fields, TakenApart text sign fields ∧ fields.length ≤ 3 ∧
    (∀ field ∈ fields, (∃ size, FieldOf field size) ∨ Stray field) ∧ ∃ field ∈ fields, Stray field

/-! ## Which fields are read -/

section Fields

variable {field : List Char}

/-- A field is read as the literal that it spells, unless that is below zero. -/
theorem field?_eq_some_iff {v : Float} :
    field? field = some v ↔ ∃ literal, Spells field literal ∧ ofLiteral literal = v ∧ ¬ v < 0 := by
  simp only [field?, Option.filter_eq_some_iff, Readable.read?, Option.bind_eq_some_iff,
    Literal.read?_eq_some_iff, Readable.ofLiteral?, Option.some.injEq, Bool.not_eq_true',
    decide_eq_false_iff_not]
  rw [← exists_and_right]
  simp only [and_assoc]

/-- Fields that stand for a number are read. -/
theorem FieldOf.exists_near {size : ℝ} (h : FieldOf field size) :
    ∃ v : Float, field? field = some v ∧
      (field.length ≤ 60000 → size ≤ 2 ^ 1021 → Near 1 v size) := by
  obtain ⟨⟨n, rfl, rfl⟩, hnonneg⟩ := h
  obtain ⟨p, hp, hsign, -, hrounds⟩ := n.value?_ofLiteral
  refine ⟨ofLiteral n.literal, field?_eq_some_iff.mpr ⟨_, .number n, rfl, ?_⟩,
    fun hlength hmax => ?_⟩
  · exact fun hlt => ((lt_iff_of_value hp value?_zero).mp hlt).not_ge (hsign hnonneg)
  · refine Near.of_rounds hp (hrounds hlength) hnonneg ?_ (Nat.zero_le _) hnonneg ?_
    · simp
    · exact hmax.trans (pow_le_pow_right₀ one_le_two (by norm_num))

/-- Digits are a field that counts their number. -/
theorem fieldOf_of_isDigit (h : field ≠ [] ∧ ∀ c ∈ field, Literal.isDigit c = true) :
    FieldOf field (Literal.value 0 field) := ⟨Literal.denotes_of_isDigit h, Nat.cast_nonneg _⟩

/-- Stray fields are read, too. -/
theorem Stray.exists_field? (h : Stray field) : ∃ v : Float, field? field = some v := by
  cases h with
  | word h =>
      rcases h with h | h
      · refine ⟨_, field?_eq_some_iff.mpr ⟨_, h, rfl, fun hlt => ?_⟩⟩
        exact ((lt_iff_of_value value?_unbounded value?_zero).mp hlt).not_ge le_top
      · exact ⟨_, field?_eq_some_iff.mpr ⟨_, h, rfl, not_lt_of_undefined (.inl value?_undefined)⟩⟩
  | vanishing n htext hneg hread =>
      refine ⟨_, field?_eq_some_iff.mpr ⟨_, htext ▸ Spells.number n, rfl, fun hlt => ?_⟩⟩
      exact ((lt_iff_of_value hread value?_zero).mp hlt).false

/-- **What is read as a field** stands for a number that is not negative, or is a stray field. -/
theorem exists_field?_iff :
    (∃ v : Float, field? field = some v) ↔ (∃ size, FieldOf field size) ∨ Stray field := by
  constructor
  · rintro ⟨v, hv⟩
    obtain ⟨literal, hspells, rfl, hnonneg⟩ := field?_eq_some_iff.mp hv
    cases literal with
    | unbounded negative =>
        cases negative with
        | false => exact .inr (.word (.inl hspells))
        | true =>
            exact absurd ((lt_iff_of_value value?_negUnbounded value?_zero).mpr EReal.bot_lt_zero)
              hnonneg
    | undefined => exact .inr (.word (.inr hspells))
    | number negative digits exponent =>
        generalize hliteral : Literal.number negative digits exponent = literal at *
        cases hspells with
        | unbounded | undefined => cases hliteral
        | number n =>
            rcases le_or_gt 0 n.number with hnumber | hnumber
            · exact .inl ⟨n.number, ⟨n, rfl, rfl⟩, hnumber⟩
            · obtain ⟨p, hp, -, hsign, -⟩ := n.value?_ofLiteral
              have hzero : 0 ≤ p := le_of_not_gt fun hlt =>
                hnonneg ((lt_iff_of_value hp value?_zero).mpr hlt)
              obtain rfl : p = 0 := le_antisymm (hsign hnumber) hzero
              exact .inr (.vanishing n rfl hnumber hp)
  · rintro (⟨size, h⟩ | h)
    · obtain ⟨v, hv, -⟩ := h.exists_near
      exact ⟨v, hv⟩
    · exact h.exists_field?

/-- What a word is read as is not finite. -/
theorem IsWord.not_isFinite (h : IsWord field) {v : Float} (hv : field? field = some v) :
    ¬ IsFinite v := by
  rintro ⟨p, hp⟩
  obtain ⟨literal, hspells, rfl, -⟩ := field?_eq_some_iff.mp hv
  rcases h with h | h
  · rw [← h.eq hspells, value?_unbounded] at hp
    exact EReal.coe_ne_top p (Option.some.inj hp).symm
  · rw [← h.eq hspells, value?_undefined] at hp
    cases hp

/-- A stray field stands for nothing that a field can. -/
theorem Stray.not_fieldOf (h : Stray field) (size : ℝ) : ¬ FieldOf field size := by
  rintro ⟨⟨n, rfl, rfl⟩, hnonneg⟩
  cases h with
  | word h =>
      rcases h with h | h
      · exact Literal.noConfusion (h.eq (.number n))
      · exact Literal.noConfusion (h.eq (.number n))
  | vanishing m htext hneg hread =>
      have hliteral := (htext ▸ Spells.number m : Spells n.text m.literal).eq (.number n)
      exact hnonneg.not_gt ((Numeral.number_neg_congr hliteral).mp hneg)

end Fields

/-! ## Which texts are read -/

section Lists

variable {β γ : Type} {read : β → Option γ} {items : List β} {values : List γ}

theorem mapM_eq_some_iff :
    items.mapM read = some values ↔
      List.Forall₂ (fun item v => read item = some v) items values := by
  induction items generalizing values with
  | nil => simp [eq_comm]
  | cons item items ih =>
      rw [List.mapM_cons, List.forall₂_cons_left_iff]
      simp only [Option.bind_eq_bind, Option.bind_eq_some_iff, ih, Option.pure_def,
        Option.some.injEq]
      constructor
      · rintro ⟨v, hv, values, hvalues, rfl⟩
        exact ⟨v, values, hv, hvalues, rfl⟩
      · rintro ⟨v, values, hv, hvalues, rfl⟩
        exact ⟨v, hv, values, hvalues, rfl⟩

theorem exists_mem_of_forall₂ {R : β → γ → Prop} (h : List.Forall₂ R items values) {item : β}
    (hitem : item ∈ items) : ∃ v ∈ values, R item v := by
  induction h with
  | nil => cases hitem
  | @cons first v items values hfirst hrest ih =>
      rcases List.mem_cons.mp hitem with rfl | hitem
      · exact ⟨v, List.mem_cons_self, hfirst⟩
      · obtain ⟨u, hu, hrelated⟩ := ih hitem
        exact ⟨u, List.mem_cons_of_mem v hu, hrelated⟩

/-- One by one, or all in a list. -/
theorem exists_forall₂_iff {R : β → γ → Prop} :
    (∃ values, List.Forall₂ R items values) ↔ ∀ item ∈ items, ∃ v, R item v := by
  constructor
  · rintro ⟨values, hvalues⟩ item hitem
    obtain ⟨v, -, hv⟩ := exists_mem_of_forall₂ hvalues hitem
    exact ⟨v, hv⟩
  · intro h
    induction items with
    | nil => exact ⟨[], .nil⟩
    | cons item items ih =>
        obtain ⟨⟨v, hv⟩, hitems⟩ := List.forall_mem_cons.mp h
        obtain ⟨values, hvalues⟩ := ih hitems
        exact ⟨v :: values, .cons hv hvalues⟩

/-- What is between two related lists, one by one. -/
theorem exists_forall₂_between {δ : Type} {R : β → δ → Prop} {S : β → γ → Prop} {T : γ → δ → Prop}
    {others : List δ} (h : List.Forall₂ R items others)
    (hbetween : ∀ item ∈ items, ∀ other ∈ others, R item other → ∃ v, S item v ∧ T v other) :
    ∃ values, List.Forall₂ S items values ∧ List.Forall₂ T values others := by
  induction h with
  | nil => exact ⟨[], .nil, .nil⟩
  | @cons item other items others hfirst hrest ih =>
      obtain ⟨v, hv, hother⟩ :=
        hbetween item List.mem_cons_self other List.mem_cons_self hfirst
      obtain ⟨values, hvalues, hothers⟩ := ih fun i hi o ho =>
        hbetween i (List.mem_cons_of_mem item hi) o (List.mem_cons_of_mem other ho)
      exact ⟨v :: values, .cons hv hvalues, .cons hother hothers⟩

end Lists

/-- **What is read** is the total of one to three fields, with the sign of the text. -/
theorem TakenApart.parse?_eq_some_iff (h : TakenApart text sign fields) {v : Float} :
    parse? text = some v ↔ (fields ≠ [] ∧ fields.length ≤ 3) ∧
      ∃ values, List.Forall₂ (fun field u => field? field = some u) fields values ∧
        (if sign.isMinus then -total 0 1 values else total 0 1 values) = v := by
  simp only [← mapM_eq_some_iff]
  constructor
  · intro hv
    rw [parse?, h.parts_eq] at hv
    dsimp only at hv
    by_cases hcount : (fields.isEmpty || decide (3 < fields.length)) = true
    · rw [if_pos hcount] at hv
      cases hv
    · rw [if_neg hcount, Option.map_eq_some_iff] at hv
      exact ⟨by simpa using hcount, hv⟩
  · rintro ⟨⟨hne, hlength⟩, values, hvalues, rfl⟩
    exact parse?_of_parts h.parts_eq hne hlength hvalues

theorem TakenApart.exists_parse?_iff (h : TakenApart text sign fields) :
    (∃ v : Float, parse? text = some v) ↔
      (fields ≠ [] ∧ fields.length ≤ 3) ∧ ∀ field ∈ fields, ∃ v : Float, field? field = some v := by
  rw [← exists_forall₂_iff]
  simp only [h.parse?_eq_some_iff]
  constructor
  · rintro ⟨v, hcount, values, hvalues, -⟩
    exact ⟨hcount, values, hvalues⟩
  · rintro ⟨hcount, values, hvalues⟩
    exact ⟨_, hcount, values, hvalues, rfl⟩

/-- The fields and the sign of a text are what it is taken apart into. -/
theorem TakenApart.eq {sign' : Sign} {fields' : List (List Char)} (h : TakenApart text sign fields)
    (h' : TakenApart text sign' fields') : sign.isMinus = sign'.isMinus ∧ fields = fields' :=
  Prod.mk.inj (h.parts_eq.symm.trans h'.parts_eq)

theorem TakenApart.isNumber_iff (h : TakenApart text sign fields) :
    IsNumber text ↔
      (fields ≠ [] ∧ fields.length ≤ 3) ∧ ∀ field ∈ fields, ∃ size, FieldOf field size := by
  rw [← exists_forall₂_iff]
  constructor
  · rintro ⟨sign', sizes, ⟨fields', h', hsizes⟩, hne, hlength⟩
    obtain ⟨-, rfl⟩ := h.eq h'
    have heq := hsizes.length_eq
    refine ⟨⟨?_, heq.trans_le hlength⟩, sizes, hsizes⟩
    rintro rfl
    exact hne (List.length_eq_zero_iff.mp heq.symm)
  · rintro ⟨⟨hne, hlength⟩, sizes, hsizes⟩
    have heq := hsizes.length_eq
    refine ⟨sign, sizes, ⟨fields, h, hsizes⟩, ?_, heq.symm.trans_le hlength⟩
    rintro rfl
    exact hne (List.length_eq_zero_iff.mp heq)

/-- A text that writes a number is not misleading. -/
theorem Misleading.not_isNumber (h : Misleading text) : ¬ IsNumber text := by
  obtain ⟨sign, fields, htaken, -, -, field, hfield, hstray⟩ := h
  intro hnumber
  obtain ⟨size, hsize⟩ := (htaken.isNumber_iff.mp hnumber).2 field hfield
  exact hstray.not_fieldOf size hsize

/-- **The texts that are read** write a number or are misleading. -/
theorem exists_parse?_iff (text : String) :
    (∃ v : Float, parse? text = some v) ↔ IsNumber text ∨ Misleading text := by
  obtain ⟨sign, fields, h⟩ := exists_takenApart text
  simp only [h.exists_parse?_iff, exists_field?_iff]
  constructor
  · rintro ⟨hcount, hfields⟩
    by_cases hstray : ∃ field ∈ fields, Stray field
    · exact .inr ⟨sign, fields, h, hcount.2, hfields, hstray⟩
    · push Not at hstray
      exact .inl (h.isNumber_iff.mpr ⟨hcount, fun field hfield =>
        (hfields field hfield).resolve_right (hstray field hfield)⟩)
  · rintro (hnumber | ⟨sign', fields', h', hlength, hfields, field, hfield, -⟩)
    · obtain ⟨hcount, hfields⟩ := h.isNumber_iff.mp hnumber
      exact ⟨hcount, fun field hfield => .inl (hfields field hfield)⟩
    · obtain ⟨-, rfl⟩ := h.eq h'
      exact ⟨⟨List.ne_nil_of_mem hfield, hlength⟩, hfields⟩

/-! ## What is read of a word -/

/-- A total is finite only if all of its fields are. -/
theorem isFinite_of_total {values : List Float} {value scale : Float}
    (h : IsFinite (total value scale values)) : IsFinite value ∧ ∀ v ∈ values, IsFinite v := by
  induction values generalizing value scale with
  | nil => exact ⟨h, List.forall_mem_nil _⟩
  | cons v values ih =>
      obtain ⟨hsum, hvalues⟩ := ih h
      obtain ⟨hvalue, hpart⟩ := hsum.of_add
      exact ⟨hvalue, List.forall_mem_cons.mpr ⟨hpart.of_div, hvalues⟩⟩

/-- **A text with a word among its fields** is read as no finite number. -/
theorem HasWord.not_isFinite (h : HasWord text) {v : Float} (hv : parse? text = some v) :
    ¬ IsFinite v := by
  obtain ⟨sign, fields, htaken, field, hfield, hword⟩ := h
  obtain ⟨-, values, hvalues, rfl⟩ := htaken.parse?_eq_some_iff.mp hv
  obtain ⟨u, hu, hread⟩ := exists_mem_of_forall₂ hvalues hfield
  intro hfinite
  have htotal : IsFinite (total 0 1 values) := by
    split_ifs at hfinite
    · exact hfinite.of_neg
    · exact hfinite
  exact hword.not_isFinite hread ((isFinite_of_total htotal).2 u hu)

/-! ## What is read of a number -/

/-- Sizes each of which counts a sixtieth of the one before. -/
noncomputable def sixtieths (unit : ℕ) : List ℝ → ℝ
  | [] => 0
  | size :: rest => size / unit + sixtieths (unit * 60) rest

theorem sixtieths_nonneg {unit : ℕ} {sizes : List ℝ} (h : ∀ size ∈ sizes, 0 ≤ size) :
    0 ≤ sixtieths unit sizes := by
  induction sizes generalizing unit with
  | nil => exact le_rfl
  | cons size sizes ih =>
      obtain ⟨hsize, hsizes⟩ := List.forall_mem_cons.mp h
      exact add_nonneg (div_nonneg hsize (Nat.cast_nonneg unit)) (ih hsizes)

/-- What a unit is divided by is known exactly, as long as it fits into a mantissa. -/
theorem value?_mul_sixty {scale : Float} {unit : ℕ} (h : value? scale = some ((unit : ℝ) : EReal))
    (hunit : unit * 60 < 2 ^ 53) : value? (scale * 60) = some (((unit * 60 : ℕ) : ℝ) : EReal) := by
  have hsixty : value? (60 : Float) = some (((60 : ℕ) : ℝ) : EReal) := value?_ofNat (by norm_num)
  obtain ⟨p, hp, hrounds⟩ := value?_mul h hsixty (by norm_num)
  rw [← EReal.coe_mul, ← Nat.cast_mul] at hrounds
  rw [hp, hrounds.eq_of_number (number_natCast hunit)]

/-- **Adding fields up** takes three roundings for each of them. -/
theorem near_total {values : List Float} {sizes : List ℝ} (h : List.Forall₂ (Near 1) values sizes)
    {k unit : ℕ} {value scale : Float} {x : ℝ} (hvalue : Near k value x)
    (hscale : value? scale = some ((unit : ℝ) : EReal)) (hone : 1 ≤ unit)
    (hunit : unit * 60 ^ sizes.length < 2 ^ 53) (hk : k + 3 * sizes.length ≤ 2 ^ 50) (hx : 0 ≤ x)
    (hsizes : ∀ size ∈ sizes, 0 ≤ size ∧ size ≤ 2 ^ 1022)
    (hmax : x + sixtieths unit sizes ≤ 2 ^ 1022) :
    Near (k + 3 * sizes.length) (total value scale values) (x + sixtieths unit sizes) := by
  induction h generalizing k unit value scale x with
  | nil => simpa [sixtieths, total] using hvalue
  | @cons v size values sizes hfield hrest ih =>
      obtain ⟨⟨hsize, hlarge⟩, hsizes⟩ := List.forall_mem_cons.mp hsizes
      rw [List.length_cons] at hk hunit ⊢
      rw [sixtieths, ← add_assoc] at hmax ⊢
      have hafter : 0 ≤ sixtieths (unit * 60) sizes :=
        sixtieths_nonneg fun s hs => (hsizes s hs).1
      have hpart : 0 ≤ size / unit := div_nonneg hsize (Nat.cast_nonneg unit)
      have hscaled := hfield.div hscale (by exact_mod_cast hone) (by norm_num) hsize hlarge
      have hpartial : x + size / unit ≤ 2 ^ 1022 := (le_add_of_nonneg_right hafter).trans hmax
      have hadded := hvalue.add hscaled (by omega) hx hpart hpartial
      have hnext : unit * 60 < 2 ^ 53 := by
        refine lt_of_le_of_lt ?_ hunit
        rw [pow_succ']
        gcongr
        exact Nat.le_mul_of_pos_right 60 (by positivity)
      have hsum := ih hadded (value?_mul_sixty hscale hnext) (by omega)
        (by rwa [mul_assoc, ← pow_succ']) (by omega) (by positivity) hsizes hmax
      rw [total]
      convert hsum using 1
      omega

/-- What is counted in sixtieths adds up to less than as much again. -/
theorem sixtieths_le {unit : ℕ} {sizes : List ℝ} {bound : ℝ} (hbound : 0 ≤ bound)
    (h : ∀ size ∈ sizes, size ≤ bound) (hunit : 0 < unit) :
    sixtieths unit sizes ≤ 2 * bound / unit := by
  induction sizes generalizing unit with
  | nil => exact div_nonneg (by positivity) (Nat.cast_nonneg unit)
  | cons size sizes ih =>
      obtain ⟨hsize, hsizes⟩ := List.forall_mem_cons.mp h
      have hrest : sixtieths (unit * 60) sizes ≤ 2 * bound / (unit * 60 : ℕ) :=
        ih hsizes (by omega)
      have hpos : (0 : ℝ) < unit := Nat.cast_pos.mpr hunit
      calc size / unit + sixtieths (unit * 60) sizes
          ≤ bound / unit + 2 * bound / (unit * 60 : ℕ) := by gcongr
        _ = (bound + bound / 30) / unit := by
            push_cast
            field_simp
            ring
        _ ≤ 2 * bound / unit := by
            gcongr
            linarith

/-- For up to three fields these are units, minutes and seconds. -/
theorem sixtieths_one {sizes : List ℝ} (h : sizes.length ≤ 3) :
    sixtieths 1 sizes = sizes.getD 0 0 + sizes.getD 1 0 / 60 + sizes.getD 2 0 / 3600 := by
  rcases sizes with _ | ⟨units, _ | ⟨minutes, _ | ⟨seconds, _ | ⟨more, sizes⟩⟩⟩⟩
  · simp [sixtieths]
  · simp [sixtieths]
  · simp [sixtieths]
  · simp only [sixtieths, List.getD_cons_zero, List.getD_cons_succ]
    norm_num
    ring
  · simp only [List.length_cons] at h
    omega

theorem worth_eq {sign : Sign} {sizes : List ℝ} (h : sizes.length ≤ 3) :
    worth sign sizes = if sign.isMinus then -sixtieths 1 sizes else sixtieths 1 sizes := by
  rw [worth, sixtieths_one h]
  split_ifs <;> push_cast <;> ring

namespace Writes

variable {sizes : List ℝ} (h : Writes text sign sizes)
include h

theorem nonneg : ∀ size ∈ sizes, 0 ≤ size := by
  obtain ⟨fields, -, hsizes⟩ := h.exists_fields
  intro size hsize
  obtain ⟨field, -, hof⟩ :=
    exists_mem_of_forall₂ (hsizes.flip : List.Forall₂ (flip FieldOf) sizes fields) hsize
  exact hof.2

/-- The fields are read and added up, up to three roundings for each. -/
theorem exists_total_near (hlength : text.length ≤ 60000)
    (hlarge : ∀ size ∈ sizes, size ≤ 2 ^ 1021) :
    ∃ values : List Float,
      parse? text = some (if sign.isMinus then -total 0 1 values else total 0 1 values) ∧
        Near (3 * sizes.length) (total 0 1 values) (sixtieths 1 sizes) := by
  obtain ⟨fields, htaken, hsizes⟩ := h.exists_fields
  have hcount := h.length_le
  have hfields := hsizes.length_eq
  obtain ⟨values, hvalues, hnear⟩ := exists_forall₂_between hsizes
    (S := fun field v => field? field = some v) (T := Near 1) fun field hfield size hsize hof => by
      obtain ⟨v, hv, hnear⟩ := hof.exists_near
      exact ⟨v, hv, hnear ((htaken.length_le hfield).trans hlength) (hlarge size hsize)⟩
  refine ⟨values, ?_, ?_⟩
  · refine htaken.parse?_eq_some_iff.mpr ⟨⟨?_, hfields.trans_le hcount⟩, values, hvalues, rfl⟩
    rintro rfl
    exact h.ne_nil (List.length_eq_zero_iff.mp hfields.symm)
  · have hunit : 1 * 60 ^ sizes.length < 2 ^ 53 :=
      calc 1 * 60 ^ sizes.length ≤ 1 * 60 ^ 3 :=
            Nat.mul_le_mul_left 1 (Nat.pow_le_pow_right (by decide) hcount)
        _ < 2 ^ 53 := by norm_num
    have hbound : ∀ size ∈ sizes, 0 ≤ size ∧ size ≤ 2 ^ 1022 := fun size hsize =>
      ⟨h.nonneg size hsize,
        (hlarge size hsize).trans (pow_le_pow_right₀ one_le_two (by norm_num))⟩
    have hmax : 0 + sixtieths 1 sizes ≤ 2 ^ 1022 := by
      have hdouble := sixtieths_le (by positivity) hlarge Nat.one_pos
      rwa [Nat.cast_one, div_one, ← pow_succ', ← zero_add (sixtieths 1 sizes)] at hdouble
    have hnear := near_total hnear (.of_value value?_zero le_rfl) (value?_ofNat (by norm_num))
      le_rfl hunit (by omega) le_rfl hbound hmax
    rwa [zero_add, zero_add] at hnear

/-- **What is read of a text that writes a number** is that number, up to nine roundings, if the
fields are not too large and the text is not too long. -/
theorem exists_near :
    ∃ v : Float, parse? text = some v ∧
      (text.length ≤ 60000 → (∀ size ∈ sizes, size ≤ 2 ^ 1021) →
        ∃ p : ℝ, value? v = some (p : EReal) ∧
          |p - worth sign sizes| ≤ |worth sign sizes| * 2 ^ (-47 : ℤ) + 2 ^ (-1069 : ℤ)) := by
  obtain ⟨v, hv⟩ := (exists_parse?_iff text).mpr (.inl ⟨sign, sizes, h⟩)
  refine ⟨v, hv, fun hlength hlarge => ?_⟩
  obtain ⟨values, hparse, hnear⟩ := h.exists_total_near hlength hlarge
  obtain rfl := Option.some.inj (hv.symm.trans hparse)
  have hcount := h.length_le
  have hsize : 0 ≤ sixtieths 1 sizes := sixtieths_nonneg h.nonneg
  obtain ⟨p, hp, hcost⟩ := hnear.abs_sub_le (by omega) hsize
  rw [worth_eq hcount]
  split_ifs
  · refine ⟨-p, value?_neg hp, ?_⟩
    rwa [neg_sub_neg, abs_sub_comm, abs_neg, abs_of_nonneg hsize]
  · refine ⟨p, hp, ?_⟩
    rwa [abs_of_nonneg hsize]

end Writes

end PlateSolver.Sexagesimal
