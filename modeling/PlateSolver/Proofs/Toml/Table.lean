import PlateSolver.Toml.Document

/-!
# Statements act at one key

Whatever a statement of a document does, it does to the value of a single key of the outermost
table: the first key of its path, or of the header that it stands under.  What it does there
depends on the value of that key alone, and the values of the other keys stay.  So statements
about different keys do not get into each other's way.

* `Table.set`, `Table.lookup_set` — a value set in a table.
* `ActsAt` — a change of a table at one key.
* `actsAt_assign`, `actsAt_within`, `actsAt_openHeader`, `actsAt_openElement` — the changes.
* `Statement.root`, `Statement.next` — the key, and the header that the next statement is under.
* `exists_carryOut_eq`, `AgreeOutside.carryOut` — a statement acts at its key, and nowhere else.
-/

namespace PlateSolver.Toml

theorem lookup_cons_eq_ite {β : Type} (first : String) (old : β) (rest : List (String × β))
    (name : String) :
    List.lookup name ((first, old) :: rest) =
      if name = first then some old else List.lookup name rest := by
  by_cases h : name = first
  · rw [if_pos h, h, List.lookup_cons_self]
  · rw [if_neg h, List.lookup_cons, beq_eq_false_iff_ne.mpr h]

namespace Table

theorem lookup_append_singleton (table : Table) (key : String) (value : Value) (name : String) :
    (table ++ [(key, value)]).lookup name =
      (table.lookup name).or (if name = key then some value else none) := by
  rw [List.lookup_append, lookup_cons_eq_ite, List.lookup_nil]

theorem lookup_put {table : Table} {key : String} (h : (table.lookup key).isSome)
    (value : Value) (name : String) :
    (table.put key value).lookup name = if name = key then some value else table.lookup name := by
  induction table with
  | nil => cases h
  | cons entry rest ih =>
      obtain ⟨first, old⟩ := entry
      by_cases hfirst : first = key
      · have hput : put key value ((first, old) :: rest) = (first, value) :: rest := by
          simp [put, hfirst]
        rw [hput, lookup_cons_eq_ite, lookup_cons_eq_ite, ← hfirst]
        split <;> rfl
      · have hput : put key value ((first, old) :: rest) = (first, old) :: put key value rest := by
          simp [put, hfirst]
        rw [lookup_cons_eq_ite, if_neg (Ne.symm hfirst)] at h
        rw [hput, lookup_cons_eq_ite, lookup_cons_eq_ite, ih h]
        by_cases hname : name = first
        · rw [if_pos hname, if_neg (hname ▸ hfirst), if_pos hname]
        · rw [if_neg hname, if_neg hname]

/-- A table with the value of a key set, where it was or else at the end. -/
def set (key : String) (value : Value) (table : Table) : Table :=
  if (table.lookup key).isSome then table.put key value else table ++ [(key, value)]

/-- **A value that is set is found**, and the others stay. -/
theorem lookup_set (key : String) (value : Value) (table : Table) (name : String) :
    (table.set key value).lookup name = if name = key then some value else table.lookup name := by
  unfold set
  split
  · rename_i hsome
    exact lookup_put hsome value name
  · rename_i hnone
    rw [lookup_append_singleton]
    by_cases h : name = key
    · subst h
      simp [Option.not_isSome_iff_eq_none.mp hnone]
    · simp [h]

end Table

/-- **A change at one key.**  Tables in which the key has the same value get the same value
for it, or both are refused. -/
def ActsAt (key : String) (change : Table → Option Table) : Prop :=
  ∀ table other : Table, table.lookup key = other.lookup key →
    (change table = none ∧ change other = none) ∨
      ∃ value, change table = some (table.set key value) ∧
        change other = some (other.set key value)

namespace Table

theorem set_of_lookup_eq_none {table : Table} {key : String} (h : table.lookup key = none)
    (value : Value) : table.set key value = table ++ [(key, value)] := by
  simp [set, h]

theorem set_of_lookup_eq_some {table : Table} {key : String} {old : Value}
    (h : table.lookup key = some old) (value : Value) :
    table.set key value = table.put key value := by
  simp [set, h]

/-- A value is assigned at the first key of its path. -/
theorem actsAt_assign (value : Value) (key : String) (rest : List String) :
    ActsAt key (assign value (key :: rest)) := by
  intro table other h
  cases rest with
  | nil =>
      cases hold : other.lookup key with
      | none => exact Or.inr ⟨value, by simp [assign, h, hold, set_of_lookup_eq_none]⟩
      | some old => exact Or.inl (by simp [assign, h, hold])
  | cons next rest =>
      cases hold : other.lookup key with
      | none =>
          have hset := set_of_lookup_eq_none (h.trans hold)
          cases hinner : assign value (next :: rest) [] with
          | none => exact Or.inl (by simp [assign, h, hold, hinner])
          | some entries =>
              exact Or.inr ⟨.table .dotted entries,
                by simp [assign, h, hold, hinner, hset, set_of_lookup_eq_none]⟩
      | some old =>
          have hset := set_of_lookup_eq_some (h.trans hold)
          cases old with
          | table origin entries =>
              by_cases hopen : origin = .dotted ∨ origin = .implied
              · cases hinner : assign value (next :: rest) entries with
                | none => exact Or.inl (by simp [assign, h, hold, hopen, hinner])
                | some changed =>
                    exact Or.inr ⟨.table .dotted changed,
                      by simp [assign, h, hold, hopen, hinner, hset, set_of_lookup_eq_some hold]⟩
              · exact Or.inl (by simp [assign, h, hold, hopen])
          | tables before last =>
              by_cases hlast : rest = []
              · exact Or.inl (by simp [assign, h, hold, hlast])
              · cases hinner : assign value (next :: rest) last with
                | none => exact Or.inl (by simp [assign, h, hold, hlast, hinner])
                | some changed =>
                    exact Or.inr ⟨.tables before changed,
                      by simp [assign, h, hold, hlast, hinner, hset, set_of_lookup_eq_some hold]⟩
          | _ => exact Or.inl (by simp [assign, h, hold])

/-- A change under a header is one at the first key of the header. -/
theorem actsAt_within (change : Table → Option Table) (key : String) (rest : List String) :
    ActsAt key (within change (key :: rest)) := by
  intro table other h
  cases hold : other.lookup key with
  | none =>
      have hset := set_of_lookup_eq_none (h.trans hold)
      cases hinner : within change rest [] with
      | none => exact Or.inl (by simp [within, h, hold, hinner])
      | some entries =>
          exact Or.inr ⟨.table .implied entries,
            by simp [within, h, hold, hinner, hset, set_of_lookup_eq_none]⟩
  | some old =>
      have hset := set_of_lookup_eq_some (h.trans hold)
      have hset' := set_of_lookup_eq_some hold
      cases old with
      | table origin entries =>
          by_cases hclosed : origin = .closed
          · subst hclosed
            exact Or.inl (by simp [within, h, hold])
          · cases hinner : within change rest entries with
            | none => exact Or.inl (by cases origin <;> simp_all [within])
            | some changed =>
                exact Or.inr ⟨.table origin changed, by cases origin <;> simp_all [within]⟩
      | tables before last =>
          cases hinner : within change rest last with
          | none => exact Or.inl (by simp [within, h, hold, hinner])
          | some changed =>
              exact Or.inr ⟨.tables before changed,
                by simp [within, h, hold, hinner, hset, hset']⟩
      | _ => exact Or.inl (by simp [within, h, hold])

/-- A header opens a table at its last key. -/
theorem actsAt_openHeader (key : String) : ActsAt key (openHeader key) := by
  intro table other h
  cases hold : other.lookup key with
  | none =>
      have hset := set_of_lookup_eq_none (h.trans hold)
      exact Or.inr ⟨.table .headed [],
        by simp [openHeader, h, hold, hset, set_of_lookup_eq_none]⟩
  | some old =>
      have hset := set_of_lookup_eq_some (h.trans hold)
      have hset' := set_of_lookup_eq_some hold
      cases old with
      | table origin entries =>
          cases origin with
          | implied =>
              exact Or.inr ⟨.table .headed entries, by simp [openHeader, h, hold, hset, hset']⟩
          | _ => exact Or.inl (by simp [openHeader, h, hold])
      | _ => exact Or.inl (by simp [openHeader, h, hold])

/-- A header of a list of tables adds to the list at its last key. -/
theorem actsAt_openElement (key : String) : ActsAt key (openElement key) := by
  intro table other h
  cases hold : other.lookup key with
  | none =>
      have hset := set_of_lookup_eq_none (h.trans hold)
      exact Or.inr ⟨.tables [] [], by simp [openElement, h, hold, hset, set_of_lookup_eq_none]⟩
  | some old =>
      have hset := set_of_lookup_eq_some (h.trans hold)
      have hset' := set_of_lookup_eq_some hold
      cases old with
      | tables before last =>
          exact Or.inr ⟨.tables (last :: before) [],
            by simp [openElement, h, hold, hset, hset']⟩
      | _ => exact Or.inl (by simp [openElement, h, hold])

end Table

namespace Statement

/-- The key of the outermost table that a statement acts at, under a header. -/
def root (current : List String) : Statement → Option String
  | .assign path _ => (current ++ path).head?
  | .header path | .element path => path.head?

/-- The header that the statement after this one is under. -/
def next (current : List String) : Statement → List String
  | .assign _ _ => current
  | .header path | .element path => path

end Statement

/-- A header acts at its first key, whatever it does at the last one. -/
theorem actsAt_within_dropLast {change : String → Table → Option Table}
    (hchange : ∀ key, ActsAt key (change key)) {path : List String} {key : String}
    (h : path.head? = some key) :
    ActsAt key (Table.within (change (path.getLastD "")) path.dropLast) := by
  cases path with
  | nil => cases h
  | cons first rest =>
      obtain rfl : first = key := Option.some.inj h
      cases rest with
      | nil => simpa [Table.within] using hchange first
      | cons second rest => exact Table.actsAt_within _ first (second :: rest).dropLast

/-- **A statement acts at its key.** -/
theorem exists_carryOut_eq {statement : Statement} {current : List String} {key : String}
    (h : statement.root current = some key) :
    ∃ change, ActsAt key change ∧ ∀ table, carryOut table current statement =
      (change table).map fun changed => (changed, statement.next current) := by
  cases statement with
  | assign path value =>
      refine ⟨Table.within (Table.assign value path) current, ?_, fun table => rfl⟩
      cases current with
      | nil =>
          cases path with
          | nil => cases h
          | cons first rest =>
              obtain rfl : first = key := Option.some.inj h
              exact Table.actsAt_assign value first rest
      | cons first rest =>
          obtain rfl : first = key := Option.some.inj h
          exact Table.actsAt_within _ first rest
  | header path =>
      exact ⟨_, actsAt_within_dropLast Table.actsAt_openHeader h, fun table => rfl⟩
  | element path =>
      exact ⟨_, actsAt_within_dropLast Table.actsAt_openElement h, fun table => rfl⟩

/-- Tables agree on all keys but some. -/
def AgreeOutside (keys : List String) (table other : Table) : Prop :=
  ∀ name, name ∉ keys → table.lookup name = other.lookup name

namespace AgreeOutside

variable {keys : List String} {table other : Table}

/-- They go on to do so when one of these is set. -/
theorem set (h : AgreeOutside keys table other) {key : String} (hkey : key ∈ keys)
    (value : Value) : AgreeOutside keys (table.set key value) other := by
  intro name hname
  have hne : name ≠ key := by
    rintro rfl
    exact hname hkey
  rw [Table.lookup_set, if_neg hne, h name hname]

/-- **A statement about another key does the same to both**, and nothing to these. -/
theorem carryOut (h : AgreeOutside keys table other) {statement : Statement}
    {current header : List String} {key : String} {changed : Table}
    (hroot : statement.root current = some key) (hkey : key ∉ keys)
    (hother : carryOut other current statement = some (changed, header)) :
    header = statement.next current ∧
      ∃ result, Toml.carryOut table current statement = some (result, header) ∧
        AgreeOutside keys result changed ∧
        ∀ name ∈ keys, result.lookup name = table.lookup name := by
  obtain ⟨change, hacts, hcarry⟩ := exists_carryOut_eq hroot
  rw [hcarry] at hother
  obtain ⟨-, hnone⟩ | ⟨value, htable, hchanged⟩ := hacts table other (h key hkey)
  · simp [hnone] at hother
  · rw [hchanged, Option.map_some, Option.some.injEq, Prod.mk.injEq] at hother
    obtain ⟨rfl, rfl⟩ := hother
    refine ⟨rfl, table.set key value, by rw [hcarry, htable]; rfl, fun name hname => ?_,
      fun name hname => ?_⟩
    · rw [Table.lookup_set, Table.lookup_set, h name hname]
    · have hne : name ≠ key := by
        rintro rfl
        exact hkey hname
      rw [Table.lookup_set, if_neg hne]

end AgreeOutside

end PlateSolver.Toml
