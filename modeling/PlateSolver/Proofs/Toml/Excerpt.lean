import PlateSolver.Proofs.Toml.Lines

/-!
# Excerpts of records

A document need not hold every key of a record, nor hold them in any order, and it may hold
what no record knows.  Such a document sets the fields of the keys it holds and leaves the
others alone.

* `Item`, `excerpt` — a document of lines of a record and other lines.
* `Apart`, `IsExcerpt` — what has to hold of the lines.
* `exists_lines`, `exists_carryOutAll` — its lines, and what their statements do.
* `exists_read?_excerpt` — the table of such a document.

## Design decisions

The other lines may be anything that is read as a statement: keys with values of any kind,
dotted keys, headers with tables of their own.  They must make a document by themselves and
keep off the keys of the record, and a header ends the part in which keys of the record can
stand.  Nothing is said about their order and how they mix with the lines of the record.
-/

namespace PlateSolver.Toml

/-! ## Documents -/

/-- **Item.** A line of a document: the one that a record has for a key, or any other. -/
inductive Item where
  /-- The line for a key of the record. -/
  | own (key : String)
  /-- Another line. -/
  | other (line : Line)

namespace Item

/-- The key of a line of the record. -/
def key? : Item → Option String
  | .own key => some key
  | .other _ => none

/-- What another line is. -/
def otherStatement? : Item → Option Statement
  | .own _ => none
  | .other line => some line.statement

/-- What a line is, in a document of a record with some entries. -/
def statement? {α : Type} [Writable α] (entries : List (String × Primitive α)) :
    Item → Option Statement
  | .own key => (entries.lookup key).map fun primitive => .assign [key] primitive.value
  | .other line => some line.statement

/-- The text of a line of a record with some entries. -/
def text {α : Type} [Writable α] (entries : List (String × Primitive α)) : Item → List Char
  | .own key => ((entries.lookup key).map (line key)).getD []
  | .other line => line.text ++ ['\n']

end Item

/-- The keys of a record that a document holds. -/
def ownKeys (items : List Item) : List String := items.filterMap Item.key?

/-- **Excerpt.** The document of some lines of a record and others. -/
def excerpt {α : Type} [Writable α] (entries : List (String × Primitive α))
    (items : List Item) : String :=
  String.ofList (items.flatMap (Item.text entries))

/-- **Lines keep apart.**  Those of the record stand under no header, and the others act at
none of its keys. -/
def Apart (keys : List String) : (current : List String) → List Item → Prop
  | _, [] => True
  | current, .own _ :: rest => current = [] ∧ Apart keys current rest
  | current, .other line :: rest =>
    (∃ key, line.statement.root current = some key ∧ key ∉ keys) ∧
      Apart keys (line.statement.next current) rest

/-- **What an excerpt is** of a record with some keys and entries. -/
structure IsExcerpt {α : Type} (keys : List String) (entries : List (String × Primitive α))
    (items : List Item) : Prop where
  /-- The record has an entry for every line of its own. -/
  mem_entries : ∀ key ∈ ownKeys items, key ∈ entries.map Prod.fst
  /-- No key is there twice. -/
  nodup_ownKeys : (ownKeys items).Nodup
  /-- The lines keep apart. -/
  apart : Apart keys [] items
  /-- The others are a document of their own. -/
  isSome_others : (carryOutAll [] [] (items.filterMap Item.otherStatement?)).isSome

section Lookup

variable {β : Type} {entries : List (String × β)}

theorem mem_of_lookup_eq_some {key : String} {value : β} (h : entries.lookup key = some value) :
    (key, value) ∈ entries := by
  obtain ⟨before, after, heq, -⟩ := List.lookup_eq_some_iff.mp h
  rw [heq]
  exact List.mem_append_right before List.mem_cons_self

theorem exists_lookup_eq_some {key : String} (h : key ∈ entries.map Prod.fst) :
    ∃ value, entries.lookup key = some value := by
  obtain ⟨entry, hentry, rfl⟩ := List.mem_map.mp h
  exact Option.isSome_iff_exists.mp (List.lookup_isSome_iff.mpr ⟨entry, hentry, beq_self_eq_true _⟩)

end Lookup

/-! ## Reading excerpts -/

section Reading

variable {α : Type} [Writable α] {entries : List (String × Primitive α)} {keys : List String}

/-- **The items of an excerpt are lines**, each with its text and its statement. -/
theorem exists_lines (hplain : ∀ entry ∈ entries, isPlainKey entry.1 = true)
    (hreadable : ∀ entry ∈ entries, entry.2.IsReadable) {items : List Item}
    (hmem : ∀ key ∈ ownKeys items, key ∈ entries.map Prod.fst) :
    ∃ lines, linesText lines = items.flatMap (Item.text entries) ∧
      lines.map Line.statement = items.filterMap (Item.statement? entries) := by
  induction items with
  | nil => exact ⟨[], rfl, rfl⟩
  | cons item rest ih =>
      cases item with
      | own key =>
          obtain ⟨hkey, hrest⟩ := List.forall_mem_cons.mp hmem
          obtain ⟨primitive, hprimitive⟩ := exists_lookup_eq_some hkey
          have hentry := mem_of_lookup_eq_some hprimitive
          obtain ⟨lines, htext, hstatements⟩ := ih hrest
          refine ⟨.ofEntry key primitive (hplain _ hentry) (hreadable _ hentry) :: lines, ?_, ?_⟩
          · rw [linesText_cons, htext]
            simp [Item.text, hprimitive, line_eq, Line.ofEntry]
          · simp [Item.statement?, hprimitive, hstatements, Line.ofEntry]
      | other line =>
          obtain ⟨lines, htext, hstatements⟩ := ih hmem
          refine ⟨line :: lines, ?_, ?_⟩
          · rw [linesText_cons, htext]
            simp [Item.text]
          · simp [Item.statement?, hstatements]

/-- A line of the record sets its key, if the table does not have it yet. -/
theorem carryOut_assign {table : Table} {key : String} (h : table.lookup key = none)
    (value : Value) :
    carryOut table [] (.assign [key] value) = some (table.set key value, []) := by
  simp [carryOut, Table.within, Table.assign, h, Table.set_of_lookup_eq_none]

/-- **The statements of an excerpt** give every key of the record the value of its line and
leave the others as they are, whatever the other lines do.  The invariant is that the table is
outside these keys the one which the other lines make by themselves. -/
theorem exists_carryOutAll (hkeys : ∀ entry ∈ entries, entry.1 ∈ keys) {items : List Item}
    (hmem : ∀ key ∈ ownKeys items, key ∈ entries.map Prod.fst) (hnodup : (ownKeys items).Nodup)
    {current : List String} (hapart : Apart keys current items) {table other : Table}
    (hfree : ∀ key ∈ ownKeys items, table.lookup key = none)
    (hagree : AgreeOutside keys table other)
    (hothers : (carryOutAll other current (items.filterMap Item.otherStatement?)).isSome) :
    ∃ result, carryOutAll table current (items.filterMap (Item.statement? entries)) =
        some result ∧
      ∀ name ∈ keys, result.lookup name =
        if name ∈ ownKeys items then (entries.lookup name).map Primitive.value
        else table.lookup name := by
  induction items generalizing current table other with
  | nil => exact ⟨table, rfl, fun name _ => rfl⟩
  | cons item rest ih =>
      cases item with
      | own key =>
          have hown : ownKeys (.own key :: rest) = key :: ownKeys rest := rfl
          obtain ⟨hkey, hmem⟩ := List.forall_mem_cons.mp hmem
          obtain ⟨hnew, hnodup⟩ := List.nodup_cons.mp hnodup
          obtain ⟨hkeyFree, hfree⟩ := List.forall_mem_cons.mp hfree
          obtain ⟨rfl, hapart⟩ := hapart
          obtain ⟨primitive, hprimitive⟩ := exists_lookup_eq_some hkey
          have hin := hkeys _ (mem_of_lookup_eq_some hprimitive)
          have hfree' : ∀ name ∈ ownKeys rest,
              (table.set key primitive.value).lookup name = none := by
            intro name hname
            rw [Table.lookup_set, if_neg (by rintro rfl; exact hnew hname), hfree name hname]
          obtain ⟨result, hresult, hvalues⟩ :=
            ih hmem hnodup hapart hfree' (hagree.set hin primitive.value) hothers
          refine ⟨result, ?_, fun name hname => ?_⟩
          · simpa [Item.statement?, hprimitive, carryOutAll, carryOut_assign hkeyFree] using hresult
          · rw [hvalues name hname, Table.lookup_set, hown]
            by_cases heq : name = key
            · subst heq
              simp [hprimitive]
            · simp [heq]
      | other line =>
          have hown : ownKeys (.other line :: rest) = ownKeys rest := rfl
          obtain ⟨⟨key, hroot, hkey⟩, hapart⟩ := hapart
          have hfilter : (Item.other line :: rest).filterMap Item.otherStatement? =
              line.statement :: rest.filterMap Item.otherStatement? := rfl
          rw [hfilter, carryOutAll] at hothers
          cases hcarry : carryOut other current line.statement with
          | none => simp [hcarry] at hothers
          | some step =>
              obtain ⟨changed, header⟩ := step
              rw [hcarry] at hothers
              obtain ⟨rfl, next, hnext, hagree', hsame⟩ := hagree.carryOut hroot hkey hcarry
              have hfree' : ∀ name ∈ ownKeys rest, next.lookup name = none := by
                intro name hname
                obtain ⟨entry, hentry, rfl⟩ := List.mem_map.mp (hmem name hname)
                rw [hsame _ (hkeys entry hentry), hfree _ hname]
              obtain ⟨result, hresult, hvalues⟩ := ih hmem hnodup hapart hfree' hagree' hothers
              refine ⟨result, ?_, fun name hname => ?_⟩
              · simpa [Item.statement?, carryOutAll, hnext] using hresult
              · rw [hvalues name hname, hsame name hname, hown]

/-- **The table of an excerpt** has the keys of the record that are there, and no others. -/
theorem exists_read?_excerpt
    (hplain : ∀ entry ∈ entries, entry.1 ∈ keys ∧ isPlainKey entry.1 = true)
    (hreadable : ∀ entry ∈ entries, entry.2.IsReadable) {items : List Item}
    (h : IsExcerpt keys entries items) :
    ∃ table, read? (excerpt entries items) = some table ∧
      ∀ name ∈ keys, table.lookup name =
        if name ∈ ownKeys items then (entries.lookup name).map Primitive.value else none := by
  obtain ⟨lines, htext, hstatements⟩ :=
    exists_lines (fun entry hentry => (hplain entry hentry).2) hreadable h.mem_entries
  obtain ⟨table, htable, hlookup⟩ := exists_carryOutAll
    (fun entry hentry => (hplain entry hentry).1) h.mem_entries h.nodup_ownKeys h.apart
    (fun _ _ => List.lookup_nil) (fun _ _ => rfl) h.isSome_others
  exact ⟨table, by rw [excerpt, ← htext, read?_linesText, hstatements, htable], hlookup⟩

end Reading

end PlateSolver.Toml
