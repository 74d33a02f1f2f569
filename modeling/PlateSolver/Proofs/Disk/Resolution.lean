import PlateSolver.Disk.Tree

/-!
# Paths are resolved part by part

A `Disk` is a plain value and may say anything about any path.  A file system may not.  It
resolves a path by going from place to place, one part of the path at a time, and nothing but
a directory leads any further.  What it says about a path inside a directory is therefore tied
to what it says about the directory, and a program that looks at both relies on that.

* `FileSystem` — the places of a file system and the steps between them.
* `FileSystem.walk`, `FileSystem.disk` — resolution, and the disk that comes of it.
* `FileSystem.lookup_root` — where something is found in a directory, so is the directory.
* `FileSystem.ofTree` — a directory tree is a file system, and its disk is the tree's own.

## Design decisions

A place is whatever a resolution has come to, which need not be a directory or a file alone:
it may count the links that were followed, or remember the way up.  Steps may fail for any
reason.  The only laws are that one can go on from directories alone, and that an empty part,
as at the end of a path that ends in a separator, stays where it is.

The empty path is no exception that was added: it has no parts to go along, and the system
says of it that nothing is there (`FileSystem.lookup_empty`).
-/

namespace PlateSolver

/-! ## Paths -/

namespace Tree

/-- A separator ends a part of a path. -/
theorem components_of_toList {path : String} (before after : List Char)
    (h : path.toList = before ++ '/' :: after) :
    components path =
      components (String.ofList before) ++ components (String.ofList after) := by
  simp [components, h, Text.split_append_cons]

theorem components_of_not_mem {name : String} (h : '/' ∉ name.toList) :
    components name = [name] := by
  rw [components, Text.split_eq_singleton]
  · simp
  · intro c hc
    exact beq_eq_false_iff_ne.mpr fun heq => h (heq ▸ hc)

/-- The path of a name inside a directory has the parts of the directory, less an empty one
behind a separator at its end, and then the name. -/
theorem components_join {root name : String} (hroot : root ≠ "") (hname : '/' ∉ name.toList) :
    ∃ parts, components (Disk.join root name) = parts ++ [name] ∧
      (components root = parts ∨ components root = parts ++ [""]) := by
  have hempty : root.isEmpty = false := by
    rw [Bool.eq_false_iff, ne_eq, String.isEmpty_iff]
    exact hroot
  by_cases hlast : root.toList.getLast? = some '/'
  · obtain ⟨before, hbefore⟩ := List.getLast?_eq_some_iff.mp hlast
    have hjoin : Disk.join root name = root ++ name := by simp [Disk.join, hlast]
    refine ⟨components (String.ofList before), ?_, Or.inr ?_⟩
    · rw [hjoin, components_of_toList before name.toList (by simp [hbefore]),
        String.ofList_toList, components_of_not_mem hname]
    · rw [components_of_toList before [] (by simp [hbefore])]
      rfl
  · refine ⟨components root, ?_, Or.inl rfl⟩
    have hjoin : Disk.join root name = root ++ "/" ++ name := by simp [Disk.join, hempty, hlast]
    rw [hjoin, components_of_toList root.toList name.toList (by simp),
      String.ofList_toList, String.ofList_toList, components_of_not_mem hname]

/-- A directory is given from the same start as what is in it. -/
theorem isAbsolute_join {root : String} (hroot : root ≠ "") (name : String) :
    isAbsolute (Disk.join root name) = isAbsolute root := by
  have hne : root.toList ≠ [] := fun h => hroot (String.toList_eq_nil_iff.mp h)
  obtain ⟨c, rest, hcons⟩ := List.exists_cons_of_ne_nil hne
  unfold isAbsolute Disk.join
  split <;> simp [hcons]

/-- A path in a directory can only be looked at if the path of the directory can. -/
theorem parts?_of_join {root name : String} (hroot : root ≠ "") {parts : List String}
    (h : parts? (Disk.join root name) = .ok parts) :
    parts = components (Disk.join root name) ∧ parts? root = .ok (components root) := by
  unfold parts? at h
  split at h
  · cases h
  rename_i hnul
  split at h
  · cases h
  split at h
  · cases h
  rename_i hlong
  refine ⟨(Except.ok.inj h).symm, ?_⟩
  -- The joined path holds all characters of the root, and no fewer bytes.
  have hsubset : ∀ c ∈ root.toList, c ∈ (Disk.join root name).toList := by
    intro c hc
    unfold Disk.join
    split <;> simp [hc]
  have hsize : root.utf8ByteSize ≤ (Disk.join root name).utf8ByteSize := by
    unfold Disk.join
    split
    · rw [String.utf8ByteSize_append]
      omega
    · rw [String.utf8ByteSize_append, String.utf8ByteSize_append]
      omega
  have hnul' : ¬root.toList.contains '\x00' = true := fun hc =>
    hnul (List.contains_iff_mem.mpr (hsubset _ (List.contains_iff_mem.mp hc)))
  have hempty : ¬root.isEmpty = true := fun he => hroot (String.isEmpty_iff.mp he)
  have hlong' : ¬pathLimit ≤ root.utf8ByteSize := by omega
  rw [parts?, if_neg hnul', if_neg hempty, if_neg hlong']

end Tree

/-! ## File systems -/

/-- **File system.**  Where the resolution of a path can be, and how it goes on. -/
structure FileSystem where
  /-- The places that a resolution can have come to. -/
  Place : Type
  /-- Where absolute paths start, and where all others do. -/
  start : (absolute : Bool) → Place
  /-- The step along one part of a path. -/
  step : Place → String → Except OsError Place
  /-- What there is at a place. -/
  node : Place → Except OsError Node
  /-- Only a directory leads any further. -/
  node_of_step : ∀ {place next : Place} {part : String},
    step place part = .ok next → node place = .ok .directory
  /-- In a directory, an empty part stays in place. -/
  step_empty : ∀ {place : Place}, node place = .ok .directory → step place "" = .ok place

namespace FileSystem

/-- Goes along the parts of a path. -/
def walk (system : FileSystem) (here : system.Place) : List String → Except OsError system.Place
  | [] => .ok here
  | part :: rest => (system.step here part).bind fun next => system.walk next rest

/-- What a file system says about every path. -/
def disk (system : FileSystem) : Disk where
  lookup path :=
    (Tree.parts? path).bind fun parts =>
      (system.walk (system.start (Tree.isAbsolute path)) parts).bind system.node

variable {system : FileSystem}

theorem walk_concat {here there : system.Place} {parts : List String} {part : String}
    (h : system.walk here (parts ++ [part]) = .ok there) :
    ∃ last, system.walk here parts = .ok last ∧ system.step last part = .ok there := by
  induction parts generalizing here with
  | nil =>
      rw [List.nil_append, walk] at h
      cases hstep : system.step here part with
      | error e => rw [hstep] at h; cases h
      | ok next => rw [hstep] at h; exact ⟨here, rfl, h ▸ hstep⟩
  | cons first rest ih =>
      rw [List.cons_append, walk] at h
      cases hstep : system.step here first with
      | error e => rw [hstep] at h; cases h
      | ok next =>
          rw [hstep] at h
          obtain ⟨last, hwalk, hlast⟩ := ih h
          exact ⟨last, by rw [walk, hstep]; exact hwalk, hlast⟩

theorem walk_concat_of_step {here last there : system.Place} {parts : List String} {part : String}
    (hwalk : system.walk here parts = .ok last) (hstep : system.step last part = .ok there) :
    system.walk here (parts ++ [part]) = .ok there := by
  induction parts generalizing here with
  | nil =>
      obtain rfl : here = last := Except.ok.inj hwalk
      rw [List.nil_append, walk, hstep]
      rfl
  | cons first rest ih =>
      rw [walk] at hwalk
      cases hnext : system.step here first with
      | error e => rw [hnext] at hwalk; cases hwalk
      | ok next =>
          rw [hnext] at hwalk
          rw [List.cons_append, walk, hnext]
          exact ih hwalk

/-- The empty path leads nowhere, not even to where all others start. -/
theorem lookup_empty (system : FileSystem) : system.disk.lookup "" = .error .notFound := rfl

/-- **Where something is found in a directory, so is the directory**, unless it is given by the
empty path. -/
theorem lookup_root {root name : String} {node : Node} (hroot : root ≠ "")
    (hname : '/' ∉ name.toList) (h : system.disk.lookup (Disk.join root name) = .ok node) :
    system.disk.lookup root = .ok .directory := by
  obtain ⟨parts, hjoined, hparts⟩ := Tree.components_join hroot hname
  unfold disk at h ⊢
  dsimp only at h ⊢
  cases hfound : Tree.parts? (Disk.join root name) with
  | error e => rw [hfound] at h; cases h
  | ok found =>
      obtain ⟨rfl, hpath⟩ := Tree.parts?_of_join hroot hfound
      rw [hfound, Tree.isAbsolute_join hroot, hjoined] at h
      rw [hpath]
      dsimp only [Except.bind] at h ⊢
      cases hwalk : system.walk (system.start (Tree.isAbsolute root)) (parts ++ [name]) with
      | error e => rw [hwalk] at h; cases h
      | ok there =>
          -- The last step was from the directory, which the root leads to as well.
          obtain ⟨last, hlast, hstep⟩ := walk_concat hwalk
          have hdirectory := system.node_of_step hstep
          rcases hparts with hparts | hparts
          · rw [hparts, hlast]
            exact hdirectory
          · rw [hparts, walk_concat_of_step hlast (system.step_empty hdirectory)]
            exact hdirectory

end FileSystem

/-! ## Directory trees -/

namespace Tree

/-- One step of a walk, which keeps the directories above. -/
def advance : List Tree × Tree → String → Except OsError (List Tree × Tree)
  | (_, .file _), _ => .error .notDirectory
  | (above, .directory entries), part =>
    if part == "" || part == "." then .ok (above, .directory entries)
    else if part == ".." then
      match above with
      | [] => .ok ([], outside)
      | up :: further => .ok (further, up)
    else (entry entries part).map fun next => (.directory entries :: above, next)

theorem exists_entries_of_advance {here next : List Tree × Tree} {part : String}
    (h : advance here part = .ok next) : ∃ entries, here.2 = .directory entries := by
  obtain ⟨above, here⟩ := here
  cases here with
  | file bytes => cases h
  | directory entries => exact ⟨entries, rfl⟩

end Tree

/-- **A directory tree is a file system.**  A place is a tree with the directories above it. -/
def FileSystem.ofTree (root : Tree) : FileSystem where
  Place := List Tree × Tree
  start absolute := ([], if absolute then Tree.outside else root)
  step := Tree.advance
  node place := .ok (Tree.node place.2)
  node_of_step h := by
    obtain ⟨entries, hentries⟩ := Tree.exists_entries_of_advance h
    rw [hentries, Tree.node]
  step_empty := by
    rintro ⟨above, here⟩ h
    cases here with
    | file bytes => cases h
    | directory entries => rfl

theorem FileSystem.walk_ofTree (root : Tree) (above : List Tree) (here : Tree)
    (parts : List String) :
    ((FileSystem.ofTree root).walk (above, here) parts).map Prod.snd =
      Tree.walk above here parts := by
  induction parts generalizing above here with
  | nil => cases here <;> rfl
  | cons part rest ih =>
      change ((Tree.advance (above, here) part).bind fun next =>
        (FileSystem.ofTree root).walk next rest).map Prod.snd = _
      cases here with
      | file bytes => rfl
      | directory entries =>
          unfold Tree.walk Tree.advance
          dsimp only
          split
          · exact ih above _
          split
          · cases above with
            | nil => exact ih [] _
            | cons up further => exact ih further up
          · cases Tree.entry entries part with
            | error e => rfl
            | ok next => exact ih (.directory entries :: above) next

/-- The file system that a tree is says the same of every path as the tree. -/
theorem FileSystem.disk_ofTree (root : Tree) : (FileSystem.ofTree root).disk = root.disk := by
  unfold FileSystem.disk Tree.disk Tree.find
  congr 1
  funext path
  cases Tree.parts? path with
  | error e => rfl
  | ok parts =>
      change ((FileSystem.ofTree root).walk
          ([], if Tree.isAbsolute path then Tree.outside else root) parts).bind _ =
        (Tree.walk [] (if Tree.isAbsolute path then Tree.outside else root) parts).map Tree.node
      rw [← walk_ofTree root []]
      cases (FileSystem.ofTree root).walk
        ([], if Tree.isAbsolute path then Tree.outside else root) parts <;> rfl

end PlateSolver
