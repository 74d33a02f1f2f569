import PlateSolver.Proofs.Command.Cones
import PlateSolver.Proofs.Ranking
import PlateSolver.Proofs.Zone.Presence

/-!
# The query command and the catalog's own query

Asking for the stars of a cone on the command line and asking the zone catalog for them are
two programs.  The command knows nothing of a catalog that may have vanished, writes into an
accumulator of its own, and takes nothing back when a range fails, because it then lists
nothing anyway.  The catalog looks for its directory first, writes into whatever it is given,
and takes everything back.  On a disk that does not change the two find the same.

* `starLine`, `answerText` — what is printed about the stars that are listed.
* `Complains` — what is printed about a failure of the catalog.
* `Lists` — what is listed of what was found.
* `entries_eq`, `Failure.complains` — a command prints just that.
* `scan_of_scanAll` — scanning range by range, with or without names for the failing ones.
* `run_query_agrees` — the command lists what the catalog finds, and fails if the catalog does.
-/

namespace PlateSolver.Command

open Zone

/-! ## What is printed -/

/-- Some blanks. -/
def blanks (n : ℕ) : String := String.ofList (List.replicate n ' ')

/-- **The line about a star**: its name, its right ascension in hours, its declination in degrees
and its magnitude, of which the name fills a column of fourteen, and the magnitude one of five. -/
def starLine (star : Entry Float) : String :=
  let mag := Double.fixed 1 star.mag
  "  " ++ star.name ++ blanks (14 - star.name.length) ++
    Sexagesimal.format (Angle.toHours star.ra) 2 ++ "  " ++
    Sexagesimal.format (Angle.toDegrees star.dec) 1 ++ "  " ++ blanks (5 - mag.length) ++ mag

/-- **The answer to a query**, line by line: how many stars are listed, up to which magnitude, and
then those stars, one after the other. -/
def answerLines (listed : List (Entry Float)) (limit : Float) : List String :=
  ["", "  Catalog Stars", "  ═════════════", ""] ++
    ["  Count         " ++ toString listed.length,
      "  Mag limit     " ++ Double.fixed 1 limit, ""] ++
    listed.map starLine ++ [""]

/-- Lines as a text. -/
def answerText (listed : List (Entry Float)) (limit : Float) : String :=
  String.join ((answerLines listed limit).map (· ++ "\n"))

/-- **The complaint about a failure of the catalog**: a cone that is too wide is refused in the
catalog's own words, and of a scan that failed the file is named, and under it the failure in the
catalog's words and what the system says about it, if it does.  Nothing else is to fail. -/
def Complains : CatalogError Float → String → Prop
  | .connection _, _ => False
  | .geometry error, text => text = "Error: " ++ error.message ++ "\n"
  | .scan error, text => ∃ zone,
    text = "Error: Failed to scan " ++ dataName zone ++ "\n\nCaused by:\n" ++
      match error with
      | .unopened _ cause | .unsought _ _ cause | .unread _ _ cause =>
        "    0: " ++ error.message ++ "\n    1: " ++ cause.message ++ "\n"
      | _ => "    " ++ error.message ++ "\n"

/-- **What is listed of what was found**: everything as it was found, or the first of it in
the order of brightness, where equally bright entries stay as they were.  Then nothing that
is not listed is brighter than anything that is. -/
def Lists (top : Option Nat) (found listed : List (Entry Float)) : Prop :=
  match top with
  | none => listed = found
  | some n => ∃ unlisted,
    Ranking (fun a b => Scalar.precedes a.mag b.mag) n found listed unlisted ∧
      ∀ a ∈ listed, ∀ b ∈ unlisted, Scalar.precedes a.mag b.mag

theorem lists_brightest (top : Option Nat) (found : List (Entry Float)) :
    Lists top found (brightest top found) := by
  cases top with
  | none => exact rfl
  | some n =>
      have hranking := @ranking_mergeSort (Entry Float) (fun a b => Scalar.precedes a.mag b.mag)
        (fun a b c => Scalar.Ordered.precedes_trans a.mag b.mag c.mag)
        (fun a b => Scalar.Ordered.precedes_total a.mag b.mag) n found
      exact ⟨_, hranking, fun a ha b hb => hranking.le_of_mem ha hb⟩

/-! ## What a command prints -/

theorem entry_eq (star : Entry Float) : Summary.entry star = starLine star ++ "\n" := by
  have htext (text : String) : toString text = text := rfl
  simp [Summary.entry, Summary.row, Summary.labelWidth, Text.padLeft, Text.padRight, Text.padding,
    starLine, blanks, htext, String.append_assoc]

/-- **A command prints the stars that it lists.** -/
theorem entries_eq (listed : List (Entry Float)) (limit : Float) :
    Summary.entries listed limit = answerText listed limit := by
  have hentries : listed.map Summary.entry = (listed.map starLine).map (· ++ "\n") := by
    rw [List.map_map]
    exact List.map_congr_left fun star _ => entry_eq star
  have htitle : Summary.title "Catalog Stars" =
      String.join (["", "  Catalog Stars", "  ═════════════", ""].map (· ++ "\n")) := rfl
  have hcount (value : String) :
      Summary.row "Count" value = "  Count         " ++ value ++ "\n" := rfl
  have hlimit (value : String) :
      Summary.row "Mag limit" value = "  Mag limit     " ++ value ++ "\n" := rfl
  unfold Summary.entries answerText answerLines
  rw [hentries, htitle, hcount, hlimit]
  simp only [List.map_append, List.map_cons, List.map_nil, String.join_append, String.join_cons,
    String.join_nil, String.append_assoc, String.append_empty, String.empty_append]

theorem report_eq (failure : Failure) : failure.report =
    "Error: " ++ failure.message ++ "\n" ++ Failure.causeLines failure.causes := rfl

/-- **A command complains as it is to complain** about a cone that is too wide, -/
theorem report_tooWide (error : RadiusTooLarge Float) :
    Complains (.geometry error) (Failure.tooWide error).report := by
  have hmessage : (Failure.tooWide error).message = error.message := rfl
  have hcauses : Failure.causeLines (Failure.tooWide error).causes = "" := rfl
  rw [report_eq, hmessage, hcauses, String.append_empty]
  rfl

/-- A single cause is not numbered. -/
theorem causeLines_singleton (cause : String) :
    Failure.causeLines [cause] = "\nCaused by:\n    " ++ cause ++ "\n" := rfl

/-- Two causes are. -/
theorem causeLines_pair (cause behind : String) : Failure.causeLines [cause, behind] =
    "\nCaused by:\n" ++ ("    0: " ++ cause ++ "\n" ++ ("    1: " ++ behind ++ "\n")) := by
  have hlines : Failure.causeLines [cause, behind] = "\nCaused by:\n" ++
      String.join ["    " ++ toString 0 ++ ": " ++ cause ++ "\n",
        "    " ++ toString 1 ++ ": " ++ behind ++ "\n"] := rfl
  have hzero : "    " ++ toString 0 ++ ": " = "    0: " := by decide
  have hone : "    " ++ toString 1 ++ ": " = "    1: " := by decide
  rw [hlines, hzero, hone, String.join_cons, String.join_cons, String.join_nil,
    String.append_empty]

/-- And about a scan that failed. -/
theorem report_scan (zone : ℕ) (error : ScanError) :
    Complains (.scan error) (Failure.scan (dataName zone) error).report := by
  have hmessage : (Failure.scan (dataName zone) error).message =
      "Failed to scan " ++ dataName zone := rfl
  have hcauses : (Failure.scan (dataName zone) error).causes =
      error.message :: Failure.scanCauses error := rfl
  refine ⟨zone, ?_⟩
  rw [report_eq, hmessage, hcauses]
  apply String.toList_injective
  -- The texts are cut in different places, so they are compared as lists of characters.
  cases error <;> simp [Failure.scanCauses, causeLines_singleton, causeLines_pair]

section Scan

variable {α : Type} [Analytic α]

/-- Scanning ranges for a command is scanning them for a catalog, and saying which one failed. -/
theorem scan_of_scanAll {disk : Disk} {grants : Grants} {connection : Connection} {limit : α}
    {ranges : List (Range α)} {acc filled : Accumulator α} {outcome : Except ScanError Unit}
    (h : ZoneCatalog.scanAll disk grants connection limit ranges acc = some (outcome, filled)) :
    match outcome with
    | .ok _ => scan disk grants connection limit ranges acc = some (.ok filled)
    | .error e => ∃ range ∈ ranges,
      scan disk grants connection limit ranges acc = some (.error (dataName range.zone, e)) := by
  induction ranges generalizing acc with
  | nil =>
      obtain ⟨rfl, rfl⟩ := Prod.mk.inj (Option.some.inj h)
      rfl
  | cons range rest ih =>
      obtain ⟨e, _, hswath, heq⟩ | ⟨n, next, hswath, hrest⟩ := mem_scanAll_cons.mp h
      · obtain ⟨rfl, rfl⟩ := Prod.mk.inj heq
        exact ⟨range, List.mem_cons_self, by rw [scan, hswath]; rfl⟩
      · have hscan : scan disk grants connection limit (range :: rest) acc =
            scan disk grants connection limit rest next := by
          rw [scan, hswath]
          rfl
        have hlater := ih hrest
        rw [hscan]
        cases outcome with
        | error e =>
            obtain ⟨failing, hmem, hfails⟩ := hlater
            exact ⟨failing, List.mem_cons_of_mem range hmem, hfails⟩
        | ok _ => exact hlater

end Scan

/-- The failure of a catalog behind that of a command, if there is one. -/
def Failure.catalogError? : Failure → Option (CatalogError Float)
  | .connection error => some (.connection error)
  | .tooWide error => some (.geometry error)
  | .scan _ error => some (.scan error)
  | _ => none

/-- A command finds what a catalog that is there finds. -/
theorem find_of_fetch {disk : Disk} {connection : Connection}
    (hpresent : connection.ensurePresent disk = .ok ()) {cone : Cone Float} {limit : Float}
    {answer : Except (CatalogError Float) Nat} {filled : Accumulator Float}
    (h : ZoneCatalog.fetch ⟨some connection⟩ disk .always cone limit .empty =
      some (answer, filled)) (top : Option Nat) :
    match answer with
    | .ok count => count = filled.size ∧
      find disk connection cone limit top = some (.ok (brightest top filled.toList))
    | .error e => ∃ failure : Failure, failure.catalogError? = some e ∧
      Complains e failure.report ∧
      find disk connection cone limit top = some (.error failure) := by
  unfold ZoneCatalog.fetch at h
  unfold find
  cases hranges : partition cone with
  | error e =>
      simp only [hpresent, hranges] at h
      obtain ⟨rfl, -⟩ := Prod.mk.inj (Option.some.inj h)
      exact ⟨.tooWide e, rfl, report_tooWide e, rfl⟩
  | ok ranges =>
      simp only [hpresent, hranges] at h
      obtain ⟨⟨outcome, last⟩, hall, hconclude⟩ := Option.map_eq_some_iff.mp h
      have hscan := scan_of_scanAll hall
      cases outcome with
      | error e =>
          obtain ⟨rfl, -⟩ := Prod.mk.inj hconclude
          obtain ⟨range, -, hfails⟩ := hscan
          refine ⟨.scan (dataName range.zone) e, rfl, report_scan range.zone e, ?_⟩
          simp only [hfails, Option.map_some]
      | ok _ =>
          obtain ⟨rfl, rfl⟩ := Prod.mk.inj hconclude
          refine ⟨rfl, ?_⟩
          simp only [hscan, Option.map_some]

/-- What connects a command connects a catalog. -/
theorem connect_eq_ok {disk : Disk} {place : CatalogPlace} {chosen : Settings Float}
    {connection : Connection} (h : connect disk place = .ok (chosen, connection)) :
    Connection.connect disk connection.root connection.keepSecondary = .ok connection := by
  unfold connect at h
  cases hsettings : settingsOf disk place with
  | error e => rw [hsettings] at h; cases h
  | ok loaded =>
      cases hroot : rootOf place loaded with
      | error e => simp only [hsettings, bind, Except.bind, hroot] at h; cases h
      | ok root =>
          cases hconnect : Connection.connect disk root loaded.keepSecondary with
          | error e =>
              simp only [hsettings, bind, Except.bind, hroot, hconnect] at h
              cases h
          | ok made =>
              simp only [hsettings, bind, Except.bind, hroot, hconnect] at h
              cases h
              obtain ⟨rfl, -⟩ := connect_eq_ok_iff.mp hconnect
              exact hconnect

/-- A command that can look for its stars reports on what it finds. -/
theorem run_query_eq {disk : Disk} {place : CatalogPlace} {text : ConeText}
    {chosen : Settings Float} {connection : Connection} {cone : Cone Float}
    (hconnect : connect disk place = .ok (chosen, connection)) (hcone : text.cone = .ok cone)
    (limit : Option Float) (top : Option Nat) :
    (Command.query place text limit top).run disk =
      .report (((find disk connection cone (limit.getD chosen.primaryLimit) top).map fun found =>
        found.map fun listed => answerText listed (limit.getD chosen.primaryLimit)).elim
          .brokenOff .ofResult) := by
  simp only [run, runQuery, hconnect, hcone, entries_eq]

/-- **The query command lists what the catalog finds.**  Take any file system, any place in it
at which a command connects a catalog by a path that is not empty, any cone that the command
line accepts, and any limit and bound.  A catalog is connected to the same directory with the
same choice of records, and asked for the same cone with nothing found before; it answers.

If that succeeds, the command succeeds, and prints a line for each of the entries that were found,
with their names and in their order, or for as many of the brightest as were asked for.  If it
fails, the command fails, of the same failure of the catalog, and complains about it in the
catalog's words. -/
theorem run_query_agrees (system : FileSystem) {place : CatalogPlace} {text : ConeText}
    {chosen : Settings Float} {connection : Connection} {cone : Cone Float}
    (hconnect : connect system.disk place = .ok (chosen, connection))
    (hroot : connection.root ≠ "") (hcone : text.cone = .ok cone) (limit : Option Float)
    (top : Option Nat) :
    ∃ catalog answer filled,
      ZoneCatalog.connect system.disk connection.root connection.keepSecondary = .ok catalog ∧
      catalog.fetch system.disk .always cone (limit.getD chosen.primaryLimit) .empty =
        some (answer, filled) ∧
      match answer with
      | .ok count => count = filled.size ∧ ∃ listed, Lists top filled.toList listed ∧
        (Command.query place text limit top).run system.disk =
          .report ⟨0, answerText listed (limit.getD chosen.primaryLimit), ""⟩
      | .error e => ∃ failure : Failure, failure.catalogError? = some e ∧
        Complains e failure.report ∧
        (Command.query place text limit top).run system.disk = .report ⟨1, "", failure.report⟩ := by
  have hmade := connect_eq_ok hconnect
  have hpresent := ensurePresent_of_connect hmade hroot
  have hrun := run_query_eq hconnect hcone limit top
  obtain ⟨⟨answer, filled⟩, hfetch⟩ := exists_fetch_of_cone hcone ⟨some connection⟩ system.disk
    .always (limit.getD chosen.primaryLimit) .empty
  have hfind := find_of_fetch hpresent hfetch top
  refine ⟨⟨some connection⟩, answer, filled, by rw [ZoneCatalog.connect, hmade]; rfl, hfetch, ?_⟩
  cases answer with
  | ok count =>
      obtain ⟨hcount, hfind⟩ := hfind
      exact ⟨hcount, _, lists_brightest top filled.toList, by rw [hrun, hfind]; rfl⟩
  | error e =>
      obtain ⟨failure, herror, hcomplains, hfind⟩ := hfind
      exact ⟨failure, herror, hcomplains, by rw [hrun, hfind]; rfl⟩

section Sample

/-- The five stars in the directory `cat`, in the two zones at the equator. -/
def sampleSky : Tree :=
  .directory [("cat", .directory [(probeName, .file .empty),
    (indexName 825, .file sampleIndex), (dataName 825, .file sampleData),
    (indexName 900, .file sampleIndex), (dataName 900, .file sampleData)])]

/-- The cone around a point of the equator as a user gives it. -/
def sampleCone : ConeText := ⟨"10:08", "0", 1⟩

theorem sampleCone_eq : sampleCone.cone = .ok (around 152) := by
  have hparts : sampleCone.cone.toOption.map (fun cone => (cone.ra, cone.dec, cone.radius)) =
      some ((around (152 : Float)).ra, (around (152 : Float)).dec,
        (around (152 : Float)).radius) := by
    decide +kernel
  cases hcone : sampleCone.cone with
  | error e =>
      rw [hcone] at hparts
      cases hparts
  | ok cone =>
      rw [hcone] at hparts
      obtain ⟨ra, dec, radius⟩ := cone
      obtain ⟨rfl, hrest⟩ := Prod.mk.inj (Option.some.inj hparts)
      obtain ⟨rfl, rfl⟩ := Prod.mk.inj hrest
      rfl

/-- Where the cosine of zero is one, the cone has a range on either side of the equator. -/
theorem partition_sampleCone (hcos : Analytic.cos (0 : Float) = 1) :
    partition (around (152 : Float)) = .ok [⟨825, 151, 153, -1, 0⟩, ⟨900, 151, 153, 0, 1⟩] := by
  have hdec : Angle.ofDegrees (Angle.toDegrees (around (152 : Float)).dec) = 0 := by decide
  have hspans : spans (Angle.toDegrees (around (152 : Float)).ra)
      (Angle.toDegrees (around (152 : Float)).dec) (Angle.toDegrees (around (152 : Float)).radius) =
        [(151, 153)] := by
    rw [spans, hdec, hcos]
    decide +kernel
  rw [partition_of_spans (by decide) hspans]
  exact congrArg Except.ok (by decide +kernel)

/-- The lines and the magnitudes of the three stars that are found. -/
def sampleLines : List (String × Float) :=
  [("  SA1.0 000000  10:06:00.00  00:30:00.0   10.0", 10),
    ("  SA1.0 000001  10:08:00.00  00:30:00.0   15.0", 15),
    ("  SA1.0 000002  10:10:00.00  00:30:00.0   11.0", 11)]

theorem scan_sampleSky : ∃ found : Accumulator Float,
    scan (FileSystem.ofTree sampleSky).disk .always ⟨"./cat/", true⟩ 18.0
        [⟨825, 151, 153, -1, 0⟩, ⟨900, 151, 153, 0, 1⟩] .empty = some (.ok found) ∧
      found.toList.map (fun star => (starLine star, star.mag)) = sampleLines := by
  have hscan : (scan (FileSystem.ofTree sampleSky).disk .always ⟨"./cat/", true⟩ (18.0 : Float)
      [⟨825, 151, 153, -1, 0⟩, ⟨900, 151, 153, 0, 1⟩] .empty).bind (fun result =>
        result.toOption.map fun found =>
          found.toList.map fun star => (starLine star, star.mag)) = some sampleLines := by
    decide +kernel
  obtain ⟨result, hresult, hlines⟩ := Option.bind_eq_some_iff.mp hscan
  obtain ⟨found, hfound, hlines⟩ := Option.map_eq_some_iff.mp hlines
  cases result with
  | error e => cases hfound
  | ok _ =>
      obtain rfl := Option.some.inj hfound
      exact ⟨_, hresult, hlines⟩

/-- Of three elements the last is put before the second. -/
theorem mergeSort_three {β : Type} {le : β → β → Bool} {a b c : β} (hab : le a b = true)
    (hac : le a c = true) (hbc : le b c = false) : [a, b, c].mergeSort le = [a, c, b] := by
  simp [List.mergeSort, List.MergeSort.Internal.splitInTwo, hab, hac, hbc]

/-- The answer to the query of the sample. -/
def sampleAnswer : List String :=
  ["", "  Catalog Stars", "  ═════════════", "", "  Count         2", "  Mag limit     18.0", "",
    "  SA1.0 000000  10:06:00.00  00:30:00.0   10.0",
    "  SA1.0 000002  10:10:00.00  00:30:00.0   11.0", ""]

theorem find_sampleSky (hcos : Analytic.cos (0 : Float) = 1) :
    ∃ listed, find (FileSystem.ofTree sampleSky).disk ⟨"./cat/", true⟩ (around 152) 18.0 (some 2) =
        some (.ok listed) ∧
      answerText listed 18.0 = String.join (sampleAnswer.map (· ++ "\n")) := by
  obtain ⟨found, hscan, hlines⟩ := scan_sampleSky
  obtain ⟨first, rest, hfirst, hline₁, hrest⟩ := List.map_eq_cons_iff.mp hlines
  obtain ⟨second, rest, rfl, hline₂, hrest⟩ := List.map_eq_cons_iff.mp hrest
  obtain ⟨third, rest, rfl, hline₃, hrest⟩ := List.map_eq_cons_iff.mp hrest
  obtain rfl := List.map_eq_nil_iff.mp hrest
  obtain ⟨htext₁, hmag₁⟩ := Prod.mk.inj hline₁
  obtain ⟨-, hmag₂⟩ := Prod.mk.inj hline₂
  obtain ⟨htext₃, hmag₃⟩ := Prod.mk.inj hline₃
  have hbrightest : brightest (some 2) found.toList = [first, third] := by
    have hsorted : [first, second, third].mergeSort (fun a b => Scalar.precedes a.mag b.mag) =
        [first, third, second] := by
      refine mergeSort_three ?_ ?_ ?_
      · rw [hmag₁, hmag₂]
        decide
      · rw [hmag₁, hmag₃]
        decide
      · rw [hmag₂, hmag₃]
        decide
    rw [hfirst, brightest, hsorted]
    rfl
  refine ⟨[first, third], ?_, ?_⟩
  · simp only [find, partition_sampleCone hcos, hscan, Option.map_some, hbrightest]
  · have hlimit : Double.fixed 1 18.0 = "18.0" := by decide +kernel
    have hcount : toString [first, third].length = "2" := by
      change toString 2 = "2"
      decide
    rw [answerText, answerLines, List.map_cons, List.map_singleton, htext₁, htext₃, hlimit, hcount]
    decide +kernel

/-- **The two brightest stars of the sample**, in the catalog of the directory `./cat/`.  There are
three within a degree, and the one in the middle is not listed. -/
theorem run_query_agrees_sample :
    connect (FileSystem.ofTree sampleSky).disk ⟨some "./cat/", none⟩ =
        .ok (.default, ⟨"./cat/", true⟩) ∧
      "./cat/" ≠ "" ∧ sampleCone.cone = .ok (around 152) ∧
      (∃ catalog answer filled,
        ZoneCatalog.connect (FileSystem.ofTree sampleSky).disk "./cat/" true = .ok catalog ∧
        catalog.fetch (FileSystem.ofTree sampleSky).disk .always (around 152) 18.0 .empty =
          some (answer, filled) ∧
        match answer with
        | .ok count => count = filled.size ∧ ∃ listed, Lists (some 2) filled.toList listed ∧
          (Command.query ⟨some "./cat/", none⟩ sampleCone none (some 2)).run
              (FileSystem.ofTree sampleSky).disk = .report ⟨0, answerText listed 18.0, ""⟩
        | .error e => ∃ failure : Failure, failure.catalogError? = some e ∧
          Complains e failure.report ∧
          (Command.query ⟨some "./cat/", none⟩ sampleCone none (some 2)).run
              (FileSystem.ofTree sampleSky).disk = .report ⟨1, "", failure.report⟩) ∧
      (Analytic.cos (0 : Float) = 1 →
        (Command.query ⟨some "./cat/", none⟩ sampleCone none (some 2)).run
            (FileSystem.ofTree sampleSky).disk =
          .report ⟨0, String.join (sampleAnswer.map (· ++ "\n")), ""⟩) := by
  have hconnect : connect (FileSystem.ofTree sampleSky).disk ⟨some "./cat/", none⟩ =
      .ok (.default, ⟨"./cat/", true⟩) := rfl
  refine ⟨hconnect, by decide, sampleCone_eq, ?_, fun hcos => ?_⟩
  · exact run_query_agrees (FileSystem.ofTree sampleSky) hconnect (by decide) sampleCone_eq none
      (some 2)
  · obtain ⟨listed, hfind, htext⟩ := find_sampleSky hcos
    have hfound : find (FileSystem.ofTree sampleSky).disk ⟨"./cat/", true⟩ (around 152)
        ((none : Option Float).getD Settings.default.primaryLimit) (some 2) = some (.ok listed) :=
      hfind
    rw [run_query_eq hconnect sampleCone_eq none (some 2), hfound, ← htext]
    rfl

end Sample

end PlateSolver.Command
