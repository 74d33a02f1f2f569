import PlateSolver.Angle.Sexagesimal
import PlateSolver.Catalog.Entry
import PlateSolver.Settings
import PlateSolver.Text.Column
import PlateSolver.Zone.Range

/-!
# What commands print

Answers are set under a title, indented, with a label in a column of its own.

* `ranges` — the ranges of zones that a cone touches.
* `entries` — the stars of a cone.
* `settings` — the settings in a file.
* `connection` — a catalog that was found.
-/

namespace PlateSolver.Command.Summary

open Text

/-- The width of a label. -/
def labelWidth : Nat := 14

/-- A title with a line under it. -/
def title (text : String) : String :=
  let rule := String.ofList (List.replicate text.length '═')
  s!"\n  {text}\n  {rule}\n\n"

/-- A label and what it stands for. -/
def row (label value : String) : String :=
  let column := padRight labelWidth label
  s!"  {column}{value}\n"

/-- The position and the radius of a cone. -/
def cone (c : Cone Float) : String :=
  let radius := Double.fixed 3 (Angle.toDegrees c.radius)
  row "RA" (Sexagesimal.format (Angle.toHours c.ra) 2) ++
    row "Dec" (Sexagesimal.format (Angle.toDegrees c.dec) 1) ++
    row "Radius" s!"{radius}°" ++ "\n"

/-- A line of the table of ranges, from the texts in its columns. -/
def rangeLine (file raMin raMax decMin decMax : String) : String :=
  let first := padRight labelWidth file
  let a := padLeft 9 raMin
  let b := padLeft 9 raMax
  let c := padLeft 8 decMin
  let d := padLeft 8 decMax
  s!"  {first}{a} {b}  {c} {d}\n"

/-- A range of a zone. -/
def range (r : Zone.Range Float) : String :=
  rangeLine (Zone.dataName r.zone) (Double.fixed 4 r.raMin) (Double.fixed 4 r.raMax)
    (Double.fixed 4 r.decMin) (Double.fixed 4 r.decMax)

/-- The ranges of zones that a cone touches. -/
def ranges (c : Cone Float) (rs : List (Zone.Range Float)) : String :=
  title "Zone Ranges" ++ cone c ++ rangeLine "File" "RA min" "RA max" "Dec min" "Dec max" ++
    String.join (rs.map range) ++ "\n"

/-- A star of a catalog. -/
def entry (e : Entry Float) : String :=
  let ra := Sexagesimal.format (Angle.toHours e.ra) 2
  let dec := Sexagesimal.format (Angle.toDegrees e.dec) 1
  let mag := padLeft 5 (Double.fixed 1 e.mag)
  row e.name s!"{ra}  {dec}  {mag}"

/-- The stars of a cone. -/
def entries (es : List (Entry Float)) (limit : Float) : String :=
  title "Catalog Stars" ++ row "Count" (toString es.length) ++
    row "Mag limit" (Double.fixed 1 limit) ++ "\n" ++ String.join (es.map entry) ++ "\n"

/-- A row under a heading. -/
def innerRow (label value : String) : String := "  " ++ row label value

/-- The settings in a file. -/
def settings (s : Settings Float) (path : String) : String :=
  let magnitude := fun (label : String) (x : Float) =>
    let text := Double.fixed 1 x
    innerRow label s!"{text} mag"
  let residual := Double.fixed 1 s.maxResidual
  title "Solver Config" ++ row "File" path ++ (s.catalogRoot.elim "" (row "Catalog")) ++
    row "Method" s.method.name ++ "\n  Registration\n" ++
    innerRow "Max residual" s!"{residual} px" ++
    innerRow "Image stars" (toString s.maxImageStars) ++
    innerRow "Catalog stars" (toString s.maxCatalogStars) ++
    innerRow "Min pairs" (toString s.minPair) ++ innerRow "Max pairs" (toString s.maxPair) ++
    innerRow "Order" (toString s.order) ++ "\n  Catalogs\n" ++
    magnitude "Primary" s.primaryLimit ++ magnitude "Secondary" s.secondaryLimit ++
    magnitude "Brightest" s.brightestMag ++ "\n"

/-- A catalog that was found. -/
def connection (root : String) (keepSecondary : Bool) : String :=
  let kept := if keepSecondary then "included" else "excluded"
  s!"Catalog:     {root}\nSecondary:   {kept}\n"

end PlateSolver.Command.Summary
