import PlateSolver.Main
import PlateSolver.Search.Team
import PlateSolver.Solve
import PlateSolver.Disk.Tree
import PlateSolver.Proofs.Search.Course
import PlateSolver.Proofs.Zone.Atomic
import PlateSolver.Proofs.Zone.FullScan
import PlateSolver.Proofs.Zone.Coverage
import PlateSolver.Proofs.Search.Schedule
import PlateSolver.Proofs.Ranking
import PlateSolver.Proofs.Search.Lawful
import PlateSolver.Proofs.Search.Selection
import PlateSolver.Proofs.Image.Cards
import PlateSolver.Proofs.Solve.Atomic
import PlateSolver.Proofs.Search.Spiral
import PlateSolver.Proofs.Search.Reflection
import PlateSolver.Proofs.Search.Widening
import PlateSolver.Proofs.Search.Alongside
import PlateSolver.Proofs.Search.Tolerance
import PlateSolver.Proofs.Catalog.Entries
import PlateSolver.Proofs.Image.Raster
import PlateSolver.Proofs.Image.Written
import PlateSolver.Proofs.Detection.Components
import PlateSolver.Proofs.Detection.Fill
import PlateSolver.Proofs.Detection.Blobs
import PlateSolver.Proofs.Detection.Centroid
import PlateSolver.Proofs.Detection.Measure
import PlateSolver.Proofs.Detection.Pedestal
import PlateSolver.Proofs.Detection.Peak
import PlateSolver.Proofs.Detection.Level
import PlateSolver.Proofs.Solve.HandOver
import PlateSolver.Proofs.Solve.ImageStars
import PlateSolver.Proofs.Zone.Packing
import PlateSolver.Proofs.Zone.Photometry
import PlateSolver.Proofs.Zone.IndexRecords
import PlateSolver.Proofs.Zone.Cut
import PlateSolver.Proofs.Zone.Turn
import PlateSolver.Proofs.Command.Query
import PlateSolver.Proofs.Zone.Presence
import PlateSolver.Proofs.Zone.Narrowing
import PlateSolver.Proofs.Zone.Files
import PlateSolver.Proofs.Zone.Names
import PlateSolver.Proofs.Settings.Document
import PlateSolver.Proofs.Angle.Sexagesimal
import PlateSolver.Proofs.Catalog.Growth
import PlateSolver.Proofs.Catalog.Membership
import PlateSolver.Proofs.Image.Nominal
