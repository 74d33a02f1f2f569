import PlateSolver.Catalog.Listed
import PlateSolver.Search.Session
import PlateSolver.Zone.Catalog

/-!
# The library's own catalogs and detector in a search

The catalogs and the detector of this library take part in a search like any
others.  What they depend on beyond the question they are asked — the state of
the disk, the allocator — they read off the world.

* `Listed.collaborator`, `ZoneCatalog.collaborator` — catalogs.
* `DetectionSettings.detector` — the detector.
-/

namespace PlateSolver

variable {σ α : Type} [Analytic α]

/-- A catalog in memory. -/
def Listed.collaborator (catalog : Listed α) (grants : σ → Grants) : Catalog σ α where
  name := catalog.name
  fetch cone limit acc := fun world =>
    (some (catalog.fetch (grants world) cone limit acc), world)

/-- A zone catalog on a disk. -/
def ZoneCatalog.collaborator (catalog : ZoneCatalog) (disk : σ → Disk) (grants : σ → Grants) :
    Catalog σ α where
  name := ZoneCatalog.name
  fetch cone limit acc := fun world =>
    (catalog.fetch (disk world) (grants world) cone limit acc, world)

/-- The shipped detector. -/
def DetectionSettings.detector (settings : DetectionSettings α) : Detector σ α where
  findStars raster := fun world => (Detection.findStars settings raster, world)
  starStats raster x y := fun world => (Detection.starStats settings raster x y, world)

end PlateSolver
