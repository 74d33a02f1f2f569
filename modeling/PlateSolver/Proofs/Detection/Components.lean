import Mathlib.Logic.Relation
import Mathlib.Order.Bounds.Basic
import PlateSolver.Detection.Blob
import PlateSolver.Proofs.Image.Raster

/-!
# Connected components of lit pixels

What the blobs of a raster should be can be said without spreading from anywhere.  Two lit
pixels belong together if one is reached from the other by steps along edges that never leave
the lit pixels.  That is an equivalence, its classes are the components, and a blob is made of
the measurements of one of them.

* `Touching` — two positions with an edge in common.
* `Linked` — lit pixels that belong together.
* `Group`, `Group.Component` — a list of pixels, and that it is a whole component.
* `Blob.Measures` — a blob with the measurements of a list of pixels.
* `Measures.add`, `Group.blob_measures` — taking the measurements pixel by pixel.

Positions are pairs of numbers and know nothing of a raster; its edges come in through what is
lit, which is always on the raster.  A program that counts in words does find a position before
the first row or column, and it is the same check of what is on the raster that keeps it from
going there (`mem_neighbours_iff`).
-/

namespace PlateSolver.Detection

/-! ## Components -/

/-- Positions with an edge in common: one step apart in a row or in a column. -/
def Touching (a b : Position) : Prop :=
  (a.1 = b.1 ∧ (a.2 + 1 = b.2 ∨ b.2 + 1 = a.2)) ∨ (a.2 = b.2 ∧ (a.1 + 1 = b.1 ∨ b.1 + 1 = a.1))

theorem Touching.symm {a b : Position} (h : Touching a b) : Touching b a := by
  unfold Touching at h ⊢
  omega

/-- On a raster the neighbours of a position are those that touch it: before the first row or
column comes a number that is too great for any raster. -/
theorem mem_neighbours_iff {raster : Raster} (hwords : raster.InWords) {spot other : Position}
    (hother : raster.holds other = true) : other ∈ neighbours spot ↔ Touching spot other := by
  obtain ⟨row, col⟩ := spot
  obtain ⟨row', col'⟩ := other
  obtain ⟨hrow, hcol⟩ := Raster.holds_iff.mp hother
  have hbefore : ∀ {m n bound : Nat}, m < bound → bound < Nat.pow 2 64 →
      (m = wordBefore n ↔ m + 1 = n) := by
    intro m n bound hm hbound
    unfold wordBefore
    split <;> omega
  have hrows := @hbefore row' row _ hrow hwords.height_lt
  have hcols := @hbefore col' col _ hcol hwords.width_lt
  unfold neighbours Touching
  simp only [List.mem_cons, List.not_mem_nil, or_false, Prod.mk.injEq, hrows, hcols]
  omega

section Linked

variable {α : Type} [Scalar α] {raster : Raster} {level : α}

/-- **Lit pixels that belong together**: there is a way between them along edges that does
not leave the lit pixels. -/
def Linked (raster : Raster) (level : α) : Position → Position → Prop :=
  Relation.ReflTransGen fun a b =>
    lit raster level a = true ∧ lit raster level b = true ∧ Touching a b

theorem Linked.refl (spot : Position) : Linked raster level spot spot := Relation.ReflTransGen.refl

theorem Linked.symm {a b : Position} (h : Linked raster level a b) : Linked raster level b a := by
  induction h with
  | refl => exact Linked.refl a
  | tail _ hstep ih =>
      obtain ⟨ha, hb, htouch⟩ := hstep
      exact Relation.ReflTransGen.head ⟨hb, ha, htouch.symm⟩ ih

theorem Linked.trans {a b c : Position} (hab : Linked raster level a b)
    (hbc : Linked raster level b c) : Linked raster level a c :=
  Relation.ReflTransGen.trans hab hbc

theorem Linked.of_touching {a b : Position} (ha : lit raster level a = true)
    (hb : lit raster level b = true) (htouch : Touching a b) : Linked raster level a b :=
  .single ⟨ha, hb, htouch⟩

/-- Whatever belongs together with a lit pixel is lit. -/
theorem Linked.lit {a b : Position} (h : Linked raster level a b)
    (ha : Detection.lit raster level a = true) : Detection.lit raster level b = true := by
  cases h with
  | refl => exact ha
  | tail _ hstep => exact hstep.2.1

end Linked

/-- **A group of pixels**, one of which is the first. -/
structure Group where
  /-- The pixel with which the group begins. -/
  first : Position
  /-- The other pixels of the group. -/
  others : List Position

/-- All pixels of a group, from the first one on. -/
def Group.pixels (group : Group) : List Position := group.first :: group.others

/-- **A group that is a component**: its pixels are the class of its first pixel, each of them
once, and the first pixel is the first of them in raster order. -/
structure Group.Component {α : Type} [Scalar α] (raster : Raster) (level : α) (group : Group) :
    Prop where
  /-- The first pixel is lit. -/
  lit_first : lit raster level group.first = true
  /-- The pixels are those that belong together with the first. -/
  mem_iff : ∀ spot, spot ∈ group.pixels ↔ Linked raster level group.first spot
  /-- No pixel is there twice. -/
  nodup : group.pixels.Nodup
  /-- No pixel comes before the first. -/
  index_first_le : ∀ spot ∈ group.pixels, raster.index group.first ≤ raster.index spot

/-! ## Measurements -/

/-- **A blob with the measurements of some pixels**: their number, the bounds of their rows
and columns, and the greatest of their values with a pixel that has it. -/
structure Blob.Measures (raster : Raster) (blob : Blob) (pixels : List Position) : Prop where
  /-- Their number. -/
  area : blob.area = pixels.length
  /-- The first row. -/
  top : IsLeast {row | row ∈ pixels.map Prod.fst} blob.top
  /-- The last row. -/
  bottom : IsGreatest {row | row ∈ pixels.map Prod.fst} blob.bottom
  /-- The first column. -/
  left : IsLeast {col | col ∈ pixels.map Prod.snd} blob.left
  /-- The last column. -/
  right : IsGreatest {col | col ∈ pixels.map Prod.snd} blob.right
  /-- The greatest value. -/
  peakValue : IsGreatest {value | value ∈ pixels.map raster.value} blob.peakValue
  /-- The peak is one of them. -/
  peak_mem : blob.peak ∈ pixels
  /-- The peak has the greatest value. -/
  value_peak : raster.value blob.peak = blob.peakValue

namespace Blob

variable {raster : Raster} {blob : Blob} {pixels : List Position}

theorem setOf_mem_map_append (f : Position → Nat) (spot : Position) :
    {n | n ∈ (pixels ++ [spot]).map f} = {n | n ∈ pixels.map f} ∪ {f spot} := by
  ext n
  rw [List.map_append]
  exact List.mem_append.trans (or_congr Iff.rfl List.mem_singleton)

theorem isLeast_append {f : Position → Nat} {least : Nat}
    (h : IsLeast {n | n ∈ pixels.map f} least) (spot : Position) :
    IsLeast {n | n ∈ (pixels ++ [spot]).map f} (min least (f spot)) := by
  rw [setOf_mem_map_append]
  exact h.union isLeast_singleton

theorem isGreatest_append {f : Position → Nat} {greatest : Nat}
    (h : IsGreatest {n | n ∈ pixels.map f} greatest) (spot : Position) :
    IsGreatest {n | n ∈ (pixels ++ [spot]).map f} (max greatest (f spot)) := by
  rw [setOf_mem_map_append]
  exact h.union isGreatest_singleton

/-- A blob with one more pixel has the measurements of one more pixel. -/
theorem Measures.add (h : blob.Measures raster pixels) (spot : Position) :
    (blob.add raster spot).Measures raster (pixels ++ [spot]) where
  area := by
    rw [List.length_append, ← h.area]
    rfl
  top := isLeast_append h.top spot
  bottom := isGreatest_append h.bottom spot
  left := isLeast_append h.left spot
  right := isGreatest_append h.right spot
  peakValue := by
    have hmax : (blob.add raster spot).peakValue = max blob.peakValue (raster.value spot) := by
      unfold Blob.add
      dsimp only
      split
      · omega
      · omega
    rw [hmax]
    exact isGreatest_append h.peakValue spot
  peak_mem := by
    unfold Blob.add
    dsimp only
    split
    · exact List.mem_append_right _ (List.mem_singleton_self spot)
    · exact List.mem_append_left _ h.peak_mem
  value_peak := by
    unfold Blob.add
    dsimp only
    split
    · rfl
    · exact h.value_peak

theorem Measures.foldl_add (h : blob.Measures raster pixels) (more : List Position) :
    (more.foldl (Blob.add raster) blob).Measures raster (pixels ++ more) := by
  induction more generalizing blob pixels with
  | nil => rwa [List.append_nil]
  | cons spot more ih =>
      rw [List.append_cons]
      exact ih (h.add spot)

theorem measures_singleton (raster : Raster) (spot : Position) :
    ((seed raster spot).add raster spot).Measures raster [spot] := by
  have hset : ∀ f : Position → Nat, {n | n ∈ [spot].map f} = {f spot} := by
    intro f
    ext n
    exact List.mem_singleton
  have hadd : (seed raster spot).add raster spot = { seed raster spot with area := 1 } := by
    unfold add seed
    simp only [Nat.lt_irrefl, if_false, Nat.min_self, Nat.max_self]
  rw [hadd]
  exact {
    area := rfl
    top := (hset Prod.fst).symm ▸ isLeast_singleton
    bottom := (hset Prod.fst).symm ▸ isGreatest_singleton
    left := (hset Prod.snd).symm ▸ isLeast_singleton
    right := (hset Prod.snd).symm ▸ isGreatest_singleton
    peakValue := (hset raster.value).symm ▸ isGreatest_singleton
    peak_mem := List.mem_singleton_self spot
    value_peak := rfl }

end Blob

/-- The blob that a group is reported as. -/
def Group.blob (raster : Raster) (group : Group) : Blob :=
  Blob.ofPixels raster group.first group.pixels

/-- **The blob of a group** has the measurements of its pixels. -/
theorem Group.blob_measures (raster : Raster) (group : Group) :
    (group.blob raster).Measures raster group.pixels :=
  (Blob.measures_singleton raster group.first).foldl_add group.others

end PlateSolver.Detection
