import PlateSolver.Proofs.Zone.FullScan
import PlateSolver.Proofs.Zone.Records

/-!
# Records written and read back

A position is written into a record in three steps: it is scaled to packed units, each coordinate
is taken to the nearest whole number that a word can hold, and the words are put down byte by byte.
The last step loses nothing, in either direction.  The first loses nothing either where arithmetic
is exact, and what the second loses is at most half a unit, for no position on the sky is beyond
the words.  A record that was read holds whole numbers already, whatever its bytes are, and so it
is written as it was.

* `wordBytes_wordOf`, `wordOf_wordBytes` — bytes and words.
* `Packed.buffer` — the bytes of a record; `bytes_read` and `read_buffer` go there and back.
* `Source`, `Source.recovered` — what is written, and what is read of it.
* `toNat_nearestWord`, `nearestWord_mono`, `abs_nearestWord_div_sub` — the step that rounds.
* `record_round_trip` — both directions, and the order of right ascensions.
-/

namespace PlateSolver.Zone

open Exact Angle

/-! ## Bytes -/

theorem toNat_wordOf (a b c d : UInt8) :
    (wordOf a b c d).toNat = ((a.toNat * 256 + b.toNat) * 256 + c.toNat) * 256 + d.toNat := by
  rw [wordOf, UInt32.toNat_ofNat_of_lt']
  have := a.toNat_lt
  have := b.toNat_lt
  have := c.toNat_lt
  have := d.toNat_lt
  simp only [UInt32.size]
  omega

/-- The word of four bytes has these bytes. -/
theorem wordBytes_wordOf (a b c d : UInt8) : Packed.wordBytes (wordOf a b c d) = [a, b, c, d] := by
  have := a.toNat_lt
  have := b.toNat_lt
  have := c.toNat_lt
  have := d.toNat_lt
  simp only [Packed.wordBytes, toNat_wordOf, List.map_cons, List.map_nil, List.cons.injEq,
    ← UInt8.toNat_inj, UInt8.toNat_ofNat']
  refine ⟨?_, ?_, ?_, ?_, trivial⟩ <;> omega

/-- The bytes of a word give the word. -/
theorem wordOf_wordBytes (word : UInt32) :
    wordOf (UInt8.ofNat (word.toNat / 16777216)) (UInt8.ofNat (word.toNat / 65536))
      (UInt8.ofNat (word.toNat / 256)) (UInt8.ofNat word.toNat) = word := by
  have := word.toNat_lt
  simp only [← UInt32.toNat_inj, toNat_wordOf, UInt8.toNat_ofNat']
  omega

/-- What is written one after the other is read one after the other. -/
theorem recordsOf_bytes_append (record : Packed) (rest : List UInt8) :
    recordsOf (record.bytes ++ rest) = record :: recordsOf rest := by
  simp only [Packed.bytes, Packed.wordBytes, List.map_cons, List.map_nil, List.cons_append,
    List.nil_append, recordsOf, wordOf_wordBytes]

/-- The bytes of a record, as they stand in a file. -/
def Packed.buffer (record : Packed) : ByteArray := ⟨record.bytes.toArray⟩

/-- **The bytes of a record that was read** are the bytes it was read from. -/
theorem bytes_read {buffer : ByteArray} (hsize : buffer.size = recordSize) :
    (Packed.read buffer 0).bytes = buffer.data.toList := by
  have hlength : buffer.data.toList.length = 12 := hsize
  have hsplit := drop_eq_word buffer.data.toList (show 0 + 4 ≤ _ by omega)
  rw [List.drop_zero, drop_eq_word _ (by omega), drop_eq_word _ (by omega),
    List.drop_eq_nil_of_le (by omega)] at hsplit
  simp only [Packed.read, Packed.bytes]
  rw [wordAt_eq buffer (by omega), wordAt_eq buffer (by omega), wordAt_eq buffer (by omega),
    wordBytes_wordOf, wordBytes_wordOf, wordBytes_wordOf]
  exact hsplit.symm

theorem buffer_read {buffer : ByteArray} (hsize : buffer.size = recordSize) :
    (Packed.read buffer 0).buffer = buffer := by
  rw [Packed.buffer, bytes_read hsize, Array.toArray_toList]

/-- **The record that is read from the bytes of a record** is this record. -/
theorem read_buffer (record : Packed) : Packed.read record.buffer 0 = record := by
  have hfits : recordSize * (0 + 1) ≤ record.buffer.size := le_of_eq rfl
  have hread := recordsOf_drop record.buffer hfits
  have hwritten := recordsOf_bytes_append record []
  rw [List.append_nil] at hwritten
  exact (List.cons.inj (hread.symm.trans hwritten)).1

/-! ## Nearest words -/

theorem toNat_nearestWord (x : ℝ) :
    (nearestWord (real x)).toNat = min (nearest x) (Nat.pow 2 32 - 1) := by
  have hpow : Nat.pow 2 32 = 2 ^ 32 := rfl
  rw [nearestWord, whole_round_real, UInt32.toNat_ofNat_of_lt']
  simp only [UInt32.size, hpow]
  omega

/-- Whole numbers that a word can hold stay what they are. -/
theorem nearestWord_toNat (word : UInt32) : nearestWord (real word.toNat) = word := by
  have hword := word.toNat_lt
  have hpow : Nat.pow 2 32 = 2 ^ 32 := rfl
  rw [← UInt32.toNat_inj, toNat_nearestWord, nearest_natCast, hpow]
  omega

theorem nearestWord_mono {a b : Exact} (h : a ≤ b) : nearestWord a ≤ nearestWord b := by
  obtain ⟨x, y, rfl, rfl, hxy⟩ := exists_of_le h
  rw [UInt32.le_iff_toNat_le, toNat_nearestWord, toNat_nearestWord]
  exact min_le_min_right _ (nearest_mono hxy)

/-- A number up to the greatest word is rounded. -/
theorem toNat_nearestWord_of_le {x : ℝ} (h : x ≤ (2 ^ 32 - 1 : ℕ)) :
    (nearestWord (real x)).toNat = nearest x := by
  have hword : nearest x ≤ 2 ^ 32 - 1 := by
    have hmono := nearest_mono h
    rwa [nearest_natCast] at hmono
  have hpow : Nat.pow 2 32 = 2 ^ 32 := rfl
  rw [toNat_nearestWord, hpow, min_eq_left hword]

/-- The word of a number counts its units to within a half. -/
theorem abs_nearestWord_div_sub (x : ℝ) {scale : ℝ} (hscale : 0 < scale) (hlow : 0 ≤ x * scale)
    (hhigh : x * scale ≤ (2 ^ 32 - 1 : ℕ)) :
    |(nearestWord (real (x * scale))).toNat / scale - x| ≤ 1 / scale / 2 := by
  rw [toNat_nearestWord_of_le hhigh]
  exact abs_nearest_div_sub x hscale hlow

/-! ## Sources -/

/-- **Source.** What is written into a record: a position and a photometry word. -/
structure Source (α : Type) where
  /-- Right ascension, in hours. -/
  hours : α
  /-- Declination, in degrees. -/
  degrees : α
  /-- Photometry. -/
  light : UInt32

/-- The record of a source. -/
def Source.record {α : Type} [Scalar α] (source : Source α) : Packed :=
  Packed.ofPosition source.hours source.degrees source.light

/-- **What is read of a source** from the bytes of its record. -/
def Source.recovered {α : Type} [Analytic α] (source : Source α) : Star α :=
  Star.decode (Packed.read source.record.buffer 0)

/-- A record as a source: where it says that its star is, in hours and degrees. -/
def Packed.source (α : Type) [Analytic α] (record : Packed) : Source α :=
  let star : Star α := Star.decode record
  ⟨toHours star.ra, toDegrees star.dec, record.light⟩

theorem toHours_decode (record : Packed) :
    toHours (Star.decode record : Star Exact).ra = real (record.ra.toNat / 5400000) := by
  rw [Star.decode, toHours_ofHours, raScale, ofNat_eq, numeral_eq, real_div _ (by norm_num)]

theorem toDegrees_decode (record : Packed) :
    toDegrees (Star.decode record : Star Exact).dec = real (record.polar.toNat / 360000 - 90) := by
  rw [Star.decode, toDegrees_ofDegrees, decScale, ofNat_eq, numeral_eq, numeral_eq,
    real_div _ (by norm_num), real_sub]

/-- **A record that was read is written as it was**, whichever its words are. -/
theorem record_source (record : Packed) : (record.source Exact).record = record := by
  have hra : nearestWord (toHours (Star.decode record : Star Exact).ra * raScale) = record.ra := by
    rw [toHours_decode, raScale, numeral_eq, real_mul, div_mul_cancel₀ _ (by norm_num),
      nearestWord_toNat]
  have hpolar : nearestWord ((toDegrees (Star.decode record : Star Exact).dec + 90) * decScale) =
      record.polar := by
    rw [toDegrees_decode, decScale, numeral_eq, numeral_eq, real_add, sub_add_cancel, real_mul,
      div_mul_cancel₀ _ (by norm_num), nearestWord_toNat]
  simp only [Source.record, Packed.source, Packed.ofPosition, hra, hpolar]

namespace Source

theorem recovered_eq (source : Source Exact) :
    source.recovered = Star.decode source.record := by
  rw [recovered, read_buffer]

variable {p q : Source Exact}

theorem record_ra_mono (h : p.hours ≤ q.hours) : p.record.ra ≤ q.record.ra := by
  obtain ⟨x, y, hp, hq, hxy⟩ := exists_of_le h
  refine nearestWord_mono ?_
  rw [hp, hq, raScale, numeral_eq, real_mul, real_mul, real_le]
  linarith

theorem record_polar_mono (h : p.degrees ≤ q.degrees) : p.record.polar ≤ q.record.polar := by
  obtain ⟨x, y, hp, hq, hxy⟩ := exists_of_le h
  refine nearestWord_mono ?_
  rw [hp, hq, decScale, numeral_eq, numeral_eq, real_add, real_add, real_mul, real_mul, real_le]
  linarith

/-- **The order of right ascensions is kept**, if not every difference. -/
theorem recovered_ra_mono (h : p.hours ≤ q.hours) : p.recovered.ra ≤ q.recovered.ra := by
  have hword : (p.record.ra.toNat : ℝ) ≤ q.record.ra.toNat := by
    exact_mod_cast UInt32.le_iff_toNat_le.mp (record_ra_mono h)
  rw [recovered_eq, recovered_eq, decode_ra, decode_ra, real_le, radians_le_radians]
  linarith

end Source

/-- **Records and sources.**  In exact arithmetic:

* whatever twelve bytes are read, the position read from them, in hours and degrees, is written
  with the same photometry as the same twelve bytes;
* a position on the sky is recovered from its record to within half a packed unit, and its
  photometry is what its word says;
* the words of a record increase with its coordinates, so sources in the order of their right
  ascensions are recovered in this order. -/
theorem record_round_trip :
    (∀ buffer : ByteArray, buffer.size = recordSize →
      ((Packed.read buffer 0).source Exact).record.buffer = buffer) ∧
    (∀ (hours degrees : ℝ) (light : UInt32), 0 ≤ hours → hours < 24 → -90 ≤ degrees →
      degrees ≤ 90 →
      let star := (Source.mk (real hours) (real degrees) light).recovered
      (∃ ra, toHours star.ra = real ra ∧ |ra - hours| ≤ 1 / 5400000 / 2) ∧
        (∃ dec, toDegrees star.dec = real dec ∧ |dec - degrees| ≤ 1 / 360000 / 2) ∧
        star.light = Photometry.ofWord light) ∧
    (∀ p q : Source Exact, (p.hours ≤ q.hours → p.record.ra ≤ q.record.ra) ∧
      (p.degrees ≤ q.degrees → p.record.polar ≤ q.record.polar)) ∧
    ∀ sources : List (Source Exact), (sources.Pairwise fun p q => p.hours ≤ q.hours) →
      (sources.map Source.recovered).Pairwise fun s t => s.ra ≤ t.ra := by
  refine ⟨?_, ?_, fun p q => ⟨Source.record_ra_mono, Source.record_polar_mono⟩, ?_⟩
  · intro buffer hsize
    rw [record_source, buffer_read hsize]
  · intro hours degrees light hlow hhigh hsouth hnorth star
    have hstar : star = Star.decode (Source.record ⟨real hours, real degrees, light⟩) :=
      Source.recovered_eq _
    rw [hstar]
    refine ⟨⟨_, toHours_decode _, ?_⟩, ⟨_, toDegrees_decode _, ?_⟩, rfl⟩
    · exact abs_nearestWord_div_sub hours (by norm_num) (by positivity) (by norm_num; linarith)
    · have hpolar := abs_nearestWord_div_sub (degrees + 90) (show (0 : ℝ) < 360000 by norm_num)
        (mul_nonneg (by linarith) (by norm_num)) (by norm_num; linarith)
      rwa [← sub_sub, sub_right_comm] at hpolar
  · intro sources hsorted
    exact List.pairwise_map.mpr (hsorted.imp Source.recovered_ra_mono)

/-- Twelve bytes that no position on the sky is packed into. -/
def fullBuffer : ByteArray := ⟨Array.replicate 12 255⟩

/-- Two sources half a packed unit apart, in one record each. -/
noncomputable def closeSources : List (Source Exact) :=
  [⟨real 0, real (-1), 0⟩, ⟨real (10800000 : ℕ)⁻¹, real 1, 4294967295⟩]

theorem record_round_trip_extremes :
    fullBuffer.size = recordSize ∧
      ((Packed.read fullBuffer 0).source Exact).record.buffer = fullBuffer ∧
      (∃ ra, toHours (Source.mk (real 0) (real 90) 999999).recovered.ra = real ra ∧
        |ra - 0| ≤ 1 / 5400000 / 2) ∧
      (closeSources.Pairwise fun p q => p.hours ≤ q.hours) ∧
      (closeSources.map Source.recovered).Pairwise fun s t => s.ra ≤ t.ra := by
  have hsize : fullBuffer.size = recordSize := by decide
  have hsorted : closeSources.Pairwise fun p q => p.hours ≤ q.hours := by
    simp [closeSources]
  obtain ⟨hbuffer, hrecovered, -, horder⟩ := record_round_trip
  have hpole := hrecovered 0 90 999999 le_rfl (by norm_num) (by norm_num) le_rfl
  exact ⟨hsize, hbuffer fullBuffer hsize, hpole.1, hsorted, horder closeSources hsorted⟩

end PlateSolver.Zone
