import PlateSolver.Angle

/-!
# Records of the zone catalog

A zone's data file is a sequence of twelve-byte records, three big-endian words
each:

* the right ascension, in hundredths of a second of time, times fifteen;
* the distance from the south pole, in hundredths of an arcsecond;
* the photometry: one bit of provenance, and below it the decimal digits
  `BBBRRR` of a blue and a red magnitude in tenths.

`Packed` is a record as its words, `Star` what it says.  Reading and writing the
words, and decoding and encoding a star, are separate, so that the first is exact
and only the second depends on the carrier.

* `Packed.read`, `Packed.bytes` — words from and to bytes.
* `Photometry`, `Photometry.ofWord`, `photometryWord` — the third word.
* `Star.decode`, `Packed.ofPosition` — a whole record.
-/

namespace PlateSolver.Zone

open Scalar

/-- **A record as its three words.** -/
structure Packed where
  /-- Packed right ascension. -/
  ra : UInt32
  /-- Packed distance from the south pole. -/
  polar : UInt32
  /-- Packed photometry. -/
  light : UInt32
  deriving DecidableEq

/-- Bytes in a record. -/
def recordSize : Nat := 12

namespace Packed

/-- A byte of a sequence; zero past its end. -/
def byteAt (bytes : ByteArray) (index : Nat) : Nat := (bytes[index]?.getD 0).toNat

/-- The big-endian word at a position. -/
def wordAt (bytes : ByteArray) (position : Nat) : UInt32 :=
  UInt32.ofNat
    (((byteAt bytes position * 256 + byteAt bytes (position + 1)) * 256 +
      byteAt bytes (position + 2)) * 256 + byteAt bytes (position + 3))

/-- The record at a position. -/
def read (bytes : ByteArray) (position : Nat) : Packed :=
  ⟨wordAt bytes position, wordAt bytes (position + 4), wordAt bytes (position + 8)⟩

/-- The four bytes of a word, highest first. -/
def wordBytes (word : UInt32) : List UInt8 :=
  let n := word.toNat
  [n / 16777216, n / 65536, n / 256, n].map UInt8.ofNat

/-- The twelve bytes of a record. -/
def bytes (record : Packed) : List UInt8 :=
  wordBytes record.ra ++ wordBytes record.polar ++ wordBytes record.light

end Packed

/-- **What a photometry word says.** -/
inductive Photometry (α : Type) where
  /-- A usable magnitude. -/
  | usable (mag : α) (secondary : Bool)
  /-- Neither color has a usable magnitude. -/
  | unusable (secondary : Bool)

namespace Photometry

variable {α : Type}

/-- Words from here on, provenance aside, carry no photometry. -/
def wordLimit : Nat := 1000000000

/-- The faintest usable magnitude, in tenths. -/
def colorLimit : Nat := 250

/-- What a word says: the red magnitude if it is usable, else the blue one. -/
def ofWord [Scalar α] (word : UInt32) : Photometry α :=
  let secondary := Nat.pow 2 31 ≤ word.toNat
  let colors := word.toNat % Nat.pow 2 31
  let red := colors % 1000
  let blue := colors / 1000 % 1000
  if wordLimit ≤ colors then .unusable secondary
  else if red ≤ colorLimit then .usable (ofNat red / 10) secondary
  else if blue ≤ colorLimit then .usable (ofNat blue / 10) secondary
  else .unusable secondary

/-- Whether the record also belongs to the secondary catalog. -/
def isSecondary : Photometry α → Bool
  | .usable _ secondary => secondary
  | .unusable secondary => secondary

/-- The magnitude to go by, if records of the secondary catalog are kept or not. -/
def accepted (keepSecondary : Bool) : Photometry α → Option α
  | .usable mag secondary => if secondary && !keepSecondary then none else some mag
  | .unusable _ => none

end Photometry

/-- A magnitude in tenths, at most three digits. -/
def tenths {α : Type} [Scalar α] (mag : α) : Nat := min (whole (round (mag * 10))) 999

/-- The word that packs two magnitudes and a provenance. -/
def photometryWord {α : Type} [Scalar α] (blue red : α) (secondary : Bool) : UInt32 :=
  UInt32.ofNat (tenths blue * 1000 + tenths red + if secondary then Nat.pow 2 31 else 0)

/-- **Star.** What a record says, angles in radians. -/
structure Star (α : Type) where
  /-- Right ascension. -/
  ra : α
  /-- Declination. -/
  dec : α
  /-- Photometry. -/
  light : Photometry α

variable {α : Type}

/-- Packed units in an hour of right ascension. -/
def raScale [Scalar α] : α := 5400000

/-- Packed units in a degree of declination. -/
def decScale [Scalar α] : α := 360000

/-- What a record says. -/
def Star.decode [Analytic α] (record : Packed) : Star α :=
  { ra := Angle.ofHours (ofNat record.ra.toNat / raScale)
    dec := Angle.ofDegrees (ofNat record.polar.toNat / decScale - 90)
    light := Photometry.ofWord record.light }

/-- The word nearest to a value, within the range of words. -/
def nearestWord [Scalar α] (value : α) : UInt32 :=
  UInt32.ofNat (min (whole (round value)) (Nat.pow 2 32 - 1))

/-- The record of a position, in hours and degrees, and a photometry word. -/
def Packed.ofPosition [Scalar α] (raHours decDegrees : α) (light : UInt32) : Packed :=
  { ra := nearestWord (raHours * raScale)
    polar := nearestWord ((decDegrees + 90) * decScale)
    light := light }

end PlateSolver.Zone
