import PlateSolver.Proofs.Zone.Sweep

/-!
# Records in bytes

A scan is told a byte to begin at, and what it reads from there on are records of twelve bytes,
one after the other, as long as there are twelve bytes left.  How many that will be need not be
known beforehand.  The program works it out from the length of the file; here it is read off the
bytes themselves.

* `recordsOf` — the complete records in some bytes.
* `starsAfter_eq` — what a scan comes to are the records in the bytes from its position on.
* `picks` — the records that a range lets through; `hits_eq_map_picks` says that these are what
  a scan appends.
* `scanAt`, `scanFrom_eq_scanAt` — a scan of the bytes from a position on.
-/

namespace PlateSolver.Zone

variable {α : Type}

/-! ## Bytes -/

/-- The word of four bytes, the highest first. -/
def wordOf (a b c d : UInt8) : UInt32 :=
  UInt32.ofNat (((a.toNat * 256 + b.toNat) * 256 + c.toNat) * 256 + d.toNat)

/-- **The complete records in some bytes.**  What is left over at the end is none. -/
def recordsOf : List UInt8 → List Packed
  | a₁ :: a₂ :: a₃ :: a₄ :: b₁ :: b₂ :: b₃ :: b₄ :: c₁ :: c₂ :: c₃ :: c₄ :: rest =>
    ⟨wordOf a₁ a₂ a₃ a₄, wordOf b₁ b₂ b₃ b₄, wordOf c₁ c₂ c₃ c₄⟩ :: recordsOf rest
  | _ => []

-- A record of three words, and eleven bytes of another one.
example : recordsOf ([0, 0, 0, 1, 0, 0, 1, 0, 0, 1, 0, 0] ++ List.replicate 11 7) =
    [⟨1, 256, 65536⟩] := by decide

/-- Fewer bytes than a record has hold none. -/
theorem recordsOf_of_length_lt {bytes : List UInt8} (h : bytes.length < recordSize) :
    recordsOf bytes = [] := by
  unfold recordsOf
  split
  · simp only [List.length_cons, recordSize] at h
    omega
  · rfl

/-- Four bytes at a position, and what follows them. -/
theorem drop_eq_word (bytes : List UInt8) {position : Nat} (h : position + 4 ≤ bytes.length) :
    bytes.drop position = bytes[position] :: bytes[position + 1] :: bytes[position + 2] ::
      bytes[position + 3] :: bytes.drop (position + 4) := by
  rw [List.drop_eq_getElem_cons, List.drop_eq_getElem_cons, List.drop_eq_getElem_cons,
    List.drop_eq_getElem_cons]

theorem byteAt_eq (data : ByteArray) {index : Nat} (h : index < data.data.toList.length) :
    Packed.byteAt data index = data.data.toList[index].toNat := by
  rw [Packed.byteAt, getElem?_pos data index h]
  rfl

theorem wordAt_eq (data : ByteArray) {position : Nat}
    (h : position + 4 ≤ data.data.toList.length) :
    Packed.wordAt data position =
      wordOf data.data.toList[position] data.data.toList[position + 1]
        data.data.toList[position + 2] data.data.toList[position + 3] := by
  rw [Packed.wordAt, byteAt_eq data (by omega), byteAt_eq data (by omega),
    byteAt_eq data (by omega), byteAt_eq data (by omega), wordOf]

/-- A record is read from the twelve bytes at its position. -/
theorem recordsOf_drop (data : ByteArray) {index : Nat}
    (h : recordSize * (index + 1) ≤ data.size) :
    recordsOf (data.data.toList.drop (recordSize * index)) =
      Packed.read data (recordSize * index) ::
        recordsOf (data.data.toList.drop (recordSize * (index + 1))) := by
  have hlength : recordSize * index + 12 ≤ data.data.toList.length := h
  rw [Packed.read, wordAt_eq data (by omega), wordAt_eq data (by omega),
    wordAt_eq data (by omega), drop_eq_word _ (by omega), drop_eq_word _ (by omega),
    drop_eq_word _ (by omega), recordsOf]
  rfl

/-- Where fewer bytes are left than a record has, there is none. -/
theorem recordsOf_drop_eq_nil (data : ByteArray) {index : Nat}
    (h : data.size < recordSize * (index + 1)) :
    recordsOf (data.data.toList.drop (recordSize * index)) = [] := by
  have hsize : data.data.toList.length = data.size := rfl
  apply recordsOf_of_length_lt
  rw [List.length_drop, hsize]
  simp only [recordSize] at *
  omega

/-- **What a scan comes to** are the records in the bytes from its position on. -/
theorem starsAfter_eq [Analytic α] (data : ByteArray) (first : Nat) :
    (starsAfter data first : List (Star α)) =
      (recordsOf (data.data.toList.drop (recordSize * (first - 1)))).map Star.decode := by
  rw [starsAfter]
  generalize first - 1 = index
  -- By induction on the records left, of which there are as many as fit into the bytes left.
  induction hcount : data.size / recordSize - index generalizing index with
  | zero =>
      have hshort : data.size < recordSize * (index + 1) := by
        simp only [recordSize] at hcount ⊢
        omega
      rw [starsFrom_zero, recordsOf_drop_eq_nil data hshort, List.map_nil]
  | succ count ih =>
      have hfits : recordSize * (index + 1) ≤ data.size := by
        simp only [recordSize] at hcount ⊢
        omega
      rw [starsFrom_succ, recordsOf_drop data hfits, List.map_cons, ih (index + 1) (by omega)]

/-! ## Selections -/

section Picks

variable [Analytic α] {window : Range α} {keepSecondary : Bool} {limit : α}

/-- What a record is found as: its star, with the magnitude to go by. -/
def hitOf (pick : Packed × α) : Star α × α := (Star.decode pick.1, pick.2)

/-- The records before the first one past the upper edge of a range, given in radians. -/
def comeTo (window : Range α) (records : List Packed) : List Packed :=
  records.takeWhile fun record => !isPast window (Star.decode record)

/-- **The records that a range, given in radians, lets through**, with the magnitudes to go by:
of those before the first one past its upper edge. -/
def picks (window : Range α) (keepSecondary : Bool) (limit : α) (records : List Packed) :
    List (Packed × α) :=
  (comeTo window records).filterMap fun record =>
    (admit? window keepSecondary limit (Star.decode record)).map fun mag => (record, mag)

/-- **What a scan appends** are the stars of the records that it lets through. -/
theorem hits_eq_map_picks (window : Range α) (keepSecondary : Bool) (limit : α)
    (records : List Packed) :
    hits window keepSecondary limit (records.map Star.decode) =
      (picks window keepSecondary limit records).map hitOf := by
  simp only [hits, picks, comeTo, List.takeWhile_map, List.filterMap_map, List.map_filterMap,
    Option.map_map]
  rfl

theorem mem_records_of_mem_picks {records : List Packed} {pick : Packed × α}
    (h : pick ∈ picks window keepSecondary limit records) : pick.1 ∈ records := by
  obtain ⟨record, hrecord, hpick⟩ := List.mem_filterMap.mp h
  obtain ⟨mag, -, rfl⟩ := Option.map_eq_some_iff.mp hpick
  exact List.takeWhile_subset _ hrecord

/-- What a scan has appended. -/
def Appends (found : List (Packed × α)) (before after : Accumulator α) : Prop :=
  after.toList = before.toList ++ entriesFrom before.size (found.map hitOf)

theorem Appends.size_eq {found : List (Packed × α)} {before after : Accumulator α}
    (h : Appends found before after) : after.size = before.size + found.length := by
  rw [← Accumulator.length_toList, h, List.length_append, length_entriesFrom, List.length_map,
    Accumulator.length_toList]

theorem Appends.append {first rest : List (Packed × α)} {before between after : Accumulator α}
    (hfirst : Appends first before between) (hrest : Appends rest between after) :
    Appends (first ++ rest) before after := by
  rw [Appends, hrest, hfirst, hfirst.size_eq, List.map_append, entriesFrom_append,
    List.append_assoc, List.length_map]

end Picks

/-! ## Scans of bytes -/

section Scans

variable [Analytic α]

/-- How a scan of the records from a position on ends that had room for everything. -/
def endAt (window : Range α) (file : String) (node : Node) (position : Nat)
    (records : List Packed) : Except ScanError Unit :=
  if records.any fun record => isPast window (Star.decode record) then .ok ()
  else match node.fault with
    | none => .ok ()
    | some cause => .error (.unread file (position + recordSize * records.length) cause)

/-- **A scan of the data of a range from a byte on**: it appends the records that the range lets
through, of those in the bytes from there. -/
def scanAt (disk : Disk) (grants : Grants) (connection : Connection) (range : Range α) (limit : α)
    (position : Nat) (acc : Accumulator α) : Except ScanError Unit × Accumulator α :=
  match disk.lookup (connection.dataPath range.zone) with
  | .error e => (.error (.unopened (dataName range.zone) e), acc)
  | .ok node =>
    match node.seek position with
    | .error e => (.error (.unsought (dataName range.zone) position e), acc)
    | .ok _ =>
      let records := recordsOf (node.bytes.data.toList.drop position)
      let found := picks range.radians connection.keepSecondary limit records
      match acc.extend grants (entriesFrom acc.size (found.map hitOf)) with
      | (false, filled) => (.error .outOfMemory, filled)
      | (true, filled) =>
        (endAt range.radians (dataName range.zone) node position records, filled)

theorem sweepEnd_eq_endAt (window : Range α) (file : String) (node : Node) (index : Nat)
    (records : List Packed) :
    sweepEnd window (endOfData file node.fault) index (records.map Star.decode) =
      endAt window file node (recordSize * index) records := by
  rw [sweepEnd, endAt, List.any_map, List.length_map]
  cases hfault : node.fault with
  | none => rfl
  | some cause =>
      rw [endOfData, Nat.mul_add]
      rfl

theorem scanAt_of_seek {disk : Disk} {connection : Connection} {range : Range α} {position : Nat}
    {node : Node} (hnode : disk.lookup (connection.dataPath range.zone) = .ok node)
    (hseek : node.seek position = .ok ()) (grants : Grants) (limit : α) (acc : Accumulator α) :
    scanAt disk grants connection range limit position acc =
      match acc.extend grants (entriesFrom acc.size
        ((picks range.radians connection.keepSecondary limit
          (recordsOf (node.bytes.data.toList.drop position))).map hitOf)) with
      | (false, filled) => (.error .outOfMemory, filled)
      | (true, filled) =>
        (endAt range.radians (dataName range.zone) node position
          (recordsOf (node.bytes.data.toList.drop position)), filled) := by
  simp only [scanAt, hnode, hseek]

/-- **A scan from a record on is one from its first byte on.** -/
theorem scanFrom_eq_scanAt (disk : Disk) (grants : Grants) (connection : Connection)
    (range : Range α) (limit : α) {first : Nat} (hsmall : recordSize * (first - 1) < Word.limit)
    (acc : Accumulator α) :
    scanFrom disk grants connection range limit first acc =
      scanAt disk grants connection range limit (recordSize * (first - 1)) acc := by
  cases hnode : disk.lookup (connection.dataPath range.zone) with
  | error e => simp only [scanFrom, scanAt, hnode]
  | ok node =>
      cases hseek : node.seek (recordSize * (first - 1)) with
      | error e => simp only [scanFrom, scanAt, hnode, if_neg (Nat.not_le.mpr hsmall), hseek]
      | ok _ =>
          have hscan := scanFrom_of_seek hnode hsmall hseek grants limit acc
          rw [starsAfter_eq, hits_eq_map_picks, sweepEnd_eq_endAt] at hscan
          exact hscan.trans (scanAt_of_seek hnode hseek grants limit acc).symm

end Scans

end PlateSolver.Zone
