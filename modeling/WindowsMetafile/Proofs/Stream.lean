import Mathlib.Algebra.Order.BigOperators.Group.List
import Mathlib.Algebra.Order.Group.Nat
import WindowsMetafile.Metafile.Basic

/-!
# Metafiles written and read again

The bytes of a metafile that was written are read as the same headers and records. A record that
ends the metafile may stand among the records; those behind it are written, but not read.

## Main definitions

* `throughEnd` — the records up to the first one that ends the metafile

## Main results

* `Record.split_toBytes` — a record is split off whatever follows it
* `readRecords_flatMap_toBytes` — a body is read up to its end
* `Metafile.ofBytes_of_write` — a metafile is read as it was written
-/

namespace WindowsMetafile

/-- The records up to the first one that ends the metafile, which is among them. -/
def throughEnd : List Record → List Record
  | [] => []
  | record :: records => record :: if record.endsStream then [] else throughEnd records

/-! ### The body -/

variable {record : Record} {records : List Record}

/-- A record is split off whatever follows it. -/
theorem Record.split_toBytes (h : record.size < 4294967296) (rest : Bytes) :
    Record.split (record.toBytes ++ rest) = .ok (record, rest) := by
  have hsize : (UInt32.ofNat record.size).toNat = record.size := UInt32.toNat_ofNat_of_lt' h
  have hparams : 2 * (record.size - headerWords) = (unpackWords record.params).length := by
    rw [length_unpackWords, Record.size, Nat.add_sub_cancel]
  have hheader : ¬ record.size < headerWords := by
    simp [Record.size]
  simp only [Record.toBytes, Long.toBytes, Word.toBytes, List.cons_append, List.nil_append,
    Record.split, Word.ofBytes_low_high, Long.ofWords_low_high, hsize]
  rw [if_neg hheader, hparams, List.take_left, if_neg (Nat.lt_irrefl _), packWords_unpackWords,
    List.drop_left]

theorem readFrom_toBytes_append (h : record.size < 4294967296) (fuel position : Nat)
    (rest : Bytes) :
    readFrom (fuel + 1) position (record.toBytes ++ rest) =
      ⟨.ok record, position + 2 * record.size⟩ ::
        if record.endsStream then [] else readFrom fuel (position + 2 * record.size) rest := by
  have hsplit := Record.split_toBytes h rest
  -- A record has a header, so there are bytes, and the fuel is used for one record.
  cases hbytes : record.toBytes ++ rest with
  | nil =>
    have hlength := congrArg List.length hbytes
    simp [Record.size, Record.headerWords] at hlength
  | cons byte bytes =>
    rw [hbytes] at hsplit
    rw [readFrom, hsplit]
    exact List.cons_ne_nil byte bytes

theorem readFrom_flatMap_toBytes (h : ∀ record ∈ records, record.size < 4294967296)
    {fuel : Nat} (hfuel : records.length ≤ fuel) (position : Nat) :
    (readFrom fuel position (records.flatMap Record.toBytes)).mapM StreamItem.outcome =
      .ok (throughEnd records) := by
  induction records generalizing fuel position with
  | nil => cases fuel <;> rfl
  | cons record records ih =>
    cases fuel with
    | zero => cases hfuel
    | succ fuel =>
      have hrest := ih (fun r hr => h r (List.mem_cons_of_mem _ hr)) (Nat.le_of_succ_le_succ hfuel)
        (position + 2 * record.size)
      rw [List.flatMap_cons, readFrom_toBytes_append (h record List.mem_cons_self), throughEnd,
        List.mapM_cons]
      split
      · rfl
      · rw [hrest]
        rfl

theorem length_flatMap_toBytes (records : List Record) :
    (records.flatMap Record.toBytes).length = 2 * (records.map Record.size).foldr (· + ·) 0 := by
  induction records with
  | nil => rfl
  | cons record records ih =>
    rw [List.flatMap_cons, List.length_append, ih, Record.length_toBytes, List.map_cons,
      List.foldr_cons, Nat.mul_add]

theorem length_le_sum_size (records : List Record) :
    3 * records.length ≤ (records.map Record.size).foldr (· + ·) 0 := by
  induction records with
  | nil => exact Nat.le_refl _
  | cons record records ih =>
    simp only [List.length_cons, List.map_cons, List.foldr_cons, Record.size, Record.headerWords]
    omega

theorem size_lt_of_fileSize (h : fileSize records < 4294967296) :
    ∀ record ∈ records, record.size < 4294967296 := by
  intro record hrecord
  have hsize := List.le_sum_of_mem (List.mem_map_of_mem (f := Record.size) hrecord)
  unfold fileSize at h
  change _ + (records.map Record.size).sum < _ at h
  omega

theorem closeStream_ne_nil (records : List Record) : closeStream records ≠ [] := by
  unfold closeStream
  split
  · rename_i last hlast
    split
    · rintro rfl
      cases hlast
    · simp
  · simp

/-- The largest size is that of a record, and no record is larger. -/
theorem largestSize_closeStream (records : List Record) :
    (∃ record ∈ closeStream records, record.size = largestSize (closeStream records)) ∧
      ∀ record ∈ closeStream records, record.size ≤ largestSize (closeStream records) := by
  have hsome := List.isSome_max?_of_ne_nil (mt List.map_eq_nil_iff.mp (closeStream_ne_nil records))
    (l := (closeStream records).map Record.size)
  obtain ⟨largest, hlargest⟩ := Option.isSome_iff_exists.mp hsome
  obtain ⟨hmem, hmax⟩ := List.max?_eq_some_iff.mp hlargest
  rw [largestSize, hlargest, Option.getD_some]
  exact ⟨List.mem_map.mp hmem, fun record hrecord => hmax _ (List.mem_map_of_mem hrecord)⟩

/-- A body is read up to the record that ends the metafile. -/
theorem readRecords_flatMap_toBytes (h : ∀ record ∈ records, record.size < 4294967296) :
    readRecords (records.flatMap Record.toBytes) = .ok (throughEnd records) := by
  -- The fuel is the number of bytes, and every record has six of them at least.
  have hlength := length_flatMap_toBytes records
  have hcount := length_le_sum_size records
  exact readFrom_flatMap_toBytes h (by omega) 0

/-! ### The headers -/

namespace Placeable

@[simp] theorem length_toBytes (header : Placeable) : header.toBytes.length = byteCount := by
  simp [toBytes, checkedWords, byteCount]

theorem ofWords?_packWords_toBytes (header : Placeable) :
    ofWords? (packWords header.toBytes) = some header := by
  rw [toBytes, packWords_unpackWords]
  simp [checkedWords, ofWords?]

end Placeable

namespace StandardHeader

@[simp] theorem length_toBytes (header : StandardHeader) : header.toBytes.length = byteCount := by
  simp [toBytes, byteCount]

theorem ofWords?_packWords_toBytes (header : StandardHeader) :
    ofWords? (packWords header.toBytes) = some header := by
  rw [toBytes, packWords_unpackWords]
  simp [ofWords?]

end StandardHeader

namespace Metafile

/-- A placeable header with its own checksum is split off whatever follows it. -/
theorem splitPlaceable_toBytes (placeable : Placeable) (rest : Bytes) :
    splitPlaceable (placeable.withChecksum.toBytes ++ rest) =
      .ok (some placeable.withChecksum, rest) := by
  have hlength := Placeable.length_toBytes placeable.withChecksum
  have hstart : startsPlaceable (placeable.withChecksum.toBytes ++ rest) = true := by
    rw [startsPlaceable, List.take_append_of_le_length (by rw [hlength]; decide), beq_iff_eq]
    rfl
  have hchecksum : placeable.withChecksum.checksum = placeable.withChecksum.computedChecksum := rfl
  rw [splitPlaceable, if_pos hstart, ← hlength, List.take_left, List.drop_left]
  simp only [Nat.lt_irrefl, if_false, Placeable.ofWords?_packWords_toBytes]
  rw [if_pos hchecksum]

variable {placeable : Option Placeable}

/-- The standard header of some records is split off whatever follows it. -/
theorem splitHeader_toBytes (records : List Record) (rest : Bytes) :
    splitHeader ((StandardHeader.ofRecords records).toBytes ++ rest) =
      .ok (StandardHeader.ofRecords records, rest) := by
  have hlength := StandardHeader.length_toBytes (StandardHeader.ofRecords records)
  have htype : ¬ ((StandardHeader.ofRecords records).fileType ≠ StandardHeader.memoryType ∧
      (StandardHeader.ofRecords records).fileType ≠ StandardHeader.diskType) := fun h => h.2 rfl
  have hstart : 2 * (StandardHeader.ofRecords records).headerWords.toNat =
      StandardHeader.byteCount := rfl
  have hbody : ¬ ((StandardHeader.ofRecords records).toBytes ++ rest).length <
      StandardHeader.byteCount := by
    rw [List.length_append, hlength]
    exact Nat.not_lt.mpr (Nat.le_add_right _ _)
  rw [splitHeader, ← hlength, List.take_left, hlength]
  simp only [Nat.lt_irrefl, if_false, StandardHeader.ofWords?_packWords_toBytes]
  rw [if_neg htype, hstart, if_neg (Nat.lt_irrefl _), if_neg hbody, ← hlength, List.drop_left]

/-- A standard header does not start like a placeable one. -/
theorem splitPlaceable_standard (records : List Record) (rest : Bytes) :
    splitPlaceable ((StandardHeader.ofRecords records).toBytes ++ rest) =
      .ok (none, (StandardHeader.ofRecords records).toBytes ++ rest) := by
  have hlength := StandardHeader.length_toBytes (StandardHeader.ofRecords records)
  have hstart : ¬ startsPlaceable ((StandardHeader.ofRecords records).toBytes ++ rest) = true := by
    rw [startsPlaceable, List.take_append_of_le_length (by rw [hlength]; decide)]
    exact Bool.not_eq_true _ ▸ rfl
  rw [splitPlaceable, if_neg hstart]

theorem length_of_fits (placeable : Option Placeable) (records : List Record) :
    ((match placeable with
      | some placeable => placeable.withChecksum.toBytes
      | none => []) ++ (StandardHeader.ofRecords records).toBytes ++
        (closeStream records).flatMap Record.toBytes).length =
      2 * fileSize (closeStream records) +
        (if placeable.isSome then Placeable.byteCount else 0) := by
  simp only [List.length_append, length_flatMap_toBytes, StandardHeader.length_toBytes, fileSize]
  cases placeable with
  | none => simp [StandardHeader.byteCount, StandardHeader.wordCount]; omega
  | some placeable =>
    simp [Placeable.byteCount, StandardHeader.byteCount, StandardHeader.wordCount]
    omega

/-- Records that are not too long are written, and read with the headers that belong to them. -/
theorem ofBytes_of_fits (placeable : Option Placeable)
    (h : fileSize (closeStream records) < 4294967296) :
    ∃ bytes, write placeable records = .ok bytes ∧
      bytes.length = 2 * fileSize (closeStream records) +
        (if placeable.isSome then Placeable.byteCount else 0) ∧
      ofBytes bytes = .ok ⟨placeable.map Placeable.withChecksum, .ofRecords records,
        throughEnd (closeStream records)⟩ := by
  have hrecords := readRecords_flatMap_toBytes (size_lt_of_fileSize h)
  refine ⟨_, if_neg (Nat.not_le.mpr h), length_of_fits placeable records, ?_⟩
  cases placeable with
  | none =>
    dsimp only
    rw [List.nil_append, ofBytes, splitPlaceable_standard]
    change (splitHeader _ >>= _) = _
    rw [splitHeader_toBytes]
    change (readRecords _ >>= _) = _
    rw [hrecords]
    rfl
  | some placeable =>
    dsimp only
    rw [List.append_assoc, ofBytes, splitPlaceable_toBytes]
    change (splitHeader _ >>= _) = _
    rw [splitHeader_toBytes]
    change (readRecords _ >>= _) = _
    rw [hrecords]
    rfl

end Metafile

end WindowsMetafile
