import WindowsMetafile.Proofs.Positions

/-!
# Writes in place

A word, a 32-bit value, a run of bytes or a text is written over the words of a record from a
position on, or refused. A write succeeds just where the read at the same place does: it then
replaces the words of its run and no others, and the read gives the value. A refused write names
the record and changes nothing, but for the low word of a 32-bit value that stands last. Runs of
bytes are the exception: the end of the run wraps around in 64 bits, and one that comes out within
the record does not lead to a refusal that names it.

## Main definitions

* `Record.replace` — the record with a run of words replaced
* `Record.Stores` — a write stores a value in a run of words, or is refused where the read is
* `Record.StoresBytes` — so does a write of bytes, with a zero byte behind an odd run

## Main results

* `Record.word_append`, `Record.long_append`, `Record.bytes_append` — a run of words is read at the
  position where it stands
* `Record.stores_replace`, `Record.stores_refused` — the two ways in which a write stores a value
* `Record.storesBytes_setBytes_iff` — runs of bytes are stored or refused unless their end comes out
  within the record by wrapping around
* `Record.setters_store_iff` — what each of the writes does, at every position
-/

namespace WindowsMetafile.Record

variable {α : Type} {record : Record} {index start offset count : Nat} {run : List UInt16}

/-! ### Runs that stand in a record -/

variable {opcode : UInt16} {front rest : List UInt16}

theorem word_append (hfront : front.length = index) (value : UInt16) :
    word ⟨opcode, front ++ value :: rest⟩ index = .ok value := by
  subst hfront
  simp [word]

theorem long_append (hfront : front.length = index) (value : UInt32) :
    long ⟨opcode, front ++ Long.low value :: Long.high value :: rest⟩ index = .ok value := by
  have hhigh : word ⟨opcode, front ++ Long.low value :: Long.high value :: rest⟩ (index + 1) =
      .ok (Long.high value) := by
    rw [List.append_cons]
    exact word_append (by simp [hfront]) _
  rw [long, word_append hfront, hhigh]
  change Except.ok (Long.ofWords (Long.low value) (Long.high value)) = _
  rw [Long.ofWords_low_high]

theorem bytes_append {words : List UInt16} (hfront : front.length = offset)
    (hwords : words.length = wordsFor count) :
    bytes ⟨opcode, front ++ words ++ rest⟩ offset count = .ok ((unpackWords words).take count) := by
  subst hfront
  have hlong : front.length + wordsFor count ≤ (front ++ words ++ rest).length := by
    rw [List.length_append, List.length_append, hwords]
    exact Nat.le_add_right ..
  rw [bytes_of_le hlong, List.append_assoc, List.drop_left, ← hwords, List.take_left]

/-! ### Replaced runs -/

/-- The record with the words from a position on replaced by others, as many as there are. -/
def replace (record : Record) (start : Nat) (run : List UInt16) : Record :=
  { record with
    params := record.params.take start ++ run ++ record.params.drop (start + run.length) }

theorem length_replace (h : start + run.length ≤ record.params.length) :
    (record.replace start run).params.length = record.params.length := by
  simp only [replace, List.length_append, List.length_take, List.length_drop]
  omega

/-- Words outside of the run stay as they are. -/
theorem getElem?_replace (h : start + run.length ≤ record.params.length) {place : Nat}
    (hplace : place < start ∨ start + run.length ≤ place) :
    (record.replace start run).params[place]? = record.params[place]? := by
  have hfront : (record.params.take start).length = start := List.length_take_of_le (by omega)
  rw [replace, List.append_assoc]
  obtain hbefore | hbehind := hplace
  · rw [List.getElem?_append_left (by omega), List.getElem?_take_of_lt hbefore]
  · rw [List.getElem?_append_right (by omega), List.getElem?_append_right (by omega),
      List.getElem?_drop, hfront]
    congr 1
    omega

/-- Two runs, the second one right behind the first, are one run. -/
theorem replace_append {more : List UInt16} (h : start + run.length ≤ record.params.length) :
    (record.replace start run).replace (start + run.length) more =
      record.replace start (run ++ more) := by
  have hfront : (record.params.take start ++ run).length = start + run.length := by
    rw [List.length_append, List.length_take_of_le (by omega)]
  simp only [replace, List.length_append, ← Nat.add_assoc]
  rw [← hfront, List.take_left, List.drop_append, List.drop_of_length_le (by omega),
    List.nil_append, Nat.add_sub_cancel_left, List.drop_drop, List.append_assoc _ run more]

/-! ### Values stored in a record -/

/-- A write of a value to `count` words from `start` on, beside the read at the same place. It
succeeds just where the read does; then the read gives the value, and all other words are as they
were. Otherwise it is refused as malformed, and may have changed the words in `spoilt` alone. -/
structure Stores (record : Record) (read : Record → Except Fault α) (value : α)
    (start count : Nat) (spoilt : List Nat) (written : Written) : Prop where
  succeeds_iff : written.fault = none ↔ ∃ found, read record = .ok found
  malformed : ∀ fault ∈ written.fault, ∃ defect, fault = .malformed record.opcode defect
  reads : written.fault = none → read written.record = .ok value
  outside : written.fault = none → ∀ place, place < start ∨ start + count ≤ place →
    written.record.params[place]? = record.params[place]?
  refused : written.fault ≠ none → ∀ place ∉ spoilt,
    written.record.params[place]? = record.params[place]?
  opcode : written.record.opcode = record.opcode
  length : written.record.params.length = record.params.length

/-- A write of a run of bytes, whose last word is filled up with a zero byte when the run is odd. -/
structure StoresBytes (record : Record) (offset : Nat) (data : Bytes) (written : Written) : Prop
    extends record.Stores (·.bytes offset data.length) data offset (wordsFor data.length) [] written
    where
  padded : written.fault = none → written.record.bytes offset (2 * wordsFor data.length) =
    .ok (data ++ List.replicate (data.length % 2) 0)

variable {read : Record → Except Fault α} {value : α} {spoilt : List Nat} {fault : Fault}

/-- Where the read succeeds, the words of the run are replaced by those of the value. -/
theorem stores_replace (hfits : start + run.length ≤ record.params.length)
    (hread : ∃ found, read record = .ok found)
    (hvalue : read (record.replace start run) = .ok value) :
    record.Stores read value start run.length spoilt ⟨record.replace start run, none⟩ where
  succeeds_iff := iff_of_true rfl hread
  malformed := nofun
  reads _ := hvalue
  outside _ _ hplace := getElem?_replace hfits hplace
  refused hfault := absurd rfl hfault
  opcode := rfl
  length := length_replace hfits

/-- Where the read fails, the record is named, and no other words than the given ones change. -/
theorem stores_refused {after : Record} {defect : Defect} (hread : read record = .error fault)
    (hopcode : after.opcode = record.opcode)
    (hlength : after.params.length = record.params.length)
    (hkept : ∀ place ∉ spoilt, after.params[place]? = record.params[place]?) :
    record.Stores read value start count spoilt ⟨after, some (record.malformed defect)⟩ where
  succeeds_iff := iff_of_false nofun (by simp [hread])
  malformed := by
    rintro _ ⟨⟩
    exact ⟨defect, rfl⟩
  reads := nofun
  outside := nofun
  refused _ := hkept
  opcode := hopcode
  length := hlength

theorem stores_refused_unchanged {defect : Defect} (hread : read record = .error fault) :
    record.Stores read value start count spoilt ⟨record, some (record.malformed defect)⟩ :=
  stores_refused hread rfl rfl fun _ _ => rfl

/-- A value may be stored in another form, in which it is read. -/
theorem Stores.map {β : Type} {written : Written}
    (h : record.Stores read value start count spoilt written) (f : α → β) :
    record.Stores (fun r => (read r).map f) (f value) start count spoilt written where
  succeeds_iff := by
    rw [h.succeeds_iff]
    cases read record <;> simp [Except.map]
  malformed := h.malformed
  reads hfault := by
    rw [h.reads hfault]
    rfl
  outside := h.outside
  refused := h.refused
  opcode := h.opcode
  length := h.length

/-! ### Words and 32-bit values -/

theorem setWord_of_lt (h : index < record.params.length) (value : UInt16) :
    record.setWord index value = ⟨record.replace index [value], none⟩ := by
  rw [setWord, if_pos h, replace, List.set_eq_take_append_cons_drop, if_pos h, List.append_assoc]
  rfl

theorem setWord_of_le (h : record.params.length ≤ index) (value : UInt16) :
    record.setWord index value =
      ⟨record, some (record.malformed (.writeOutOfRange index record.params.length))⟩ :=
  if_neg (Nat.not_lt.mpr h)

theorem stores_setWord (record : Record) (index : Nat) (value : UInt16) :
    record.Stores (·.word index) value index 1 [] (record.setWord index value) := by
  by_cases h : index < record.params.length
  · have hfront : (record.params.take index).length = index :=
      List.length_take_of_le (Nat.le_of_lt h)
    have hfits : index + [value].length ≤ record.params.length := h
    rw [setWord_of_lt h]
    refine stores_replace hfits ⟨_, word_of_lt h⟩ ?_
    rw [replace, List.append_assoc]
    exact word_append hfront value
  · rw [setWord_of_le (Nat.not_lt.mp h)]
    exact stores_refused_unchanged (word_of_le (Nat.not_lt.mp h))

theorem stores_setInt16 (record : Record) (index : Nat) (value : Int16) :
    record.Stores (·.int16 index) value index 1 [] (record.setInt16 index value) := by
  have h := (stores_setWord record index value.toUInt16).map UInt16.toInt16
  rwa [Int16.toInt16_toUInt16] at h

/-- The low word is written first, and the high word behind it. -/
theorem setLong_of_lt (h : index + 1 < record.params.length) (value : UInt32) :
    record.setLong index value =
      ⟨record.replace index [Long.low value, Long.high value], none⟩ := by
  have hlow : index + [Long.low value].length ≤ record.params.length := Nat.le_of_succ_le h
  have hhigh : index + 1 < (record.replace index [Long.low value]).params.length := by
    rwa [length_replace hlow]
  rw [setLong, setWord_of_lt hlow]
  dsimp only
  rw [setWord_of_lt hhigh]
  exact congrArg (Written.mk · none) (replace_append hlow)

theorem setLong_of_last (h : index + 1 = record.params.length) (value : UInt32) :
    record.setLong index value = ⟨record.replace index [Long.low value],
      some (record.malformed (.writeOutOfRange (index + 1) record.params.length))⟩ := by
  have hlow : index + [Long.low value].length ≤ record.params.length := Nat.le_of_eq h
  have hlength := length_replace hlow
  have hhigh : (record.replace index [Long.low value]).params.length ≤ index + 1 := by
    rw [hlength]
    exact Nat.le_of_eq h.symm
  rw [setLong, setWord_of_lt hlow]
  dsimp only
  rw [setWord_of_le hhigh, hlength]
  rfl

theorem setLong_of_le (h : record.params.length ≤ index) (value : UInt32) :
    record.setLong index value =
      ⟨record, some (record.malformed (.writeOutOfRange index record.params.length))⟩ := by
  rw [setLong, setWord_of_le h]

theorem stores_setLong (record : Record) (index : Nat) (value : UInt32) :
    record.Stores (·.long index) value index 2 [index] (record.setLong index value) := by
  obtain hboth | hlast | hend : index + 1 < record.params.length ∨
      index + 1 = record.params.length ∨ record.params.length ≤ index := by omega
  · have hfront : (record.params.take index).length = index :=
      List.length_take_of_le (Nat.le_of_lt (Nat.lt_of_succ_lt hboth))
    have hfits : index + [Long.low value, Long.high value].length ≤ record.params.length := hboth
    rw [setLong_of_lt hboth]
    refine stores_replace hfits ⟨_, long_of_lt hboth⟩ ?_
    rw [replace, List.append_assoc]
    exact long_append hfront value
  · -- Only the low word fits, and it stays written.
    have hlow : index < record.params.length := Nat.lt_of_succ_le (Nat.le_of_eq hlast)
    rw [setLong_of_last hlast]
    refine stores_refused (long_of_last hlast) rfl (length_replace hlow) fun place hplace => ?_
    refine getElem?_replace hlow ?_
    have hne : place ≠ index := by simpa using hplace
    simp
    omega
  · rw [setLong_of_le hend]
    exact stores_refused_unchanged (long_of_le hend)

/-- The low word of a refused 32-bit value stays. -/
example : (setLong ⟨0x0201, [0, 0]⟩ 1 0x11223344).record.params = [0, 0x3344] := by decide

/-! ### Runs of bytes -/

theorem unpackWords_packWords_padded (data : Bytes) :
    unpackWords (packWords data) = data ++ List.replicate (data.length % 2) 0 := by
  induction data using pairInduction with
  | nil => rfl
  | last byte => simp
  | pair low high rest ih =>
    have hparity : (low :: high :: rest).length % 2 = rest.length % 2 :=
      Nat.add_mod_right rest.length 2
    rw [packWords_cons_cons, unpackWords_cons, ih, hparity, Word.low_ofBytes, Word.high_ofBytes]
    rfl

theorem setBytes_of_le {data : Bytes} (hend : offset + wordsFor data.length < positions)
    (hfits : offset + wordsFor data.length ≤ record.params.length) :
    record.setBytes offset data = ⟨record.replace offset (packWords data), none⟩ := by
  unfold setBytes
  dsimp only
  rw [Nat.mod_eq_of_lt hend, if_neg (Nat.not_lt.mpr hfits), if_neg (Nat.not_le.mpr hend), replace,
    length_packWords]

theorem setBytes_of_lt {data : Bytes}
    (hlong : record.params.length < (offset + wordsFor data.length) % positions) :
    record.setBytes offset data = ⟨record,
      some (record.malformed (.bytesDoNotFit data.length offset record.params.length))⟩ :=
  if_pos hlong

theorem setBytes_of_overflow {data : Bytes} (hend : positions ≤ offset + wordsFor data.length)
    (hwraps : (offset + wordsFor data.length) % positions ≤ record.params.length) :
    record.setBytes offset data =
      ⟨record, some (.positionOverflow offset (wordsFor data.length))⟩ := by
  unfold setBytes
  dsimp only
  rw [if_neg (Nat.not_lt.mpr hwraps), if_pos hend]

theorem bytes_replace_packWords {data : Bytes}
    (hfits : offset + wordsFor data.length ≤ record.params.length)
    (hcount : wordsFor count = wordsFor data.length) :
    (record.replace offset (packWords data)).bytes offset count =
      .ok ((unpackWords (packWords data)).take count) :=
  bytes_append (List.length_take_of_le (by omega)) (by rw [length_packWords, hcount])

theorem storesBytes_of_le {data : Bytes} (hend : offset + wordsFor data.length < positions)
    (hfits : offset + wordsFor data.length ≤ record.params.length) :
    record.StoresBytes offset data (record.setBytes offset data) := by
  rw [setBytes_of_le hend hfits]
  -- The run is read with and without the byte that fills up its last word.
  have hread : (record.replace offset (packWords data)).bytes offset data.length = .ok data := by
    rw [bytes_replace_packWords hfits rfl, take_unpackWords_packWords]
  have hpadded : wordsFor (2 * wordsFor data.length) = wordsFor data.length := by
    simp only [wordsFor]
    omega
  have hall := bytes_replace_packWords hfits hpadded
  rw [List.take_of_length_le (by simp), unpackWords_packWords_padded] at hall
  refine ⟨?_, fun _ => hall⟩
  rw [← length_packWords] at hfits ⊢
  exact stores_replace hfits ⟨_, bytes_of_le (by rwa [length_packWords] at hfits)⟩ hread

/-- An end that lies behind the record does so whether it has wrapped around or not. -/
theorem storesBytes_of_lt {data : Bytes}
    (hlong : record.params.length < (offset + wordsFor data.length) % positions) :
    record.StoresBytes offset data (record.setBytes offset data) := by
  have hbehind : record.params.length < offset + wordsFor data.length :=
    Nat.lt_of_lt_of_le hlong (Nat.mod_le ..)
  rw [setBytes_of_lt hlong]
  exact ⟨stores_refused_unchanged (bytes_of_lt hbehind),
    fun hfault => absurd hfault (Option.some_ne_none _)⟩

/-- A run of bytes is stored, or refused where it cannot be read, unless its end wraps around and
comes out within the record. -/
theorem storesBytes_setBytes_iff (record : Record) (offset : Nat) (data : Bytes) :
    record.StoresBytes offset data (record.setBytes offset data) ↔
      offset + wordsFor data.length < positions ∨
        record.params.length < (offset + wordsFor data.length) % positions := by
  by_cases hlong : record.params.length < (offset + wordsFor data.length) % positions
  · exact iff_of_true (storesBytes_of_lt hlong) (.inr hlong)
  · have hwraps := Nat.not_lt.mp hlong
    by_cases hend : offset + wordsFor data.length < positions
    · rw [Nat.mod_eq_of_lt hend] at hwraps
      exact iff_of_true (storesBytes_of_le hend hwraps) (.inl hend)
    · refine iff_of_false (fun h => ?_) (not_or.mpr ⟨hend, hlong⟩)
      -- There is a fault, and it is not the one of a malformed record.
      rw [setBytes_of_overflow (Nat.not_lt.mp hend) hwraps] at h
      obtain ⟨defect, hdefect⟩ := h.malformed _ rfl
      cases hdefect

/-- Words, signed words and 32-bit values are stored, or refused where they cannot be read, at every
position; of a refused 32-bit value the low word may stay. So are bytes and texts, unless the end of
their run wraps around and comes out within the record. Such a run is the one write that stops
without naming the record, and leaves it unchanged. -/
theorem setters_store_iff (record : Record) :
    (∀ index value, record.Stores (·.word index) value index 1 [] (record.setWord index value)) ∧
    (∀ index value,
      record.Stores (·.int16 index) value index 1 [] (record.setInt16 index value)) ∧
    (∀ index value,
      record.Stores (·.long index) value index 2 [index] (record.setLong index value)) ∧
    (∀ offset data, record.StoresBytes offset data (record.setBytes offset data) ↔
      offset + wordsFor data.length < positions ∨
        record.params.length < (offset + wordsFor data.length) % positions) ∧
    (∀ offset text, record.StoresBytes offset (Latin1.encode text) (record.setText offset text) ↔
      offset + wordsFor text.length < positions ∨
        record.params.length < (offset + wordsFor text.length) % positions) ∧
    ∀ offset data, positions ≤ offset + wordsFor data.length →
      (offset + wordsFor data.length) % positions ≤ record.params.length →
      record.setBytes offset data =
        ⟨record, some (.positionOverflow offset (wordsFor data.length))⟩ := by
  refine ⟨stores_setWord record, stores_setInt16 record, stores_setLong record,
    storesBytes_setBytes_iff record, fun offset text => ?_, fun _ _ => setBytes_of_overflow⟩
  rw [← Latin1.length_encode]
  exact storesBytes_setBytes_iff record offset (Latin1.encode text)

/-- Two bytes at the last position cannot be read there, for which the record is named. They are not
refused as malformed when they are written there. -/
theorem setBytes_last_position :
    let record : Record := ⟨0x0105, [5, 6]⟩
    let last := positions - 1
    record.bytes last 2 = .error (record.malformed (.bytesOutOfRange 2 last 2)) ∧
      (record.setBytes last [0x41, 0x42]).fault = some (.positionOverflow last 1) ∧
      ¬ record.StoresBytes last [0x41, 0x42] (record.setBytes last [0x41, 0x42]) := by
  refine ⟨by decide, by decide, fun h => ?_⟩
  obtain ⟨defect, hdefect⟩ := h.malformed (.positionOverflow (positions - 1) 1) (by decide)
  cases hdefect

end WindowsMetafile.Record
