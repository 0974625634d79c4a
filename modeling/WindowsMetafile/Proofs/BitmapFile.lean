import WindowsMetafile.Bitmap.Dib.File

/-!
# Independent bitmaps on file

What is before the pixels of an independent bitmap is laid out by the fields of its header. A bitmap
can be put on file when the header has all these fields and the pixels start within its bytes. The
fields are 32-bit numbers without any bound, but the place of the pixels is compared with the bytes
before it is written, and so it is written as it is.

## Main definitions

* `Dib.Layout`, `Dib.layout` — what is before the pixels, by the fields of the header
* `Dib.HeaderPresent` — a header of a known size with all the fields that are needed

## Main results

* `Dib.declaredOffset_eq_ok_iff` — when a header tells where the pixels start
* `Dib.toFile_eq_ok_iff` — when a bitmap can be put on file
* `Dib.toFile_layout` — the file of a bitmap and the numbers in its header
-/

namespace WindowsMetafile

variable {bytes : Bytes} {place : Nat}

/-! ### Fields within their bytes -/

theorem isSome_wordAt? : (wordAt? bytes place).isSome ↔ place + 2 ≤ bytes.length := by
  have hdrop : (wordAt? bytes place).isSome ↔ 2 ≤ (bytes.drop place).length := by
    unfold wordAt?
    rcases bytes.drop place with _ | ⟨_, _ | ⟨_, _⟩⟩ <;> simp
  rw [hdrop, List.length_drop]
  omega

theorem isSome_longAt? : (longAt? bytes place).isSome ↔ place + 4 ≤ bytes.length := by
  have hdrop : (longAt? bytes place).isSome ↔ 4 ≤ (bytes.drop place).length := by
    unfold longAt?
    rcases bytes.drop place with _ | ⟨_, _ | ⟨_, _ | ⟨_, _ | ⟨_, _⟩⟩⟩⟩ <;> simp
  rw [hdrop, List.length_drop]
  omega

namespace Dib

variable {dib file : Bytes} {start : Nat}

/-- The word at a place of a header; it counts as zero where the header is cut off. -/
def wordField (dib : Bytes) (place : Nat) : Nat :=
  (wordAt? dib place).elim 0 UInt16.toNat

/-- The 32-bit number at a place of a header; it counts as zero where the header is cut off. -/
def longField (dib : Bytes) (place : Nat) : Nat :=
  (longAt? dib place).elim 0 UInt32.toNat

/-- What is before the pixels: a header, channel masks, and a table of colours. -/
structure Layout where
  headerSize : Nat
  masks : Nat
  colors : Nat
  /-- The number of bytes that a colour takes. -/
  colorSize : Nat
  deriving DecidableEq, Repr

/-- The place where the pixels start. -/
def Layout.offset (layout : Layout) : Nat :=
  layout.headerSize + layout.masks + layout.colors * layout.colorSize

/-- What is before the pixels, by the fields of the header. A depth of at most eight bits has a
colour for each value of a pixel, unless the header counts the colours. -/
def layout (dib : Bytes) : Layout :=
  let size := longField dib 0
  if size = 12 then
    let depth := wordField dib 10
    ⟨12, 0, if depth ≤ 8 then Nat.pow 2 depth else 0, 3⟩
  else
    let depth := wordField dib 14
    let compression := longField dib 16
    let used := longField dib 32
    let masks :=
      if size = 40 then if compression = 3 then 12 else if compression = 6 then 16 else 0 else 0
    ⟨size, masks, if depth ≤ 8 ∧ used = 0 then Nat.pow 2 depth else used, 4⟩

/-- A header of a known size, with bytes for all the fields that are needed. -/
def HeaderPresent (dib : Bytes) : Prop :=
  longField dib 0 = 12 ∧ 12 ≤ dib.length ∨ 40 ≤ longField dib 0 ∧ 36 ≤ dib.length

instance (dib : Bytes) : Decidable (HeaderPresent dib) :=
  inferInstanceAs (Decidable (_ ∨ _))

theorem fullTable_eq (depth : Nat) :
    fullTable depth = if depth ≤ 8 then Nat.pow 2 depth else 0 := by
  rw [fullTable, Nat.one_shiftLeft]
  rfl

theorem maskBytes_eq (size compression : Nat) :
    maskBytes size compression =
      if size = 40 then if compression = 3 then 12 else if compression = 6 then 16 else 0
      else 0 := by
  unfold maskBytes
  rw [ite_not]
  rfl

/-- A table without a count is a full one, if the depth has a full one. -/
theorem colors_eq (depth used : Nat) :
    (if used = 0 then fullTable depth else used) =
      if depth ≤ 8 ∧ used = 0 then Nat.pow 2 depth else used := by
  rw [fullTable_eq]
  by_cases hused : used = 0 <;> by_cases hdepth : depth ≤ 8 <;> simp [hused, hdepth]

theorem wordField_of_eq {word : UInt16} (h : wordAt? dib place = some word) :
    wordField dib place = word.toNat := by
  rw [wordField, h]
  rfl

theorem longField_of_eq {long : UInt32} (h : longAt? dib place = some long) :
    longField dib place = long.toNat := by
  rw [longField, h]
  rfl

/-! ### The place of the pixels -/

/-- The short header has the depth at its end. -/
theorem declaredOffset_of_core {size : UInt32} (hsize : longAt? dib 0 = some size)
    (hcore : size.toNat = 12) (hlength : 12 ≤ dib.length) :
    declaredOffset dib = .ok (layout dib).offset := by
  obtain ⟨depth, hdepth⟩ := Option.isSome_iff_exists.mp (isSome_wordAt?.mpr hlength)
  have hcoreSize : size.toNat = coreHeaderSize := hcore
  simp only [declaredOffset, hsize, hcoreSize, if_true, hdepth]
  simp only [layout, longField_of_eq hsize, hcore, if_true, wordField_of_eq hdepth, Layout.offset,
    fullTable_eq, coreHeaderSize, Nat.add_zero, Nat.mul_comm 3]

/-- A longer header has the depth, the compression and the number of colours. -/
theorem declaredOffset_of_info {size : UInt32} (hsize : longAt? dib 0 = some size)
    (hinfo : 40 ≤ size.toNat) (hlength : 36 ≤ dib.length) :
    declaredOffset dib = .ok (layout dib).offset := by
  have hword : 14 + 2 ≤ dib.length := by omega
  have hlong : 16 + 4 ≤ dib.length := by omega
  obtain ⟨depth, hdepth⟩ := Option.isSome_iff_exists.mp (isSome_wordAt?.mpr hword)
  obtain ⟨compression, hcompression⟩ := Option.isSome_iff_exists.mp (isSome_longAt?.mpr hlong)
  obtain ⟨used, hused⟩ := Option.isSome_iff_exists.mp (isSome_longAt?.mpr hlength)
  have hcore : ¬ size.toNat = 12 := by omega
  have hzero : used = 0 ↔ used.toNat = 0 := UInt32.toNat_inj.symm
  simp only [declaredOffset, hsize, coreHeaderSize, hcore, if_false, infoHeaderSize, hinfo, if_true,
    hdepth, hcompression, hused, hzero]
  simp only [layout, longField_of_eq hsize, hcore, if_false, wordField_of_eq hdepth,
    longField_of_eq hcompression, longField_of_eq hused, Layout.offset]
  rw [maskBytes_eq, colors_eq, Nat.mul_comm 4]

theorem declaredOffset_of_headerPresent (h : HeaderPresent dib) :
    declaredOffset dib = .ok (layout dib).offset := by
  have hlong : 0 + 4 ≤ dib.length := by
    rcases h with ⟨-, hlength⟩ | ⟨-, hlength⟩ <;> omega
  obtain ⟨size, hsize⟩ := Option.isSome_iff_exists.mp (isSome_longAt?.mpr hlong)
  rw [HeaderPresent, longField_of_eq hsize] at h
  rcases h with ⟨hcore, hlength⟩ | ⟨hinfo, hlength⟩
  · exact declaredOffset_of_core hsize hcore hlength
  · exact declaredOffset_of_info hsize hinfo hlength

theorem headerPresent_of_declaredOffset (h : declaredOffset dib = .ok start) :
    HeaderPresent dib := by
  unfold declaredOffset at h
  split at h
  · cases h
  · rename_i size hsize
    rw [HeaderPresent, longField_of_eq hsize]
    split at h
    · rename_i hcore
      split at h
      · cases h
      -- The depth is the last field of the short header.
      · rename_i depth hdepth
        exact .inl ⟨hcore, isSome_wordAt?.mp (Option.isSome_of_eq_some hdepth)⟩
    · split at h
      · rename_i hinfo
        split at h
        -- The number of colours is the last field that is needed of a longer one.
        · rename_i used hused
          exact .inr ⟨hinfo, isSome_longAt?.mp (Option.isSome_of_eq_some hused)⟩
        · cases h
      · cases h

/-- A header tells where the pixels start just when it has all its fields. -/
theorem declaredOffset_eq_ok_iff :
    declaredOffset dib = .ok start ↔ HeaderPresent dib ∧ start = (layout dib).offset := by
  constructor
  · intro h
    have hpresent := headerPresent_of_declaredOffset h
    rw [declaredOffset_of_headerPresent hpresent] at h
    exact ⟨hpresent, (Except.ok.inj h).symm⟩
  · rintro ⟨hpresent, rfl⟩
    exact declaredOffset_of_headerPresent hpresent

/-! ### The file -/

theorem pixelOffset_eq_ok_iff (hlength : dib.length < UInt32.size - 14) :
    pixelOffset dib = .ok start ↔
      HeaderPresent dib ∧ start = (layout dib).offset ∧ start ≤ dib.length := by
  have hfits : ¬ 4294967296 ≤ fileHeaderSize + dib.length := by
    rw [fileHeaderSize]
    have hsize : UInt32.size = 4294967296 := rfl
    omega
  rw [← and_assoc, ← declaredOffset_eq_ok_iff]
  unfold pixelOffset
  cases declaredOffset dib with
  | error fault => simp [bind, Except.bind]
  | ok declared =>
    simp only [bind, Except.bind, hfits, if_false]
    split
    · rename_i hpast
      simp only [reduceCtorEq, Except.ok.injEq, false_iff]
      omega
    · rename_i hwithin
      simp only [Except.ok.injEq]
      omega

/-- A bitmap can be put on file just when its header is there and its pixels start within it. -/
theorem toFile_eq_ok_iff (hlength : dib.length < UInt32.size - 14) :
    toFile dib = .ok file ↔
      HeaderPresent dib ∧ (layout dib).offset ≤ dib.length ∧
        file = fileHeader dib.length (layout dib).offset ++ dib := by
  unfold toFile
  cases hoffset : pixelOffset dib with
  | error fault =>
    simp only [bind, Except.bind, reduceCtorEq, false_iff]
    rintro ⟨hpresent, hwithin, -⟩
    rw [(pixelOffset_eq_ok_iff hlength).mpr ⟨hpresent, rfl, hwithin⟩] at hoffset
    cases hoffset
  | ok start =>
    obtain ⟨hpresent, rfl, hwithin⟩ := (pixelOffset_eq_ok_iff hlength).mp hoffset
    simp [bind, Except.bind, pure, Except.pure, hpresent, hwithin, eq_comm]

theorem length_fileHeader (length start : Nat) : (fileHeader length start).length = 14 := rfl

/-- The numbers in the header of a file are read back. -/
theorem longAt?_fileHeader_append (length start : Nat) (rest : Bytes) :
    longAt? (fileHeader length start ++ rest) 2 = some (UInt32.ofNat (14 + length)) ∧
      longAt? (fileHeader length start ++ rest) 10 = some (UInt32.ofNat (14 + start)) := by
  simp [fileHeader, longAt?, Long.toBytes, Word.toBytes, fileHeaderSize]

/-! ### Sizes of numbers -/

theorem longField_lt (dib : Bytes) (place : Nat) : longField dib place < UInt32.size := by
  unfold longField
  cases longAt? dib place with
  | none => decide
  | some long => exact long.toNat_lt

/-- All numbers on the way to the place of the pixels in a file fit into 64 bits. -/
structure Layout.FitsLongWords (layout : Layout) : Prop where
  table : layout.colors * layout.colorSize < UInt64.size
  front : layout.headerSize + layout.masks < UInt64.size
  offset : layout.offset < UInt64.size
  onFile : 14 + layout.offset < UInt64.size

theorem Layout.fitsLongWords {layout : Layout} (hheader : layout.headerSize < UInt32.size)
    (hmasks : layout.masks ≤ 16) (hcolors : layout.colors < UInt32.size)
    (hsize : layout.colorSize ≤ 4) : layout.FitsLongWords := by
  have htable : layout.colors * layout.colorSize ≤ UInt32.size * 4 :=
    Nat.mul_le_mul (Nat.le_of_lt hcolors) hsize
  have hlong : UInt32.size = 4294967296 := rfl
  have hwide : UInt64.size = 18446744073709551616 := rfl
  have hoffset : layout.offset =
      layout.headerSize + layout.masks + layout.colors * layout.colorSize := rfl
  constructor <;> omega

/-- Whatever the fields of a header are, the numbers that come from them fit into 64 bits. -/
theorem fitsLongWords_layout (dib : Bytes) : (layout dib).FitsLongWords := by
  have hpow (depth : Nat) (h : depth ≤ 8) : Nat.pow 2 depth < UInt32.size :=
    Nat.lt_of_le_of_lt (Nat.pow_le_pow_right (by decide) h) (by decide)
  unfold layout
  dsimp only
  split
  · refine Layout.fitsLongWords (show 12 < UInt32.size by decide) (Nat.zero_le 16) ?_
      (show 3 ≤ 4 by decide)
    dsimp only
    split
    · rename_i hdepth
      exact hpow _ hdepth
    · decide
  · refine Layout.fitsLongWords (longField_lt dib 0) ?_ ?_ (Nat.le_refl 4)
    · dsimp only
      split
      · split
        · decide
        · split <;> decide
      · decide
    · dsimp only
      split
      · rename_i hdepth
        exact hpow _ hdepth.1
      · exact longField_lt dib 32

/-- A bitmap can be put on file just when its header is there and its pixels start within it. The
file is a header of fourteen bytes and the bitmap as it is; the numbers in the header are exact, and
the place of the pixels is within the file. On the way no number is too great for 64 bits, whatever
the fields of the bitmap are. -/
theorem toFile_layout (hlength : dib.length < UInt32.size - 14) :
    ((∃ file, toFile dib = .ok file) ↔
      HeaderPresent dib ∧ (layout dib).offset ≤ dib.length) ∧
    (∀ file, toFile dib = .ok file →
      ∃ header, file = header ++ dib ∧ header.length = 14 ∧ header.take 2 = [0x42, 0x4D] ∧
        (longAt? file 2).map UInt32.toNat = some file.length ∧
        (longAt? file 10).map UInt32.toNat = some (14 + (layout dib).offset) ∧
        14 + (layout dib).offset ≤ file.length) ∧
    14 + dib.length < UInt64.size ∧ ∀ other, (layout other).FitsLongWords := by
  have hlong : UInt32.size = 4294967296 := rfl
  have hwide : UInt64.size = 18446744073709551616 := rfl
  refine ⟨?_, fun file h => ?_, by omega, fitsLongWords_layout⟩
  · simp only [toFile_eq_ok_iff hlength]
    constructor
    · rintro ⟨-, hpresent, hwithin, -⟩
      exact ⟨hpresent, hwithin⟩
    · rintro ⟨hpresent, hwithin⟩
      exact ⟨_, hpresent, hwithin, rfl⟩
  · obtain ⟨-, hwithin, rfl⟩ := (toFile_eq_ok_iff hlength).mp h
    obtain ⟨hsize, hplace⟩ := longAt?_fileHeader_append dib.length (layout dib).offset dib
    have hwhole : 14 + dib.length < 2 ^ 32 := by omega
    have hstart : 14 + (layout dib).offset < 2 ^ 32 := by omega
    refine ⟨_, rfl, length_fileHeader .., rfl, ?_, ?_, ?_⟩
    · rw [hsize, Option.map_some, UInt32.toNat_ofNat_of_lt' hwhole, List.length_append,
        length_fileHeader]
    · rw [hplace, Option.map_some, UInt32.toNat_ofNat_of_lt' hstart]
    · rw [List.length_append, length_fileHeader]
      omega

/-- A bitmap of one bit with a short header: its two colours end at the eighteenth byte. -/
theorem toFile_layout_two_colors :
    let dib : Bytes :=
      [12, 0, 0, 0, 1, 0, 1, 0, 1, 0, 1, 0, 0, 0, 0, 255, 255, 255, 0x80, 0, 0, 0]
    dib.length < UInt32.size - 14 ∧ ∃ file, toFile dib = .ok file ∧ file.length = 36 ∧
      (longAt? file 2).map UInt32.toNat = some 36 ∧
      (longAt? file 10).map UInt32.toNat = some 32 := by
  intro dib
  have hlength : dib.length < UInt32.size - 14 := by decide
  obtain ⟨hexists, hfile, -⟩ := toFile_layout hlength
  obtain ⟨file, htoFile⟩ := hexists.mpr (by decide)
  obtain ⟨header, rfl, hheader, -, hsize, hplace, -⟩ := hfile file htoFile
  have htotal : (header ++ dib).length = 36 := by
    rw [List.length_append, hheader]
    rfl
  exact ⟨hlength, _, htoFile, htotal, htotal ▸ hsize, hplace⟩

end Dib

end WindowsMetafile
