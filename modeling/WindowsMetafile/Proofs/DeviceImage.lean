import WindowsMetafile.Bitmap.DeviceBitmap

/-!
# Images of device bitmaps

The image of a device bitmap has the width and the height of the header, but its pixels come from
the rows that are found in the bits. There have to be enough bits for rows of the stored length, so
the two agree as long as rows have a length. Rows of no length need no bits at all: they are read as
rows of one byte each, and then there may be fewer rows than the header tells.

## Main definitions

* `Pixmap.Complete` — an image with as many bytes as surfaces require for its size
* `DeviceBitmap.rows`, `DeviceBitmap.rowCount` — the rows that are found in the bits

## Main results

* `DeviceBitmap.decode_eq_ok` — what the image of a bitmap is made of
* `DeviceBitmap.length_rows` — how many rows are found
* `DeviceBitmap.complete_of_decode` — which images are complete
-/

namespace WindowsMetafile

/-! ### Runs of bytes and lists of results -/

section Lists

variable {α : Type} {size count : Nat} {bytes : Bytes}

theorem toNat_pos_of_ne_zero {word : UInt16} (h : word ≠ 0) : 0 < word.toNat :=
  Nat.pos_of_ne_zero fun hzero => h (UInt16.toNat_inj.mp hzero)

theorem chunks_cons (size count : Nat) (byte : UInt8) (bytes : Bytes) :
    chunks size (count + 1) (byte :: bytes) =
      (byte :: bytes).take size :: chunks size count ((byte :: bytes).drop size) := rfl

theorem length_chunks_of_le (hsize : 0 < size) (h : size * count ≤ bytes.length) :
    (chunks size count bytes).length = count := by
  induction count generalizing bytes with
  | zero => rfl
  | succ count ih =>
    cases bytes with
    | nil => exact absurd h (Nat.not_le.mpr (Nat.mul_pos hsize count.succ_pos))
    | cons byte bytes =>
      have hrest : size * count ≤ ((byte :: bytes).drop size).length := by
        rw [List.length_drop]
        exact Nat.le_sub_of_add_le h
      rw [chunks_cons, List.length_cons, ih hrest]

theorem length_chunks_one : (chunks 1 count bytes).length = min count bytes.length := by
  induction count generalizing bytes with
  | zero => exact (Nat.zero_min _).symm
  | succ count ih =>
    cases bytes with
    | nil => rfl
    | cons byte bytes =>
      rw [chunks_cons, List.length_cons, ih, List.drop_one, List.tail_cons, List.length_cons,
        Nat.succ_min_succ]

theorem length_flatMap_of_length {β : Type} {n : Nat} {f : β → List α}
    (h : ∀ b, (f b).length = n) (bs : List β) : (bs.flatMap f).length = bs.length * n := by
  induction bs with
  | nil => exact (Nat.zero_mul n).symm
  | cons b bs ih =>
    rw [List.flatMap_cons, List.length_append, h, ih, List.length_cons, Nat.succ_mul, Nat.add_comm]

theorem mapM_id_eq_some {found : List (Option α)} {values : List α} :
    found.mapM id = some values ↔ found = values.map some := by
  induction found generalizing values with
  | nil => cases values <;> simp
  | cons first found ih =>
    rw [List.mapM_cons]
    cases first with
    | none => cases values <;> simp
    | some value =>
      cases values with
      | nil => cases found.mapM id <;> simp
      | cons other values =>
        -- The first results agree, and so do the others.
        cases hfound : found.mapM id <;> simp [← ih, hfound]

end Lists

/-! ### Images -/

namespace Pixmap

variable {image : Pixmap}

/-- An image has the bytes that surfaces require of one with its width and height. -/
def Complete (image : Pixmap) : Prop :=
  image.toBytes.length = image.width * image.height * 4

instance (image : Pixmap) : Decidable image.Complete :=
  inferInstanceAs (Decidable (_ = _))

theorem length_toBytes (image : Pixmap) : image.toBytes.length = image.pixels.length * 4 := by
  have hpixel (pixel : Pixel) : pixel.toBytes.length = 4 := rfl
  exact length_flatMap_of_length hpixel image.pixels

theorem complete_iff : image.Complete ↔ image.pixels.length = image.width * image.height := by
  rw [Complete, length_toBytes]
  exact Nat.mul_right_cancel_iff (by decide)

end Pixmap

namespace DeviceBitmap

variable {bitmap : DeviceBitmap} {image : Pixmap}

/-- The rows that are found in the bits. -/
def rows (bitmap : DeviceBitmap) : List Bytes :=
  chunks (max bitmap.rowBytes.toNat 1) bitmap.height.toNat bitmap.bits

/-- A bitmap has an image when there are enough bits for its rows, and its depth can be shown
wherever there is a pixel. -/
theorem decode_eq_ok :
    bitmap.decode = .ok image ↔
      bitmap.rowBytes.toNat * bitmap.height.toNat ≤ bitmap.bits.length ∧
        (bitmap.rows.flatMap fun row =>
          (List.range bitmap.width.toNat).map (pixelOf? bitmap.depth row)) =
            image.pixels.map some ∧
        image.width = bitmap.width.toNat ∧ image.height = bitmap.height.toNat := by
  unfold decode
  rw [← mapM_id_eq_some, List.flatMap_def]
  dsimp only
  split
  · rename_i hfew
    simp only [reduceCtorEq, false_iff]
    exact fun h => absurd h.1 (Nat.not_le.mpr hfew)
  · rename_i henough
    rw [and_iff_right (Nat.le_of_not_lt henough)]
    obtain ⟨width, height, values⟩ := image
    split
    · rename_i pixels hpixels
      rw [rows, hpixels]
      simp only [Except.ok.injEq, Pixmap.mk.injEq, Option.some.injEq]
      constructor
      · rintro ⟨rfl, rfl, rfl⟩
        exact ⟨rfl, rfl, rfl⟩
      · rintro ⟨rfl, rfl, rfl⟩
        exact ⟨rfl, rfl, rfl⟩
    · rename_i hnone
      rw [rows, hnone]
      simp

/-- With a length, all rows are found. Without one, each takes a byte as long as there are any. -/
theorem length_rows (h : bitmap.rowBytes.toNat * bitmap.height.toNat ≤ bitmap.bits.length) :
    bitmap.rows.length =
      if bitmap.rowBytes = 0 then min bitmap.height.toNat bitmap.bits.length
      else bitmap.height.toNat := by
  unfold rows
  split
  · rename_i hzero
    rw [hzero]
    exact length_chunks_one
  · rename_i hrow
    have hpos : 1 ≤ bitmap.rowBytes.toNat := toNat_pos_of_ne_zero hrow
    rw [Nat.max_eq_left hpos]
    exact length_chunks_of_le hpos h

theorem length_pixels_of_decode (h : bitmap.decode = .ok image) :
    image.pixels.length = bitmap.rows.length * bitmap.width.toNat := by
  obtain ⟨-, hpixels, -, -⟩ := decode_eq_ok.mp h
  rw [← List.length_map some, ← hpixels]
  refine length_flatMap_of_length (fun row => ?_) bitmap.rows
  rw [List.length_map, List.length_range]

/-- The image of a bitmap has the width and height of the header. It is complete when rows have a
length, and otherwise just when it has no columns or a byte for each of its rows. -/
theorem complete_of_decode (h : bitmap.decode = .ok image) :
    image.width = bitmap.width.toNat ∧ image.height = bitmap.height.toNat ∧
      (image.Complete ↔
        bitmap.rowBytes ≠ 0 ∨ bitmap.width = 0 ∨ bitmap.height.toNat ≤ bitmap.bits.length) := by
  obtain ⟨henough, -, hwidth, hheight⟩ := decode_eq_ok.mp h
  refine ⟨hwidth, hheight, ?_⟩
  rw [Pixmap.complete_iff, length_pixels_of_decode h, length_rows henough, hwidth, hheight,
    Nat.mul_comm bitmap.width.toNat]
  by_cases hrow : bitmap.rowBytes = 0
  · rw [if_pos hrow]
    by_cases hcolumns : bitmap.width = 0
    · simp [hcolumns]
    · have hpos : 0 < bitmap.width.toNat := toNat_pos_of_ne_zero hcolumns
      rw [Nat.mul_right_cancel_iff hpos]
      simp only [hrow, hcolumns, ne_eq, not_true_eq_false, false_or]
      omega
  · simp [hrow]

/-- Two rows of no length, with a byte for each of them. -/
theorem complete_of_decode_two_bytes :
    ∃ image, (⟨0, 1, 2, 0, 1, 1, [0x80, 0x00]⟩ : DeviceBitmap).decode = .ok image ∧
      image.width = 1 ∧ image.height = 2 ∧ image.Complete := by
  have hdecode : (⟨0, 1, 2, 0, 1, 1, [0x80, 0x00]⟩ : DeviceBitmap).decode =
      .ok ⟨1, 2, [.opaqueWhite, .opaqueBlack]⟩ := rfl
  obtain ⟨hwidth, hheight, hcomplete⟩ := complete_of_decode hdecode
  exact ⟨_, hdecode, hwidth, hheight, hcomplete.mpr (.inr (.inr (by decide)))⟩

/-- Two rows of no length, with a byte for only one of them: half of the image is missing. -/
theorem not_complete_of_rows_without_length :
    (⟨0, 1, 2, 0, 1, 1, [0x80]⟩ : DeviceBitmap).decode = .ok ⟨1, 2, [.opaqueWhite]⟩ ∧
      ¬ (⟨1, 2, [.opaqueWhite]⟩ : Pixmap).Complete :=
  ⟨rfl, by decide⟩

end DeviceBitmap

end WindowsMetafile
