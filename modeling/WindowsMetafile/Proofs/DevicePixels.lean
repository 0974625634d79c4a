import WindowsMetafile.Proofs.DeviceImage

/-!
# Pixels of device bitmaps

The rows of a device bitmap stand behind each other in its bits, each with as many bytes as the
header tells. A pixel is at a place in the bits that its column, its row and the depth give. Bytes
that fill a row up are passed over, columns that do not fit into their row are black, and no pixel
takes a byte from another row.

## Main definitions

* `DeviceBitmap.Showable` — the depths that can be shown
* `DeviceBitmap.pixelAt?` — a pixel by the places of its bytes
* `DeviceBitmap.SharesRow` — bitmaps with the same bytes in a row

## Main results

* `DeviceBitmap.exists_decode_iff` — which bitmaps have an image
* `DeviceBitmap.pixelOf?_rowBits` — a pixel of a row by the places of its bytes
* `DeviceBitmap.pixels_of_decode` — the images of bitmaps, pixel by pixel
-/

namespace WindowsMetafile

/-! ### Places in lists -/

section Lists

variable {α β : Type} {size count row column n : Nat} {bytes : Bytes}

/-- With enough bytes, chunks start at the multiples of their size. -/
theorem getElem?_chunks (hsize : 0 < size) (h : size * count ≤ bytes.length)
    (hrow : row < count) :
    (chunks size count bytes)[row]? = some ((bytes.drop (row * size)).take size) := by
  induction count generalizing bytes row with
  | zero => exact absurd hrow (Nat.not_lt_zero row)
  | succ count ih =>
    cases bytes with
    | nil => exact absurd h (Nat.not_le.mpr (Nat.mul_pos hsize count.succ_pos))
    | cons byte bytes =>
      rw [chunks_cons]
      cases row with
      | zero => simp
      | succ row =>
        have hrest : size * count ≤ ((byte :: bytes).drop size).length := by
          rw [List.length_drop]
          exact Nat.le_sub_of_add_le h
        rw [List.getElem?_cons_succ, ih hrest (Nat.lt_of_succ_lt_succ hrow), List.drop_drop,
          Nat.succ_mul, Nat.add_comm size]

/-- Lists of one length behind each other are looked up by quotient and remainder. -/
theorem getElem?_flatMap_of_length {f : β → List α} (h : ∀ b, (f b).length = n)
    (hcolumn : column < n) (bs : List β) :
    (bs.flatMap f)[row * n + column]? = bs[row]?.bind fun b => (f b)[column]? := by
  induction bs generalizing row with
  | nil => rfl
  | cons b bs ih =>
    rw [List.flatMap_cons]
    cases row with
    | zero =>
      rw [Nat.zero_mul, Nat.zero_add, List.getElem?_append_left ((h b).symm ▸ hcolumn)]
      rfl
    | succ row =>
      have hplace : (row + 1) * n + column = (f b).length + (row * n + column) := by
        rw [h, Nat.succ_mul]
        omega
      rw [hplace, List.getElem?_append_right (Nat.le_add_right ..), Nat.add_sub_cancel_left, ih,
        List.getElem?_cons_succ]

/-- Three bytes behind each other, if they are all there. -/
theorem exists_take_three_drop {offset : Nat} (h : offset + 3 ≤ bytes.length) :
    ∃ first second third, bytes[offset]? = some first ∧ bytes[offset + 1]? = some second ∧
      bytes[offset + 2]? = some third ∧ (bytes.drop offset).take 3 = [first, second, third] := by
  have hfirst : offset < bytes.length := by omega
  have hsecond : offset + 1 < bytes.length := by omega
  have hthird : offset + 2 < bytes.length := by omega
  refine ⟨bytes[offset], bytes[offset + 1], bytes[offset + 2], List.getElem?_eq_getElem hfirst,
    List.getElem?_eq_getElem hsecond, List.getElem?_eq_getElem hthird, ?_⟩
  rw [List.drop_eq_getElem_cons hfirst, List.drop_eq_getElem_cons hsecond,
    List.drop_eq_getElem_cons hthird]
  rfl

theorem exists_eq_map_some {found : List (Option α)} (h : ∀ result ∈ found, result.isSome) :
    ∃ values : List α, found = values.map some := by
  induction found with
  | nil => exact ⟨[], rfl⟩
  | cons first found ih =>
    obtain ⟨value, rfl⟩ := Option.isSome_iff_exists.mp (h first List.mem_cons_self)
    obtain ⟨values, rfl⟩ := ih fun result hmem => h result (List.mem_cons_of_mem _ hmem)
    exact ⟨value :: values, rfl⟩

end Lists

namespace DeviceBitmap

variable {bitmap : DeviceBitmap} {image : Pixmap} {column row : Nat}

/-- The depths that can be shown. -/
def Showable (depth : UInt8) : Prop :=
  depth = 1 ∨ depth = 24 ∨ depth = 32

instance (depth : UInt8) : Decidable (Showable depth) :=
  inferInstanceAs (Decidable (_ ∨ _))

/-- The pixel at a column and a row, by the places of its bytes in the bits. What does not fit
into the bytes of its row is black. -/
def pixelAt? (bitmap : DeviceBitmap) (column row : Nat) : Option Pixel :=
  let stride := bitmap.rowBytes.toNat
  let start := row * stride
  if bitmap.depth = 1 then
    if column / 8 < stride then do
      let byte ← bitmap.bits[start + column / 8]?
      return if byte.toNat.testBit (7 - column % 8) then .opaqueWhite else .opaqueBlack
    else some .opaqueBlack
  else
    let step := bitmap.depth.toNat / 8
    if column * step + 3 ≤ stride then do
      let blue ← bitmap.bits[start + column * step]?
      let green ← bitmap.bits[start + column * step + 1]?
      let red ← bitmap.bits[start + column * step + 2]?
      return ⟨red, green, blue, 255⟩
    else some .opaqueBlack

/-- The bytes of a row. -/
def rowBits (bitmap : DeviceBitmap) (row : Nat) : Bytes :=
  (bitmap.bits.drop (row * bitmap.rowBytes.toNat)).take bitmap.rowBytes.toNat

/-! ### Single pixels -/

/-- A pixel is had from a row just when the depth can be shown. -/
theorem isSome_pixelOf? {depth : UInt8} {bytes : Bytes} :
    (pixelOf? depth bytes column).isSome ↔ Showable depth := by
  have hdepth (n : UInt8) : depth = n ↔ depth.toNat = n.toNat := UInt8.toNat_inj.symm
  unfold pixelOf? Showable
  rw [hdepth, hdepth, hdepth]
  dsimp only
  split
  · rename_i hbit
    simp [hbit]
  · rename_i hthree
    simp [hthree]
  · rename_i hfour
    simp [hfour]
  · rename_i hbit hthree hfour
    simpa using ⟨hbit, hthree, hfour⟩

section Channels

variable {depth : UInt8} {bytes : Bytes} (hdepth : depth = 24 ∨ depth = 32)

include hdepth

theorem pixelOf?_of_take {blue green red : UInt8}
    (h : (bytes.drop (column * (depth.toNat / 8))).take 3 = [blue, green, red]) :
    pixelOf? depth bytes column = some ⟨red, green, blue, 255⟩ := by
  rcases hdepth with rfl | rfl
  all_goals
    unfold pixelOf?
    simp only [UInt8.reduceToNat, Nat.reduceDiv] at h ⊢
    rw [h]

/-- A column that its row does not reach to its end is black. -/
theorem pixelOf?_of_short (h : bytes.length < column * (depth.toNat / 8) + 3) :
    pixelOf? depth bytes column = some .opaqueBlack := by
  have hlength : ((bytes.drop (column * (depth.toNat / 8))).take 3).length < 3 := by
    rw [List.length_take, List.length_drop]
    omega
  rcases hdepth with rfl | rfl
  all_goals
    unfold pixelOf?
    simp only [UInt8.reduceToNat, Nat.reduceDiv] at hlength ⊢
    split
    · rename_i htake
      rw [htake] at hlength
      exact absurd hlength (Nat.lt_irrefl 3)
    · rfl

end Channels

theorem getElem?_rowBits {offset : Nat} (h : offset < bitmap.rowBytes.toNat) :
    (bitmap.rowBits row)[offset]? = bitmap.bits[row * bitmap.rowBytes.toNat + offset]? := by
  rw [rowBits, List.getElem?_take_of_lt h, List.getElem?_drop]

theorem length_rowBits (h : (row + 1) * bitmap.rowBytes.toNat ≤ bitmap.bits.length) :
    (bitmap.rowBits row).length = bitmap.rowBytes.toNat := by
  rw [Nat.succ_mul] at h
  rw [rowBits, List.length_take, List.length_drop]
  omega

/-- At a depth of one bit, a column is a bit of the byte for eight columns. -/
theorem pixelOf?_rowBits_of_bit (hdepth : bitmap.depth = 1)
    (h : (row + 1) * bitmap.rowBytes.toNat ≤ bitmap.bits.length) :
    pixelOf? bitmap.depth (bitmap.rowBits row) column = bitmap.pixelAt? column row := by
  have hpixel : pixelOf? bitmap.depth (bitmap.rowBits row) column =
      some (if bitSet (bitmap.rowBits row) column then .opaqueWhite else .opaqueBlack) := by
    rw [hdepth]
    rfl
  rw [hpixel, pixelAt?, if_pos hdepth, bitSet]
  split
  · rename_i byte hbyte
    have hwithin : column / 8 < bitmap.rowBytes.toNat := by
      rw [← length_rowBits h]
      exact (List.getElem?_eq_some_iff.mp hbyte).1
    rw [getElem?_rowBits hwithin] at hbyte
    rw [if_pos hwithin, hbyte]
    rfl
  · rename_i hnone
    have hbeyond : ¬ column / 8 < bitmap.rowBytes.toNat := by
      rw [← length_rowBits h]
      exact Nat.not_lt.mpr (List.getElem?_eq_none_iff.mp hnone)
    rw [if_neg hbeyond]
    rfl

/-- At the other depths, a column takes as many bytes as the depth has. -/
theorem pixelOf?_rowBits_of_channels (hdepth : bitmap.depth = 24 ∨ bitmap.depth = 32)
    (h : (row + 1) * bitmap.rowBytes.toNat ≤ bitmap.bits.length) :
    pixelOf? bitmap.depth (bitmap.rowBits row) column = bitmap.pixelAt? column row := by
  have hbit : bitmap.depth ≠ 1 := by
    rcases hdepth with hdepth | hdepth <;> rw [hdepth] <;> decide
  rw [pixelAt?, if_neg hbit]
  by_cases hwithin : column * (bitmap.depth.toNat / 8) + 3 ≤ bitmap.rowBytes.toNat
  · have hthree := hwithin
    rw [← length_rowBits h] at hthree
    obtain ⟨blue, green, red, hblue, hgreen, hred, htake⟩ := exists_take_three_drop hthree
    rw [getElem?_rowBits (by omega)] at hblue hgreen hred
    rw [pixelOf?_of_take hdepth htake, if_pos hwithin]
    simp only [Nat.add_assoc] at hgreen hred ⊢
    rw [hblue, hgreen, hred]
    rfl
  · rw [if_neg hwithin]
    exact pixelOf?_of_short hdepth (by rw [length_rowBits h]; omega)

theorem pixelOf?_rowBits (hdepth : Showable bitmap.depth)
    (h : (row + 1) * bitmap.rowBytes.toNat ≤ bitmap.bits.length) :
    pixelOf? bitmap.depth (bitmap.rowBits row) column = bitmap.pixelAt? column row := by
  rcases hdepth with hdepth | hdepth
  · exact pixelOf?_rowBits_of_bit hdepth h
  · exact pixelOf?_rowBits_of_channels hdepth h

/-- Two bitmaps of one size and depth that have the same bytes in a row. -/
structure SharesRow (bitmap other : DeviceBitmap) (row : Nat) : Prop where
  width : other.width = bitmap.width
  height : other.height = bitmap.height
  rowBytes : other.rowBytes = bitmap.rowBytes
  depth : other.depth = bitmap.depth
  bits (place : Nat) (hstart : row * bitmap.rowBytes.toNat ≤ place)
    (hend : place < (row + 1) * bitmap.rowBytes.toNat) : other.bits[place]? = bitmap.bits[place]?

/-- The places of a pixel are all within its own row. -/
theorem SharesRow.pixelAt?_eq {other : DeviceBitmap} (h : bitmap.SharesRow other row) :
    other.pixelAt? column row = bitmap.pixelAt? column row := by
  have hbits := h.bits
  rw [Nat.succ_mul] at hbits
  unfold pixelAt?
  rw [h.depth, h.rowBytes]
  dsimp only
  split
  · split
    · rw [hbits _ (by omega) (by omega)]
    · rfl
  · split
    · rw [hbits _ (by omega) (by omega), hbits _ (by omega) (by omega),
        hbits _ (by omega) (by omega)]
    · rfl

/-! ### Images -/

theorem getElem?_rows (hrow : bitmap.rowBytes ≠ 0)
    (h : bitmap.rowBytes.toNat * bitmap.height.toNat ≤ bitmap.bits.length)
    (hwithin : row < bitmap.height.toNat) : bitmap.rows[row]? = some (bitmap.rowBits row) := by
  have hpos : 1 ≤ bitmap.rowBytes.toNat := toNat_pos_of_ne_zero hrow
  rw [rows, Nat.max_eq_left hpos, getElem?_chunks hpos h hwithin]
  rfl

/-- A bitmap with rows of some length has an image when there are enough bits and its depth can be
shown, or does not matter. -/
theorem exists_decode_iff (hrow : bitmap.rowBytes ≠ 0) :
    (∃ image, bitmap.decode = .ok image) ↔
      bitmap.rowBytes.toNat * bitmap.height.toNat ≤ bitmap.bits.length ∧
        (bitmap.width = 0 ∨ bitmap.height = 0 ∨ Showable bitmap.depth) := by
  simp only [decode_eq_ok]
  constructor
  · rintro ⟨image, henough, hpixels, -, -⟩
    refine ⟨henough, ?_⟩
    by_cases hwidth : bitmap.width = 0
    · exact .inl hwidth
    by_cases hheight : bitmap.height = 0
    · exact .inr (.inl hheight)
    -- There is a pixel in the first column of the first row.
    have hcolumn : 0 < bitmap.width.toNat := toNat_pos_of_ne_zero hwidth
    have hfirst : 0 < bitmap.height.toNat := toNat_pos_of_ne_zero hheight
    have hpixel : pixelOf? bitmap.depth (bitmap.rowBits 0) 0 ∈ image.pixels.map some := by
      rw [← hpixels, List.mem_flatMap]
      exact ⟨_, List.mem_of_getElem? (getElem?_rows hrow henough hfirst),
        List.mem_map_of_mem (List.mem_range.mpr hcolumn)⟩
    obtain ⟨pixel, -, hsome⟩ := List.mem_map.mp hpixel
    exact .inr (.inr (isSome_pixelOf?.mp (Option.isSome_of_eq_some hsome.symm)))
  · rintro ⟨henough, hshown⟩
    have hsome : ∀ result ∈ bitmap.rows.flatMap fun row =>
        (List.range bitmap.width.toNat).map (pixelOf? bitmap.depth row), result.isSome := by
      intro result hresult
      obtain ⟨bytes, hbytes, hmem⟩ := List.mem_flatMap.mp hresult
      obtain ⟨column, hcolumn, rfl⟩ := List.mem_map.mp hmem
      rw [isSome_pixelOf?]
      rcases hshown with hwidth | hheight | hdepth
      · rw [hwidth] at hcolumn
        cases hcolumn
      · rw [rows, hheight] at hbytes
        cases hbytes
      · exact hdepth
    obtain ⟨pixels, hpixels⟩ := exists_eq_map_some hsome
    exact ⟨⟨_, _, pixels⟩, henough, hpixels, rfl, rfl⟩

/-- The pixel of an image at a column and a row of the bitmap. -/
theorem getElem?_pixels_of_decode (hrow : bitmap.rowBytes ≠ 0) (h : bitmap.decode = .ok image)
    (hcolumn : column < bitmap.width.toNat) (hwithin : row < bitmap.height.toNat) :
    image.pixels[row * bitmap.width.toNat + column]? = bitmap.pixelAt? column row := by
  obtain ⟨henough, hpixels, -, -⟩ := decode_eq_ok.mp h
  -- Every row shows as many pixels as the bitmap is wide, so the row and the column find theirs.
  have hlength (bytes : Bytes) :
      ((List.range bitmap.width.toNat).map (pixelOf? bitmap.depth bytes)).length =
        bitmap.width.toNat := by
    rw [List.length_map, List.length_range]
  have hlookup := congrArg (fun found => found[row * bitmap.width.toNat + column]?) hpixels
  rw [getElem?_flatMap_of_length hlength hcolumn, getElem?_rows hrow henough hwithin,
    Option.bind_some, List.getElem?_map, List.getElem?_range hcolumn, List.getElem?_map] at hlookup
  have hlast : (row + 1) * bitmap.rowBytes.toNat ≤ bitmap.bits.length :=
    calc
      (row + 1) * bitmap.rowBytes.toNat ≤ bitmap.height.toNat * bitmap.rowBytes.toNat :=
        Nat.mul_le_mul_right _ hwithin
      _ = bitmap.rowBytes.toNat * bitmap.height.toNat := Nat.mul_comm ..
      _ ≤ bitmap.bits.length := henough
  cases hpixel : image.pixels[row * bitmap.width.toNat + column]? with
  | none =>
    rw [hpixel] at hlookup
    cases hlookup
  | some pixel =>
    rw [hpixel] at hlookup
    have hfound : pixelOf? bitmap.depth (bitmap.rowBits row) column = some pixel :=
      Option.some.inj hlookup
    rw [← hfound]
    exact pixelOf?_rowBits (isSome_pixelOf?.mp (Option.isSome_of_eq_some hfound)) hlast

/-- A bitmap with rows of some length has an image just when there are enough bits and its depth
can be shown or does not matter. The image is complete, its pixels are those at their places in the
bits, and no pixel depends on the bytes of another row. -/
theorem pixels_of_decode (hrow : bitmap.rowBytes ≠ 0) :
    ((∃ image, bitmap.decode = .ok image) ↔
      bitmap.rowBytes.toNat * bitmap.height.toNat ≤ bitmap.bits.length ∧
        (bitmap.width = 0 ∨ bitmap.height = 0 ∨ Showable bitmap.depth)) ∧
    ∀ image, bitmap.decode = .ok image →
      image.width = bitmap.width.toNat ∧ image.height = bitmap.height.toNat ∧ image.Complete ∧
        ∀ column < image.width, ∀ row < image.height,
          image.pixels[row * image.width + column]? = bitmap.pixelAt? column row ∧
          ∀ other image', bitmap.SharesRow other row → other.decode = .ok image' →
            image'.pixels[row * image.width + column]? =
              image.pixels[row * image.width + column]? := by
  refine ⟨exists_decode_iff hrow, fun image h => ?_⟩
  obtain ⟨hwidth, hheight, hcomplete⟩ := complete_of_decode h
  refine ⟨hwidth, hheight, hcomplete.mpr (.inl hrow), fun column hcolumn row hwithin => ?_⟩
  rw [hwidth] at hcolumn ⊢
  rw [hheight] at hwithin
  have hpixel := getElem?_pixels_of_decode hrow h hcolumn hwithin
  refine ⟨hpixel, fun other image' hshares h' => ?_⟩
  -- Both images have the pixel of their own bits, and these bits are shared.
  rw [hpixel, ← hshares.pixelAt?_eq, ← hshares.width]
  refine getElem?_pixels_of_decode (hshares.rowBytes ▸ hrow) h' ?_ ?_
  · rwa [hshares.width]
  · rwa [hshares.height]

/-- Two rows of two pixels and a byte to fill each up, with a byte too many at the end. -/
theorem pixels_of_decode_padded :
    let bitmap : DeviceBitmap :=
      ⟨0, 2, 2, 7, 1, 24, [1, 2, 3, 4, 5, 6, 0, 7, 8, 9, 10, 11, 12, 0, 99]⟩
    bitmap.rowBytes ≠ 0 ∧ ∃ image, bitmap.decode = .ok image ∧ image.Complete ∧
      image.pixels[1 * image.width + 1]? = some ⟨12, 11, 10, 255⟩ := by
  intro bitmap
  have hrow : bitmap.rowBytes ≠ 0 := by decide
  obtain ⟨hexists, hpixels⟩ := pixels_of_decode hrow
  obtain ⟨image, hdecode⟩ := hexists.mpr ⟨by decide, .inr (.inr (by decide))⟩
  obtain ⟨hwidth, hheight, hcomplete, hpixel⟩ := hpixels image hdecode
  refine ⟨hrow, image, hdecode, hcomplete, ?_⟩
  have hplaces : bitmap.pixelAt? 1 1 = some ⟨12, 11, 10, 255⟩ := by decide
  exact (hpixel 1 (by rw [hwidth]; decide) 1 (by rw [hheight]; decide)).1.trans hplaces

end DeviceBitmap

end WindowsMetafile
