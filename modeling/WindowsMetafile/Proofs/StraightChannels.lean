import WindowsMetafile.Frame.Basic

/-!
# Weighted and straight channels

A frame weights its channels by the opacity of their pixel, and files want them straight. Dividing a
channel by its opacity rounds to the nearest byte, so the quotient misses the exact one by half a
unit at most. Weighting it again brings the miss down to less than half a unit of a channel, which
the second rounding takes away. So nothing is lost, as long as no channel is above its opacity.

## Main definitions

* `Pixel.Weighted` — a pixel with no channel above its opacity
* `wholePixels` — the pixels in a run of bytes

## Main results

* `Pixel.weighted_unweighted` — weighting undoes the division by an opacity
* `mapPixels_mapPixels` — two changes of all pixels are one
* `Frame.premultiply_straight` — a frame comes back from its straight bytes
-/

namespace WindowsMetafile

/-! ### Single channels -/

namespace Pixel

variable {alpha channel : UInt8} {pixel : Pixel}

/-- A weighted channel is never above a full one, so the byte has all of it. -/
theorem toNat_weighted (alpha channel : UInt8) :
    (weighted alpha channel).toNat = (channel.toNat * alpha.toNat + 127) / 255 := by
  have hproduct : channel.toNat * alpha.toNat ≤ 255 * 255 :=
    Nat.mul_le_mul (Nat.le_of_lt_succ channel.toNat_lt) (Nat.le_of_lt_succ alpha.toNat_lt)
  have hbyte : (channel.toNat * alpha.toNat + 127) / 255 < 2 ^ 8 := by omega
  exact UInt8.toNat_ofNat_of_lt' hbyte

theorem toNat_unweighted (alpha channel : UInt8) :
    (unweighted alpha channel).toNat =
      min 255 ((channel.toNat * 255 + alpha.toNat / 2) / alpha.toNat) :=
  UInt8.toNat_ofNat_of_lt' (Nat.lt_of_le_of_lt (Nat.min_le_left ..) (by decide))

/-- A quotient rounded to the nearest is at most half a unit away from the exact one. -/
theorem unweighted_bounds (halpha : 0 < alpha.toNat) (h : channel ≤ alpha) :
    (unweighted alpha channel).toNat * alpha.toNat ≤ channel.toNat * 255 + alpha.toNat / 2 ∧
      channel.toNat * 255 + alpha.toNat / 2 <
        (unweighted alpha channel).toNat * alpha.toNat + alpha.toNat := by
  have hle : channel.toNat ≤ alpha.toNat := UInt8.le_iff_toNat_le.mp h
  have hsmall : (channel.toNat * 255 + alpha.toNat / 2) / alpha.toNat ≤ 255 := by
    refine Nat.le_of_lt_succ ((Nat.div_lt_iff_lt_mul halpha).mpr ?_)
    omega
  rw [toNat_unweighted, Nat.min_eq_right hsmall]
  refine ⟨Nat.div_mul_le_self .., ?_⟩
  rw [← Nat.succ_mul]
  exact Nat.lt_of_lt_of_eq (Nat.lt_mul_div_succ _ halpha) (Nat.mul_comm ..)

/-- Weighting undoes the division by an opacity that is neither clear nor full. -/
theorem weighted_unweighted (halpha : 0 < alpha.toNat) (hfull : alpha.toNat < 255)
    (h : channel ≤ alpha) : weighted alpha (unweighted alpha channel) = channel := by
  obtain ⟨hlow, hhigh⟩ := unweighted_bounds halpha h
  apply UInt8.toNat_inj.mp
  rw [toNat_weighted]
  -- The product is at most 127 away from 255 channels, and the second rounding takes that away.
  omega

theorem weighted_full (channel : UInt8) : weighted 255 channel = channel := by
  apply UInt8.toNat_inj.mp
  rw [toNat_weighted, show (255 : UInt8).toNat = 255 from rfl]
  omega

/-- A pixel that can come from a straight one: no channel is above the opacity. -/
structure Weighted (pixel : Pixel) : Prop where
  red : pixel.red ≤ pixel.alpha
  green : pixel.green ≤ pixel.alpha
  blue : pixel.blue ≤ pixel.alpha

instance (pixel : Pixel) : Decidable pixel.Weighted :=
  decidable_of_iff (pixel.red ≤ pixel.alpha ∧ pixel.green ≤ pixel.alpha ∧ pixel.blue ≤ pixel.alpha)
    ⟨fun ⟨red, green, blue⟩ => ⟨red, green, blue⟩, fun ⟨red, green, blue⟩ => ⟨red, green, blue⟩⟩

theorem Weighted.of_clear (h : pixel.Weighted) (hclear : pixel.alpha = 0) :
    pixel = transparent := by
  obtain ⟨red, green, blue, alpha⟩ := pixel
  obtain ⟨hred, hgreen, hblue⟩ := h
  dsimp only at hclear hred hgreen hblue
  subst hclear
  rw [UInt8.le_zero_iff.mp hred, UInt8.le_zero_iff.mp hgreen, UInt8.le_zero_iff.mp hblue]
  rfl

/-- A weighted pixel comes back from its straight form. -/
theorem premultiply_unpremultiply (h : pixel.Weighted) :
    pixel.unpremultiply.premultiply = pixel := by
  by_cases hclear : pixel.alpha = 0
  · rw [h.of_clear hclear]
    decide
  obtain ⟨red, green, blue, alpha⟩ := pixel
  obtain ⟨hred, hgreen, hblue⟩ := h
  dsimp only at hclear hred hgreen hblue
  by_cases hfull : alpha = 255
  · subst hfull
    simp [unpremultiply, premultiply, weighted_full]
  · have hpos : 0 < alpha.toNat :=
      Nat.pos_of_ne_zero fun hzero => hclear (UInt8.toNat_inj.mp hzero)
    have hbelow : alpha.toNat < 255 :=
      Nat.lt_of_le_of_ne (Nat.le_of_lt_succ alpha.toNat_lt) fun hlast =>
        hfull (UInt8.toNat_inj.mp hlast)
    simp only [unpremultiply, hclear, hfull, or_self, if_false, premultiply,
      weighted_unweighted hpos hbelow hred, weighted_unweighted hpos hbelow hgreen,
      weighted_unweighted hpos hbelow hblue]

/-! ### Channels in 16 bits -/

/-- The sum that is divided for a weighted channel, in 16 bits. -/
def weightedSum (alpha channel : UInt8) : UInt16 :=
  channel.toUInt16 * alpha.toUInt16 + 127

/-- The sum that is divided for a straight channel, in 16 bits. -/
def unweightedSum (alpha channel : UInt8) : UInt16 :=
  channel.toUInt16 * 255 + alpha.toUInt16 / 2

/-- The sum for a weighted channel fits into 16 bits. -/
theorem toNat_weightedSum (alpha channel : UInt8) :
    (weightedSum alpha channel).toNat = channel.toNat * alpha.toNat + 127 := by
  have hproduct : channel.toNat * alpha.toNat ≤ 255 * 255 :=
    Nat.mul_le_mul (Nat.le_of_lt_succ channel.toNat_lt) (Nat.le_of_lt_succ alpha.toNat_lt)
  simp only [weightedSum, UInt16.toNat_add, UInt16.toNat_mul, UInt8.toNat_toUInt16,
    UInt16.reduceToNat]
  omega

/-- The sum for a straight channel fits into 16 bits. -/
theorem toNat_unweightedSum (alpha channel : UInt8) :
    (unweightedSum alpha channel).toNat = channel.toNat * 255 + alpha.toNat / 2 := by
  have hchannel := channel.toNat_lt
  have halpha := alpha.toNat_lt
  simp only [unweightedSum, UInt16.toNat_add, UInt16.toNat_mul, UInt16.toNat_div,
    UInt8.toNat_toUInt16, UInt16.reduceToNat]
  omega

theorem weighted_eq (alpha channel : UInt8) :
    weighted alpha channel = (weightedSum alpha channel / 255).toUInt8 := by
  apply UInt8.toNat_inj.mp
  have hbyte := (weighted alpha channel).toNat_lt
  rw [toNat_weighted] at hbyte ⊢
  rw [UInt16.toNat_toUInt8, UInt16.toNat_div, toNat_weightedSum]
  exact (Nat.mod_eq_of_lt hbyte).symm

theorem unweighted_eq (alpha channel : UInt8) :
    unweighted alpha channel =
      (min 255 (unweightedSum alpha channel / alpha.toUInt16)).toUInt8 := by
  apply UInt8.toNat_inj.mp
  have hmin (a b : UInt16) : (min a b).toNat = min a.toNat b.toNat := by
    rw [Nat.min_def, ← apply_ite UInt16.toNat]
    rfl
  have hbyte := (unweighted alpha channel).toNat_lt
  rw [toNat_unweighted] at hbyte ⊢
  rw [UInt16.toNat_toUInt8, hmin, UInt16.toNat_div, toNat_unweightedSum, UInt8.toNat_toUInt16]
  exact (Nat.mod_eq_of_lt hbyte).symm

end Pixel

/-! ### Runs of pixels -/

variable {change again : Pixel → Pixel} {bytes : Bytes}

/-- The whole pixels in a run of bytes. -/
def wholePixels : Bytes → List Pixel
  | red :: green :: blue :: alpha :: rest => ⟨red, green, blue, alpha⟩ :: wholePixels rest
  | _ => []

/-- Pixels take four bytes each; every induction on the pixels in a run of bytes uses this. -/
theorem pixelInduction {motive : Bytes → Prop}
    (short : ∀ bytes : Bytes, bytes.length < 4 → motive bytes)
    (pixel : ∀ pixel rest, motive rest → motive (Pixel.toBytes pixel ++ rest)) :
    ∀ bytes, motive bytes
  | [] | [_] | [_, _] | [_, _, _] => short _ (by simp)
  | red :: green :: blue :: alpha :: rest =>
    pixel ⟨red, green, blue, alpha⟩ rest (pixelInduction short pixel rest)

theorem mapPixelsOnto_short (done : Bytes) (h : bytes.length < 4) :
    mapPixelsOnto change done bytes = done.reverse ++ bytes := by
  unfold mapPixelsOnto
  split
  · simp only [List.length_cons] at h
    omega
  · rfl

theorem mapPixelsOnto_cons (done : Bytes) (pixel : Pixel) (rest : Bytes) :
    mapPixelsOnto change done (pixel.toBytes ++ rest) =
      mapPixelsOnto change ((change pixel).toBytes.reverse ++ done) rest := rfl

theorem mapPixelsOnto_eq (done : Bytes) :
    mapPixelsOnto change done bytes = done.reverse ++ mapPixels change bytes := by
  induction bytes using pixelInduction generalizing done with
  | short bytes h =>
    rw [mapPixels, mapPixelsOnto_short done h, mapPixelsOnto_short [] h]
    rfl
  | pixel pixel rest ih =>
    rw [mapPixels, mapPixelsOnto_cons, mapPixelsOnto_cons, ih, ih]
    simp

theorem mapPixels_short (h : bytes.length < 4) : mapPixels change bytes = bytes :=
  mapPixelsOnto_short [] h

@[simp] theorem mapPixels_cons (pixel : Pixel) (rest : Bytes) :
    mapPixels change (pixel.toBytes ++ rest) = (change pixel).toBytes ++ mapPixels change rest := by
  rw [mapPixels, mapPixelsOnto_cons, mapPixelsOnto_eq]
  simp

/-- Two changes of all pixels are one. -/
theorem mapPixels_mapPixels :
    mapPixels again (mapPixels change bytes) = mapPixels (again ∘ change) bytes := by
  induction bytes using pixelInduction with
  | short bytes h => rw [mapPixels_short h, mapPixels_short h, mapPixels_short h]
  | pixel pixel rest ih => rw [mapPixels_cons, mapPixels_cons, mapPixels_cons, ih, Function.comp]

/-- A change that leaves each pixel as it is leaves the bytes as they are. -/
theorem mapPixels_eq_self (h : ∀ pixel ∈ wholePixels bytes, change pixel = pixel) :
    mapPixels change bytes = bytes := by
  induction bytes using pixelInduction with
  | short bytes hshort => exact mapPixels_short hshort
  | pixel pixel rest ih =>
    rw [mapPixels_cons, h pixel List.mem_cons_self,
      ih fun other hmem => h other (List.mem_cons_of_mem _ hmem)]

namespace Frame

/-- A frame comes back from its straight bytes, byte for byte, when no channel is above the opacity
of its pixel. On the way in both directions all numbers fit into 16 bits, whatever the bytes are. -/
theorem premultiply_straight :
    (∀ frame : Frame, frame.premultiplied = true →
      (∀ pixel ∈ wholePixels frame.data, pixel.Weighted) →
      mapPixels Pixel.premultiply frame.straight = frame.data) ∧
    ∀ alpha channel : UInt8,
      (Pixel.unweightedSum alpha channel).toNat = channel.toNat * 255 + alpha.toNat / 2 ∧
      Pixel.unweighted alpha channel =
        (min 255 (Pixel.unweightedSum alpha channel / alpha.toUInt16)).toUInt8 ∧
      (Pixel.weightedSum alpha channel).toNat = channel.toNat * alpha.toNat + 127 ∧
      Pixel.weighted alpha channel = (Pixel.weightedSum alpha channel / 255).toUInt8 := by
  constructor
  · intro frame hpremultiplied hweighted
    rw [straight, if_pos hpremultiplied, mapPixels_mapPixels]
    exact mapPixels_eq_self fun pixel hmem =>
      Pixel.premultiply_unpremultiply (hweighted pixel hmem)
  · intro alpha channel
    exact ⟨Pixel.toNat_unweightedSum alpha channel, Pixel.unweighted_eq alpha channel,
      Pixel.toNat_weightedSum alpha channel, Pixel.weighted_eq alpha channel⟩

/-- A half clear pixel, a clear one, a full one, and two bytes too many. -/
theorem premultiply_straight_three_pixels :
    let frame : Frame := ⟨3, 1, [128, 64, 0, 128, 0, 0, 0, 0, 10, 20, 30, 255, 7, 9], true⟩
    (∀ pixel ∈ wholePixels frame.data, pixel.Weighted) ∧
      frame.straight = [255, 128, 0, 128, 0, 0, 0, 0, 10, 20, 30, 255, 7, 9] ∧
      mapPixels Pixel.premultiply frame.straight = frame.data := by
  intro frame
  have hweighted : ∀ pixel ∈ wholePixels frame.data, pixel.Weighted := by decide
  exact ⟨hweighted, by decide, premultiply_straight.1 frame rfl hweighted⟩

end Frame

end WindowsMetafile
