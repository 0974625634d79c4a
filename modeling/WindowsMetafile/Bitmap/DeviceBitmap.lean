import WindowsMetafile.Bitmap.Fault
import WindowsMetafile.Bitmap.Pixmap

/-!
# Device bitmaps

The older form of a bitmap in a record: a size, the number of bytes in a row, a depth, and the rows
from the top. Depths of 1, 24 and 32 bits can be shown.

## Main definitions

* `DeviceBitmap` — the bitmap as it is stored
* `DeviceBitmap.ofBytes` — the bitmap in a run of bytes
* `DeviceBitmap.decode` — the image that it shows
-/

namespace WindowsMetafile

/-- A bitmap in the form of a device. -/
structure DeviceBitmap where
  bitmapType : Int16
  width : UInt16
  height : UInt16
  /-- The number of bytes in a row. -/
  rowBytes : UInt16
  planes : UInt8
  /-- The number of bits in a pixel. -/
  depth : UInt8
  bits : Bytes
  deriving DecidableEq, Repr

namespace DeviceBitmap

/-- The bitmap in a run of bytes: ten bytes of header, then the rows. -/
def ofBytes (bytes : Bytes) : Except BitmapFault DeviceBitmap :=
  match bytes with
  | t₀ :: t₁ :: w₀ :: w₁ :: h₀ :: h₁ :: r₀ :: r₁ :: planes :: depth :: bits =>
    .ok {
      bitmapType := (Word.ofBytes t₀ t₁).toInt16
      width := Word.ofBytes w₀ w₁
      height := Word.ofBytes h₀ h₁
      rowBytes := Word.ofBytes r₀ r₁
      planes, depth, bits }
  | short => .error (.shortDeviceHeader short.length)

/-- Whether the bit of a column is set in a row of one bit to a pixel, highest bit first. -/
def bitSet (row : Bytes) (column : Nat) : Bool :=
  match row[column / 8]? with
  | some byte => byte.toNat.testBit (7 - column % 8)
  | none => false

/-- The pixel of a column in a row, at a depth of 1, 24 or 32 bits. Columns that the row does not
reach are black. -/
def pixelOf? (depth : UInt8) (row : Bytes) (column : Nat) : Option Pixel :=
  let channels (step : Nat) : Pixel :=
    match (row.drop (column * step)).take 3 with
    | [blue, green, red] => ⟨red, green, blue, 255⟩
    | _ => .opaqueBlack
  match depth.toNat with
  | 1 => some (if bitSet row column then .opaqueWhite else .opaqueBlack)
  | 24 => some (channels 3)
  | 32 => some (channels 4)
  | _ => none

/-- The image that a bitmap shows. A stride of zero reads rows of one byte. A depth that cannot be
shown is only met at a pixel. -/
def decode (bitmap : DeviceBitmap) : Except BitmapFault Pixmap :=
  let width := bitmap.width.toNat
  let height := bitmap.height.toNat
  let stride := bitmap.rowBytes.toNat
  let needed := stride * height
  if bitmap.bits.length < needed then
    .error (.missingRows needed bitmap.bits.length)
  else
    let found := (chunks (max stride 1) height bitmap.bits).map fun row =>
      (List.range width).map (pixelOf? bitmap.depth row)
    match found.flatten.mapM id with
    | some pixels => .ok ⟨width, height, pixels⟩
    | none => .error (.unsupportedDepth bitmap.depth)

end DeviceBitmap

end WindowsMetafile
