import WindowsMetafile.Bitmap.Dib.Channel
import WindowsMetafile.Bitmap.Dib.File
import WindowsMetafile.Bitmap.Dib.RunLength

/-!
# Images of device-independent bitmaps

Depths of 1, 2, 4 and 8 bits index a colour table, and those of 4 and 8 bits may be run-length
coded; 16, 24 and 32 bits hold the colour itself. Rows come from the bottom up, unless the height is
negative.

## Main definitions

* `DibHeader` — what the header says about the pixels
* `DibLayout` — how the pixels are stored
* `Dib.decode` — the image of a bitmap
-/

namespace WindowsMetafile

/-- What the header of a device-independent bitmap says about its pixels. -/
structure DibHeader where
  size : Nat
  width : Nat
  height : Nat
  /-- Whether the first row is the top one. -/
  topDown : Bool
  planes : Nat
  depth : Nat
  compression : Nat
  /-- The length of the colour table; zero stands for a full one. -/
  colors : Nat
  deriving DecidableEq, Repr

/-- How the pixels of a device-independent bitmap are stored. -/
inductive DibLayout
  /-- Indices into the colour table. -/
  | indexed
  /-- Run-length coded indices. -/
  | coded (codes : RunWidth)
  /-- Blue, green and red bytes, with a fourth byte that is passed over at a depth of 32. -/
  | plain
  /-- Little-endian values with channels. -/
  | packed (channels : Channels)
  deriving DecidableEq, Repr

namespace DibHeader

/-- The long headers that are known. -/
def longSizes : List Nat :=
  [40, 52, 56, 108, 124]

/-- The long headers with a mask for opacity. -/
def alphaSizes : List Nat :=
  [56, 108, 124]

/-- The greatest width, and the greatest height of rows that come from the bottom up. -/
def greatestSide : Nat := 65535

/-- The greatest number of bytes that an image may take. -/
def greatestImage : Nat := 536870912

/-- The header of a bitmap, if its size is known. -/
def ofBytes? (dib : Bytes) : Option DibHeader := do
  let size := (← longAt? dib 0).toNat
  if size = Dib.coreHeaderSize then
    return {
      size
      width := (← wordAt? dib 4).toNat
      height := (← wordAt? dib 6).toNat
      topDown := false
      planes := (← wordAt? dib 8).toNat
      depth := (← wordAt? dib 10).toNat
      compression := 0
      colors := 0 }
  else if size ∈ longSizes then
    let width := (← longAt? dib 4).toInt32.toInt
    let height := (← longAt? dib 8).toInt32.toInt
    if width < 0 then none
    else
      return {
        size
        width := width.toNat
        height := height.natAbs
        topDown := height < 0
        planes := (← wordAt? dib 12).toNat
        depth := (← wordAt? dib 14).toNat
        compression := (← longAt? dib 16).toNat
        colors := (← longAt? dib 32).toNat }
  else none

/-- Whether the short header is used. -/
def isCore (header : DibHeader) : Bool :=
  header.size = Dib.coreHeaderSize

/-- The channels that the masks of a bitmap give. They follow the least long header, and are part
of the longer ones. -/
def channels? (header : DibHeader) (dib : Bytes) : Option Channels := do
  let alpha ← if header.size ∈ alphaSizes then longAt? dib 52 else some 0
  Channels.ofMasks? header.depth (← longAt? dib 40).toNat (← longAt? dib 44).toNat
    (← longAt? dib 48).toNat alpha.toNat

/-- How the pixels are stored, if depth and compression go together. -/
def layout? (header : DibHeader) (dib : Bytes) : Option DibLayout :=
  match header.compression, header.depth with
  | 0, 1 | 0, 4 | 0, 8 => some .indexed
  | 0, 2 => if header.isCore then none else some .indexed
  | 0, 16 => if header.isCore then none else some (.packed .fiveBits)
  | 0, 24 => some .plain
  | 0, 32 => if header.isCore then none else some .plain
  | 1, 8 => if header.topDown then none else some (.coded .eight)
  | 2, 4 => if header.topDown then none else some (.coded .four)
  | 3, 16 | 3, 32 => (header.channels? dib).map .packed
  | _, _ => none

/-- Whether the sizes are those of an image that can be held. The height of rows that come from the
top down is bounded by the bytes of the image only. -/
def holdable (header : DibHeader) (layout : DibLayout) : Bool :=
  let channels :=
    match layout with
    | .packed packing => if packing.hasAlpha then 4 else 3
    | _ => 3
  0 < header.width && header.width ≤ greatestSide && 0 < header.height &&
    (header.topDown || header.height ≤ greatestSide) && header.planes = 1 &&
    header.width * header.height * channels ≤ greatestImage

/-- The bytes of a row, which fill whole groups of four. -/
def rowBytes (header : DibHeader) : Nat :=
  (header.width * header.depth + 31) / 32 * 4

end DibHeader

namespace Dib

/-- The rows of uncompressed pixels, in stored order, if all of them are there. -/
def rows? (stride height : Nat) (bytes : Bytes) : Option (List Bytes) :=
  if bytes.length < stride * height then none
  else some (chunks stride height bytes)

/-- A number of colours of three or four bytes each, blue first. -/
def plainPixels (pixelBytes : Nat) : Nat → Bytes → List Pixel
  | 0, _ => []
  | count + 1, blue :: green :: red :: rest =>
    ⟨red, green, blue, 255⟩ :: plainPixels pixelBytes count (rest.drop (pixelBytes - 3))
  | _ + 1, _ => []

/-- The colour table behind the header, if it is not longer than its depth can index. -/
def table? (header : DibHeader) (dib : Bytes) : Option (Array Pixel) :=
  let full := fullTable header.depth
  let count := if header.colors = 0 then full else header.colors
  if full < count then none
  else
    let entryBytes := if header.isCore then 3 else 4
    some (plainPixels entryBytes count (dib.drop header.size)).toArray

/-- The colour at an index of a table; black where there is none. -/
def lookUp (table : Array Pixel) (index : Nat) : Pixel :=
  table.getD index .opaqueBlack

/-- The indices of a depth that a byte holds, highest bits first. -/
def indicesOf (depth : Nat) (byte : UInt8) : List Nat :=
  (List.range (8 / depth)).map fun place =>
    (byte.toNat >>> (8 - depth * (place + 1))) % (1 <<< depth)

/-- The value that a run of bytes stands for, lowest byte first. -/
def littleEndian (bytes : Bytes) : Nat :=
  bytes.foldr (fun byte value => byte.toNat + 256 * value) 0

/-- The pixels of values with channels. -/
def packedPixels (channels : Channels) (valueBytes : Nat) : Nat → Bytes → List Pixel
  | 0, _ => []
  | count + 1, bytes =>
    channels.read (littleEndian (bytes.take valueBytes)) ::
      packedPixels channels valueBytes count (bytes.drop valueBytes)

/-- The rows of pixels in stored order. -/
def pixelRows? (header : DibHeader) (layout : DibLayout) (dib pixels : Bytes) :
    Option (List (List Pixel)) := do
  match layout with
  | .coded codes =>
    let table ← table? header dib
    let rows ← runRows? codes header.width header.height pixels
    return rows.map (List.map fun index => index.elim .opaqueBlack (lookUp table))
  | .indexed =>
    let table ← table? header dib
    let rows ← rows? header.rowBytes header.height pixels
    return rows.map fun row =>
      ((row.flatMap (indicesOf header.depth)).take header.width).map (lookUp table)
  | .plain =>
    let rows ← rows? header.rowBytes header.height pixels
    return rows.map (plainPixels (header.depth / 8) header.width)
  | .packed channels =>
    let rows ← rows? header.rowBytes header.height pixels
    return rows.map (packedPixels channels (header.depth / 8) header.width)

/-- The image of a bitmap whose pixels start at a given place. -/
def image? (dib : Bytes) (offset : Nat) : Option Pixmap := do
  let header ← DibHeader.ofBytes? dib
  let layout ← header.layout? dib
  if header.holdable layout then
    let rows ← pixelRows? header layout dib (dib.drop offset)
    let ordered := if header.topDown then rows else rows.reverse
    return ⟨header.width, header.height, ordered.flatten.map Pixel.premultiply⟩
  else none

/-- The image of a device-independent bitmap. -/
def decode (dib : Bytes) : Except BitmapFault Pixmap := do
  let offset ← pixelOffset dib
  match image? dib offset with
  | some image => .ok image
  | none => .error .undecodable

end Dib

end WindowsMetafile
