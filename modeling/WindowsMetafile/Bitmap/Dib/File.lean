import WindowsMetafile.Bitmap.Fault
import WindowsMetafile.Bytes

/-!
# Device-independent bitmaps as files

A device-independent bitmap in a record has a header, perhaps channel masks, a colour table, and
then its pixels. On file it stands behind a header of fourteen bytes, which gives the size of the
file and the place of the pixels.

## Main definitions

* `Dib.pixelOffset` — the place where the pixels start
* `Dib.toFile` — the bitmap on file
-/

namespace WindowsMetafile.Dib

/-- The size of the short header. -/
def coreHeaderSize : Nat := 12

/-- The size of the least long header. -/
def infoHeaderSize : Nat := 40

/-- The size of the header on file. -/
def fileHeaderSize : Nat := 14

/-- The compression of pixels whose channels are given by masks. -/
def bitFields : Nat := 3

/-- The compression of pixels whose channels, opacity included, are given by masks. -/
def alphaBitFields : Nat := 6

/-- The colours of a full table for a depth that uses one. -/
def fullTable (depth : Nat) : Nat :=
  if depth ≤ 8 then 1 <<< depth else 0

/-- The bytes of masks behind a header; longer headers have them inside. -/
def maskBytes (headerSize compression : Nat) : Nat :=
  if headerSize ≠ infoHeaderSize then 0
  else if compression = bitFields then 12
  else if compression = alphaBitFields then 16
  else 0

/-- The place where the pixels would start, as header, masks and colour table have it. A colour
table without a count is a full one. -/
def declaredOffset (dib : Bytes) : Except BitmapFault Nat :=
  match longAt? dib 0 with
  | none => .error .missingHeaderSize
  | some size =>
    if size.toNat = coreHeaderSize then
      match wordAt? dib 10 with
      | none => .error .coreHeaderTruncated
      | some depth => .ok (coreHeaderSize + 3 * fullTable depth.toNat)
    else if infoHeaderSize ≤ size.toNat then
      match wordAt? dib 14, longAt? dib 16, longAt? dib 32 with
      | some depth, some compression, some used =>
        let colors := if used = 0 then fullTable depth.toNat else used.toNat
        .ok (size.toNat + maskBytes size.toNat compression.toNat + 4 * colors)
      | _, _, _ => .error .infoHeaderTruncated
    else
      .error (.unsupportedHeaderSize size.toNat)

/-- The place where the pixels start, inside a bitmap that is not too long for a file. -/
def pixelOffset (dib : Bytes) : Except BitmapFault Nat := do
  let offset ← declaredOffset dib
  if dib.length < offset then
    .error (.pixelsPastEnd offset dib.length)
  else if 4294967296 ≤ fileHeaderSize + dib.length then
    .error .tooLong
  else
    .ok offset

/-- The header on file: the letters BM, the size of the file, four zero bytes, and the place of the
pixels. -/
def fileHeader (length offset : Nat) : Bytes :=
  [0x42, 0x4D] ++ Long.toBytes (UInt32.ofNat (fileHeaderSize + length)) ++ [0, 0, 0, 0] ++
    Long.toBytes (UInt32.ofNat (fileHeaderSize + offset))

/-- The bitmap on file. -/
def toFile (dib : Bytes) : Except BitmapFault Bytes := do
  let offset ← pixelOffset dib
  return fileHeader dib.length offset ++ dib

end WindowsMetafile.Dib
