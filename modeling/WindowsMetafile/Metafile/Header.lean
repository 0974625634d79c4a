import WindowsMetafile.Bytes
import WindowsMetafile.Fault
import WindowsMetafile.Geometry.Basic

/-!
# Headers of a metafile

The standard header of nine words counts the words and objects of a metafile. A placeable header of
eleven words may stand before it; it gives the picture its bounds and ends with a checksum over the
ten words before.

## Main definitions

* `Placeable`, `StandardHeader` — the two headers
* `Placeable.toBytes`, `StandardHeader.toBytes` — the headers on file
* `Placeable.ofWords?`, `StandardHeader.ofWords?` — the headers read from their words
-/

namespace WindowsMetafile

/-- The header that places a picture: its bounds and the number of units to an inch. -/
structure Placeable where
  handle : UInt16
  bounds : Bounds
  unitsPerInch : UInt16
  reserved : UInt32
  checksum : UInt16
  deriving DecidableEq, Repr

namespace Placeable

/-- The value that a placeable header starts with. -/
def key : UInt32 := 0x9AC6CDD7

/-- The bytes of a placeable header. -/
def byteCount : Nat := 22

/-- The ten words before the checksum. -/
def checkedWords (header : Placeable) : List UInt16 :=
  [Long.low key, Long.high key, header.handle,
    header.bounds.left.toUInt16, header.bounds.top.toUInt16,
    header.bounds.right.toUInt16, header.bounds.bottom.toUInt16,
    header.unitsPerInch, Long.low header.reserved, Long.high header.reserved]

/-- The checksum that belongs to a header. -/
def computedChecksum (header : Placeable) : UInt16 :=
  header.checkedWords.foldl (· ^^^ ·) 0

/-- The header with the checksum that belongs to it. -/
def withChecksum (header : Placeable) : Placeable :=
  { header with checksum := header.computedChecksum }

/-- The header on file. -/
def toBytes (header : Placeable) : Bytes :=
  unpackWords (header.checkedWords ++ [header.checksum])

/-- The header in a list of eleven words; the key is taken for granted. -/
def ofWords? : List UInt16 → Option Placeable
  | [_, _, handle, left, top, right, bottom, unitsPerInch, low, high, checksum] =>
    some {
      handle
      bounds := ⟨left.toInt16, top.toInt16, right.toInt16, bottom.toInt16⟩
      unitsPerInch
      reserved := Long.ofWords low high
      checksum }
  | _ => none

end Placeable

/-- The header that every metafile has. -/
structure StandardHeader where
  fileType : UInt16
  headerWords : UInt16
  version : UInt16
  size : UInt32
  objectCount : UInt16
  maxRecordSize : UInt32
  memberCount : UInt16
  deriving DecidableEq, Repr

namespace StandardHeader

/-- The type of a metafile kept in memory. -/
def memoryType : UInt16 := 1

/-- The type of a metafile kept on disk. -/
def diskType : UInt16 := 2

/-- The version of metafiles with colours and palettes. -/
def version3 : UInt16 := 0x0300

/-- The words of a standard header. -/
def wordCount : Nat := 9

/-- The bytes of a standard header. -/
def byteCount : Nat := 18

/-- The header on file. -/
def toBytes (header : StandardHeader) : Bytes :=
  unpackWords [header.fileType, header.headerWords, header.version,
    Long.low header.size, Long.high header.size, header.objectCount,
    Long.low header.maxRecordSize, Long.high header.maxRecordSize, header.memberCount]

/-- The header in a list of nine words. -/
def ofWords? : List UInt16 → Option StandardHeader
  | [fileType, headerWords, version, size₀, size₁, objectCount, max₀, max₁, memberCount] =>
    some {
      fileType, headerWords, version, objectCount, memberCount
      size := Long.ofWords size₀ size₁
      maxRecordSize := Long.ofWords max₀ max₁ }
  | _ => none

end StandardHeader

end WindowsMetafile
