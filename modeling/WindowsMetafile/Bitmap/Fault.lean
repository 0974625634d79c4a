/-!
# Bitmap faults

Everything that can go wrong while an image is taken from a bitmap, kept as a cause.
-/

namespace WindowsMetafile

/-- Why an image cannot be had from a bitmap. -/
inductive BitmapFault
  /-- The header of a device bitmap is not complete. -/
  | shortDeviceHeader (bytes : Nat)
  /-- A device bitmap has fewer bytes than its rows take. -/
  | missingRows (needed available : Nat)
  /-- A device bitmap has a depth that cannot be shown. -/
  | unsupportedDepth (depth : UInt8)
  /-- The size field of an independent bitmap's header is not there. -/
  | missingHeaderSize
  /-- The short header of an independent bitmap is not complete. -/
  | coreHeaderTruncated
  /-- The long header of an independent bitmap is not complete. -/
  | infoHeaderTruncated
  /-- The header of an independent bitmap has no known layout. -/
  | unsupportedHeaderSize (size : Nat)
  /-- Header, masks and colour table reach past the end of an independent bitmap. -/
  | pixelsPastEnd (offset available : Nat)
  /-- An independent bitmap is too long for the size field of a file. -/
  | tooLong
  /-- The pixels of an independent bitmap cannot be read. -/
  | undecodable
  deriving DecidableEq, Repr

/-- The wording of a bitmap fault. -/
def BitmapFault.message : BitmapFault → String
  | .shortDeviceHeader bytes => s!"Bitmap16 needs 10 header bytes, has {bytes}"
  | .missingRows needed available =>
    s!"invalid DIB: bitmap16 needs {needed} bytes, has {available}"
  | .unsupportedDepth depth => s!"invalid DIB: bitmap16 depth {depth} not supported"
  | .missingHeaderSize => "invalid DIB: missing header size"
  | .coreHeaderTruncated => "invalid DIB: core header is truncated"
  | .infoHeaderTruncated => "invalid DIB: info header is truncated"
  | .unsupportedHeaderSize size => s!"invalid DIB: unsupported header size {size}"
  | .pixelsPastEnd offset available =>
    s!"invalid DIB: pixel data offset {offset} past end of {available} bytes"
  | .tooLong => "invalid DIB: bitmap larger than 4 GiB"
  | .undecodable => "decode DIB as BMP"

end WindowsMetafile
