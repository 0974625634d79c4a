import WindowsMetafile.Graphics.ObjectKind
import WindowsMetafile.Text.Hex

/-!
# Faults

Everything that can go wrong while a metafile is read, written or replayed, kept as a cause. The
wording of a cause is given once, by `Fault.message`.
-/

namespace WindowsMetafile

/-- What is wrong with the parameters or the length of one record. -/
inductive Defect
  /-- Fewer than six bytes are left for size and function code. -/
  | truncatedHeader
  /-- The declared size does not even cover the record's own header. -/
  | sizeBelowHeader (words : Nat)
  /-- The declared size asks for more bytes than there are. -/
  | sizeBeyondData (bytes available : Nat)
  /-- A command needs more parameter words than the record has. -/
  | tooFewWords (what : String) (needed count : Nat)
  /-- A single word is read past the end. -/
  | wordOutOfRange (index count : Nat)
  /-- A run of bytes is read past the end. -/
  | bytesOutOfRange (bytes offset count : Nat)
  /-- A single word is written past the end. -/
  | writeOutOfRange (index count : Nat)
  /-- A run of bytes is written past the end. -/
  | bytesDoNotFit (bytes offset count : Nat)
  /-- More words are skipped than are left. -/
  | skipTooFar (words left : Nat)
  /-- The record has another function code than the command. -/
  | foreignRecord (name : String)
  /-- An extent is to be divided by zero. -/
  | zeroScaleDenominator
  /-- The style word of a brush has no meaning. -/
  | unknownBrushStyle (style : UInt16)
  /-- The hatch word of a hatched brush has no meaning. -/
  | unknownHatchStyle (hatch : UInt16)
  /-- A list of points or polygons is too long for its count word. -/
  | tooManyPoints (count : Nat)
  /-- A list of palette entries is too long for its count word. -/
  | tooManyEntries
  /-- The data of an escape is too long for its count word. -/
  | escapeTooLong
  /-- A text is too long for its count word. -/
  | textTooLong
  /-- Four advances after opaque text without a rectangle would be read back as a rectangle. -/
  | advancesReadAsRectangle
  /-- The options ask for a rectangle that is missing, or forbid one that is there. -/
  | rectangleMismatch
  deriving DecidableEq, Repr

/-- The wording of a record's defect. -/
def Defect.message : Defect → String
  | .truncatedHeader => "record header is truncated"
  | .sizeBelowHeader words => s!"declared size {words} is smaller than the header"
  | .sizeBeyondData bytes available =>
    s!"declared size {bytes} bytes exceeds the {available} available"
  | .tooFewWords what needed count =>
    s!"{what} needs {needed} parameter words, record has {count}"
  | .wordOutOfRange index count => s!"word {index} out of range ({count} params)"
  | .bytesOutOfRange bytes offset count =>
    s!"{bytes} bytes at word {offset} overrun {count} params"
  | .writeOutOfRange index count => s!"write to word {index} of {count}"
  | .bytesDoNotFit bytes offset count =>
    s!"{bytes} bytes at word {offset} do not fit {count} params"
  | .skipTooFar words left => s!"cannot skip {words} words, {left} left"
  | .foreignRecord name => s!"{name} cannot decode this record"
  | .zeroScaleDenominator => "zero scale denominator"
  | .unknownBrushStyle style => s!"unknown brush style {style}"
  | .unknownHatchStyle hatch => s!"unknown hatch style {hatch}"
  | .tooManyPoints count => s!"{count} points do not fit a record"
  | .tooManyEntries => "too many palette entries"
  | .escapeTooLong => "escape payload too large"
  | .textTooLong => "text is longer than a record can carry"
  | .advancesReadAsRectangle =>
    "opaque text without a rectangle cannot carry four or more advances"
  | .rectangleMismatch => "rectangle presence does not match the options"

/-- What is wrong with the headers of a metafile, or with the picture as a whole. -/
inductive HeaderDefect
  /-- The placeable key is there, but not the whole placeable header. -/
  | placeableTruncated
  /-- The stored checksum is not the one of the ten words before it. -/
  | checksumMismatch (stored computed : UInt16)
  /-- The standard header is not complete. -/
  | standardTruncated
  /-- The type word is neither that of a memory nor that of a disk metafile. -/
  | unknownType (fileType : UInt16)
  /-- The declared header size does not cover the standard header. -/
  | headerTooSmall (words : UInt16)
  /-- The declared header size reaches past the end of the data. -/
  | bodyBeyondData
  /-- The size of the whole metafile does not fit its size field. -/
  | tooLong
  /-- Neither bounds nor a window extent give the picture a size. -/
  | noPictureSize
  deriving DecidableEq, Repr

/-- The wording of a header's defect. -/
def HeaderDefect.message : HeaderDefect → String
  | .placeableTruncated => "placeable header is truncated"
  | .checksumMismatch stored computed =>
    s!"placeable checksum 0x{hexText 4 stored.toNat}, expected 0x{hexText 4 computed.toNat}"
  | .standardTruncated => "standard header is truncated"
  | .unknownType fileType => s!"unknown metafile type {fileType}"
  | .headerTooSmall words => s!"header size {words} words is too small"
  | .bodyBeyondData => "record area starts past the end of data"
  | .tooLong => "metafile exceeds 2^32 words"
  | .noPictureSize => "picture has no bounds and no window extent"

/-- Why a handle of the object table cannot be used. -/
inductive HandleDefect
  /-- Every handle is taken, so a new object has no place. -/
  | tableFull
  /-- The handle has no object. -/
  | vacant
  /-- The handle has an object of another kind. -/
  | otherKind (expected found : ObjectKind)
  deriving DecidableEq, Repr

/-- The wording of a handle's defect. -/
def HandleDefect.message : HandleDefect → String
  | .tableFull => "object table is full"
  | .vacant => "no object at this handle"
  | .otherKind expected found => s!"expected a {expected.name}, found a {found.name}"

/-- The cause of a failure. -/
inductive Fault
  /-- A record has the wrong length or a value without meaning. -/
  | malformed (opcode : UInt16) (defect : Defect)
  /-- A command can be read but has no written form. -/
  | unsupportedEncoding (opcode : UInt16) (name : String)
  /-- A saved state is asked for that is not on the stack. -/
  | missingState (requested : Int16) (depth : Nat)
  /-- A handle does not lead to a usable object. -/
  | invalidHandle (handle : UInt16) (defect : HandleDefect)
  /-- The metafile as a whole cannot be read, written or given a size. -/
  | header (defect : HeaderDefect)
  /-- A run of words ends beyond the last 64-bit position, where nothing can be written. -/
  | positionOverflow (offset words : Nat)
  deriving DecidableEq, Repr

/-- The wording of a fault. -/
def Fault.message : Fault → String
  | .malformed opcode defect =>
    s!"malformed record 0x{hexText 4 opcode.toNat}: {defect.message}"
  | .unsupportedEncoding opcode name =>
    s!"record 0x{hexText 4 opcode.toNat} ({name}) cannot be encoded"
  | .missingState requested depth => s!"RestoreDC({requested}) with {depth} saved state(s)"
  | .invalidHandle handle defect => s!"invalid object handle {handle}: {defect.message}"
  | .header defect => s!"metafile header error: {defect.message}"
  | .positionOverflow offset words => s!"{words} words at word {offset} pass the last position"

end WindowsMetafile
