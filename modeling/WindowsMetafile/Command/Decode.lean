import WindowsMetafile.Command.Placement
import WindowsMetafile.Record.Cursor
import WindowsMetafile.Text.Latin1

/-!
# Reading commands

Each record type has a reader for its parameters. A reader first requires the words that it is going
to take; a record may be longer, and what is left over is ignored. Points are stored with `y` before
`x`, except in lists of points; rectangles as bottom, right, top, left, except in text and regions.

## Main definitions

* `RecordType.reader` — the reader of a record type
* `Record.decodeAs` — the command in a record, expected to have a given function code
* `Record.decode` — the command in a record
-/

namespace WindowsMetafile

namespace Reader

/-- A point, `y` first. -/
def pointYX : Reader (Point Int16) := do
  let y ← int16
  let x ← int16
  return ⟨x, y⟩

/-- A point, `x` first. -/
def pointXY : Reader (Point Int16) := do
  let x ← int16
  let y ← int16
  return ⟨x, y⟩

/-- A rectangle as bottom, right, top, left. -/
def boundsUpward : Reader Bounds := do
  let bottom ← int16
  let right ← int16
  let top ← int16
  let left ← int16
  return ⟨left, top, right, bottom⟩

/-- A rectangle as left, top, right, bottom. -/
def boundsDownward : Reader Bounds := do
  let left ← int16
  let top ← int16
  let right ← int16
  let bottom ← int16
  return ⟨left, top, right, bottom⟩

/-- An area as height, width, `y`, `x`. -/
def area : Reader Area := do
  let height ← int16
  let width ← int16
  let y ← int16
  let x ← int16
  return ⟨x, y, width, height⟩

def color : Reader Color := do
  return .ofReference (← long)

/-- The two bytes of the next word. -/
def bytePair : Reader (UInt8 × UInt8) := do
  let value ← word
  return (Word.low value, Word.high value)

/-- A number of points, `x` first. -/
def points (count : Nat) : Reader (List (Point Int16)) :=
  times count pointXY

/-- The five words in front of a device bitmap's rows. -/
def deviceBitmapHeader : Reader DeviceBitmap := do
  let bitmapType ← int16
  let width ← word
  let height ← word
  let rowBytes ← word
  let (planes, depth) ← bytePair
  return { bitmapType, width, height, rowBytes, planes, depth, bits := [] }

/-- A device bitmap that takes the rest of the record. -/
def deviceBitmap : Reader DeviceBitmap := do
  let header ← deviceBitmapHeader
  return { header with bits := ← restBytes }

end Reader

open Reader

/-- The magnitude of a signed word; the least one, which has none, gives the greatest. -/
def magnitude (value : Int16) : Int16 :=
  if value = Int16.minValue then Int16.maxValue
  else if value < 0 then -value
  else value

/-- The bytes that a font record keeps for the face name, its closing zero included. -/
def faceNameBytes : Nat := 32

/-- The words of a blit without a bitmap, one reserved word included. -/
def bareBlitWords : Nat := 9

/-- The words of a stretching blit without a bitmap, one reserved word included. -/
def bareStretchWords : Nat := 11

/-- A font. A height of zero stands for ten, and a negative height for its magnitude. The last byte
kept for the face name closes it even when the writer left that out. -/
def Reader.font : Reader Font := do
  require 9 "LOGFONT"
  let height ← int16
  let width ← int16
  let escapement ← int16
  let orientation ← int16
  let weight ← int16
  let (italic, underline) ← bytePair
  let (strikeOut, charset) ← bytePair
  let (outPrecision, clipPrecision) ← bytePair
  let (quality, pitchAndFamily) ← bytePair
  let face ← restBytes
  return {
    faceName := Latin1.decode (face.take (faceNameBytes - 1))
    height := if height = 0 then 10 else magnitude height
    width, escapement, orientation, weight
    italic := italic != 0
    underline := underline != 0
    strikeOut := strikeOut != 0
    charset, outPrecision, clipPrecision, quality, pitchAndFamily }

/-- Whether a record of a number of words has a rectangle in front of a text of some length. Clipped
text always has one; text on a filled background has one when the record is long enough. -/
def ExtendedText.storesBounds (options length : UInt16) (words : Nat) : Bool :=
  clips options || (fillsBackground options && 4 + 4 + wordsFor length.toNat ≤ words)

/-- The rectangle of a text with options, where there is one. -/
def Reader.optionalBounds (present : Bool) : Reader (Option Bounds) :=
  if present then some <$> boundsDownward else pure none

/-- An advance for each of a number of characters, when a word is left for each. -/
def Reader.advances (characters : Nat) : Reader (List Int16) := do
  let left ← remaining
  if 0 < characters ∧ characters ≤ left then times characters int16 else return []

/-- Text with options, which may have a rectangle in front of it and advances behind it. -/
def Reader.extendedText : Reader ExtendedText := do
  require 4 "position, length and options"
  let origin ← pointYX
  let length ← word
  let options ← word
  let words ← count
  let bounds ← optionalBounds (ExtendedText.storesBounds options length words)
  let bytes ← bytes length.toNat
  let advances ← advances length.toNat
  return { origin, options, bounds, text := Latin1.decode bytes, advances }

/-- A first word and the colours of a palette. -/
def Reader.entries : Reader (UInt16 × List Color) := do
  require 2 "palette start and count"
  let start ← word
  let count ← word
  require (2 + 2 * count.toNat) "palette entries"
  let entries ← times count.toNat color
  return (start, entries)

/-- The factors of an extent; a denominator of zero is refused. -/
def Reader.factors : Reader ExtentFactors := do
  require 4 "scale factors"
  let yDenominator ← int16
  let yNumerator ← int16
  let xDenominator ← int16
  let xNumerator ← int16
  if xDenominator = 0 ∨ yDenominator = 0 then
    refuse .zeroScaleDenominator
  else
    return { xNumerator, xDenominator, yNumerator, yDenominator }

/-- A brush by style, colour and hatch. The style has to be known, and so has the hatch of a hatched
brush. -/
def Reader.brush : Reader Action := do
  require 4 "LOGBRUSH"
  let style ← word
  let color ← color
  let hatch ← word
  match BrushStyle.ofWord? style with
  | none => refuse (.unknownBrushStyle style)
  | some .hatched =>
    match Hatch.ofWord? hatch with
    | none => refuse (.unknownHatchStyle hatch)
    | some _ => return .createBrush style color hatch
  | some _ => return .createBrush style color hatch

def Reader.polygons : Reader Action := do
  require 1 "polygon count"
  let polygonCount ← word
  require (1 + polygonCount.toNat) "polygon point counts"
  let counts := (← times polygonCount.toNat word).map UInt16.toNat
  require (1 + polygonCount.toNat + 2 * counts.foldr (· + ·) 0) "polygon points"
  return .polygons (← counts.mapM points)

def Reader.pointFigure (figure : PointFigure) : Reader Action := do
  require 1 "point count"
  let count ← word
  require (1 + 2 * count.toNat) "points"
  return .pointFigure figure (← points count.toNat)

def Reader.plainText : Reader Action := do
  require 1 "string length"
  let length ← word
  require (1 + wordsFor length.toNat + 2) "text and position"
  let text ← bytes length.toNat
  let origin ← pointYX
  return .text (Latin1.decode text) origin

def Reader.region : Reader Action := do
  require 11 "region header"
  let nextInChain ← int16
  let objectType ← int16
  let objectCount ← long
  let regionSize ← int16
  let scanCount ← int16
  let maxScan ← int16
  let bounds ← boundsDownward
  let scans ← restWords
  return .createRegion
    { nextInChain, objectType, objectCount, regionSize, scanCount, maxScan, bounds, scans }

/-- A transfer of pixels: its operation, source and target, and what follows unless the record has
exactly the length of one without a bitmap. -/
def Reader.transfer {σ β : Type} (needed bare : Nat) (source : Reader σ) (bitmap : Reader β) :
    Reader (UInt32 × σ × Area × Option β) := do
  require needed "raster operation, source and destination"
  let words ← count
  let operation ← long
  let source ← source
  if words = bare then
    skip 1
    let target ← area
    return (operation, source, target, none)
  else
    let target ← area
    return (operation, source, target, some (← bitmap))

/-- A transfer between equal sizes. -/
def Reader.blit {β : Type} (bitmap : Reader β) :
    Reader (UInt32 × Point Int16 × Area × Option β) :=
  transfer 8 bareBlitWords pointYX bitmap

/-- A transfer between areas. -/
def Reader.stretch {β : Type} (bitmap : Reader β) :
    Reader (UInt32 × Area × Area × Option β) :=
  transfer 10 bareStretchWords area bitmap

def Reader.mode (role : ModeRole) : Reader Action := do
  require 1 "mode"
  return .setMode role (← word)

def Reader.mapping (side : MappingSide) (edit : MappingEdit) : Reader Action := do
  require 2 "point"
  return .editMapping side edit (← pointYX)

def Reader.sector (closing : ArcClosing) : Reader Action := do
  require 8 "arc end points and rectangle"
  let finish ← pointYX
  let start ← pointYX
  let bounds ← boundsUpward
  return .sector closing bounds start finish

def Reader.handle (use : HandleUse) (what : String) : Reader Action := do
  require 1 what
  return .useHandle use (← word)

def Reader.regionUse (use : RegionUse) : Reader Action := do
  require 1 "region handle"
  return .useRegion use (← word)

def Reader.colorSetting (role : ColorRole) : Reader Action := do
  require 2 "color"
  return .setColor role (← color)

def Reader.boxFigure (figure : BoxFigure) : Reader Action := do
  require 4 "rectangle"
  return .boxFigure figure (← boundsUpward)

def Reader.clipEdit (edit : ClipEdit) : Reader Action := do
  require 4 "rectangle"
  return .editClip edit (← boundsUpward)

/-- The reader of the parameters of a record type. -/
def RecordType.reader : RecordType → Reader Action
  | .eof => return .endOfFile
  | .saveDc => return .saveState
  | .restoreDc => do
    require 1 "saved DC id"
    return .restoreState (← int16)
  | .setBkColor => colorSetting .background
  | .setTextColor => colorSetting .text
  | .setBkMode => Reader.mode .background
  | .setMapMode => Reader.mode .mapping
  | .setRop2 => Reader.mode .rasterOperation
  | .setRelAbs => Reader.mode .absolute
  | .setPolyFillMode => Reader.mode .polygonFill
  | .setStretchBltMode => Reader.mode .stretching
  | .setLayout => do
    require 2 "layout"
    return .setLayout (← long)
  | .setWindowOrg => mapping .window .setOrigin
  | .setWindowExt => mapping .window .setExtent
  | .offsetWindowOrg => mapping .window .offsetOrigin
  | .setViewportOrg => mapping .viewport .setOrigin
  | .setViewportExt => mapping .viewport .setExtent
  | .offsetViewportOrg => mapping .viewport .offsetOrigin
  | .scaleWindowExt => return .scaleExtent .window (← Reader.factors)
  | .scaleViewportExt => return .scaleExtent .viewport (← Reader.factors)
  | .escape => do
    require 2 "escape function and byte count"
    let function ← word
    let length ← word
    return .escape function (← bytes length.toNat)
  | .setTextAlign => do
    require 1 "alignment"
    return .setTextAlign (← word)
  | .setTextCharExtra => do
    require 1 "extra spacing"
    return .setTextSpacing (← int16)
  | .setTextJustification => do
    require 2 "break count and extra"
    let breakCount ← word
    let breakExtra ← int16
    return .setTextJustification breakCount breakExtra
  | .setMapperFlags => do
    require 2 "mapper flags"
    return .setMapperFlags (← long)
  | .textOut => plainText
  | .extTextOut => return .extendedText (← extendedText)
  | .moveTo => do
    require 2 "point"
    return .moveTo (← pointYX)
  | .lineTo => do
    require 2 "point"
    return .lineTo (← pointYX)
  | .rectangle => boxFigure .rectangle
  | .ellipse => boxFigure .ellipse
  | .roundRect => do
    require 6 "corner size and rectangle"
    let cornerHeight ← int16
    let cornerWidth ← int16
    let bounds ← boundsUpward
    return .roundedBox bounds cornerWidth cornerHeight
  | .arc => sector .bare
  | .chord => sector .chord
  | .pie => sector .pie
  | .polygon => pointFigure .polygon
  | .polyline => pointFigure .polyline
  | .polyPolygon => polygons
  | .setPixel => do
    require 4 "color and point"
    let color ← color
    let point ← pointYX
    return .setPixel color point
  | .floodFill => do
    require 4 "color and point"
    let color ← color
    let point ← pointYX
    return .floodFill color point
  | .extFloodFill => do
    require 5 "mode, color and point"
    let mode ← word
    let color ← color
    let point ← pointYX
    return .extendedFloodFill mode color point
  | .patBlt => do
    require 6 "raster operation and destination"
    let operation ← long
    let target ← area
    return .patternBlit operation target
  | .createPenIndirect => do
    require 5 "LOGPEN"
    let style ← word
    let width ← int16
    let widthY ← int16
    let color ← color
    return .createPen { style, width, color } widthY
  | .createBrushIndirect => Reader.brush
  | .createFontIndirect => return .createFont (← Reader.font)
  | .createPalette => do
    let (version, entries) ← Reader.entries
    return .createPalette version entries
  | .createPatternBrush => do
    require 16 "Bitmap16 header"
    let header ← deviceBitmapHeader
    skip (2 + 9)
    let bits ← restBytes
    return .createPatternBrush { header with bits }
  | .dibCreatePatternBrush => do
    require 2 "style and color usage"
    let style ← word
    let colorUse ← word
    let data ← restBytes
    return .createDibPatternBrush style colorUse data
  | .selectObject => handle .select "object handle"
  | .deleteObject => handle .delete "object handle"
  | .selectPalette => handle .selectPalette "palette handle"
  | .realizePalette => return .realizePalette
  | .setPalEntries => do
    let (start, entries) ← Reader.entries
    return .editPalette .replace start entries
  | .animatePalette => do
    let (start, entries) ← Reader.entries
    return .editPalette .animate start entries
  | .resizePalette => do
    require 1 "entry count"
    return .resizePalette (← word)
  | .createRegion => Reader.region
  | .fillRegion => do
    require 2 "region and brush handles"
    let region ← word
    let brush ← word
    return .fillRegion region brush
  | .frameRegion => do
    require 4 "handles and frame size"
    let region ← word
    let brush ← word
    let height ← int16
    let width ← int16
    return .frameRegion region brush height width
  | .paintRegion => regionUse .paint
  | .invertRegion => regionUse .invert
  | .selectClipRegion => regionUse .clip
  | .offsetClipRgn => do
    require 2 "offset"
    return .offsetClip (← pointYX)
  | .excludeClipRect => clipEdit .exclude
  | .intersectClipRect => clipEdit .intersect
  | .bitBlt => do
    let (operation, source, target, bitmap) ← blit deviceBitmap
    return .bitBlit operation source target bitmap
  | .stretchBlt => do
    let (operation, source, target, bitmap) ← stretch deviceBitmap
    return .stretchBlit operation source target bitmap
  | .dibBitBlt => do
    let (operation, source, target, dib) ← blit restBytes
    return .dibBitBlit operation source target dib
  | .dibStretchBlt => do
    let (operation, source, target, dib) ← stretch restBytes
    return .dibStretchBlit operation source target dib
  | .setDibToDev => do
    require 9 "scan lines, source and destination"
    let colorUse ← word
    let scanCount ← word
    let startScan ← word
    let source ← pointYX
    let target ← area
    let dib ← restBytes
    return .setDibToDevice colorUse scanCount startScan source target dib
  | .stretchDib => do
    require 11 "raster operation, source and destination"
    let operation ← long
    let colorUse ← word
    let source ← area
    let target ← area
    let dib ← restBytes
    return .stretchDib operation colorUse source target dib

namespace Record

/-- The action in a record that is expected to have a given function code. Function codes without
meaning give the unknown action. -/
def actionAs (record : Record) (expected : UInt16) : Except Fault Action :=
  match RecordType.ofOpcode? expected with
  | some type =>
    if record.opcode = expected then type.reader.run record
    else .error (record.malformed (.foreignRecord type.name))
  | none =>
    if record.opcode = expected then .ok (.unknown expected)
    else .error (record.malformed (.foreignRecord (Action.unknown expected).name))

/-- The command in a record that is expected to have a given function code. -/
def decodeAs (record : Record) (expected : UInt16) : Except Fault Command :=
  (record.actionAs expected).map Command.ofAction

/-- The command in a record, unscaled. -/
def decode (record : Record) : Except Fault Command :=
  record.decodeAs record.opcode

end Record

end WindowsMetafile
