import WindowsMetafile.Command.Decode
import WindowsMetafile.Record.Field

/-!
# Writing commands

The record of an action lists its fields in the order in which the reader takes them. Lists and
texts are refused when they are too long for the word that counts them; actions that carry a bitmap
have no written form.

## Main definitions

* `Action.fields` — the parameters of the record of an action
* `Action.encode`, `Command.encode` — the record
-/

namespace WindowsMetafile

/-- A number in a word, if it fits. -/
def countWord (count : Nat) (opcode : UInt16) (defect : Defect) : Except Fault UInt16 :=
  if count < 65536 then .ok (UInt16.ofNat count) else .error (.malformed opcode defect)

namespace Point

/-- A point, `y` first. -/
def fieldsYX (p : Point Int16) : List Field :=
  [.int16 p.y, .int16 p.x]

/-- A point, `x` first. -/
def fieldsXY (p : Point Int16) : List Field :=
  [.int16 p.x, .int16 p.y]

end Point

namespace Bounds

/-- A rectangle as bottom, right, top, left. -/
def fieldsUpward (b : Bounds) : List Field :=
  [.int16 b.bottom, .int16 b.right, .int16 b.top, .int16 b.left]

/-- A rectangle as left, top, right, bottom. -/
def fieldsDownward (b : Bounds) : List Field :=
  [.int16 b.left, .int16 b.top, .int16 b.right, .int16 b.bottom]

end Bounds

/-- An area as height, width, `y`, `x`. -/
def Area.fields (a : Area) : List Field :=
  [.int16 a.height, .int16 a.width, .int16 a.y, .int16 a.x]

def Color.field (color : Color) : Field :=
  .long color.toReference

/-- The factors of an extent, vertical ones first. -/
def ExtentFactors.fields (factors : ExtentFactors) : List Field :=
  [.int16 factors.yDenominator, .int16 factors.yNumerator,
    .int16 factors.xDenominator, .int16 factors.xNumerator]

/-- A word of two flags or bytes, the first one low. -/
def pairField (low high : UInt8) : Field :=
  .word (Word.ofBytes low high)

/-- A truth value as a byte. -/
def flagByte (flag : Bool) : UInt8 :=
  if flag then 1 else 0

/-- A font; the face name is cut to leave a closing zero and filled up with zeros. -/
def Font.fields (font : Font) : List Field :=
  let face := (Latin1.encode font.faceName).take (faceNameBytes - 1)
  [.int16 font.height, .int16 font.width, .int16 font.escapement, .int16 font.orientation,
    .int16 font.weight,
    pairField (flagByte font.italic) (flagByte font.underline),
    pairField (flagByte font.strikeOut) font.charset,
    pairField font.outPrecision font.clipPrecision,
    pairField font.quality font.pitchAndFamily,
    .bytes (face ++ List.replicate (faceNameBytes - face.length) 0)]

namespace ExtendedText

/-- The rectangle of a text with options. It has to be there for clipped text and must not be there
without an option that uses it. Text on a filled background may do without, but then four advances
would be read back as a rectangle. -/
def boundsFields (text : ExtendedText) (opcode : UInt16) : Except Fault (List Field) :=
  match text.bounds with
  | some bounds =>
    if clips text.options || fillsBackground text.options then .ok bounds.fieldsDownward
    else .error (.malformed opcode .rectangleMismatch)
  | none =>
    if clips text.options then .error (.malformed opcode .rectangleMismatch)
    else if fillsBackground text.options && 4 ≤ text.advances.length then
      .error (.malformed opcode .advancesReadAsRectangle)
    else .ok []

/-- Text with options: position, length, options, rectangle, text and advances. -/
def fields (text : ExtendedText) (opcode : UInt16) : Except Fault (List Field) := do
  let length ← countWord text.text.length opcode .textTooLong
  let bounds ← text.boundsFields opcode
  return text.origin.fieldsYX ++ [.word length, .word text.options] ++ bounds ++
    [.bytes (Latin1.encode text.text)] ++ text.advances.map .int16

end ExtendedText

/-- A region, with its scan lines as they are. -/
def RegionDescription.fields (region : RegionDescription) : List Field :=
  [.int16 region.nextInChain, .int16 region.objectType, .long region.objectCount,
    .int16 region.regionSize, .int16 region.scanCount, .int16 region.maxScan] ++
    region.bounds.fieldsDownward ++ region.scans.map .word

/-- A first word and the colours of a palette. -/
def entryFields (start : UInt16) (entries : List Color) (opcode : UInt16) :
    Except Fault (List Field) := do
  let count ← countWord entries.length opcode .tooManyEntries
  return .word start :: .word count :: entries.map Color.field

/-- The word that counts a list of points or polygons. -/
def pointCount (count : Nat) (opcode : UInt16) : Except Fault UInt16 :=
  countWord count opcode (.tooManyPoints count)

namespace Action

/-- The fault of an action without a written form. -/
def unsupported (action : Action) : Fault :=
  .unsupportedEncoding action.opcode action.name

/-- The parameters of the record of an action. -/
def fields (action : Action) : Except Fault (List Field) :=
  match action with
  | .endOfFile | .saveState | .realizePalette => .ok []
  | .restoreState id => .ok [.int16 id]
  | .setColor _ color => .ok [color.field]
  | .setMode _ mode => .ok [.word mode]
  | .setLayout layout => .ok [.long layout]
  | .editMapping _ _ point => .ok point.fieldsYX
  | .scaleExtent _ factors => .ok factors.fields
  | .escape function data => do
    let length ← countWord data.length action.opcode .escapeTooLong
    return [.word function, .word length, .bytes data]
  | .setTextAlign align => .ok [.word align]
  | .setTextSpacing extra => .ok [.int16 extra]
  | .setTextJustification breakCount breakExtra => .ok [.word breakCount, .int16 breakExtra]
  | .setMapperFlags flags => .ok [.long flags]
  | .text line origin => do
    let length ← countWord line.length action.opcode .textTooLong
    return .word length :: .bytes (Latin1.encode line) :: origin.fieldsYX
  | .extendedText content => content.fields action.opcode
  | .moveTo point | .lineTo point => .ok point.fieldsYX
  | .boxFigure _ bounds => .ok bounds.fieldsUpward
  | .roundedBox bounds cornerWidth cornerHeight =>
    .ok (.int16 cornerHeight :: .int16 cornerWidth :: bounds.fieldsUpward)
  | .sector _ bounds start finish => .ok (finish.fieldsYX ++ start.fieldsYX ++ bounds.fieldsUpward)
  | .pointFigure _ points => do
    let count ← pointCount points.length action.opcode
    return .word count :: points.flatMap Point.fieldsXY
  | .polygons rings => do
    let count ← pointCount rings.length action.opcode
    let counts ← rings.mapM fun ring => pointCount ring.length action.opcode
    return .word count :: counts.map .word ++ rings.flatten.flatMap Point.fieldsXY
  | .setPixel color point | .floodFill color point => .ok (color.field :: point.fieldsYX)
  | .extendedFloodFill mode color point => .ok (.word mode :: color.field :: point.fieldsYX)
  | .patternBlit operation target => .ok (.long operation :: target.fields)
  | .createPen pen widthY => .ok [.word pen.style, .int16 pen.width, .int16 widthY, pen.color.field]
  | .createBrush style color hatch => .ok [.word style, color.field, .word hatch]
  | .createFont font => .ok font.fields
  | .createPalette version entries => entryFields version entries action.opcode
  | .useHandle _ handle => .ok [.word handle]
  | .editPalette _ start entries => entryFields start entries action.opcode
  | .resizePalette count => .ok [.word count]
  | .createRegion region => .ok region.fields
  | .fillRegion region brush => .ok [.word region, .word brush]
  | .frameRegion region brush height width =>
    .ok [.word region, .word brush, .int16 height, .int16 width]
  | .useRegion _ region => .ok [.word region]
  | .offsetClip offset => .ok offset.fieldsYX
  | .editClip _ bounds => .ok bounds.fieldsUpward
  | .bitBlit operation source target none | .dibBitBlit operation source target none =>
    .ok (.long operation :: source.fieldsYX ++ .word 0 :: target.fields)
  | .stretchBlit operation source target none | .dibStretchBlit operation source target none =>
    .ok (.long operation :: source.fields ++ .word 0 :: target.fields)
  | .bitBlit _ _ _ (some _) | .dibBitBlit _ _ _ (some _)
  | .stretchBlit _ _ _ (some _) | .dibStretchBlit _ _ _ (some _)
  | .createPatternBrush _ | .createDibPatternBrush _ _ _
  | .setDibToDevice _ _ _ _ _ _ | .stretchDib _ _ _ _ _
  | .unknown _ => .error action.unsupported

/-- The record of an action. -/
def encode (action : Action) : Except Fault Record :=
  action.fields.map (Record.compose action.opcode)

end Action

/-- The record of a command; the scale has no part in it. -/
def Command.encode (command : Command) : Except Fault Record :=
  command.action.encode

end WindowsMetafile
