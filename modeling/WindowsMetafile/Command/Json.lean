import WindowsMetafile.Command.Placement
import WindowsMetafile.Text.Json

/-!
# Commands as JSON

A command is listed as an object: its scale, the tag of its record type, and its stored fields.
Bitmaps and other long data are left out.
-/

namespace WindowsMetafile

namespace Json

def word (value : UInt16) : Json :=
  .nat value.toNat

def int16 (value : Int16) : Json :=
  .int value.toInt

def long (value : UInt32) : Json :=
  .nat value.toNat

def byte (value : UInt8) : Json :=
  .nat value.toNat

end Json

open Json

def Color.toJson (color : Color) : Json :=
  .object [("r", byte color.red), ("g", byte color.green), ("b", byte color.blue),
    ("flags", byte color.flags)]

def Point.toJson (point : Point Int16) : Json :=
  .object [("x", int16 point.x), ("y", int16 point.y)]

def Bounds.toJson (bounds : Bounds) : Json :=
  .object [("left", int16 bounds.left), ("top", int16 bounds.top),
    ("right", int16 bounds.right), ("bottom", int16 bounds.bottom)]

def Area.toJson (area : Area) : Json :=
  .object [("x", int16 area.x), ("y", int16 area.y),
    ("width", int16 area.width), ("height", int16 area.height)]

def Pen.toJson (pen : Pen) : Json :=
  .object [("style", word pen.style), ("width", int16 pen.width), ("color", pen.color.toJson)]

def Font.toJson (font : Font) : Json :=
  .object [("face_name", .string font.faceName),
    ("height", int16 font.height), ("width", int16 font.width),
    ("escapement", int16 font.escapement), ("orientation", int16 font.orientation),
    ("weight", int16 font.weight), ("italic", .bool font.italic),
    ("underline", .bool font.underline), ("strike_out", .bool font.strikeOut),
    ("charset", byte font.charset), ("out_precision", byte font.outPrecision),
    ("clip_precision", byte font.clipPrecision), ("quality", byte font.quality),
    ("pitch_and_family", byte font.pitchAndFamily)]

def DeviceBitmap.toJson (bitmap : DeviceBitmap) : Json :=
  .object [("bitmap_type", int16 bitmap.bitmapType), ("width", word bitmap.width),
    ("height", word bitmap.height), ("width_bytes", word bitmap.rowBytes),
    ("planes", byte bitmap.planes), ("bits_pixel", byte bitmap.depth)]

def pointsToJson (points : List (Point Int16)) : Json :=
  .array (points.map Point.toJson)

def colorsToJson (colors : List Color) : Json :=
  .array (colors.map Color.toJson)

namespace Action

/-- The stored fields of an action, without its bitmaps and other long data. -/
def jsonFields : Action → List (String × Json)
  | .endOfFile | .saveState | .realizePalette => []
  | .restoreState id => [("saved_dc", int16 id)]
  | .setColor _ color => [("color", color.toJson)]
  | .setMode _ mode => [("mode", word mode)]
  | .setLayout layout => [("layout", long layout)]
  | .editMapping _ _ point => [("point", point.toJson)]
  | .scaleExtent _ factors =>
    [("x_num", int16 factors.xNumerator), ("x_denom", int16 factors.xDenominator),
      ("y_num", int16 factors.yNumerator), ("y_denom", int16 factors.yDenominator)]
  | .escape function _ => [("function", word function)]
  | .setTextAlign align => [("align", word align)]
  | .setTextSpacing extra => [("extra", int16 extra)]
  | .setTextJustification breakCount breakExtra =>
    [("break_count", word breakCount), ("break_extra", int16 breakExtra)]
  | .setMapperFlags flags => [("flags", long flags)]
  | .text line origin => [("text", .string line), ("at", origin.toJson)]
  | .extendedText content =>
    [("at", content.origin.toJson), ("options", word content.options),
      ("rect", .ofOption Bounds.toJson content.bounds), ("text", .string content.text),
      ("dx", .array (content.advances.map int16))]
  | .moveTo target | .lineTo target => [("to", target.toJson)]
  | .boxFigure _ bounds | .editClip _ bounds => [("rect", bounds.toJson)]
  | .roundedBox bounds cornerWidth cornerHeight =>
    [("rect", bounds.toJson), ("corner_width", int16 cornerWidth),
      ("corner_height", int16 cornerHeight)]
  | .sector _ bounds start finish =>
    [("rect", bounds.toJson), ("start", start.toJson), ("end", finish.toJson)]
  | .pointFigure _ points => [("points", pointsToJson points)]
  | .polygons rings => [("polygons", .array (rings.map pointsToJson))]
  | .setPixel color point | .floodFill color point =>
    [("color", color.toJson), ("at", point.toJson)]
  | .extendedFloodFill mode color point =>
    [("mode", word mode), ("color", color.toJson), ("at", point.toJson)]
  | .patternBlit operation target => [("rop", long operation), ("dest", target.toJson)]
  | .createPen pen widthY => [("pen", pen.toJson), ("width_y", int16 widthY)]
  | .createBrush style color hatch =>
    [("style", word style), ("color", color.toJson), ("hatch", word hatch)]
  | .createFont font => [("font", font.toJson)]
  | .createPalette version entries =>
    [("version", word version), ("entries", colorsToJson entries)]
  | .createPatternBrush bitmap => [("bitmap", bitmap.toJson)]
  | .createDibPatternBrush style colorUse _ =>
    [("style", word style), ("color_use", word colorUse)]
  | .useHandle _ handle => [("handle", word handle)]
  | .editPalette _ start entries => [("start", word start), ("entries", colorsToJson entries)]
  | .resizePalette count => [("count", word count)]
  | .createRegion region =>
    [("next_in_chain", int16 region.nextInChain), ("object_type", int16 region.objectType),
      ("object_count", long region.objectCount), ("region_size", int16 region.regionSize),
      ("scan_count", int16 region.scanCount), ("max_scan", int16 region.maxScan),
      ("bounds", region.bounds.toJson), ("scans", .array (region.scans.map word))]
  | .fillRegion region brush => [("region", word region), ("brush", word brush)]
  | .frameRegion region brush height width =>
    [("region", word region), ("brush", word brush), ("height", int16 height),
      ("width", int16 width)]
  | .useRegion _ region => [("region", word region)]
  | .offsetClip offset => [("offset", offset.toJson)]
  | .bitBlit operation source target bitmap =>
    [("rop", long operation), ("src_x", int16 source.x), ("src_y", int16 source.y),
      ("dest", target.toJson), ("bitmap", .ofOption DeviceBitmap.toJson bitmap)]
  | .stretchBlit operation source target bitmap =>
    [("rop", long operation), ("src", source.toJson), ("dest", target.toJson),
      ("bitmap", .ofOption DeviceBitmap.toJson bitmap)]
  | .dibBitBlit operation source target _ =>
    [("rop", long operation), ("src_x", int16 source.x), ("src_y", int16 source.y),
      ("dest", target.toJson)]
  | .dibStretchBlit operation source target _ =>
    [("rop", long operation), ("src", source.toJson), ("dest", target.toJson)]
  | .setDibToDevice colorUse scanCount startScan source target _ =>
    [("color_use", word colorUse), ("scan_count", word scanCount),
      ("start_scan", word startScan), ("src_x", int16 source.x), ("src_y", int16 source.y),
      ("dest", target.toJson)]
  | .stretchDib operation colorUse source target _ =>
    [("rop", long operation), ("color_use", word colorUse), ("src", source.toJson),
      ("dest", target.toJson)]
  | .unknown opcode => [("opcode", word opcode)]

/-- The tag of an action. -/
def tag (action : Action) : String :=
  match action.type? with
  | some type => type.tag
  | none => "Unknown"

/-- The long data that the JSON form leaves out. -/
def data? : Action → Option Bytes
  | .escape _ data | .createDibPatternBrush _ _ data => some data
  | .createPatternBrush bitmap => some bitmap.bits
  | .bitBlit _ _ _ bitmap | .stretchBlit _ _ _ bitmap => bitmap.map DeviceBitmap.bits
  | .dibBitBlit _ _ _ dib | .dibStretchBlit _ _ _ dib => dib
  | .setDibToDevice _ _ _ _ _ dib | .stretchDib _ _ _ _ dib => some dib
  | _ => none

end Action

/-- The JSON form of a command. -/
def Command.toJson (command : Command) : Json :=
  .object (
    ("scale", .object [("x", .float command.scale.x), ("y", .float command.scale.y)]) ::
    ("record", .string command.action.tag) :: command.action.jsonFields)

end WindowsMetafile
