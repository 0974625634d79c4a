/-!
# Record types

The function codes that have a meaning. Each record type has a function code, a name for messages,
and a tag under which its commands are listed.

## Main definitions

* `RecordType` — the record types, in the order of their function codes
* `RecordType.opcode`, `RecordType.ofOpcode?` — between types and function codes

## Main results

* `RecordType.ofOpcode?_eq_some_iff` — a function code belongs to at most one type
-/

namespace WindowsMetafile

/-- The record types, in the order of their function codes. -/
inductive RecordType
  | eof
  | saveDc
  | realizePalette
  | setPalEntries
  | createPalette
  | setBkMode
  | setMapMode
  | setRop2
  | setRelAbs
  | setPolyFillMode
  | setStretchBltMode
  | setTextCharExtra
  | restoreDc
  | invertRegion
  | paintRegion
  | selectClipRegion
  | selectObject
  | setTextAlign
  | resizePalette
  | dibCreatePatternBrush
  | setLayout
  | deleteObject
  | createPatternBrush
  | setBkColor
  | setTextColor
  | setTextJustification
  | setWindowOrg
  | setWindowExt
  | setViewportOrg
  | setViewportExt
  | offsetWindowOrg
  | offsetViewportOrg
  | lineTo
  | moveTo
  | offsetClipRgn
  | fillRegion
  | setMapperFlags
  | selectPalette
  | createPenIndirect
  | createFontIndirect
  | createBrushIndirect
  | polygon
  | polyline
  | scaleWindowExt
  | scaleViewportExt
  | excludeClipRect
  | intersectClipRect
  | ellipse
  | floodFill
  | rectangle
  | setPixel
  | frameRegion
  | animatePalette
  | textOut
  | polyPolygon
  | extFloodFill
  | roundRect
  | patBlt
  | escape
  | createRegion
  | arc
  | pie
  | chord
  | bitBlt
  | dibBitBlt
  | extTextOut
  | stretchBlt
  | dibStretchBlt
  | setDibToDev
  | stretchDib
  deriving DecidableEq, Repr

namespace RecordType

/-- All record types, in the order of their function codes. -/
def all : List RecordType :=
  [.eof, .saveDc, .realizePalette, .setPalEntries, .createPalette, .setBkMode, .setMapMode,
    .setRop2, .setRelAbs, .setPolyFillMode, .setStretchBltMode, .setTextCharExtra, .restoreDc,
    .invertRegion, .paintRegion, .selectClipRegion, .selectObject, .setTextAlign, .resizePalette,
    .dibCreatePatternBrush, .setLayout, .deleteObject, .createPatternBrush, .setBkColor,
    .setTextColor, .setTextJustification, .setWindowOrg, .setWindowExt, .setViewportOrg,
    .setViewportExt, .offsetWindowOrg, .offsetViewportOrg, .lineTo, .moveTo, .offsetClipRgn,
    .fillRegion, .setMapperFlags, .selectPalette, .createPenIndirect, .createFontIndirect,
    .createBrushIndirect, .polygon, .polyline, .scaleWindowExt, .scaleViewportExt,
    .excludeClipRect, .intersectClipRect, .ellipse, .floodFill, .rectangle, .setPixel,
    .frameRegion, .animatePalette, .textOut, .polyPolygon, .extFloodFill, .roundRect, .patBlt,
    .escape, .createRegion, .arc, .pie, .chord, .bitBlt, .dibBitBlt, .extTextOut, .stretchBlt,
    .dibStretchBlt, .setDibToDev, .stretchDib]

/-- The function code of a record type. -/
def opcode : RecordType → UInt16
  | .eof => 0x0000
  | .saveDc => 0x001E
  | .realizePalette => 0x0035
  | .setPalEntries => 0x0037
  | .createPalette => 0x00F7
  | .setBkMode => 0x0102
  | .setMapMode => 0x0103
  | .setRop2 => 0x0104
  | .setRelAbs => 0x0105
  | .setPolyFillMode => 0x0106
  | .setStretchBltMode => 0x0107
  | .setTextCharExtra => 0x0108
  | .restoreDc => 0x0127
  | .invertRegion => 0x012A
  | .paintRegion => 0x012B
  | .selectClipRegion => 0x012C
  | .selectObject => 0x012D
  | .setTextAlign => 0x012E
  | .resizePalette => 0x0139
  | .dibCreatePatternBrush => 0x0142
  | .setLayout => 0x0149
  | .deleteObject => 0x01F0
  | .createPatternBrush => 0x01F9
  | .setBkColor => 0x0201
  | .setTextColor => 0x0209
  | .setTextJustification => 0x020A
  | .setWindowOrg => 0x020B
  | .setWindowExt => 0x020C
  | .setViewportOrg => 0x020D
  | .setViewportExt => 0x020E
  | .offsetWindowOrg => 0x020F
  | .offsetViewportOrg => 0x0211
  | .lineTo => 0x0213
  | .moveTo => 0x0214
  | .offsetClipRgn => 0x0220
  | .fillRegion => 0x0228
  | .setMapperFlags => 0x0231
  | .selectPalette => 0x0234
  | .createPenIndirect => 0x02FA
  | .createFontIndirect => 0x02FB
  | .createBrushIndirect => 0x02FC
  | .polygon => 0x0324
  | .polyline => 0x0325
  | .scaleWindowExt => 0x0410
  | .scaleViewportExt => 0x0412
  | .excludeClipRect => 0x0415
  | .intersectClipRect => 0x0416
  | .ellipse => 0x0418
  | .floodFill => 0x0419
  | .rectangle => 0x041B
  | .setPixel => 0x041F
  | .frameRegion => 0x0429
  | .animatePalette => 0x0436
  | .textOut => 0x0521
  | .polyPolygon => 0x0538
  | .extFloodFill => 0x0548
  | .roundRect => 0x061C
  | .patBlt => 0x061D
  | .escape => 0x0626
  | .createRegion => 0x06FF
  | .arc => 0x0817
  | .pie => 0x081A
  | .chord => 0x0830
  | .bitBlt => 0x0922
  | .dibBitBlt => 0x0940
  | .extTextOut => 0x0A32
  | .stretchBlt => 0x0B23
  | .dibStretchBlt => 0x0B41
  | .setDibToDev => 0x0D33
  | .stretchDib => 0x0F43

/-- The tag of a record type's commands. -/
def tag : RecordType → String
  | .eof => "Eof"
  | .saveDc => "SaveDc"
  | .realizePalette => "RealizePalette"
  | .setPalEntries => "SetPalEntries"
  | .createPalette => "CreatePalette"
  | .setBkMode => "SetBkMode"
  | .setMapMode => "SetMapMode"
  | .setRop2 => "SetRop2"
  | .setRelAbs => "SetRelAbs"
  | .setPolyFillMode => "SetPolyFillMode"
  | .setStretchBltMode => "SetStretchBltMode"
  | .setTextCharExtra => "SetTextCharExtra"
  | .restoreDc => "RestoreDc"
  | .invertRegion => "InvertRegion"
  | .paintRegion => "PaintRegion"
  | .selectClipRegion => "SelectClipRegion"
  | .selectObject => "SelectObject"
  | .setTextAlign => "SetTextAlign"
  | .resizePalette => "ResizePalette"
  | .dibCreatePatternBrush => "DibCreatePatternBrush"
  | .setLayout => "SetLayout"
  | .deleteObject => "DeleteObject"
  | .createPatternBrush => "CreatePatternBrush"
  | .setBkColor => "SetBkColor"
  | .setTextColor => "SetTextColor"
  | .setTextJustification => "SetTextJustification"
  | .setWindowOrg => "SetWindowOrg"
  | .setWindowExt => "SetWindowExt"
  | .setViewportOrg => "SetViewportOrg"
  | .setViewportExt => "SetViewportExt"
  | .offsetWindowOrg => "OffsetWindowOrg"
  | .offsetViewportOrg => "OffsetViewportOrg"
  | .lineTo => "LineTo"
  | .moveTo => "MoveTo"
  | .offsetClipRgn => "OffsetClipRgn"
  | .fillRegion => "FillRegion"
  | .setMapperFlags => "SetMapperFlags"
  | .selectPalette => "SelectPalette"
  | .createPenIndirect => "CreatePenIndirect"
  | .createFontIndirect => "CreateFontIndirect"
  | .createBrushIndirect => "CreateBrushIndirect"
  | .polygon => "Polygon"
  | .polyline => "Polyline"
  | .scaleWindowExt => "ScaleWindowExt"
  | .scaleViewportExt => "ScaleViewportExt"
  | .excludeClipRect => "ExcludeClipRect"
  | .intersectClipRect => "IntersectClipRect"
  | .ellipse => "Ellipse"
  | .floodFill => "FloodFill"
  | .rectangle => "Rectangle"
  | .setPixel => "SetPixel"
  | .frameRegion => "FrameRegion"
  | .animatePalette => "AnimatePalette"
  | .textOut => "TextOut"
  | .polyPolygon => "PolyPolygon"
  | .extFloodFill => "ExtFloodFill"
  | .roundRect => "RoundRect"
  | .patBlt => "PatBlt"
  | .escape => "Escape"
  | .createRegion => "CreateRegion"
  | .arc => "Arc"
  | .pie => "Pie"
  | .chord => "Chord"
  | .bitBlt => "BitBlt"
  | .dibBitBlt => "DibBitBlt"
  | .extTextOut => "ExtTextOut"
  | .stretchBlt => "StretchBlt"
  | .dibStretchBlt => "DibStretchBlt"
  | .setDibToDev => "SetDibToDev"
  | .stretchDib => "StretchDib"

/-- The name of a record type in messages; three names differ from the tag in their capitals. -/
def name : RecordType → String
  | .saveDc => "SaveDC"
  | .restoreDc => "RestoreDC"
  | .setRop2 => "SetROP2"
  | type => type.tag

/-- The record type with a function code. -/
def ofOpcode? (code : UInt16) : Option RecordType :=
  all.find? fun type => type.opcode == code

@[simp] theorem ofOpcode?_opcode (type : RecordType) : ofOpcode? type.opcode = some type := by
  cases type <;> rfl

/-- A function code belongs to at most one record type. -/
theorem ofOpcode?_eq_some_iff {code : UInt16} {type : RecordType} :
    ofOpcode? code = some type ↔ type.opcode = code := by
  constructor
  · intro found
    simpa using List.find?_some found
  · rintro rfl
    exact ofOpcode?_opcode type

/-- Whether replaying a record of this type puts an object into the object table. -/
def createsObject : RecordType → Bool
  | .createPenIndirect | .createBrushIndirect | .createFontIndirect | .createPalette
  | .createRegion | .createPatternBrush | .dibCreatePatternBrush => true
  | _ => false

end RecordType

end WindowsMetafile
