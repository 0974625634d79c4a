import WindowsMetafile.Bitmap.DeviceBitmap
import WindowsMetafile.Color
import WindowsMetafile.Geometry.Curve
import WindowsMetafile.Graphics.Object
import WindowsMetafile.Record.Type

/-!
# Commands

What the records of a metafile ask for. Record types that differ only in where their value goes
share one constructor.

## Main definitions

* `Action` — what a record asks for, in stored coordinates
* `Action.type?`, `Action.opcode`, `Action.name` — the record that an action belongs to
* `RecordType.blank` — the action of a record of zeros
-/

namespace WindowsMetafile

/-- The colours of a device context that records set. -/
inductive ColorRole
  | background
  | text
  deriving DecidableEq, Repr

/-- The modes of a device context that records set to a word. -/
inductive ModeRole
  | background
  | mapping
  | rasterOperation
  | absolute
  | polygonFill
  | stretching
  deriving DecidableEq, Repr

/-- The two ends of the mapping from the picture to the surface. -/
inductive MappingSide
  | window
  | viewport
  deriving DecidableEq, Repr

/-- What is done to one end of the mapping with a point. -/
inductive MappingEdit
  | setOrigin
  | setExtent
  | offsetOrigin
  deriving DecidableEq, Repr

/-- Fractions that the two axes of an extent are multiplied by. -/
structure ExtentFactors where
  xNumerator : Int16
  xDenominator : Int16
  yNumerator : Int16
  yDenominator : Int16
  deriving DecidableEq, Repr

/-- The figures that fill a whole rectangle. -/
inductive BoxFigure
  | rectangle
  | ellipse
  deriving DecidableEq, Repr

/-- The figures that go through a list of points. -/
inductive PointFigure
  | polygon
  | polyline
  deriving DecidableEq, Repr

/-- The edits of the clip with a rectangle. -/
inductive ClipEdit
  | exclude
  | intersect
  deriving DecidableEq, Repr

/-- The records that write colours into the selected palette. -/
inductive PaletteEdit
  | replace
  | animate
  deriving DecidableEq, Repr

/-- What is done with a handle alone. -/
inductive HandleUse
  | select
  | delete
  | selectPalette
  deriving DecidableEq, Repr

/-- What is done with a region alone. -/
inductive RegionUse
  | paint
  | invert
  | clip
  deriving DecidableEq, Repr

/-- Text with options, an optional rectangle, and an optional advance for each character. -/
structure ExtendedText where
  origin : Point Int16
  options : UInt16
  bounds : Option Bounds
  text : String
  advances : List Int16
  deriving DecidableEq, Repr

namespace ExtendedText

/-- Whether the rectangle is filled with the background colour. -/
def fillsBackground (options : UInt16) : Bool :=
  options &&& 0x0002 != 0

/-- Whether the text is clipped to the rectangle. -/
def clips (options : UInt16) : Bool :=
  options &&& 0x0004 != 0

end ExtendedText

/-- A region as a record describes it; only its bounds matter for replay. -/
structure RegionDescription where
  nextInChain : Int16
  objectType : Int16
  objectCount : UInt32
  regionSize : Int16
  scanCount : Int16
  maxScan : Int16
  bounds : Bounds
  scans : List UInt16
  deriving DecidableEq, Repr

/-- What a record asks for. -/
inductive Action
  | endOfFile
  | saveState
  | restoreState (id : Int16)
  | setColor (role : ColorRole) (color : Color)
  | setMode (role : ModeRole) (mode : UInt16)
  | setLayout (layout : UInt32)
  | editMapping (side : MappingSide) (edit : MappingEdit) (point : Point Int16)
  | scaleExtent (side : MappingSide) (factors : ExtentFactors)
  | escape (function : UInt16) (data : Bytes)
  | setTextAlign (align : UInt16)
  | setTextSpacing (extra : Int16)
  | setTextJustification (breakCount : UInt16) (breakExtra : Int16)
  | setMapperFlags (flags : UInt32)
  | text (line : String) (origin : Point Int16)
  | extendedText (content : ExtendedText)
  | moveTo (target : Point Int16)
  | lineTo (target : Point Int16)
  | boxFigure (figure : BoxFigure) (bounds : Bounds)
  | roundedBox (bounds : Bounds) (cornerWidth cornerHeight : Int16)
  | sector (closing : ArcClosing) (bounds : Bounds) (start finish : Point Int16)
  | pointFigure (figure : PointFigure) (points : List (Point Int16))
  | polygons (rings : List (List (Point Int16)))
  | setPixel (color : Color) (point : Point Int16)
  | floodFill (color : Color) (point : Point Int16)
  | extendedFloodFill (mode : UInt16) (color : Color) (point : Point Int16)
  | patternBlit (operation : UInt32) (target : Area)
  | createPen (pen : Pen) (widthY : Int16)
  | createBrush (style : UInt16) (color : Color) (hatch : UInt16)
  | createFont (font : Font)
  | createPalette (version : UInt16) (entries : List Color)
  | createPatternBrush (bitmap : DeviceBitmap)
  | createDibPatternBrush (style colorUse : UInt16) (data : Bytes)
  | useHandle (use : HandleUse) (handle : UInt16)
  | realizePalette
  | editPalette (edit : PaletteEdit) (start : UInt16) (entries : List Color)
  | resizePalette (count : UInt16)
  | createRegion (region : RegionDescription)
  | fillRegion (region brush : UInt16)
  | frameRegion (region brush : UInt16) (height width : Int16)
  | useRegion (use : RegionUse) (region : UInt16)
  | offsetClip (offset : Point Int16)
  | editClip (edit : ClipEdit) (bounds : Bounds)
  | bitBlit (operation : UInt32) (source : Point Int16) (target : Area)
      (bitmap : Option DeviceBitmap)
  | stretchBlit (operation : UInt32) (source target : Area) (bitmap : Option DeviceBitmap)
  | dibBitBlit (operation : UInt32) (source : Point Int16) (target : Area) (dib : Option Bytes)
  | dibStretchBlit (operation : UInt32) (source target : Area) (dib : Option Bytes)
  | setDibToDevice (colorUse scanCount startScan : UInt16) (source : Point Int16) (target : Area)
      (dib : Bytes)
  | stretchDib (operation : UInt32) (colorUse : UInt16) (source target : Area) (dib : Bytes)
  /-- A record with a function code that has no meaning. -/
  | unknown (opcode : UInt16)
  deriving DecidableEq, Repr

namespace Action

/-- The type of the records that ask for an action. -/
def type? : Action → Option RecordType
  | .endOfFile => some .eof
  | .saveState => some .saveDc
  | .restoreState _ => some .restoreDc
  | .setColor .background _ => some .setBkColor
  | .setColor .text _ => some .setTextColor
  | .setMode .background _ => some .setBkMode
  | .setMode .mapping _ => some .setMapMode
  | .setMode .rasterOperation _ => some .setRop2
  | .setMode .absolute _ => some .setRelAbs
  | .setMode .polygonFill _ => some .setPolyFillMode
  | .setMode .stretching _ => some .setStretchBltMode
  | .setLayout _ => some .setLayout
  | .editMapping .window .setOrigin _ => some .setWindowOrg
  | .editMapping .window .setExtent _ => some .setWindowExt
  | .editMapping .window .offsetOrigin _ => some .offsetWindowOrg
  | .editMapping .viewport .setOrigin _ => some .setViewportOrg
  | .editMapping .viewport .setExtent _ => some .setViewportExt
  | .editMapping .viewport .offsetOrigin _ => some .offsetViewportOrg
  | .scaleExtent .window _ => some .scaleWindowExt
  | .scaleExtent .viewport _ => some .scaleViewportExt
  | .escape _ _ => some .escape
  | .setTextAlign _ => some .setTextAlign
  | .setTextSpacing _ => some .setTextCharExtra
  | .setTextJustification _ _ => some .setTextJustification
  | .setMapperFlags _ => some .setMapperFlags
  | .text _ _ => some .textOut
  | .extendedText _ => some .extTextOut
  | .moveTo _ => some .moveTo
  | .lineTo _ => some .lineTo
  | .boxFigure .rectangle _ => some .rectangle
  | .boxFigure .ellipse _ => some .ellipse
  | .roundedBox _ _ _ => some .roundRect
  | .sector .bare _ _ _ => some .arc
  | .sector .chord _ _ _ => some .chord
  | .sector .pie _ _ _ => some .pie
  | .pointFigure .polygon _ => some .polygon
  | .pointFigure .polyline _ => some .polyline
  | .polygons _ => some .polyPolygon
  | .setPixel _ _ => some .setPixel
  | .floodFill _ _ => some .floodFill
  | .extendedFloodFill _ _ _ => some .extFloodFill
  | .patternBlit _ _ => some .patBlt
  | .createPen _ _ => some .createPenIndirect
  | .createBrush _ _ _ => some .createBrushIndirect
  | .createFont _ => some .createFontIndirect
  | .createPalette _ _ => some .createPalette
  | .createPatternBrush _ => some .createPatternBrush
  | .createDibPatternBrush _ _ _ => some .dibCreatePatternBrush
  | .useHandle .select _ => some .selectObject
  | .useHandle .delete _ => some .deleteObject
  | .useHandle .selectPalette _ => some .selectPalette
  | .realizePalette => some .realizePalette
  | .editPalette .replace _ _ => some .setPalEntries
  | .editPalette .animate _ _ => some .animatePalette
  | .resizePalette _ => some .resizePalette
  | .createRegion _ => some .createRegion
  | .fillRegion _ _ => some .fillRegion
  | .frameRegion _ _ _ _ => some .frameRegion
  | .useRegion .paint _ => some .paintRegion
  | .useRegion .invert _ => some .invertRegion
  | .useRegion .clip _ => some .selectClipRegion
  | .offsetClip _ => some .offsetClipRgn
  | .editClip .exclude _ => some .excludeClipRect
  | .editClip .intersect _ => some .intersectClipRect
  | .bitBlit _ _ _ _ => some .bitBlt
  | .stretchBlit _ _ _ _ => some .stretchBlt
  | .dibBitBlit _ _ _ _ => some .dibBitBlt
  | .dibStretchBlit _ _ _ _ => some .dibStretchBlt
  | .setDibToDevice _ _ _ _ _ _ => some .setDibToDev
  | .stretchDib _ _ _ _ _ => some .stretchDib
  | .unknown _ => none

/-- The function code of the records that ask for an action. -/
def opcode : Action → UInt16
  | .unknown opcode => opcode
  | action => action.type?.elim 0 RecordType.opcode

/-- The name of an action in messages. -/
def name (action : Action) : String :=
  match action.type? with
  | some type => type.name
  | none => "Unknown"

/-- Whether an action comes from a function code without meaning. -/
def isUnknown : Action → Bool
  | .unknown _ => true
  | _ => false

end Action

/-! ### Blank records -/

def noPoint : Point Int16 := ⟨0, 0⟩

def noBounds : Bounds := ⟨0, 0, 0, 0⟩

def noArea : Area := ⟨0, 0, 0, 0⟩

def noColor : Color := ⟨0, 0, 0, 0⟩

/-- The version word of a palette. -/
def paletteVersion : UInt16 := 0x0300

/-- The type word of a region. -/
def regionObjectType : Int16 := 6

/-- The action that a record type starts from: zeros throughout, apart from stock objects, the type
words of palettes and regions, and factors of one. -/
def RecordType.blank : RecordType → Action
  | .eof => .endOfFile
  | .saveDc => .saveState
  | .restoreDc => .restoreState 0
  | .setBkColor => .setColor .background noColor
  | .setTextColor => .setColor .text noColor
  | .setBkMode => .setMode .background 0
  | .setMapMode => .setMode .mapping 0
  | .setRop2 => .setMode .rasterOperation 0
  | .setRelAbs => .setMode .absolute 0
  | .setPolyFillMode => .setMode .polygonFill 0
  | .setStretchBltMode => .setMode .stretching 0
  | .setLayout => .setLayout 0
  | .setWindowOrg => .editMapping .window .setOrigin noPoint
  | .setWindowExt => .editMapping .window .setExtent noPoint
  | .offsetWindowOrg => .editMapping .window .offsetOrigin noPoint
  | .setViewportOrg => .editMapping .viewport .setOrigin noPoint
  | .setViewportExt => .editMapping .viewport .setExtent noPoint
  | .offsetViewportOrg => .editMapping .viewport .offsetOrigin noPoint
  | .scaleWindowExt => .scaleExtent .window ⟨1, 1, 1, 1⟩
  | .scaleViewportExt => .scaleExtent .viewport ⟨1, 1, 1, 1⟩
  | .escape => .escape 0 []
  | .setTextAlign => .setTextAlign 0
  | .setTextCharExtra => .setTextSpacing 0
  | .setTextJustification => .setTextJustification 0 0
  | .setMapperFlags => .setMapperFlags 0
  | .textOut => .text "" noPoint
  | .extTextOut => .extendedText ⟨noPoint, 0, none, "", []⟩
  | .moveTo => .moveTo noPoint
  | .lineTo => .lineTo noPoint
  | .rectangle => .boxFigure .rectangle noBounds
  | .ellipse => .boxFigure .ellipse noBounds
  | .roundRect => .roundedBox noBounds 0 0
  | .arc => .sector .bare noBounds noPoint noPoint
  | .chord => .sector .chord noBounds noPoint noPoint
  | .pie => .sector .pie noBounds noPoint noPoint
  | .polygon => .pointFigure .polygon []
  | .polyline => .pointFigure .polyline []
  | .polyPolygon => .polygons []
  | .setPixel => .setPixel noColor noPoint
  | .floodFill => .floodFill noColor noPoint
  | .extFloodFill => .extendedFloodFill 0 noColor noPoint
  | .patBlt => .patternBlit 0 noArea
  | .createPenIndirect => .createPen .stock 0
  | .createBrushIndirect => .createBrush 0 noColor 0
  | .createFontIndirect => .createFont .stock
  | .createPalette => .createPalette paletteVersion []
  | .createPatternBrush => .createPatternBrush ⟨0, 0, 0, 0, 0, 0, []⟩
  | .dibCreatePatternBrush => .createDibPatternBrush 0 0 []
  | .selectObject => .useHandle .select 0
  | .deleteObject => .useHandle .delete 0
  | .selectPalette => .useHandle .selectPalette 0
  | .realizePalette => .realizePalette
  | .setPalEntries => .editPalette .replace 0 []
  | .animatePalette => .editPalette .animate 0 []
  | .resizePalette => .resizePalette 0
  | .createRegion => .createRegion ⟨0, regionObjectType, 0, 0, 0, 0, noBounds, []⟩
  | .fillRegion => .fillRegion 0 0
  | .frameRegion => .frameRegion 0 0 0 0
  | .paintRegion => .useRegion .paint 0
  | .invertRegion => .useRegion .invert 0
  | .selectClipRegion => .useRegion .clip 0
  | .offsetClipRgn => .offsetClip noPoint
  | .excludeClipRect => .editClip .exclude noBounds
  | .intersectClipRect => .editClip .intersect noBounds
  | .bitBlt => .bitBlit 0 noPoint noArea none
  | .stretchBlt => .stretchBlit 0 noArea noArea none
  | .dibBitBlt => .dibBitBlit 0 noPoint noArea none
  | .dibStretchBlt => .dibStretchBlit 0 noArea noArea none
  | .setDibToDev => .setDibToDevice 0 0 0 noPoint noArea []
  | .stretchDib => .stretchDib 0 0 noArea noArea []

/-- A blank action belongs to the record type that it was made for. -/
@[simp] theorem RecordType.type?_blank (type : RecordType) : type.blank.type? = some type := by
  cases type <;> rfl

end WindowsMetafile
