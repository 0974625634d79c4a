import WindowsMetafile.Bitmap.Pixmap
import WindowsMetafile.Geometry.Affine
import WindowsMetafile.Geometry.Path
import WindowsMetafile.Graphics.Object

/-!
# Draw calls

Replay produces draw calls. Their coordinates are scaled logical ones; each call carries the
transform to the surface and the clip that were in force when it was made.

## Main definitions

* `Drawing` — a fill, a stroke, a text or an image
* `DrawCall` — a drawing with its transform and clip
* `Canvas` — the calls made so far, with the transform and clip for the next one
-/

namespace WindowsMetafile

/-- Which points a path surrounds. -/
inductive FillRule
  /-- Those that a ray leaves through an odd number of lines. -/
  | evenOdd
  /-- Those that the path turns around. -/
  | nonZero
  deriving DecidableEq, Repr

/-- The name of a fill rule. -/
def FillRule.name : FillRule → String
  | .evenOdd => "EvenOdd"
  | .nonZero => "NonZero"

/-- The fill rule that a polygon fill mode stands for. -/
def FillRule.ofMode (mode : UInt16) : FillRule :=
  if mode = 2 then .nonZero else .evenOdd

/-- What a path is filled with. -/
inductive Paint
  | solid (color : Color)
  /-- Hatch lines, over a background unless it is transparent. -/
  | hatched (hatch : Hatch) (color : Color) (background : Option Color)
  /-- A tiled image. -/
  | pattern (image : Pixmap)
  deriving DecidableEq, Repr

/-- How a path is stroked; no dashes stand for a continuous line. -/
structure Stroke where
  width : Int
  color : Color
  dashes : List Int
  cap : LineCap
  join : LineJoin
  deriving DecidableEq, Repr

/-- A line of text with all that is needed to set it. -/
structure TextRun where
  origin : Point Int
  text : String
  font : Font
  /-- The height of the font after scaling. -/
  size : Int
  color : Color
  /-- The colour behind the text, unless it is transparent. -/
  background : Option Color
  align : UInt16
  /-- The advance of each character, if the record has them. -/
  advances : List Int
  deriving DecidableEq, Repr

/-- A single drawing. -/
inductive Drawing
  | fill (path : Path Float) (paint : Paint) (rule : FillRule)
  | stroke (path : Path Float) (stroke : Stroke)
  | text (run : TextRun)
  /-- An image stretched over a box. -/
  | image (image : Pixmap) (target : Box)
  deriving Repr

/-- A drawing with the transform and the clip it is made under. -/
structure DrawCall where
  transform : Affine
  clip : Option Box
  drawing : Drawing
  deriving Repr

/-- The calls made so far, and what the next one is made under. -/
structure Canvas where
  transform : Affine
  clip : Option Box
  calls : Array DrawCall
  deriving Repr

namespace Canvas

/-- A canvas without calls, without a clip, and with coordinates taken as they are. -/
def fresh : Canvas :=
  ⟨.identity, none, #[]⟩

/-- Makes a call under the transform and clip in force. -/
def draw (canvas : Canvas) (drawing : Drawing) : Canvas :=
  { canvas with calls := canvas.calls.push ⟨canvas.transform, canvas.clip, drawing⟩ }

end Canvas

end WindowsMetafile
