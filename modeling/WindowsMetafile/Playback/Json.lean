import WindowsMetafile.Command.Json
import WindowsMetafile.Playback.Recording

/-!
# Draw calls as JSON

A recorded draw call is listed as an object: its kind, the transform and the clip it was made under,
and what is drawn.
-/

namespace WindowsMetafile

open Json

/-- A scaled coordinate, as a floating point number. -/
def coordinateJson (value : Int) : Json :=
  .float (Float.ofInt value)

def Affine.toJson (transform : Affine) : Json :=
  .array (transform.coefficients.map .float)

/-- A box by its least and its greatest corner. -/
def Box.toJson (box : Box) : Json :=
  .object [("x0", coordinateJson box.x), ("y0", coordinateJson box.y),
    ("x1", coordinateJson box.right), ("y1", coordinateJson box.bottom)]

def planePointJson (p : Point Float) : Json :=
  .object [("x", .float p.x), ("y", .float p.y)]

def PathStep.toJson : PathStep Float → Json
  | .move p => .object [("MoveTo", planePointJson p)]
  | .line p => .object [("LineTo", planePointJson p)]
  | .curve p q r =>
    .object [("CurveTo", .array [planePointJson p, planePointJson q, planePointJson r])]
  | .close => .string "ClosePath"

def Path.toJson (path : Path Float) : Json :=
  .array (path.map PathStep.toJson)

def PaintSummary.toJson : PaintSummary → Json
  | .solid color => .object [("kind", .string "solid"), ("color", color.toJson)]
  | .hatched hatch color background =>
    .object [("kind", .string "hatched"), ("hatch", .string hatch.name),
      ("color", color.toJson), ("background", .ofOption Color.toJson background)]
  | .pattern width height =>
    .object [("kind", .string "pattern"), ("width", .nat width), ("height", .nat height)]

def Stroke.toJson (stroke : Stroke) : Json :=
  .object [("width", coordinateJson stroke.width), ("color", stroke.color.toJson),
    ("dash", .array (stroke.dashes.map coordinateJson)), ("cap", .string stroke.cap.name),
    ("join", .string stroke.join.name)]

namespace RecordedDrawing

/-- The tag of a drawing. -/
def tag : RecordedDrawing → String
  | .fill _ _ _ => "fill"
  | .stroke _ _ => "stroke"
  | .text _ _ _ _ _ => "text"
  | .image _ _ _ => "image"

/-- The fields of a drawing. -/
def jsonFields : RecordedDrawing → List (String × Json)
  | .fill path paint rule =>
    [("path", Path.toJson path), ("paint", paint.toJson), ("rule", .string rule.name)]
  | .stroke path style => [("path", Path.toJson path), ("stroke", style.toJson)]
  | .text origin line face size color =>
    [("origin", planePointJson origin.toFloat), ("text", .string line), ("face", .string face),
      ("size", coordinateJson size), ("color", color.toJson)]
  | .image width height target =>
    [("width", .nat width), ("height", .nat height), ("dest", target.toJson)]

end RecordedDrawing

/-- The JSON form of a draw call. -/
def RecordedCall.toJson (call : RecordedCall) : Json :=
  .object (
    ("op", .string call.drawing.tag) :: ("transform", call.transform.toJson) ::
    ("clip", .ofOption Box.toJson call.clip) :: call.drawing.jsonFields)

end WindowsMetafile
