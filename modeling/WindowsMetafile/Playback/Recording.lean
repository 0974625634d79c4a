import WindowsMetafile.Playback.Canvas

/-!
# Recorded draw calls

A recording lists draw calls without drawing them. It keeps images by their size, and of a text what
names its look: not the advances, nor the alignment or the colour behind it.

## Main definitions

* `DrawCall.recorded` — what is kept of a draw call
* `Canvas.recording` — what is kept of all calls made so far
-/

namespace WindowsMetafile

/-- What is kept of a paint. -/
inductive PaintSummary
  | solid (color : Color)
  | hatched (hatch : Hatch) (color : Color) (background : Option Color)
  | pattern (width height : Nat)
  deriving DecidableEq, Repr

/-- What is kept of a drawing. -/
inductive RecordedDrawing
  | fill (path : Path Float) (paint : PaintSummary) (rule : FillRule)
  | stroke (path : Path Float) (stroke : Stroke)
  | text (origin : Point Int) (text face : String) (size : Int) (color : Color)
  | image (width height : Nat) (target : Box)
  deriving Repr

/-- What is kept of a draw call. -/
structure RecordedCall where
  transform : Affine
  clip : Option Box
  drawing : RecordedDrawing
  deriving Repr

/-- A paint as it is recorded. -/
def Paint.summary : Paint → PaintSummary
  | .solid color => .solid color
  | .hatched hatch color background => .hatched hatch color background
  | .pattern image => .pattern image.width image.height

/-- A drawing as it is recorded. -/
def Drawing.recorded : Drawing → RecordedDrawing
  | .fill path paint rule => .fill path paint.summary rule
  | .stroke path style => .stroke path style
  | .text run => .text run.origin run.text run.font.faceName run.size run.color
  | .image pixmap target => .image pixmap.width pixmap.height target

/-- A draw call as it is recorded. -/
def DrawCall.recorded (call : DrawCall) : RecordedCall :=
  ⟨call.transform, call.clip, call.drawing.recorded⟩

/-- The calls made so far, as they are recorded. -/
def Canvas.recording (canvas : Canvas) : List RecordedCall :=
  canvas.calls.toList.map DrawCall.recorded

end WindowsMetafile
