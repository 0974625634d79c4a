import WindowsMetafile.Frame.Basic
import WindowsMetafile.Frame.Outline

/-!
# Painting draw calls

A pixel is painted by a draw call when its centre lies in the shape of the call and in the clip.
Hatched shapes are painted in the colour of the hatch, and text is not painted.

## Main definitions

* `Shape`, `Shape.row`, `ShapeRow.covers` — what a draw call covers
* `Raster.paint` — the pixels after a draw call
* `Raster.toFrame` — the frame of the pixels
-/

namespace WindowsMetafile

/-! ### Shapes -/

/-- A set of points: all that are in any of some groups of polygons under a fill rule. -/
structure Shape where
  groups : List (List Polygon)
  rule : FillRule

/-- Where a row crosses the lines of a group: the place, and whether the line goes down. -/
abbrev Crossings := List (Float × Bool)

/-- Where the row at a height crosses a line, if it does. -/
def lineCrossing? (height : Float) (p q : Point Float) : Option (Float × Bool) :=
  if decide (p.y ≤ height) == decide (q.y ≤ height) then none
  else some (p.x + (height - p.y) * (q.x - p.x) / (q.y - p.y), p.y ≤ height)

/-- The crossings of the row at a height with a polygon, which is closed by its last line. -/
def polygonCrossings (height : Float) (polygon : Polygon) : Crossings :=
  match polygon with
  | [] => []
  | first :: rest =>
    ((first :: rest).zip (rest ++ [first])).filterMap fun (p, q) => lineCrossing? height p q

/-- Whether a place of a row is inside a group with the given crossings. -/
def insideRow (rule : FillRule) (crossings : Crossings) (place : Float) : Bool :=
  let before := crossings.filter fun (x, _) => x ≤ place
  match rule with
  | .evenOdd => before.length % 2 = 1
  | .nonZero => before.countP (fun (_, down) => down) ≠ before.countP (fun (_, down) => !down)

/-- One row of a shape: its crossings with each group that it meets. -/
structure ShapeRow where
  groups : List Crossings
  rule : FillRule

/-- The row of a shape at a height. -/
def Shape.row (shape : Shape) (height : Float) : ShapeRow where
  groups := (shape.groups.map fun group => group.flatMap (polygonCrossings height)).filter
    (!·.isEmpty)
  rule := shape.rule

/-- Whether a place of a row is inside the shape. -/
def ShapeRow.covers (row : ShapeRow) (place : Float) : Bool :=
  row.groups.any fun crossings => insideRow row.rule crossings place

/-- The polygons of a path under a transform. -/
def Path.polygons (path : Path Float) (transform : Affine) : List Polygon :=
  path.traces.map fun trace => trace.points.map transform.apply

/-- The shape of a box under a transform. -/
def Box.shape (box : Box) (transform : Affine) : Shape :=
  ⟨[box.outline.toFloat.polygons transform], .nonZero⟩

/-! ### Paints -/

/-- Gives the pixel at a place of the frame, if there is one. -/
abbrev Shader := Point Float → Option Pixel

/-- The pixel of a colour. -/
def Color.pixel (color : Color) : Pixel :=
  ⟨color.red, color.green, color.blue, 255⟩

/-- Whether an image can be painted: it has pixels for each place, and sides that a word
can hold. -/
def Pixmap.paintable (image : Pixmap) : Bool :=
  0 < image.width && image.width < 65536 && 0 < image.height && image.height < 65536 &&
    image.pixels.length = image.width * image.height

/-- An index inside a length that repeats. -/
def repeated (place : Float) (length : Nat) : Nat :=
  (place.floor.toInt64.toInt % length).toNat

/-- The pixels of an image that repeats in both directions under a transform. -/
def Pixmap.shader (image : Pixmap) (transform : Affine) : Shader :=
  let pixels := image.pixels.toArray
  fun place => do
    let p ← transform.preimage? place
    pixels[repeated p.y image.height * image.width + repeated p.x image.width]?

/-- The pixels of a paint under a transform; an image that cannot be painted has none. -/
def Paint.shader? (paint : Paint) (transform : Affine) : Option Shader :=
  match paint with
  | .solid color | .hatched _ color _ => some fun _ => color.pixel
  | .pattern image => if image.paintable then some (image.shader transform) else none

/-- A channel of a lower pixel, as far as an upper one lets it through. -/
def throughput (alpha channel : UInt8) : UInt8 :=
  Pixel.weighted (255 - alpha) channel

/-- A pixel over another one. -/
def Pixel.over (upper lower : Pixel) : Pixel :=
  ⟨upper.red + throughput upper.alpha lower.red, upper.green + throughput upper.alpha lower.green,
    upper.blue + throughput upper.alpha lower.blue,
    upper.alpha + throughput upper.alpha lower.alpha⟩

/-! ### Pixels -/

/-- The rows of pixels of a frame, from the top. -/
abbrev Raster := Array (Array Pixel)

namespace Raster

/-- The raster of a size, filled with a pixel. -/
def filled (width height : Nat) (pixel : Pixel) : Raster :=
  Array.replicate height (Array.replicate width pixel)

/-- The centre of a pixel along one axis. -/
def centre (index : Nat) : Float :=
  Float.ofNat index + 0.5

/-- Paints a shape inside a clip. -/
def paint (raster : Raster) (clip : Option Shape) (shape : Shape) (shader : Shader) : Raster :=
  raster.mapIdx fun row pixels =>
    let y := centre row
    let shapeRow := shape.row y
    if shapeRow.groups.isEmpty then pixels
    else
      let clipRow := clip.map (·.row y)
      pixels.mapIdx fun column pixel =>
        let x := centre column
        if shapeRow.covers x && clipRow.all (·.covers x) then
          match shader ⟨x, y⟩ with
          | some upper => upper.over pixel
          | none => pixel
        else pixel

/-- The shape of a draw call and what it is painted with, if it paints anything. -/
def plan? (transform : Affine) : Drawing → Option (Shape × Shader)
  | .fill path paint rule => do
    let shader ← paint.shader? transform
    return (⟨[path.polygons transform], rule⟩, shader)
  | .stroke path stroke =>
    let polygons := (stroke.polygons path).map fun polygon => [polygon.map transform.apply]
    some (⟨polygons, .nonZero⟩, fun _ => stroke.color.pixel)
  | .text _ => none
  | .image image target =>
    let width := target.right - target.x
    let height := target.bottom - target.y
    if image.paintable ∧ width ≠ 0 ∧ height ≠ 0 then
      let placement := (transform.after
        (.shift (Float.ofInt target.x) (Float.ofInt target.y))).after
          (.scaling (Float.ofInt width / Float.ofNat image.width)
            (Float.ofInt height / Float.ofNat image.height))
      let whole : Box := ⟨0, 0, image.width, image.height⟩
      some (whole.shape placement, image.shader placement)
    else none

/-- The pixels after a draw call. -/
def drawn (raster : Raster) (call : DrawCall) : Raster :=
  match plan? call.transform call.drawing with
  | none => raster
  | some (shape, shader) =>
    raster.paint (call.clip.map (·.shape call.transform)) shape shader

/-- The frame of the pixels, whose channels are weighted. -/
def toFrame (raster : Raster) (width height : Nat) : Frame where
  width := width
  height := height
  data := raster.toList.flatMap fun row => row.toList.flatMap Pixel.toBytes
  premultiplied := true

end Raster

end WindowsMetafile
