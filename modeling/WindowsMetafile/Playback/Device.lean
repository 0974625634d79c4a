import WindowsMetafile.Command.Action
import WindowsMetafile.Playback.Canvas

/-!
# Device contexts

A device context holds the selected objects, colours and modes, the position, the clip, and the
mapping from logical coordinates to the surface.

## Main definitions

* `Device`, `Device.fresh` — a device context and its first state
* `Device.transform` — the mapping to the surface
* `Device.resolve` — a colour without reference to the palette
* `Device.paintOf?`, `Device.stroke?` — what a brush fills with, and how the pen draws
-/

namespace WindowsMetafile

/-- The extent of a window or viewport, in stored coordinates; a negative one turns the axis. -/
structure Extent where
  width : Int
  height : Int
  deriving DecidableEq, Repr

/-- One axis of an extent multiplied by a fraction: rounded toward zero, and cut to 32 bits. -/
def scaleAxis (value : Int) (numerator denominator : Int16) : Int :=
  max (-2147483648) (min 2147483647 (Int.tdiv (value * numerator.toInt) denominator.toInt))

/-- An extent with both axes multiplied by their fractions. -/
def Extent.scale (extent : Extent) (factors : ExtentFactors) : Extent :=
  ⟨scaleAxis extent.width factors.xNumerator factors.xDenominator,
    scaleAxis extent.height factors.yNumerator factors.yDenominator⟩

/-- The extent that a stored point gives. -/
def Extent.ofPoint (point : Point Int16) : Extent :=
  ⟨point.x.toInt, point.y.toInt⟩

/-- The state that records draw under. -/
structure Device where
  pen : Pen
  brush : Brush
  font : Font
  palette : Option Palette
  /-- The handle that the selected palette came from. -/
  paletteHandle : Option UInt16
  region : Option Region
  position : Point Int
  backgroundMode : UInt16
  backgroundColor : Color
  textColor : Color
  textAlign : UInt16
  polygonFillMode : UInt16
  rasterOperation : UInt16
  mappingMode : UInt16
  stretchingMode : UInt16
  absoluteMode : UInt16
  textSpacing : Int16
  breakCount : UInt16
  breakExtra : Int16
  mapperFlags : UInt32
  layout : UInt32
  /-- The clip in logical coordinates; none means unclipped. -/
  clip : Option Box
  windowOrigin : Point Int
  windowExtent : Option Extent
  viewportOrigin : Point Int
  viewportExtent : Option Extent
  deriving DecidableEq, Repr

namespace Device

/-- The background mode in which gaps are filled with the background colour. -/
def opaqueMode : UInt16 := 2

/-- The mapping mode whose two axes have the same scale. -/
def isotropicMode : UInt16 := 7

/-- The mapping mode whose axes are scaled apart. -/
def anisotropicMode : UInt16 := 8

/-- The first state of a device context. -/
def fresh : Device where
  pen := .stock
  brush := .stock
  font := .stock
  palette := none
  paletteHandle := none
  region := none
  position := ⟨0, 0⟩
  backgroundMode := opaqueMode
  backgroundColor := .white
  textColor := .black
  textAlign := 0
  polygonFillMode := 1
  rasterOperation := 13
  mappingMode := 1
  stretchingMode := 1
  absoluteMode := 1
  textSpacing := 0
  breakCount := 0
  breakExtra := 0
  mapperFlags := 0
  layout := 0
  clip := none
  windowOrigin := ⟨0, 0⟩
  windowExtent := none
  viewportOrigin := ⟨0, 0⟩
  viewportExtent := none

/-- A size with the sign of another number, the signs of zeros included. -/
def withSign (size sign : Float) : Float :=
  if sign.toBits >>> 63 = 1 then -size else size

/-- The ratio of the viewport to the window. Extents only count in the two scaling modes, and only
when both are set and the window is not flat. -/
def ratio (device : Device) : Affine :=
  match device.windowExtent, device.viewportExtent with
  | some window, some viewport =>
    if window.width = 0 ∨ window.height = 0 then .identity
    else
      let x := Float.ofInt viewport.width / Float.ofInt window.width
      let y := Float.ofInt viewport.height / Float.ofInt window.height
      if device.mappingMode = isotropicMode then
        let least := if y.abs < x.abs then y.abs else x.abs
        .scaling (withSign least x) (withSign least y)
      else if device.mappingMode = anisotropicMode then .scaling x y
      else .identity
  | _, _ => .identity

/-- The mapping from logical coordinates to the surface: the window's origin goes to the viewport's,
and lengths are scaled by the ratio. -/
def transform (device : Device) : Affine :=
  let toWindow :=
    Affine.shift (-Float.ofInt device.windowOrigin.x) (-Float.ofInt device.windowOrigin.y)
  let toViewport :=
    Affine.shift (Float.ofInt device.viewportOrigin.x) (Float.ofInt device.viewportOrigin.y)
  (toViewport.after device.ratio).after toWindow

/-- The rule for filling shapes. -/
def fillRule (device : Device) : FillRule :=
  .ofMode device.polygonFillMode

/-- The plain colour that a colour stands for. An index is looked up in the selected palette, and
gives black where the palette has no such entry. -/
def resolve (device : Device) (color : Color) : Color :=
  match color.paletteIndex? with
  | some index =>
    match device.palette.bind (·.get? index) with
    | some entry => entry.withoutFlags
    | none => .black
  | none => color.withoutFlags

/-- The colour of gaps, unless they are transparent. -/
def background? (device : Device) : Option Color :=
  if device.backgroundMode = opaqueMode then some (device.resolve device.backgroundColor) else none

/-- What a brush fills with. A pattern without an image fills with the text colour. -/
def paintOf? (device : Device) : Brush → Option Paint
  | .null => none
  | .solid color => some (.solid (device.resolve color))
  | .hatched hatch color => some (.hatched hatch (device.resolve color) device.background?)
  | .pattern (some image) => some (.pattern image)
  | .pattern none => some (.solid (device.resolve device.textColor))

/-- How the selected pen draws, unless it is invisible. Lines are at least one unit wide, and dashes
are multiples of the width. -/
def stroke? (device : Device) (scale : Scale) : Option Stroke :=
  if device.pen.visible then
    let width := max 1 (scale.width device.pen.width.toInt)
    some {
      width
      color := device.resolve device.pen.color
      dashes := device.pen.dash.pattern.map fun length => Int.ofNat length * width
      cap := device.pen.cap
      join := device.pen.join }
  else none

/-- Selects an object that has a handle. -/
def install (device : Device) (handle : UInt16) : GraphicsObject → Device
  | .pen pen => { device with pen }
  | .brush brush => { device with brush }
  | .font font => { device with font }
  | .palette palette => { device with palette := some palette, paletteHandle := some handle }
  | .region region => { device with region := some region }

/-! ### The clip -/

/-- Keeps only the part of the clip inside a box. -/
def intersectClip (device : Device) (box : Box) : Device :=
  { device with clip := some ((device.clip.map (·.intersectWrapping box)).getD box) }

/-- Takes a box out of the clip, which stays a box. Without a clip there is nothing to take from. -/
def excludeClip (device : Device) (box : Box) : Device :=
  { device with clip := device.clip.map (·.exclude box) }

/-- Moves the clip. -/
def offsetClip (device : Device) (offset : Point Int) : Device :=
  { device with clip := device.clip.map (·.shift offset) }

end Device

end WindowsMetafile
