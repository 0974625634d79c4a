import WindowsMetafile.Command.Placement
import WindowsMetafile.Playback.Context

/-!
# Replaying single commands

An action changes the context and makes draw calls on the canvas. Before it draws, it brings the
transform and the clip of the canvas in line with the device context.

## Main definitions

* `Session` — a context with a canvas
* `Replay` — a computation on a session that can fail
* `Replay.perform`, `Command.replay` — what an action and a command do

## Main results

* `Command.replay_setScale` — a command does what its action does under the last scale
-/

namespace WindowsMetafile

/-- Turns the bytes of an independent bitmap into an image. -/
abbrev BitmapDecoder := Bytes → Except BitmapFault Pixmap

/-- A context and the canvas it draws on. -/
structure Session where
  context : Context
  canvas : Canvas
  deriving Repr

namespace Session

/-- Brings the transform and the clip of the canvas in line with the device context. -/
def sync (session : Session) : Session :=
  let device := session.context.device
  { session with
    canvas := { session.canvas with transform := device.transform, clip := device.clip } }

end Session

/-- A computation on a session. When it fails, the session is as it was left. -/
abbrev Replay := ExceptT Fault (StateM Session)

namespace Replay

/-- The context. -/
def context : Replay Context := do
  return (← get).context

/-- The device context. -/
def device : Replay Device := do
  return (← get).context.device

/-- Replaces the context. -/
def setContext (context : Context) : Replay Unit :=
  modify fun session => { session with context }

/-- Changes the device context. -/
def change (edit : Device → Device) : Replay Unit :=
  modify fun session => { session with context := session.context.withDevice edit }

/-- Brings the canvas in line with the device context. -/
def sync : Replay Unit :=
  modify Session.sync

/-- Clips the next calls to a box. -/
def clipTo (box : Box) : Replay Unit :=
  modify fun session => { session with canvas := { session.canvas with clip := some box } }

/-- Makes a draw call. -/
def draw (drawing : Drawing) : Replay Unit :=
  modify fun session => { session with canvas := session.canvas.draw drawing }

/-- The value of a computation that may have failed. -/
def lift {α : Type} : Except Fault α → Replay α
  | .ok value => pure value
  | .error fault => throw fault

/-- Puts an object into the table and selects it. The context is the one that the creation leaves,
also when it fails. -/
def create (object : GraphicsObject) : Replay Unit := do
  let creation := (← context).create object
  setContext creation.context
  let _ ← lift creation.outcome
  return

/-- Changes the selected palette. -/
def editPalette (edit : Palette → Palette) : Replay Unit := do
  setContext ((← context).editPalette edit).2

/-- Fills a path with a paint after a sync. -/
def fill (path : Path Float) (paint : Paint) (rule : FillRule) : Replay Unit := do
  sync
  draw (.fill path paint rule)

/-- Fills a path with the brush, if asked to, and strokes it with the pen. -/
def drawShape (path : Path Float) (scale : Scale) (filled : Bool) : Replay Unit := do
  sync
  let device ← device
  if filled then
    if let some paint := device.paintOf? device.brush then
      draw (.fill path paint device.fillRule)
  if let some stroke := device.stroke? scale then
    draw (.stroke path stroke)

/-- The text run of a string under the device context. The text starts at the position of the device
context when the alignment says so. -/
def textRun (device : Device) (scale : Scale) (origin : Point Int) (text : String)
    (advances : List Int) : TextRun where
  origin := if device.textAlign &&& 1 != 0 then device.position else origin
  text := text
  font := device.font
  size := scale.height device.font.height.toInt
  color := device.resolve device.textColor
  background := device.background?
  align := device.textAlign
  advances := advances

/-- The raster operation that paints black. -/
def blackness : UInt32 := 0x00000042

/-- The raster operation that paints white. -/
def whiteness : UInt32 := 0x00FF0062

/-- The raster operation that inverts what is there, which a canvas cannot do. -/
def inversion : UInt32 := 0x00550009

/-- What a raster operation without a source paints with. -/
def operationPaint? (operation : UInt32) (device : Device) : Option Paint :=
  if operation = blackness then some (.solid .black)
  else if operation = whiteness then some (.solid .white)
  else if operation = inversion then none
  else device.paintOf? device.brush

/-- Fills a box the way a raster operation without a source does. -/
def blitPattern (operation : UInt32) (target : Box) : Replay Unit := do
  let device ← device
  if let some paint := operationPaint? operation device then
    fill target.outline.toFloat paint device.fillRule

/-- Draws an independent bitmap over a box; one that cannot be decoded draws nothing. -/
def blitImage (decoder : BitmapDecoder) (dib : Bytes) (target : Box) : Replay Unit := do
  match decoder dib with
  | .ok image =>
    sync
    draw (.image image target)
  | .error _ => return

/-- What a frame inside a box leaves free. -/
def frameInside (outer : Box) (width height : Int) : Box :=
  let corner := Point.shift ⟨outer.x, outer.y⟩ ⟨width, height⟩
  ⟨corner.x, corner.y, max 0 (wrapAround (outer.width - 2 * width)),
    max 0 (wrapAround (outer.height - 2 * height))⟩

/-- The rings of a frame inside a box: its outline, and an inner one if the frame leaves an inside
free. -/
def frameOutline (outer : Box) (width height : Int) : Path Int :=
  let inner := frameInside outer width height
  outer.outline ++ if 0 < inner.width ∧ 0 < inner.height then inner.outline else []

/-- The brush that a brush record describes. A record has no place for the image of a pattern, so
pattern styles fall back to the colour. -/
def brushOf (style : UInt16) (color : Color) (hatch : UInt16) : Brush :=
  match BrushStyle.ofWord? style with
  | some .null => .null
  | some .hatched =>
    match Hatch.ofWord? hatch with
    | some hatch => .hatched hatch color
    | none => .solid color
  | _ => .solid color

/-- The image of a pattern that may be a device bitmap or an independent one. -/
def patternImage (decoder : BitmapDecoder) (style : UInt16) (data : Bytes) :
    Except BitmapFault Pixmap :=
  if BrushStyle.ofWord? style = some .pattern then
    DeviceBitmap.ofBytes data >>= DeviceBitmap.decode
  else decoder data

/-- Draws text with options: first the filled background, then the text, which may be clipped to the
rectangle. Later calls see the clip of the device context again. -/
def extendedText (content : ExtendedText) (scale : Scale) (scaled : ScaledFields) :
    Replay Unit := do
  sync
  let device ← device
  let clips := ExtendedText.clips content.options
  if let some box := scaled.bounds then
    if ExtendedText.fillsBackground content.options then
      draw (.fill box.outline.toFloat (.solid (device.resolve device.backgroundColor)) .nonZero)
    if clips then
      clipTo ((device.clip.map (·.intersect box)).getD box)
  if content.text ≠ "" then
    draw (.text (textRun device scale scaled.point content.text scaled.advances))
  if clips && scaled.bounds.isSome then
    sync

/-- Changes one end of the mapping. Origins are kept in scaled coordinates; extents are not, since
only their ratio counts. -/
def editMapping (side : MappingSide) (edit : MappingEdit) (stored : Point Int16)
    (scaled : Point Int) (device : Device) : Device :=
  match side, edit with
  | .window, .setOrigin => { device with windowOrigin := scaled }
  | .window, .setExtent => { device with windowExtent := some (.ofPoint stored) }
  | .window, .offsetOrigin => { device with windowOrigin := device.windowOrigin.shift scaled }
  | .viewport, .setOrigin => { device with viewportOrigin := scaled }
  | .viewport, .setExtent => { device with viewportExtent := some (.ofPoint stored) }
  | .viewport, .offsetOrigin => { device with viewportOrigin := device.viewportOrigin.shift scaled }

/-- Multiplies the extent of one end of the mapping, if it is set. -/
def scaleExtent (side : MappingSide) (factors : ExtentFactors) (device : Device) : Device :=
  match side with
  | .window => { device with windowExtent := device.windowExtent.map (·.scale factors) }
  | .viewport => { device with viewportExtent := device.viewportExtent.map (·.scale factors) }

/-- Sets one of the modes. -/
def setMode (role : ModeRole) (mode : UInt16) (device : Device) : Device :=
  match role with
  | .background => { device with backgroundMode := mode }
  | .mapping => { device with mappingMode := mode }
  | .rasterOperation => { device with rasterOperation := mode }
  | .absolute => { device with absoluteMode := mode }
  | .polygonFill => { device with polygonFillMode := mode }
  | .stretching => { device with stretchingMode := mode }

/-- Selects or deletes the object at a handle. A palette is only selected as such when the handle
has a palette. -/
def useHandle (use : HandleUse) (handle : UInt16) (scale : Scale) (context : Context) : Context :=
  match use with
  | .select => (context.select handle scale).2
  | .delete => (context.delete handle).2
  | .selectPalette =>
    match context.object? handle with
    | some (.palette _) => (context.select handle scale).2
    | _ => context

/-- What an action does under a scale, with its coordinates under that scale. -/
def performScaled (decoder : BitmapDecoder) (scale : Scale) (scaled : ScaledFields) :
    Action → Replay Unit
  | .endOfFile | .escape _ _ | .realizePalette | .floodFill _ _ | .extendedFloodFill _ _ _
  | .unknown _ => return
  | .saveState => do setContext (← context).save
  | .restoreState id => do setContext (← lift ((← context).restore id))
  | .setColor .background color => change ({ · with backgroundColor := color })
  | .setColor .text color => change ({ · with textColor := color })
  | .setMode role mode => change (setMode role mode)
  | .setLayout layout => change ({ · with layout })
  | .editMapping side edit point => change (editMapping side edit point scaled.point)
  | .scaleExtent side factors => change (scaleExtent side factors)
  | .setTextAlign align => change ({ · with textAlign := align })
  | .setTextSpacing extra => change ({ · with textSpacing := extra })
  | .setTextJustification breakCount breakExtra => change ({ · with breakCount, breakExtra })
  | .setMapperFlags flags => change ({ · with mapperFlags := flags })
  | .text line _ => do
    sync
    draw (.text (textRun (← device) scale scaled.point line []))
  | .extendedText content => extendedText content scale scaled
  | .moveTo _ => change ({ · with position := scaled.point })
  | .lineTo _ => do
    let device ← device
    if let some stroke := device.stroke? scale then
      sync
      draw (.stroke (polyline [device.position, scaled.point]).toFloat stroke)
    change ({ · with position := scaled.point })
  | .boxFigure .rectangle _ => drawShape scaled.box.outline.toFloat scale true
  | .boxFigure .ellipse _ => drawShape scaled.box.ellipse scale true
  | .roundedBox _ _ _ =>
    let corner := min scaled.cornerWidth scaled.cornerHeight
    drawShape (scaled.box.rounded (Float.ofInt corner / 2.0)) scale true
  | .sector closing _ _ _ =>
    drawShape (scaled.box.sector scaled.start scaled.finish closing) scale (closing ≠ .bare)
  | .pointFigure figure _ => do
    if 2 ≤ scaled.points.length then
      match figure with
      | .polygon => drawShape (ring scaled.points).toFloat scale true
      | .polyline => drawShape (polyline scaled.points).toFloat scale false
  | .polygons _ =>
    let drawn := scaled.rings.filter fun points => 2 ≤ points.length
    let path : Path Int := drawn.flatMap ring
    drawShape path.toFloat scale true
  | .setPixel color _ => do
    let device ← device
    let corner := scaled.point
    let box : Box := ⟨corner.x, corner.y, scale.width 1, scale.height 1⟩
    fill box.outline.toFloat (.solid (device.resolve color)) device.fillRule
  | .patternBlit operation _ => blitPattern operation scaled.box
  | .createPen pen _ => create (.pen pen)
  | .createBrush style color hatch => create (.brush (brushOf style color hatch))
  | .createFont font => create (.font font)
  | .createPalette _ entries => create (.palette ⟨entries⟩)
  | .createPatternBrush bitmap => create (.brush (.pattern bitmap.decode.toOption))
  | .createDibPatternBrush style _ data =>
    create (.brush (.pattern (patternImage decoder style data).toOption))
  | .useHandle use handle => do setContext (useHandle use handle scale (← context))
  | .editPalette _ start entries => editPalette (·.write start entries)
  | .resizePalette count => editPalette (·.resize count)
  | .createRegion region => create (.region ⟨region.bounds⟩)
  | .fillRegion region brush => do
    let context ← context
    let region ← lift (context.region region)
    let brush ← lift (context.brush brush)
    if let some paint := context.device.paintOf? brush then
      fill (scale.bounds region.bounds).outline.toFloat paint .nonZero
  | .frameRegion region brush _ _ => do
    let context ← context
    let region ← lift (context.region region)
    let brush ← lift (context.brush brush)
    if let some paint := context.device.paintOf? brush then
      let outer := scale.bounds region.bounds
      let path := frameOutline outer scaled.frameWidth scaled.frameHeight
      fill path.toFloat paint .evenOdd
  | .useRegion use region => do
    let context ← context
    let region ← lift (context.region region)
    match use with
    | .paint =>
      if let some paint := context.device.paintOf? context.device.brush then
        fill (scale.bounds region.bounds).outline.toFloat paint .nonZero
    | .invert => return
    | .clip => change ({ · with clip := some (scale.bounds region.bounds) })
  | .offsetClip _ => change (·.offsetClip scaled.point)
  | .editClip .exclude _ => change (·.excludeClip scaled.box)
  | .editClip .intersect _ => change (·.intersectClip scaled.box)
  | .bitBlit operation _ _ none | .stretchBlit operation _ _ none
  | .dibBitBlit operation _ _ none | .dibStretchBlit operation _ _ none =>
    blitPattern operation scaled.box
  | .bitBlit _ _ _ (some _) | .stretchBlit _ _ _ (some _) => return
  | .dibBitBlit _ _ _ (some dib) | .dibStretchBlit _ _ _ (some dib)
  | .setDibToDevice _ _ _ _ _ dib | .stretchDib _ _ _ _ dib =>
    blitImage decoder dib scaled.box

/-- What an action does under a scale. -/
def perform (decoder : BitmapDecoder) (scale : Scale) (action : Action) : Replay Unit :=
  performScaled decoder scale (action.rescale scale .blank) action

/-- Coordinates that are written again come out the same, whatever they were before. -/
theorem performScaled_rescale (decoder : BitmapDecoder) (scale : Scale) (scaled : ScaledFields)
    (action : Action) :
    performScaled decoder scale (action.rescale scale scaled) action =
      perform decoder scale action := by
  cases action with
  | setColor role => cases role <;> rfl
  | boxFigure figure => cases figure <;> rfl
  | editClip edit => cases edit <;> rfl
  | bitBlit _ _ _ bitmap | stretchBlit _ _ _ bitmap => cases bitmap <;> rfl
  | dibBitBlit _ _ _ dib | dibStretchBlit _ _ _ dib => cases dib <;> rfl
  | _ => rfl

end Replay

namespace Command

/-- What a command does under its own scale. -/
def replay (decoder : BitmapDecoder) (command : Command) : Replay Unit :=
  Replay.performScaled decoder command.scale command.scaled command.action

/-- Under a new scale, a command does what its action does. -/
theorem replay_setScale (decoder : BitmapDecoder) (command : Command) (x y : Float) :
    (command.setScale x y).replay decoder = Replay.perform decoder ⟨x, y⟩ command.action :=
  Replay.performScaled_rescale ..

end Command

end WindowsMetafile
