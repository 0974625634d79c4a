import WindowsMetafile.Playback.Replay

/-!
# What an action does

Replaying an action is a computation on a session. Its outcome depends on the context alone: the
next context, or a fault, and the draw calls, each under the transform and the clip of the device
context before the action. A fault leaves the session as it was.

## Main definitions

* `Action.object?`, `Action.editDevice` — the object that an action creates, and the change it makes
  to the device context
* `Action.next` — the context after an action
* `Action.calls` — the draw calls that an action makes

## Main results

* `Context.create_of_full` — a creation without a handle leaves the context as it was
* `Replay.perform_of_error` — an action that fails does nothing else
* `Replay.perform_of_ok` — an action that does not fail leads to its context and makes its calls
-/

namespace WindowsMetafile

/-! ### Creations -/

namespace Context

variable {context : Context} {fault : Fault}

/-- The context after a creation that has not failed. -/
def Creation.next (creation : Creation) : Except Fault Context :=
  creation.outcome.map fun _ => creation.context

/-- In front of its free place, an open table is the table itself. -/
theorem take_openTable (context : Context) :
    context.openTable.take context.freePlace = context.objects.take context.freePlace := by
  unfold openTable
  split
  · rfl
  · exact List.take_append_of_le_length context.freePlace_le

/-- Where no handle is left, the place that was put behind the table is taken away again, and
nothing else has changed. -/
theorem create_of_full (h : handleCount ≤ context.freePlace) (object : GraphicsObject) :
    context.create object = ⟨.error (.invalidHandle 65535 .tableFull), context⟩ := by
  have hall : context.objects.length ≤ context.freePlace := Nat.le_trans context.fits h
  have hobjects : context.openTable.take context.freePlace = context.objects := by
    rw [take_openTable, List.take_of_length_le hall]
  rw [create, dif_pos h]
  exact congrArg (Creation.mk _) (Context.ext rfl rfl hobjects)

/-- A creation that fails leaves the context as it was. -/
theorem context_create_of_error {object : GraphicsObject}
    (h : (context.create object).outcome = .error fault) :
    (context.create object).context = context := by
  by_cases hfull : handleCount ≤ context.freePlace
  · rw [create_of_full hfull]
  · rw [create, dif_neg hfull] at h
    cases h

end Context

/-! ### The next context -/

namespace Action

/-- The object that an action creates. -/
def object? (decoder : BitmapDecoder) : Action → Option GraphicsObject
  | .createPen pen _ => some (.pen pen)
  | .createBrush style color hatch => some (.brush (Replay.brushOf style color hatch))
  | .createFont font => some (.font font)
  | .createPalette _ entries => some (.palette ⟨entries⟩)
  | .createPatternBrush bitmap => some (.brush (.pattern bitmap.decode.toOption))
  | .createDibPatternBrush style _ data =>
    some (.brush (.pattern (Replay.patternImage decoder style data).toOption))
  | .createRegion region => some (.region ⟨region.bounds⟩)
  | _ => none

/-- The change that an action makes to the device context, its objects aside. -/
def editDevice (scale : Scale) (action : Action) (device : Device) : Device :=
  match action with
  | .setColor .background color => { device with backgroundColor := color }
  | .setColor .text color => { device with textColor := color }
  | .setMode role mode => Replay.setMode role mode device
  | .setLayout layout => { device with layout }
  | .editMapping side edit point => Replay.editMapping side edit point (scale.point point) device
  | .scaleExtent side factors => Replay.scaleExtent side factors device
  | .setTextAlign align => { device with textAlign := align }
  | .setTextSpacing extra => { device with textSpacing := extra }
  | .setTextJustification breakCount breakExtra => { device with breakCount, breakExtra }
  | .setMapperFlags flags => { device with mapperFlags := flags }
  | .moveTo point | .lineTo point => { device with position := scale.point point }
  | .offsetClip offset => device.offsetClip (scale.point offset)
  | .editClip .exclude bounds => device.excludeClip (scale.bounds bounds)
  | .editClip .intersect bounds => device.intersectClip (scale.bounds bounds)
  | _ => device

/-- The context after an action, or why there is none. -/
def next (decoder : BitmapDecoder) (scale : Scale) (context : Context) :
    Action → Except Fault Context
  | .saveState => .ok context.save
  | .restoreState id => context.restore id
  | .useHandle use handle => .ok (Replay.useHandle use handle scale context)
  | .editPalette _ start entries => .ok (context.editPalette (·.write start entries)).2
  | .resizePalette count => .ok (context.editPalette (·.resize count)).2
  | .fillRegion region brush | .frameRegion region brush _ _ => do
    let _ ← context.region region
    let _ ← context.brush brush
    return context
  | .useRegion use region => do
    let region ← context.region region
    match use with
    | .clip => return context.withDevice ({ · with clip := some (scale.bounds region.bounds) })
    | .paint | .invert => return context
  | action =>
    match action.object? decoder with
    | some object => (context.create object).next
    | none => .ok (context.withDevice (action.editDevice scale))

end Action

/-- Looking up a region and a brush changes nothing. -/
theorem Context.lookups_eq_ok {context context' : Context} {region brush : UInt16}
    (h : (do
      let _ ← context.region region
      let _ ← context.brush brush
      return context : Except Fault Context) = .ok context') :
    ∃ found chosen, context.region region = .ok found ∧ context.brush brush = .ok chosen ∧
      context = context' := by
  cases hregion : context.region region with
  | error fault =>
    rw [hregion] at h
    cases h
  | ok found =>
    cases hbrush : context.brush brush with
    | error fault =>
      rw [hregion, hbrush] at h
      cases h
    | ok chosen =>
      rw [hregion, hbrush] at h
      exact ⟨found, chosen, rfl, rfl, Except.ok.inj h⟩

/-! ### Draw calls -/

namespace Device

/-- A drawing under the transform and the clip of a device context. -/
def call (device : Device) (drawing : Drawing) : DrawCall :=
  ⟨device.transform, device.clip, drawing⟩

/-- The null brush alone paints nothing. -/
theorem paintOf?_eq_none_iff {device : Device} {brush : Brush} :
    device.paintOf? brush = none ↔ brush = .null := by
  cases brush with
  | pattern image => cases image <;> simp [paintOf?]
  | _ => simp [paintOf?]

/-- A path filled with a brush, if the brush is visible. -/
def filling (device : Device) (path : Path Float) (brush : Brush) (rule : FillRule) :
    List Drawing :=
  (device.paintOf? brush).toList.map fun paint => .fill path paint rule

/-- A path stroked with the pen, if the pen is visible. -/
def stroking (device : Device) (scale : Scale) (path : Path Float) : List Drawing :=
  (device.stroke? scale).toList.map fun stroke => .stroke path stroke

/-- A shape: perhaps filled with the brush, and stroked with the pen. -/
def shape (device : Device) (scale : Scale) (path : Path Float) (filled : Bool) : List Drawing :=
  (if filled then device.filling path device.brush device.fillRule else []) ++
    device.stroking scale path

/-- A box filled the way a raster operation without a source does. -/
def blit (device : Device) (operation : UInt32) (target : Box) : List Drawing :=
  (Replay.operationPaint? operation device).toList.map fun paint =>
    .fill target.outline.toFloat paint device.fillRule

end Device

namespace ExtendedText

/-- The filled background of a text with options. -/
def background (content : ExtendedText) (scale : Scale) (device : Device) : List Drawing :=
  if fillsBackground content.options then
    content.bounds.toList.map fun bounds =>
      .fill (scale.bounds bounds).outline.toFloat (.solid (device.resolve device.backgroundColor))
        .nonZero
  else []

/-- The clip that a text with options is drawn under. -/
def clip (content : ExtendedText) (scale : Scale) (device : Device) : Option Box :=
  match content.bounds with
  | some bounds =>
    if clips content.options then
      some ((device.clip.map (·.intersect (scale.bounds bounds))).getD (scale.bounds bounds))
    else device.clip
  | none => device.clip

/-- The characters of a text with options. -/
def characters (content : ExtendedText) (scale : Scale) (device : Device) : List Drawing :=
  if content.text = "" then []
  else
    [.text (Replay.textRun device scale (scale.point content.origin) content.text
      (content.advances.map fun advance => scale.width advance.toInt))]

/-- The calls of a text with options: its background under the clip of the device context, and its
characters under a clip of their own. -/
def calls (content : ExtendedText) (scale : Scale) (device : Device) : List DrawCall :=
  (content.background scale device).map device.call ++
    (content.characters scale device).map fun drawing =>
      ⟨device.transform, content.clip scale device, drawing⟩

end ExtendedText

namespace Action

/-- An image over a box, if it can be decoded. -/
def imageOver (decoder : BitmapDecoder) (dib : Bytes) (target : Box) : List Drawing :=
  (decoder dib).toOption.toList.map fun image => .image image target

/-- The drawings that an action makes under the transform and the clip of the device context. -/
def drawings (decoder : BitmapDecoder) (scale : Scale) (context : Context) :
    Action → List Drawing
  | .text line origin =>
    [.text (Replay.textRun context.device scale (scale.point origin) line [])]
  | .lineTo point =>
    context.device.stroking scale
      (polyline [context.device.position, scale.point point]).toFloat
  | .boxFigure .rectangle bounds =>
    context.device.shape scale (scale.bounds bounds).outline.toFloat true
  | .boxFigure .ellipse bounds => context.device.shape scale (scale.bounds bounds).ellipse true
  | .roundedBox bounds cornerWidth cornerHeight =>
    let corner := min (scale.width cornerWidth.toInt) (scale.height cornerHeight.toInt)
    context.device.shape scale ((scale.bounds bounds).rounded (Float.ofInt corner / 2.0)) true
  | .sector closing bounds start finish =>
    context.device.shape scale
      ((scale.bounds bounds).sector (scale.point start) (scale.point finish) closing)
      (closing ≠ .bare)
  | .pointFigure figure points =>
    if 2 ≤ points.length then
      match figure with
      | .polygon => context.device.shape scale (ring (points.map scale.point)).toFloat true
      | .polyline => context.device.shape scale (polyline (points.map scale.point)).toFloat false
    else []
  | .polygons rings =>
    let drawn := rings.filter fun points => 2 ≤ points.length
    let path : Path Int := drawn.flatMap fun points => ring (points.map scale.point)
    context.device.shape scale path.toFloat true
  | .setPixel color point =>
    let corner := scale.point point
    let box : Box := ⟨corner.x, corner.y, scale.width 1, scale.height 1⟩
    [.fill box.outline.toFloat (.solid (context.device.resolve color)) context.device.fillRule]
  | .patternBlit operation target | .bitBlit operation _ target none
  | .stretchBlit operation _ target none | .dibBitBlit operation _ target none
  | .dibStretchBlit operation _ target none => context.device.blit operation (scale.area target)
  | .fillRegion region brush =>
    match context.region region, context.brush brush with
    | .ok region, .ok brush =>
      context.device.filling (scale.bounds region.bounds).outline.toFloat brush .nonZero
    | _, _ => []
  | .frameRegion region brush height width =>
    match context.region region, context.brush brush with
    | .ok region, .ok brush =>
      context.device.filling (Replay.frameOutline (scale.bounds region.bounds)
        (scale.width width.toInt) (scale.height height.toInt)).toFloat brush .evenOdd
    | _, _ => []
  | .useRegion .paint region =>
    match context.region region with
    | .ok region =>
      context.device.filling (scale.bounds region.bounds).outline.toFloat context.device.brush
        .nonZero
    | .error _ => []
  | .dibBitBlit _ _ target (some dib) | .dibStretchBlit _ _ target (some dib)
  | .setDibToDevice _ _ _ _ target dib | .stretchDib _ _ _ target dib =>
    imageOver decoder dib (scale.area target)
  | _ => []

/-- The draw calls that an action makes. -/
def calls (decoder : BitmapDecoder) (scale : Scale) (context : Context) (action : Action) :
    List DrawCall :=
  match action with
  | .extendedText content => content.calls scale context.device
  | action => (action.drawings decoder scale context).map context.device.call

end Action

/-! ### Steps of a replay -/

namespace Session

/-- Makes drawings under the transform and the clip of the canvas. -/
def drawAll (session : Session) (drawings : List Drawing) : Session :=
  { session with canvas := drawings.foldl Canvas.draw session.canvas }

end Session

theorem Canvas.calls_foldl_draw (drawings : List Drawing) (canvas : Canvas) :
    (drawings.foldl Canvas.draw canvas).calls.toList =
      canvas.calls.toList ++ drawings.map (DrawCall.mk canvas.transform canvas.clip) := by
  induction drawings generalizing canvas with
  | nil => simp
  | cons drawing drawings ih => simp [ih, Canvas.draw]

namespace Replay

variable {α β : Type} {read : Replay α} {f : α → Replay β} {a : α} {fault : Fault}
variable {session session' : Session} {context context' : Context} {calls : List DrawCall}

section Run

theorem run_bind_of_ok (h : read.run.run session = (.ok a, session')) :
    (read >>= f).run.run session = (f a).run.run session' := by
  rw [ExceptT.run_bind, StateT.run_bind, h]
  rfl

theorem run_bind_of_error (h : read.run.run session = (.error fault, session')) :
    (read >>= f).run.run session = (.error fault, session') := by
  rw [ExceptT.run_bind, StateT.run_bind, h]
  rfl

@[simp] theorem run_context_bind {f : Context → Replay β} :
    (Replay.context >>= f).run.run session = (f session.context).run.run session := rfl

@[simp] theorem run_device_bind {f : Device → Replay β} :
    (Replay.device >>= f).run.run session = (f session.context.device).run.run session := rfl

@[simp] theorem run_sync_bind {f : Unit → Replay β} :
    (sync >>= f).run.run session = (f ()).run.run session.sync := rfl

@[simp] theorem run_lift_ok_bind :
    (lift (.ok a) >>= f).run.run session = (f a).run.run session := rfl

@[simp] theorem run_lift_error_bind :
    (lift (.error fault) >>= f).run.run session = (.error fault, session) := rfl

@[simp] theorem context_sync : session.sync.context = session.context := rfl

end Run

theorem run_drawShape (path : Path Float) (scale : Scale) (filled : Bool) :
    (drawShape path scale filled).run.run session =
      (.ok (), session.sync.drawAll (session.context.device.shape scale path filled)) := by
  unfold drawShape Device.shape Device.filling Device.stroking
  rw [run_sync_bind, run_device_bind, context_sync]
  -- The brush and the pen are each visible or not.
  cases filled <;> cases session.context.device.paintOf? session.context.device.brush <;>
    cases session.context.device.stroke? scale <;> rfl

/-- In a given context, a computation leads to another one and makes some calls, whatever the canvas
is like. -/
def Leads (replay : Replay Unit) (context context' : Context) (calls : List DrawCall) : Prop :=
  ∀ canvas, ∃ canvas', replay.run.run ⟨context, canvas⟩ = (.ok (), ⟨context', canvas'⟩) ∧
    canvas'.calls.toList = canvas.calls.toList ++ calls

/-- In a given context, a computation fails and does nothing else. -/
def Fails (replay : Replay Unit) (context : Context) (fault : Fault) : Prop :=
  ∀ canvas, replay.run.run ⟨context, canvas⟩ = (.error fault, ⟨context, canvas⟩)

variable {replay : Replay Unit} {drawings : List Drawing} {decoder : BitmapDecoder} {scale : Scale}
variable {object : GraphicsObject} {action : Action}

theorem leads_pure : Leads (pure ()) context context [] :=
  fun canvas => ⟨canvas, rfl, by simp⟩

theorem leads_setContext (edit : Context → Context) :
    Leads (do setContext (edit (← Replay.context))) context (edit context) [] :=
  fun canvas => ⟨canvas, rfl, by simp⟩

theorem leads_change (edit : Device → Device) :
    Leads (change edit) context (context.withDevice edit) [] :=
  fun canvas => ⟨canvas, rfl, by simp⟩

/-- Drawings after a sync are made under the transform and the clip of the device context. -/
theorem leads_of_drawAll (h : ∀ canvas, replay.run.run ⟨context, canvas⟩ =
    (.ok (), (Session.mk context canvas).sync.drawAll drawings)) :
    Leads replay context context (drawings.map context.device.call) :=
  fun canvas => ⟨_, h canvas, Canvas.calls_foldl_draw ..⟩

theorem leads_fill (path : Path Float) (paint : Paint) (rule : FillRule) :
    Leads (fill path paint rule) context context [context.device.call (.fill path paint rule)] :=
  fun _ => ⟨_, rfl, by simp [Canvas.draw, Device.call, Session.sync]⟩

theorem leads_drawShape (path : Path Float) (scale : Scale) (filled : Bool) :
    Leads (drawShape path scale filled) context context
      ((context.device.shape scale path filled).map context.device.call) :=
  leads_of_drawAll fun _ => run_drawShape path scale filled

theorem leads_blitPattern (operation : UInt32) (target : Box) :
    Leads (blitPattern operation target) context context
      ((context.device.blit operation target).map context.device.call) := by
  intro canvas
  unfold blitPattern Device.blit
  rw [run_device_bind]
  cases operationPaint? operation context.device with
  | none => exact leads_pure canvas
  | some paint => exact leads_fill target.outline.toFloat paint context.device.fillRule canvas

theorem leads_blitImage (dib : Bytes) (target : Box) :
    Leads (blitImage decoder dib target) context context
      ((Action.imageOver decoder dib target).map context.device.call) := by
  unfold blitImage Action.imageOver
  cases decoder dib with
  | error fault => exact leads_pure
  | ok image => exact leads_of_drawAll fun _ => rfl

/-- A creation is run by its two parts: the context that it leaves, and then its outcome. -/
theorem run_create (object : GraphicsObject) (canvas : Canvas) :
    (create object).run.run ⟨context, canvas⟩ =
      ((context.create object).outcome.map fun _ => (),
        ⟨(context.create object).context, canvas⟩) := by
  unfold create
  rw [run_context_bind]
  change (lift (context.create object).outcome >>= fun _ => pure ()).run.run _ = _
  cases (context.create object).outcome <;> rfl

theorem leads_create (h : (context.create object).next = .ok context') :
    Leads (create object) context context' [] := by
  intro canvas
  rw [run_create]
  unfold Context.Creation.next at h
  cases houtcome : (context.create object).outcome with
  | error fault =>
    rw [houtcome] at h
    cases h
  | ok handle =>
    rw [houtcome] at h
    cases h
    exact ⟨canvas, rfl, by simp⟩

/-- A creation that fails has changed the context on the way, and has put it back. -/
theorem fails_create (h : (context.create object).next = .error fault) :
    Fails (create object) context fault := by
  intro canvas
  rw [run_create]
  unfold Context.Creation.next at h
  cases houtcome : (context.create object).outcome with
  | error fault =>
    rw [houtcome] at h
    cases h
    rw [Context.context_create_of_error houtcome]
    rfl
  | ok handle =>
    rw [houtcome] at h
    cases h

/-- The clip of a text is put back when the rectangle has narrowed it. -/
theorem leads_extendedText (content : ExtendedText) (scale : Scale) (fields : ScaledFields) :
    Leads (extendedText content scale ((Action.extendedText content).rescale scale fields)) context
      context (content.calls scale context.device) := by
  intro canvas
  obtain ⟨origin, options, bounds, text, advances⟩ := content
  unfold extendedText Action.rescale ExtendedText.calls ExtendedText.background
    ExtendedText.characters ExtendedText.clip
  rw [run_sync_bind, run_device_bind]
  -- The rectangle, the two options and the text are independent of each other.
  cases bounds <;> cases ExtendedText.fillsBackground options <;>
    cases ExtendedText.clips options <;> by_cases htext : text = "" <;>
      simp only [ne_eq, htext, not_true_eq_false, not_false_eq_true, if_true, if_false,
        Option.map_none, Option.map_some]
  all_goals
    refine ⟨_, rfl, ?_⟩
    simp [Session.sync, Canvas.draw, Device.call]

theorem leads_filling (device : Device) (path : Path Float) (brush : Brush) (rule : FillRule)
    (hdevice : context.device = device) :
    Leads (do if let some paint := device.paintOf? brush then fill path paint rule) context context
      ((device.filling path brush rule).map context.device.call) := by
  subst hdevice
  unfold Device.filling
  cases context.device.paintOf? brush with
  | none => exact leads_pure
  | some paint => exact leads_fill path paint rule

section Lookups

variable {region brush : UInt16} {paint : Context → Region → Brush → Replay Unit}

/-- A drawing that needs a region and a brush has both of them unless it fails. -/
theorem leads_lookups
    (h : (do
      let _ ← context.region region
      let _ ← context.brush brush
      return context : Except Fault Context) = .ok context')
    (hpaint : ∀ found chosen, context.region region = .ok found → context.brush brush = .ok chosen →
      Leads (paint context found chosen) context context calls) :
    Leads (do
      let context ← Replay.context
      let region ← lift (context.region region)
      let brush ← lift (context.brush brush)
      paint context region brush) context context' calls := by
  obtain ⟨found, chosen, hregion, hbrush, rfl⟩ := Context.lookups_eq_ok h
  intro canvas
  rw [run_context_bind, hregion, hbrush, run_lift_ok_bind, run_lift_ok_bind]
  exact hpaint found chosen hregion hbrush canvas

theorem fails_lookups
    (h : (do
      let _ ← context.region region
      let _ ← context.brush brush
      return context : Except Fault Context) = .error fault) :
    Fails (do
      let context ← Replay.context
      let region ← lift (context.region region)
      let brush ← lift (context.brush brush)
      paint context region brush) context fault := by
  intro canvas
  rw [run_context_bind]
  cases hregion : context.region region with
  | error fault =>
    rw [hregion] at h
    cases h
    rfl
  | ok found =>
    rw [hregion] at h
    cases hbrush : context.brush brush with
    | error fault =>
      rw [hbrush] at h
      cases h
      rfl
    | ok chosen =>
      rw [hbrush] at h
      cases h

end Lookups

/-- An action that does not fail leads to its next context, and makes its calls on the way. -/
theorem perform_of_ok (h : action.next decoder scale context = .ok context') :
    Leads (perform decoder scale action) context context'
      (action.calls decoder scale context) := by
  cases action with
  | endOfFile | escape | realizePalette | floodFill | extendedFloodFill | unknown =>
    cases h
    exact leads_pure
  | saveState =>
    cases h
    exact leads_setContext _
  | restoreState id =>
    intro canvas
    rw [perform, performScaled, run_context_bind]
    change context.restore id = _ at h
    rw [h]
    exact ⟨canvas, rfl, (List.append_nil _).symm⟩
  | setColor role color =>
    cases h
    cases role <;> exact leads_change _
  | setMode | setLayout | editMapping | scaleExtent | setTextAlign | setTextSpacing
  | setTextJustification | setMapperFlags | moveTo | offsetClip =>
    cases h
    exact leads_change _
  | editClip edit bounds =>
    cases h
    cases edit <;> exact leads_change _
  | text line origin =>
    cases h
    exact leads_of_drawAll fun _ => rfl
  | extendedText content =>
    cases h
    exact leads_extendedText content scale _
  | lineTo point =>
    cases h
    intro canvas
    rw [perform, performScaled, run_device_bind]
    simp only [Action.calls, Action.drawings, Device.stroking]
    cases context.device.stroke? scale with
    | none => exact leads_change _ canvas
    | some stroke =>
      exact ⟨_, rfl, by simp [Canvas.draw, Device.call, Session.sync, Action.rescale]⟩
  | boxFigure figure bounds =>
    cases h
    cases figure <;> exact leads_drawShape _ _ _
  | roundedBox | sector =>
    cases h
    exact leads_drawShape _ _ _
  -- Rings are scaled before the short ones are left out.
  | polygons rings =>
    cases h
    simp only [perform, performScaled, Action.rescale, Action.calls, Action.drawings,
      List.filter_map, List.flatMap_map, Function.comp_def, List.length_map]
    exact leads_drawShape _ _ _
  | pointFigure figure points =>
    cases h
    simp only [perform, performScaled, Action.rescale, Action.calls, Action.drawings,
      List.length_map]
    by_cases hlength : 2 ≤ points.length
    · rw [if_pos hlength, if_pos hlength]
      cases figure <;> exact leads_drawShape _ _ _
    · rw [if_neg hlength, if_neg hlength]
      exact leads_pure
  | setPixel color point =>
    cases h
    exact leads_of_drawAll fun _ => rfl
  | patternBlit operation target =>
    cases h
    exact leads_blitPattern _ _
  | createPen | createBrush | createFont | createPalette | createPatternBrush
  | createDibPatternBrush | createRegion => exact leads_create h
  | useHandle use handle =>
    cases h
    exact leads_setContext _
  | editPalette | resizePalette =>
    cases h
    exact leads_setContext _
  -- The lookups succeed, since the action has a next context.
  | fillRegion region brush =>
    refine leads_lookups h fun found chosen hregion hbrush => ?_
    simp only [Action.calls, Action.drawings, hregion, hbrush]
    exact leads_filling _ _ chosen _ rfl
  | frameRegion region brush height width =>
    refine leads_lookups h fun found chosen hregion hbrush => ?_
    simp only [Action.calls, Action.drawings, hregion, hbrush]
    exact leads_filling _ _ chosen _ rfl
  | useRegion use region =>
    intro canvas
    rw [perform, performScaled, run_context_bind]
    cases hregion : context.region region with
    | error fault =>
      simp only [Action.next, hregion] at h
      cases h
    | ok found =>
      simp only [Action.next, hregion] at h
      rw [run_lift_ok_bind]
      cases use with
      | paint =>
        cases h
        simp only [Action.calls, Action.drawings, hregion]
        exact leads_filling _ _ context.device.brush _ rfl canvas
      | invert =>
        cases h
        exact leads_pure canvas
      | clip =>
        cases h
        exact leads_change _ canvas
  -- Only a transfer without a bitmap paints; a bitmap in device form is not drawn.
  | bitBlit operation source target bitmap =>
    cases h
    cases bitmap with
    | none => exact leads_blitPattern _ _
    | some bitmap => exact leads_pure
  | stretchBlit operation source target bitmap =>
    cases h
    cases bitmap with
    | none => exact leads_blitPattern _ _
    | some bitmap => exact leads_pure
  | dibBitBlit operation source target dib =>
    cases h
    cases dib with
    | none => exact leads_blitPattern _ _
    | some dib => exact leads_blitImage _ _
  | dibStretchBlit operation source target dib =>
    cases h
    cases dib with
    | none => exact leads_blitPattern _ _
    | some dib => exact leads_blitImage _ _
  | setDibToDevice | stretchDib =>
    cases h
    exact leads_blitImage _ _

/-- An action that fails does so before it changes anything. -/
theorem perform_of_error (h : action.next decoder scale context = .error fault) :
    Fails (perform decoder scale action) context fault := by
  cases action with
  | restoreState id =>
    intro canvas
    change context.restore id = _ at h
    rw [perform, performScaled, run_context_bind, h, run_lift_error_bind]
  | createPen | createBrush | createFont | createPalette | createPatternBrush
  | createDibPatternBrush | createRegion => exact fails_create h
  | fillRegion | frameRegion => exact fails_lookups h
  | useRegion use region =>
    intro canvas
    rw [perform, performScaled, run_context_bind]
    cases hregion : context.region region with
    | error fault =>
      simp only [Action.next, hregion] at h
      cases h
      rfl
    | ok found =>
      simp only [Action.next, hregion] at h
      cases use <;> cases h
  | _ => cases h

end Replay

end WindowsMetafile
