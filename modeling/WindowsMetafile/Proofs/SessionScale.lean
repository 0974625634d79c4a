import WindowsMetafile.Proofs.View

/-!
# What the scale of a replay does not change

The scale of a replay moves and stretches what is drawn, and that is all. No record looks at a
scaled coordinate to find out whether it fails, what it selects or how much it draws. So two replays
under different scales tell the same report, have the same objects, and differ in the places that
their device contexts hold: the position, the box of the clip and the two origins. Their draw calls
come in the same order and look the same.

## Main definitions

* `View.unplaced` — contexts without places
* `Drawing.look` — a drawing without its coordinates and lengths

## Main results

* `Action.map_look_calls` — the looks of what an action draws do not depend on places
* `Player.playIn_scale_independent` — what two replays under different scales have in common
-/

namespace WindowsMetafile

/-- The view without places: points and boxes are hidden, brushes are shown. Whether there is a clip
is shown, but not its box. -/
def View.unplaced : View where
  point _ := ⟨0, 0⟩
  box _ := ⟨0, 0, 0, 0⟩
  brush := id

/-- What a drawing is like, whatever its place and size. -/
inductive Look
  | fill (paint : Paint) (rule : FillRule)
  | stroke (color : Color) (dashCount : Nat) (cap : LineCap) (join : LineJoin)
  | text (text : String) (font : Font) (color : Color) (background : Option Color) (align : UInt16)
      (advanceCount : Nat)
  | image (image : Pixmap)
  deriving DecidableEq, Repr

/-- A drawing without its coordinates and lengths. -/
def Drawing.look : Drawing → Look
  | .fill _ paint rule => .fill paint rule
  | .stroke _ pen => .stroke pen.color pen.dashes.length pen.cap pen.join
  | .text run => .text run.text run.font run.color run.background run.align run.advances.length
  | .image pixels _ => .image pixels

/-! ### Drawings of a device context -/

namespace Device

variable (device : Device) (scale : Scale) (path : Path Float)

/-- What areas filled with a brush look like. -/
def fillLooks (brush : Brush) (rule : FillRule) : List Look :=
  (device.paintOf? brush).toList.map fun paint => .fill paint rule

/-- What lines of the pen look like. -/
def strokeLooks : List Look :=
  if device.pen.visible then
    [.stroke (device.resolve device.pen.color) device.pen.dash.pattern.length device.pen.cap
      device.pen.join]
  else []

/-- What texts look like. -/
def textLook (text : String) (advanceCount : Nat) : Look :=
  .text text device.font (device.resolve device.textColor) device.background? device.textAlign
    advanceCount

theorem map_look_filling (brush : Brush) (rule : FillRule) :
    (device.filling path brush rule).map Drawing.look = device.fillLooks brush rule := by
  unfold filling fillLooks
  rw [List.map_map]
  rfl

theorem map_look_stroking :
    (device.stroking scale path).map Drawing.look = device.strokeLooks := by
  unfold stroking strokeLooks stroke?
  by_cases hvisible : device.pen.visible = true
  · rw [if_pos hvisible, if_pos hvisible]
    simp only [Option.toList_some, List.map_cons, List.map_nil, Drawing.look, List.length_map]
  · rw [if_neg hvisible, if_neg hvisible]
    rfl

theorem map_look_shape (filled : Bool) :
    (device.shape scale path filled).map Drawing.look =
      (if filled then device.fillLooks device.brush device.fillRule else []) ++
        device.strokeLooks := by
  unfold shape
  rw [List.map_append, map_look_stroking]
  cases filled with
  | false => rfl
  | true => rw [if_pos rfl, if_pos rfl, map_look_filling]

theorem map_look_blit (operation : UInt32) (target : Box) :
    (device.blit operation target).map Drawing.look =
      (Replay.operationPaint? operation device).toList.map fun paint =>
        .fill paint device.fillRule := by
  unfold blit
  rw [List.map_map]
  rfl

theorem look_textRun (origin : Point Int) (text : String) (advances : List Int) :
    (Drawing.text (Replay.textRun device scale origin text advances)).look =
      device.textLook text advances.length := rfl

end Device

theorem Action.map_look_imageOver (decoder : BitmapDecoder) (dib : Bytes) (target : Box) :
    (imageOver decoder dib target).map Drawing.look =
      (decoder dib).toOption.toList.map .image := by
  unfold imageOver
  rw [List.map_map]
  rfl

/-! ### Draw calls of an action -/

section Unplaced

variable (decoder : BitmapDecoder) (scale scale' : Scale) (context : Context)

theorem ExtendedText.map_look_calls (content : ExtendedText) (device : Device) :
    (content.calls scale device).map (·.drawing.look) =
      (content.calls scale' (View.unplaced.device device)).map (·.drawing.look) := by
  have hbackground : (content.background scale device).map Drawing.look =
      (content.background scale' (View.unplaced.device device)).map Drawing.look := by
    unfold background
    split
    · simp only [List.map_map, Function.comp_def, Drawing.look]
      rfl
    · rfl
  have hcharacters : (content.characters scale device).map Drawing.look =
      (content.characters scale' (View.unplaced.device device)).map Drawing.look := by
    unfold characters
    split
    · rfl
    · simp only [List.map_cons, List.map_nil, Device.look_textRun, List.length_map]
      rfl
  unfold calls
  rw [List.map_append, List.map_append, List.map_map, List.map_map, List.map_map, List.map_map]
  exact congrArg₂ (· ++ ·) hbackground hcharacters

namespace Action

/-- The drawings of an action look as if all places were the same. -/
theorem map_look_drawings (action : Action) :
    (action.drawings decoder scale context).map Drawing.look =
      (action.drawings decoder scale' (View.unplaced.context context)).map Drawing.look := by
  cases action with
  | text =>
    simp only [drawings, List.map_cons, List.map_nil, Device.look_textRun]
    rfl
  | lineTo =>
    simp only [drawings, Device.map_look_stroking]
    rfl
  | setPixel =>
    simp only [drawings, List.map_cons, List.map_nil, Drawing.look]
    rfl
  | boxFigure figure =>
    cases figure <;>
    · simp only [drawings, Device.map_look_shape]
      rfl
  | roundedBox | sector | polygons =>
    simp only [drawings, Device.map_look_shape]
    rfl
  -- Whether a figure is drawn depends on the number of its points, not on where they are.
  | pointFigure figure points =>
    simp only [drawings]
    split
    · cases figure <;>
      · simp only [Device.map_look_shape]
        rfl
    · rfl
  | patternBlit =>
    simp only [drawings, Device.map_look_blit]
    rfl
  | bitBlit operation source target bitmap | stretchBlit operation source target bitmap =>
    cases bitmap with
    | none =>
      simp only [drawings, Device.map_look_blit]
      rfl
    | some bitmap => rfl
  | dibBitBlit operation source target dib | dibStretchBlit operation source target dib =>
    cases dib with
    | none =>
      simp only [drawings, Device.map_look_blit]
      rfl
    | some dib => simp only [drawings, map_look_imageOver]
  | setDibToDevice | stretchDib => simp only [drawings, map_look_imageOver]
  | fillRegion region brush | frameRegion region brush =>
    simp only [drawings, View.region_context, View.brush_context]
    cases context.region region with
    | error fault => rfl
    | ok found =>
      cases context.brush brush with
      | error fault => rfl
      | ok chosen =>
        simp only [Except.map, Device.map_look_filling]
        rfl
  | useRegion use region =>
    cases use with
    | paint =>
      simp only [drawings, View.region_context]
      cases context.region region with
      | error fault => rfl
      | ok found =>
        simp only [Device.map_look_filling]
        rfl
    | invert | clip => rfl
  | _ => rfl

/-- The calls of an action look as if all places were the same. -/
theorem map_look_calls (action : Action) :
    (action.calls decoder scale context).map (·.drawing.look) =
      (action.calls decoder scale' (View.unplaced.context context)).map (·.drawing.look) := by
  cases action with
  | extendedText content => exact content.map_look_calls scale scale' context.device
  | _ =>
    simp only [calls, List.map_map]
    exact map_look_drawings decoder scale scale' context _

end Action

end Unplaced

/-! ### Replays under two scales -/

section Devices

variable {device device' : Device} {scale scale' : Scale}
variable (hdevice : View.unplaced.device device' = View.unplaced.device device)

include hdevice

theorem isSome_clip_eq : device'.clip.isSome = device.clip.isSome := by
  have hclip : device'.clip.map View.unplaced.box = device.clip.map View.unplaced.box :=
    congrArg Device.clip hdevice
  rw [← Option.isSome_map (f := View.unplaced.box), hclip, Option.isSome_map]

/-- Any places may be put into device contexts that look alike. -/
theorem unplaced_eq_of_places {position position' windowOrigin windowOrigin' : Point Int}
    {viewportOrigin viewportOrigin' : Point Int} {clip clip' : Option Box}
    (hclip : clip'.isSome = clip.isSome) :
    View.unplaced.device
        { device' with
          position := position', clip := clip', windowOrigin := windowOrigin',
          viewportOrigin := viewportOrigin' } =
      View.unplaced.device { device with position, clip, windowOrigin, viewportOrigin } := by
  have hbox : clip'.map View.unplaced.box = clip.map View.unplaced.box := by
    cases clip <;> cases clip' <;> first | rfl | cases hclip
  exact congrArg₂ (fun device clip => { device with clip }) hdevice hbox

/-- An action changes device contexts that look alike to ones that look alike. -/
theorem unplaced_editDevice_eq (action : Action) :
    View.unplaced.device (action.editDevice scale' device') =
      View.unplaced.device (action.editDevice scale device) := by
  have hclip := isSome_clip_eq hdevice
  -- An action without coordinates does the same to what is shown, whatever the scale.
  have hplain (hshown' : ∀ device, View.unplaced.device (action.editDevice scale' device) =
        action.editDevice scale (View.unplaced.device device))
      (hshown : ∀ device, View.unplaced.device (action.editDevice scale device) =
        action.editDevice scale (View.unplaced.device device)) :
      View.unplaced.device (action.editDevice scale' device') =
        View.unplaced.device (action.editDevice scale device) := by
    rw [hshown', hshown, hdevice]
  cases action with
  | moveTo | lineTo => exact unplaced_eq_of_places hdevice hclip
  | offsetClip =>
    refine unplaced_eq_of_places hdevice ?_
    rw [Option.isSome_map, Option.isSome_map, hclip]
  | editClip edit =>
    cases edit with
    | exclude =>
      refine unplaced_eq_of_places hdevice ?_
      rw [Option.isSome_map, Option.isSome_map, hclip]
    | intersect =>
      refine unplaced_eq_of_places hdevice ?_
      rw [Option.isSome_some, Option.isSome_some]
  -- Of the mapping, the origins are places and the extents are not.
  | editMapping side edit =>
    cases edit with
    | setOrigin | offsetOrigin => cases side <;> exact unplaced_eq_of_places hdevice hclip
    | setExtent => cases side <;> exact hplain (fun _ => rfl) fun _ => rfl
  | scaleExtent side => cases side <;> exact hplain (fun _ => rfl) fun _ => rfl
  | setColor role => cases role <;> exact hplain (fun _ => rfl) fun _ => rfl
  | setMode role => cases role <;> exact hplain (fun _ => rfl) fun _ => rfl
  | _ => exact hplain (fun _ => rfl) fun _ => rfl

end Devices

namespace View

theorem unplaced_object (object : GraphicsObject) : unplaced.object object = object := by
  cases object <;> rfl

/-- The object table is shown as it is. -/
theorem objects_unplaced (context : Context) :
    (unplaced.context context).objects = context.objects := by
  have hobject : Option.map unplaced.object = id := by
    rw [funext unplaced_object]
    exact Option.map_id
  change context.objects.map (Option.map unplaced.object) = context.objects
  rw [hobject, List.map_id]

end View

namespace Player

variable {policy : FaultPolicy} {limit : Option Nat} {decoder : BitmapDecoder}
variable {context context' : Context}

/-- Players that differ in the scale alone do the same, places aside. -/
theorem alikeThrough_unplaced (policy : FaultPolicy) (limit : Option Nat) (decoder : BitmapDecoder)
    (scale scale' : Scale) :
    AlikeThrough View.unplaced ⟨policy, limit, scale, decoder⟩
      ⟨policy, limit, scale', decoder⟩ where
  policy := rfl
  limit := rfl
  bounds _ := rfl
  editDevice action _ _ hdevice := unplaced_editDevice_eq hdevice action
  object? _ := rfl

theorem map_look_calls (scale scale' : Scale)
    (hcontext : View.unplaced.context context' = View.unplaced.context context) (record : Record) :
    ((Player.mk policy limit scale decoder).calls record context).map (·.drawing.look) =
      ((Player.mk policy limit scale' decoder).calls record context').map (·.drawing.look) := by
  unfold calls
  cases record.decode with
  | error fault => rfl
  | ok command =>
    dsimp only
    rw [Action.map_look_calls decoder scale scale, Action.map_look_calls decoder scale' scale,
      hcontext]

/-- The draw calls of replays under two scales look the same, in order. -/
theorem map_look_made (policy : FaultPolicy) (limit : Option Nat) (decoder : BitmapDecoder)
    (scale scale' : Scale) (context : Context) (records : List Record) :
    ((Player.mk policy limit scale decoder).made context records).map (·.call.drawing.look) =
      ((Player.mk policy limit scale' decoder).made context records).map (·.call.drawing.look) := by
  have halike := alikeThrough_unplaced policy limit decoder scale scale'
  have hcontext : View.unplaced.context context = View.unplaced.context context := rfl
  refine halike.related_made hcontext (fun calls calls' =>
    calls.map (·.call.drawing.look) = calls'.map (·.call.drawing.look)) rfl ?_ ?_ records
  · intro front front' back back' hfront hback
    rw [List.map_append, List.map_append, hfront, hback]
  · intro replayed before' hbefore
    rw [callsOf_singleton, callsOf_singleton, List.map_map, List.map_map]
    exact map_look_calls scale scale' hbefore replayed.record

/-- The scale of a replay changes nothing but places and sizes. From any context, two replays under
different scales end in the same report or the same fault and with the same objects. Their device
contexts, the current one and the saved ones, agree except in the position, the box of the clip and
the two origins. They make equally many draw calls, which look the same in order. -/
theorem playIn_scale_independent (policy : FaultPolicy) (limit : Option Nat)
    (decoder : BitmapDecoder) (scale scale' : Scale) (context : Context) (records : List Record) :
    let run := (Player.mk policy limit scale decoder).playIn context records
    let run' := (Player.mk policy limit scale' decoder).playIn context records
    run'.1 = run.1 ∧
      run'.2.context.objects = run.2.context.objects ∧
      View.unplaced.device run'.2.context.device = View.unplaced.device run.2.context.device ∧
      run'.2.context.saved.map View.unplaced.device = run.2.context.saved.map View.unplaced.device ∧
      run'.2.canvas.calls.toList.map (·.drawing.look) =
        run.2.canvas.calls.toList.map (·.drawing.look) := by
  intro run run'
  have halike := alikeThrough_unplaced policy limit decoder scale scale'
  have hcontext : View.unplaced.context context = View.unplaced.context context := rfl
  obtain ⟨houtcome, hlast⟩ := halike.playIn_eq hcontext records
  obtain ⟨hdevice, hsaved, -⟩ := Context.mk.inj hlast
  refine ⟨houtcome, ?_, hdevice, hsaved, ?_⟩
  · rw [← View.objects_unplaced, hlast, View.objects_unplaced]
  · have hlooks (player : Player) :
        (player.playIn context records).2.canvas.calls.toList.map (·.drawing.look) =
          (player.made context records).map (·.call.drawing.look) := by
      rw [player.calls_playIn, List.map_map]
      rfl
    rw [hlooks, hlooks, map_look_made policy limit decoder scale scale']

end Player

end WindowsMetafile
