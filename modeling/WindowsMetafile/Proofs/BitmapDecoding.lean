import WindowsMetafile.Proofs.View

/-!
# What a bitmap that cannot be decoded does not change

A decoder turns bytes into images, or fails. A pattern brush without an image is a brush all the
same: it takes its place in the object table, it is selected, and it fills with the text colour. An
image that cannot be decoded is not drawn, and nothing else is left out. So two replays with
different decoders tell the same report and differ in the images of pattern brushes alone. Images
aside, they make the same draw calls, but for what a pattern brush fills with.

## Main definitions

* `View.imageless` — contexts without the images of pattern brushes
* `Action.brush?` — the brush that an action fills with
* `MadeCall.SameButPattern` — the same draw call, but for what a pattern brush fills with

## Main results

* `Action.forall₂_calls` — what an action draws in contexts that differ in such images
* `Player.playIn_decoder_independent` — what two replays with different decoders have in common
-/

namespace WindowsMetafile

/-- A brush without the image of its pattern. -/
def Brush.imageless : Brush → Brush
  | .pattern _ => .pattern none
  | brush => brush

/-- The view without the images of pattern brushes; which brushes are patterns is shown. -/
def View.imageless : View where
  point := id
  box := id
  brush := Brush.imageless

/-- Whether a drawing is an image. -/
def Drawing.isImage : Drawing → Bool
  | .image _ _ => true
  | _ => false

/-- The brush that a raster operation without a source paints with; some have a colour of their own,
or paint nothing. -/
def Device.blitBrush? (device : Device) (operation : UInt32) : Option Brush :=
  if operation = Replay.blackness ∨ operation = Replay.whiteness ∨ operation = Replay.inversion then
    none
  else some device.brush

/-- The brush that an action fills with. -/
def Action.brush? (context : Context) : Action → Option Brush
  | .boxFigure _ _ | .roundedBox _ _ _ | .sector .chord _ _ _ | .sector .pie _ _ _
  | .pointFigure .polygon _ | .polygons _ | .useRegion .paint _ => some context.device.brush
  | .patternBlit operation _ | .bitBlit operation _ _ none | .stretchBlit operation _ _ none
  | .dibBitBlit operation _ _ none | .dibStretchBlit operation _ _ none =>
    context.device.blitBrush? operation
  | .fillRegion _ brush | .frameRegion _ brush _ _ => (context.brush brush).toOption
  | _ => none

/-- The brush that a record fills with. -/
def Replayed.brush? (replayed : Replayed) : Option Brush :=
  match replayed.record.decode with
  | .ok command => command.action.brush? replayed.before
  | .error _ => none

/-- Two drawings are the same. Or else they fill the same path by the same rule, and each does so
with what its brush, a pattern, fills with under its device context. -/
inductive Drawing.SameButPattern (device device' : Device) :
    Option Brush → Option Brush → Drawing → Drawing → Prop
  | same (brush brush' : Option Brush) (drawing : Drawing) :
      SameButPattern device device' brush brush' drawing drawing
  | pattern {image image' : Option Pixmap} {paint paint' : Paint} (path : Path Float)
      (rule : FillRule) (hpaint : device.paintOf? (.pattern image) = some paint)
      (hpaint' : device'.paintOf? (.pattern image') = some paint') :
      SameButPattern device device' (some (.pattern image)) (some (.pattern image'))
        (.fill path paint rule) (.fill path paint' rule)

/-- Two draw calls have the same transform and clip, and are the same but for what a pattern brush
fills with. -/
structure DrawCall.SameButPattern (device device' : Device) (brush brush' : Option Brush)
    (call call' : DrawCall) : Prop where
  transform : call'.transform = call.transform
  clip : call'.clip = call.clip
  drawing : Drawing.SameButPattern device device' brush brush' call.drawing call'.drawing

/-- Two draw calls are made by the same record, and are the same but for what a pattern brush fills
with. -/
structure MadeCall.SameButPattern (made made' : MadeCall) : Prop where
  index : made'.index = made.index
  record : made'.record = made.record
  call : DrawCall.SameButPattern made.before.device made'.before.device made.toReplayed.brush?
    made'.toReplayed.brush? made.call made'.call

/-! ### Brushes and device contexts that look alike -/

theorem Brush.eq_or_pattern {brush brush' : Brush} (h : brush'.imageless = brush.imageless) :
    brush' = brush ∨ ∃ image image', brush = .pattern image ∧ brush' = .pattern image' := by
  cases brush with
  | pattern image =>
    cases brush' with
    | pattern image' => exact .inr ⟨image, image', rfl, rfl⟩
    | _ => cases h
  | _ =>
    cases brush' with
    | pattern image' => cases h
    | _ => exact .inl h

theorem View.imageless_device (device : Device) :
    imageless.device device = { device with brush := device.brush.imageless } := by
  unfold View.device
  have hclip : device.clip.map imageless.box = device.clip := congrFun Option.map_id _
  rw [hclip]
  rfl

/-- Device contexts that look alike differ in the brush alone. -/
theorem View.eq_of_imageless_device {device device' : Device}
    (h : imageless.device device' = imageless.device device) :
    ∃ brush, device' = { device with brush } ∧ brush.imageless = device.brush.imageless := by
  refine ⟨device'.brush, ?_, congrArg Device.brush h⟩
  rw [imageless_device, imageless_device] at h
  exact congrArg (fun device => { device with brush := device'.brush }) h

namespace Drawing

variable {device device' : Device} {brush brush' : Option Brush} {drawing drawing' : Drawing}

theorem SameButPattern.isImage_eq
    (h : SameButPattern device device' brush brush' drawing drawing') :
    drawing'.isImage = drawing.isImage := by
  cases h <;> rfl

/-- Drawings that are related stay so when the images among them are left out. -/
theorem SameButPattern.filter {drawings drawings' : List Drawing}
    (h : List.Forall₂ (SameButPattern device device' brush brush') drawings drawings') :
    List.Forall₂ (SameButPattern device device' brush brush') (drawings.filter (!·.isImage))
      (drawings'.filter (!·.isImage)) := by
  induction h with
  | nil => exact .nil
  | @cons drawing drawing' drawings drawings' hdrawing _ ih =>
    rw [List.filter_cons, List.filter_cons, hdrawing.isImage_eq]
    split
    · exact .cons hdrawing ih
    · exact ih

theorem forall₂_same (brush brush' : Option Brush) (drawings : List Drawing) :
    List.Forall₂ (SameButPattern device device' brush brush') drawings drawings :=
  List.forall₂_same.mpr fun drawing _ => .same brush brush' drawing

end Drawing

/-! ### Drawings under device contexts that look alike -/

namespace Device

open Drawing (SameButPattern forall₂_same)

variable (device : Device) (brush : Brush) (scale : Scale) (path : Path Float) (rule : FillRule)

/-- The same brush fills alike, and so do two patterns. -/
theorem forall₂_filling {chosen chosen' : Brush} (hchosen : chosen'.imageless = chosen.imageless) :
    List.Forall₂ (SameButPattern device { device with brush } (some chosen) (some chosen'))
      (device.filling path chosen rule) ({ device with brush }.filling path chosen' rule) := by
  rcases Brush.eq_or_pattern hchosen with rfl | ⟨image, image', rfl, rfl⟩
  · have hpaint : { device with brush }.paintOf? chosen' = device.paintOf? chosen' := by
      cases chosen' <;> rfl
    unfold filling
    rw [hpaint]
    exact forall₂_same _ _ _
  -- A pattern always fills, with its image or without it.
  · have hpaint (device : Device) (image : Option Pixmap) :
        ∃ paint, device.paintOf? (.pattern image) = some paint := by
      cases image <;> exact ⟨_, rfl⟩
    obtain ⟨paint, hpaint₁⟩ := hpaint device image
    obtain ⟨paint', hpaint₂⟩ := hpaint { device with brush } image'
    unfold filling
    rw [hpaint₁, hpaint₂]
    exact .cons (.pattern path rule hpaint₁ hpaint₂) .nil

theorem forall₂_shape (hbrush : brush.imageless = device.brush.imageless) :
    List.Forall₂ (SameButPattern device { device with brush } (some device.brush) (some brush))
      (device.shape scale path true) ({ device with brush }.shape scale path true) :=
  -- The pen strokes alike, whatever the brush.
  List.rel_append (device.forall₂_filling brush path device.fillRule hbrush) (forall₂_same _ _ _)

theorem forall₂_blit (hbrush : brush.imageless = device.brush.imageless) (operation : UInt32)
    (target : Box) :
    List.Forall₂
      (SameButPattern device { device with brush } (device.blitBrush? operation)
        ({ device with brush }.blitBrush? operation))
      (device.blit operation target) ({ device with brush }.blit operation target) := by
  by_cases hfixed : operation = Replay.blackness ∨ operation = Replay.whiteness ∨
    operation = Replay.inversion
  · have hpaint : Replay.operationPaint? operation { device with brush } =
        Replay.operationPaint? operation device := by
      rcases hfixed with rfl | rfl | rfl <;> rfl
    unfold blit
    rw [hpaint]
    exact forall₂_same _ _ _
  -- Every other operation paints with the brush.
  · have hchosen (device : Device) : device.blitBrush? operation = some device.brush :=
      if_neg hfixed
    have hpaint (device : Device) :
        Replay.operationPaint? operation device = device.paintOf? device.brush := by
      rw [not_or, not_or] at hfixed
      rw [Replay.operationPaint?, if_neg hfixed.1, if_neg hfixed.2.1, if_neg hfixed.2.2]
    unfold blit
    rw [hchosen, hchosen, hpaint, hpaint]
    exact device.forall₂_filling brush target.outline.toFloat device.fillRule hbrush

end Device

/-! ### Draw calls of an action -/

namespace Action

open Drawing (SameButPattern forall₂_same)

theorem filter_imageOver (decoder : BitmapDecoder) (dib : Bytes) (target : Box) :
    (imageOver decoder dib target).filter (!·.isImage) = [] := by
  unfold imageOver
  cases (decoder dib).toOption <;> rfl

variable {context context' : Context}
variable (hcontext : View.imageless.context context' = View.imageless.context context)

include hcontext

theorem forall₂_drawings (decoder decoder' : BitmapDecoder) (scale : Scale) (action : Action) :
    List.Forall₂
      (SameButPattern context.device context'.device (action.brush? context)
        (action.brush? context'))
      ((action.drawings decoder scale context).filter (!·.isImage))
      ((action.drawings decoder' scale context').filter (!·.isImage)) := by
  obtain ⟨brush, hdevice, hbrush⟩ :=
    View.eq_of_imageless_device (congrArg Context.device hcontext)
  cases action with
  -- The brush has no part in texts, lines and pixels.
  | text | lineTo | setPixel =>
    refine SameButPattern.filter ?_
    simp only [drawings, hdevice]
    exact forall₂_same _ _ _
  | boxFigure figure =>
    refine SameButPattern.filter ?_
    simp only [brush?, drawings, hdevice]
    cases figure <;> exact context.device.forall₂_shape brush scale _ hbrush
  | roundedBox | polygons =>
    refine SameButPattern.filter ?_
    simp only [brush?, drawings, hdevice]
    exact context.device.forall₂_shape brush scale _ hbrush
  | sector closing =>
    refine SameButPattern.filter ?_
    simp only [drawings, hdevice]
    cases closing with
    | bare => exact forall₂_same _ _ _
    | chord | pie =>
      simp only [brush?, hdevice]
      exact context.device.forall₂_shape brush scale _ hbrush
  | pointFigure figure points =>
    refine SameButPattern.filter ?_
    simp only [drawings, hdevice]
    by_cases hlength : 2 ≤ points.length
    · rw [if_pos hlength, if_pos hlength]
      cases figure with
      | polygon =>
        simp only [brush?, hdevice]
        exact context.device.forall₂_shape brush scale _ hbrush
      | polyline => exact forall₂_same _ _ _
    · rw [if_neg hlength, if_neg hlength]
      exact .nil
  | patternBlit operation target =>
    refine SameButPattern.filter ?_
    simp only [brush?, drawings, hdevice]
    exact context.device.forall₂_blit brush hbrush operation _
  | bitBlit operation source target bitmap | stretchBlit operation source target bitmap =>
    cases bitmap with
    | none =>
      refine SameButPattern.filter ?_
      simp only [brush?, drawings, hdevice]
      exact context.device.forall₂_blit brush hbrush operation _
    | some bitmap => exact .nil
  | dibBitBlit operation source target dib | dibStretchBlit operation source target dib =>
    cases dib with
    | none =>
      refine SameButPattern.filter ?_
      simp only [brush?, drawings, hdevice]
      exact context.device.forall₂_blit brush hbrush operation _
    | some dib =>
      simp only [drawings, filter_imageOver]
      exact .nil
  | setDibToDevice | stretchDib =>
    simp only [drawings, filter_imageOver]
    exact .nil
  | fillRegion region handle | frameRegion region handle =>
    refine SameButPattern.filter ?_
    simp only [brush?, drawings, View.region_eq hcontext, hdevice]
    cases context.region region with
    | error fault => exact .nil
    | ok found =>
      rcases View.brush_cases hcontext handle with
        ⟨fault, hfails, hfails'⟩ | ⟨chosen, chosen', hfound, hfound', hchosen⟩
      · rw [hfails, hfails']
        exact .nil
      · rw [hfound, hfound']
        exact context.device.forall₂_filling brush _ _ hchosen
  | useRegion use region =>
    cases use with
    | paint =>
      refine SameButPattern.filter ?_
      simp only [brush?, drawings, View.region_eq hcontext, hdevice]
      cases context.region region with
      | error fault => exact .nil
      | ok found => exact context.device.forall₂_filling brush _ _ hbrush
    | invert | clip => exact .nil
  | _ => exact .nil

/-- Images aside, an action makes the same draw calls in contexts that look alike, but for what a
pattern brush fills with. -/
theorem forall₂_calls (decoder decoder' : BitmapDecoder) (scale : Scale) (action : Action) :
    List.Forall₂
      (DrawCall.SameButPattern context.device context'.device (action.brush? context)
        (action.brush? context'))
      ((action.calls decoder scale context).filter (!·.drawing.isImage))
      ((action.calls decoder' scale context').filter (!·.drawing.isImage)) := by
  obtain ⟨brush, hdevice, -⟩ := View.eq_of_imageless_device (congrArg Context.device hcontext)
  have htransform : context'.device.transform = context.device.transform := by
    rw [hdevice]
    rfl
  have hclip : context'.device.clip = context.device.clip := by rw [hdevice]
  -- All drawings are made under the transform and the clip of the device context, except a text
  -- with options, whose clip does not depend on the brush.
  have hframed : List.Forall₂
      (DrawCall.SameButPattern context.device context'.device (action.brush? context)
        (action.brush? context'))
      (((action.drawings decoder scale context).map context.device.call).filter
        (!·.drawing.isImage))
      (((action.drawings decoder' scale context').map context'.device.call).filter
        (!·.drawing.isImage)) := by
    rw [List.filter_map, List.filter_map, List.forall₂_map_left_iff, List.forall₂_map_right_iff]
    exact (forall₂_drawings hcontext decoder decoder' scale action).imp
      fun _ _ hdrawing => ⟨htransform, hclip, hdrawing⟩
  cases action with
  | extendedText content =>
    have hcalls : content.calls scale context'.device = content.calls scale context.device := by
      rw [hdevice]
      rfl
    simp only [calls, hcalls]
    exact List.forall₂_same.mpr fun call _ => ⟨rfl, rfl, .same _ _ call.drawing⟩
  | _ => exact hframed

end Action

/-! ### Replays with two decoders -/

/-- No action looks at the brush to change the device context otherwise. -/
theorem Action.imageless_editDevice (scale : Scale) (action : Action) (device : Device) :
    View.imageless.device (action.editDevice scale device) =
      action.editDevice scale (View.imageless.device device) := by
  rw [View.imageless_device, View.imageless_device]
  cases action with
  | setColor role => cases role <;> rfl
  | setMode role => cases role <;> rfl
  | editMapping side edit => cases side <;> cases edit <;> rfl
  | scaleExtent side => cases side <;> rfl
  | editClip edit => cases edit <;> rfl
  | _ => rfl

namespace Player

/-- Players that differ in the decoder alone do the same, the images of patterns aside. -/
theorem alikeThrough_imageless (policy : FaultPolicy) (limit : Option Nat) (scale : Scale)
    (decoder decoder' : BitmapDecoder) :
    AlikeThrough View.imageless ⟨policy, limit, scale, decoder⟩
      ⟨policy, limit, scale, decoder'⟩ where
  policy := rfl
  limit := rfl
  bounds _ := rfl
  editDevice action _ _ hdevice := by
    rw [Action.imageless_editDevice, Action.imageless_editDevice, hdevice]
  object? action := by
    cases action <;> rfl

/-- Images aside, a record makes the same draw calls in contexts that look alike, but for what a
pattern brush fills with. -/
theorem forall₂_callsOf (policy : FaultPolicy) (limit : Option Nat) (scale : Scale)
    (decoder decoder' : BitmapDecoder) (replayed : Replayed) (before' : Context)
    (hbefore : View.imageless.context before' = View.imageless.context replayed.before) :
    List.Forall₂ MadeCall.SameButPattern
      (((Player.mk policy limit scale decoder).callsOf [replayed]).filter
        (!·.call.drawing.isImage))
      (((Player.mk policy limit scale decoder').callsOf
        [{ replayed with before := before' }]).filter (!·.call.drawing.isImage)) := by
  rw [callsOf_singleton, callsOf_singleton, List.filter_map, List.filter_map,
    List.forall₂_map_left_iff, List.forall₂_map_right_iff]
  unfold calls
  cases hdecode : replayed.record.decode with
  | error fault => exact .nil
  | ok command =>
    have hbrush (before : Context) :
        command.action.brush? before = Replayed.brush? { replayed with before } := by
      rw [Replayed.brush?, hdecode]
    have hcalls := Action.forall₂_calls hbefore decoder decoder' scale command.action
    rw [hbrush, hbrush] at hcalls
    exact hcalls.imp fun call call' hcall => ⟨rfl, rfl, hcall⟩

/-- A bitmap that cannot be decoded disturbs nothing but the image that it stands for. From any
context, two replays with different decoders end in the same report or the same fault, and in
contexts that differ in the images of pattern brushes alone. Images aside, they make the same draw
calls in order, but for what a pattern brush fills with. -/
theorem playIn_decoder_independent (policy : FaultPolicy) (limit : Option Nat) (scale : Scale)
    (decoder decoder' : BitmapDecoder) (context : Context) (records : List Record) :
    let player : Player := ⟨policy, limit, scale, decoder⟩
    let other : Player := ⟨policy, limit, scale, decoder'⟩
    let run := player.playIn context records
    let run' := other.playIn context records
    run'.1 = run.1 ∧
      View.imageless.context run'.2.context = View.imageless.context run.2.context ∧
      run.2.canvas.calls.toList = (player.made context records).map MadeCall.call ∧
      run'.2.canvas.calls.toList = (other.made context records).map MadeCall.call ∧
      List.Forall₂ MadeCall.SameButPattern
        ((player.made context records).filter (!·.call.drawing.isImage))
        ((other.made context records).filter (!·.call.drawing.isImage)) := by
  intro player other run run'
  have halike := alikeThrough_imageless policy limit scale decoder decoder'
  have hcontext : View.imageless.context context = View.imageless.context context := rfl
  obtain ⟨houtcome, hlast⟩ := halike.playIn_eq hcontext records
  refine ⟨houtcome, hlast, player.calls_playIn records context, other.calls_playIn records context,
    ?_⟩
  refine halike.related_made hcontext (fun made made' =>
    List.Forall₂ MadeCall.SameButPattern (made.filter (!·.call.drawing.isImage))
      (made'.filter (!·.call.drawing.isImage))) .nil ?_ ?_ records
  · intro front front' back back' hfront hback
    rw [List.filter_append, List.filter_append]
    exact List.rel_append hfront hback
  · exact forall₂_callsOf policy limit scale decoder decoder'

end Player

end WindowsMetafile
