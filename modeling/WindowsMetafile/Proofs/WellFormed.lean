import WindowsMetafile.Proofs.Boxes
import WindowsMetafile.Proofs.Course
import WindowsMetafile.Proofs.ObjectTable

/-!
# Well-formed contexts and draw calls

Replays lead to contexts whose clips are boxes in 32 bits without a negative size, and whose fonts
have a height and a face name that a record can hold, whatever the records and the scale are. The
draw calls that they make on the way have lines and texts of at least one unit, and colours that
need no palette any more.

## Main definitions

* `Device.WellFormed`, `Context.WellFormed` — what holds of a context that a replay leads to
* `Drawing.WellFormed`, `DrawCall.WellFormed` — what holds of a draw call that a replay makes
* `Session.Reached` — the sessions that replays lead to, one after the other

## Main results

* `Action.wellFormed_next` — an action leads from well-formed contexts to well-formed ones
* `Action.wellFormed_of_mem_calls` — in a well-formed context an action makes well-formed drawings
* `Player.wellFormed_play` — so does a replay, from well-formed sessions
* `Session.wellFormed_of_reached` — all contexts that replays lead to, and all draw calls that they
  make, are well formed
-/

namespace WindowsMetafile

/-! ### Contexts -/

/-- A device context whose font a record can hold, and whose clip is a box in 32 bits. -/
structure Device.WellFormed (device : Device) : Prop where
  font : device.font.Storable
  clip : ∀ box ∈ device.clip, box.Valid

/-- A context whose device contexts, the saved ones too, are well formed, and whose fonts are such
as a record can hold. -/
structure Context.WellFormed (context : Context) : Prop where
  device : context.device.WellFormed
  saved : ∀ device ∈ context.saved, device.WellFormed
  fonts : ∀ font, some (.font font) ∈ context.objects → font.Storable

theorem Font.storable_stock : Font.stock.Storable where
  height_pos := by decide
  face_short := by decide
  representable := by simp [stock, Latin1.Representable]

namespace Device

variable {device : Device}

theorem wellFormed_fresh : fresh.WellFormed :=
  ⟨Font.storable_stock, fun _ hbox => by cases hbox⟩

/-- What does not touch the font and the clip keeps them well formed. -/
theorem WellFormed.of_eq {device' : Device} (h : device.WellFormed)
    (hfont : device'.font = device.font) (hclip : device'.clip = device.clip) :
    device'.WellFormed :=
  ⟨hfont ▸ h.font, hclip ▸ h.clip⟩

theorem WellFormed.withClip (h : device.WellFormed) {box : Box} (hbox : box.Valid) :
    { device with clip := some box }.WellFormed :=
  ⟨h.font, fun _ hclip => Option.some.inj hclip ▸ hbox⟩

theorem WellFormed.mapClip (h : device.WellFormed) {f : Box → Box}
    (hf : ∀ box : Box, box.Valid → (f box).Valid) :
    { device with clip := device.clip.map f }.WellFormed := by
  refine ⟨h.font, fun box hbox => ?_⟩
  obtain ⟨clip, hclip, rfl⟩ := Option.map_eq_some_iff.mp hbox
  exact hf clip (h.clip clip hclip)

theorem WellFormed.intersectClip (h : device.WellFormed) {box : Box} (hbox : box.Valid) :
    (device.intersectClip box).WellFormed := by
  refine h.withClip ?_
  cases hclip : device.clip with
  | none => exact hbox
  | some clip => exact (h.clip clip hclip).intersectWrapping hbox

theorem WellFormed.install (h : device.WellFormed) (handle : UInt16) {object : GraphicsObject}
    (hfont : ∀ font, object = .font font → font.Storable) :
    (device.install handle object).WellFormed := by
  cases object with
  | font font => exact ⟨hfont font rfl, h.clip⟩
  | pen | brush | palette | region => exact h.of_eq rfl rfl

/-- No change that an action makes to the device context spoils it. -/
theorem WellFormed.editDevice (h : device.WellFormed) (scale : Scale) (action : Action) :
    (action.editDevice scale device).WellFormed := by
  cases action with
  | setColor role => cases role <;> exact h.of_eq rfl rfl
  | setMode role => cases role <;> exact h.of_eq rfl rfl
  | editMapping side edit => cases side <;> cases edit <;> exact h.of_eq rfl rfl
  | scaleExtent side => cases side <;> exact h.of_eq rfl rfl
  | offsetClip offset => exact h.mapClip fun _ hbox => hbox.shift _
  | editClip edit bounds =>
    cases edit with
    | exclude => exact h.mapClip fun _ hbox => (hbox.excluded_exclude _).valid hbox
    | intersect => exact h.intersectClip (scale.valid_bounds bounds)
  | _ => exact h.of_eq rfl rfl

end Device

namespace Context

variable {context context' : Context}

theorem wellFormed_fresh : fresh.WellFormed :=
  ⟨Device.wellFormed_fresh, List.forall_mem_nil _, fun _ hfont => by cases hfont⟩

theorem WellFormed.save (h : context.WellFormed) : context.save.WellFormed :=
  ⟨h.device, List.forall_mem_cons.mpr ⟨h.device, h.saved⟩, h.fonts⟩

theorem WellFormed.withDevice (h : context.WellFormed) {edit : Device → Device}
    (hedit : (edit context.device).WellFormed) : (context.withDevice edit).WellFormed :=
  ⟨hedit, h.saved, h.fonts⟩

theorem WellFormed.restore (h : context.WellFormed) {id : Int16}
    (hrestore : context.restore id = .ok context') : context'.WellFormed := by
  rcases context.restore_cases id with
    rfl | ⟨-, hfails⟩ | ⟨newer, device, older, hsaved, -, hrestored⟩
  · cases hrestore
    exact h
  · cases hfails.symm.trans hrestore
  · cases hrestored.symm.trans hrestore
    -- What comes back was saved, and so were those below it that stay.
    have hall := h.saved
    rw [hsaved] at hall
    obtain ⟨hdevice, holder⟩ := List.forall_mem_cons.mp (List.forall_mem_append.mp hall).2
    exact ⟨hdevice, holder, h.fonts⟩

/-- Replacing an entry of the table brings in no font but the one that is put there. -/
theorem WellFormed.fonts_set (h : context.WellFormed) {place : Nat}
    {entry : Option GraphicsObject} (hentry : ∀ font, entry = some (.font font) → font.Storable) :
    ∀ font, some (.font font) ∈ context.objects.set place entry → font.Storable := by
  intro font hmem
  rcases List.mem_or_eq_of_mem_set hmem with hold | hnew
  · exact h.fonts font hold
  · exact hentry font hnew.symm

theorem WellFormed.create (h : context.WellFormed) {object : GraphicsObject}
    (hfont : ∀ font, object = .font font → font.Storable)
    (hcreate : (context.create object).next = .ok context') : context'.WellFormed := by
  rcases context.create_cases object with ⟨handle, created, hok, hcreated⟩ | ⟨-, hfails⟩
  · rw [hok] at hcreate
    cases hcreate
    refine ⟨hcreated.device ▸ h.device.install handle hfont, hcreated.saved ▸ h.saved, ?_⟩
    -- The object takes the place of an empty entry, or else it is put behind the table.
    rcases hcreated.objects with ⟨-, hobjects⟩ | ⟨-, hobjects⟩
    · rw [hobjects]
      exact h.fonts_set fun font hfound => hfont font (Option.some.inj hfound)
    · intro font hmem
      rw [hobjects] at hmem
      rcases List.mem_append.mp hmem with hold | hnew
      · exact h.fonts font hold
      · exact hfont font (Option.some.inj (List.mem_singleton.mp hnew)).symm
  · rw [hfails] at hcreate
    cases hcreate

theorem mem_objects_of_object? {handle : UInt16} {object : GraphicsObject}
    (h : context.object? handle = some object) : some object ∈ context.objects :=
  List.mem_of_getElem? (object?_eq_some_iff.mp h)

theorem WellFormed.select (h : context.WellFormed) (handle : UInt16) (scale : Scale) :
    (context.select handle scale).2.WellFormed := by
  unfold Context.select
  cases hobject : context.object? handle with
  | none => exact h
  | some object =>
    have hinstalled : (context.device.install handle object).WellFormed := by
      refine h.device.install handle fun font hfont => ?_
      exact h.fonts font (mem_objects_of_object? (hfont ▸ hobject))
    cases object with
    | region region => exact ⟨hinstalled.withClip (scale.valid_bounds _), h.saved, h.fonts⟩
    | pen | brush | font | palette => exact ⟨hinstalled, h.saved, h.fonts⟩

theorem WellFormed.delete (h : context.WellFormed) (handle : UInt16) :
    (context.delete handle).2.WellFormed := by
  refine ⟨?_, ?_, ?_⟩
  · rw [device_delete]
    exact h.device
  · rw [saved_delete]
    exact h.saved
  · rw [objects_delete]
    exact h.fonts_set nofun

theorem WellFormed.editPalette (h : context.WellFormed) (edit : Palette → Palette) :
    (context.editPalette edit).2.WellFormed := by
  refine ⟨?_, ?_, ?_⟩
  · unfold Context.editPalette
    split
    · exact h.device
    · exact h.device.of_eq rfl rfl
  · rw [saved_editPalette]
    exact h.saved
  · rcases context.objects_editPalette_cases edit with hsame | ⟨_, _, _, -, -, -, hedited⟩
    · rw [hsame]
      exact h.fonts
    · rw [hedited]
      exact h.fonts_set nofun

theorem WellFormed.useHandle (h : context.WellFormed) (use : HandleUse) (handle : UInt16)
    (scale : Scale) : (Replay.useHandle use handle scale context).WellFormed := by
  cases use with
  | select => exact h.select handle scale
  | delete => exact h.delete handle
  | selectPalette =>
    unfold Replay.useHandle
    dsimp only
    split
    · exact h.select handle scale
    · exact h

end Context

/-! ### Actions and records -/

namespace Action

variable {decoder : BitmapDecoder} {scale : Scale} {context context' : Context} {action : Action}

/-- An action leads from well-formed contexts to well-formed ones, as long as a record can hold the
font that it creates. -/
theorem wellFormed_next (h : context.WellFormed)
    (hfont : ∀ font, action = .createFont font → font.Storable)
    (hnext : action.next decoder scale context = .ok context') : context'.WellFormed := by
  -- All but the actions on the stack, the table and regions change the device context alone.
  cases action with
  | saveState =>
    cases hnext
    exact h.save
  | restoreState id => exact h.restore hnext
  | createFont font =>
    refine h.create ?_ hnext
    rintro other ⟨⟩
    exact hfont font rfl
  | createPen | createBrush | createPalette | createPatternBrush | createDibPatternBrush
  | createRegion => exact h.create (fun _ hother => by cases hother) hnext
  | useHandle use handle =>
    cases hnext
    exact h.useHandle use handle scale
  | editPalette | resizePalette =>
    cases hnext
    exact h.editPalette _
  | fillRegion | frameRegion =>
    obtain ⟨-, -, -, -, rfl⟩ := Context.lookups_eq_ok hnext
    exact h
  | useRegion use region =>
    cases hregion : context.region region with
    | error fault =>
      simp only [next, hregion] at hnext
      cases hnext
    | ok found =>
      simp only [next, hregion] at hnext
      cases use with
      | clip =>
        cases hnext
        exact h.withDevice (h.device.withClip (scale.valid_bounds _))
      | paint | invert =>
        cases hnext
        exact h
  | _ =>
    cases hnext
    exact h.withDevice (h.device.editDevice scale _)

end Action

/-- The font that a record describes has a height and a face name that a record can hold. -/
theorem Record.storable_of_decode {record : Record} {command : Command} {font : Font}
    (h : record.decode = .ok command) (hfont : command.action = .createFont font) :
    font.Storable := by
  -- Only the records of one type hold such an action, so the record was read as one of these.
  have htype := Record.type?_of_decode h
  rw [hfont] at htype
  obtain ⟨action, hread, rfl⟩ := (decode_eq_ok htype.symm).mp h
  obtain ⟨described, last, hdescribed, haction⟩ := Reader.of_run_bind_pure hread
  cases haction.symm.trans hfont
  exact Reader.storable_of_font hdescribed

namespace Player

variable {player : Player} {record : Record} {context : Context}

theorem wellFormed_after (h : context.WellFormed) : (player.after context record).WellFormed := by
  unfold after
  cases hnext : player.next record context with
  | error fault => exact h
  | ok context' =>
    unfold next at hnext
    cases hdecode : record.decode with
    | error fault =>
      rw [hdecode] at hnext
      cases hnext
    | ok command =>
      rw [hdecode] at hnext
      exact Action.wellFormed_next h (fun _ => Record.storable_of_decode hdecode) hnext

/-- A replay leads from well-formed contexts to well-formed ones. -/
theorem wellFormed_finish (h : context.WellFormed) (records : List Record) :
    (player.finish context records).WellFormed := by
  -- The context at the end is the one after the last record, unless that one has no part in it.
  induction records using List.reverseRecOn with
  | nil => exact h
  | append_singleton records record ih =>
    rcases player.finish_concat context records record with hsame | hafter
    · rwa [hsame]
    · rw [hafter]
      exact wellFormed_after ih

end Player

/-! ### Draw calls -/

/-- A colour without flags, which is no index into a palette. -/
def Color.Plain (color : Color) : Prop :=
  color.flags = 0

/-- A paint with plain colours. -/
def Paint.Plain : Paint → Prop
  | .solid color => color.Plain
  | .hatched _ color background => color.Plain ∧ ∀ color ∈ background, color.Plain
  | .pattern _ => True

/-- A stroke of at least one unit, in a plain colour. -/
structure Stroke.WellFormed (stroke : Stroke) : Prop where
  one_le_width : 1 ≤ stroke.width
  color : stroke.color.Plain

/-- A text of at least one unit, in plain colours. -/
structure TextRun.WellFormed (run : TextRun) : Prop where
  one_le_size : 1 ≤ run.size
  color : run.color.Plain
  background : ∀ color ∈ run.background, color.Plain

/-- A drawing whose lines and texts have at least one unit, and whose colours are plain. -/
def Drawing.WellFormed : Drawing → Prop
  | .fill _ paint _ => paint.Plain
  | .stroke _ style => style.WellFormed
  | .text run => run.WellFormed
  | .image _ _ => True

namespace Device

variable {device : Device} {drawing : Drawing}

theorem plain_resolve (device : Device) (color : Color) : (device.resolve color).Plain := by
  unfold resolve
  split
  · split
    · exact Color.flags_withoutFlags _
    · rfl
  · exact Color.flags_withoutFlags _

theorem plain_background? : ∀ color ∈ device.background?, color.Plain := by
  unfold background?
  split
  · rintro _ ⟨⟩
    exact device.plain_resolve _
  · nofun

theorem plain_paintOf? (brush : Brush) : ∀ paint ∈ device.paintOf? brush, paint.Plain := by
  cases brush with
  | null => nofun
  | solid color =>
    rintro _ ⟨⟩
    exact device.plain_resolve color
  | hatched hatch color =>
    rintro _ ⟨⟩
    exact ⟨device.plain_resolve color, plain_background?⟩
  | pattern image =>
    cases image with
    | none =>
      rintro _ ⟨⟩
      exact device.plain_resolve _
    | some image =>
      rintro _ ⟨⟩
      trivial

/-- Operations that paint black or white do so in plain colours. -/
theorem plain_operationPaint? (operation : UInt32) :
    ∀ paint ∈ Replay.operationPaint? operation device, paint.Plain := by
  unfold Replay.operationPaint?
  split_ifs
  · rintro _ ⟨⟩
    rfl
  · rintro _ ⟨⟩
    rfl
  · nofun
  · exact plain_paintOf? _

theorem wellFormed_stroke? (scale : Scale) :
    ∀ stroke ∈ device.stroke? scale, stroke.WellFormed := by
  unfold stroke?
  split
  · rintro _ ⟨⟩
    exact ⟨Int.le_max_left .., device.plain_resolve _⟩
  · nofun

theorem wellFormed_textRun (h : device.WellFormed) (scale : Scale) (origin : Point Int)
    (text : String) (advances : List Int) :
    (Replay.textRun device scale origin text advances).WellFormed := by
  -- Under any factor, a length of zero is the only one that vanishes.
  have hheight : device.font.height.toInt ≠ 0 := by
    have hpos := h.font.height_pos
    rw [Int16.lt_iff_toInt_lt, Int16.toInt_zero] at hpos
    exact Int.ne_of_gt hpos
  exact ⟨one_le_scaleLength hheight scale.y, device.plain_resolve _, plain_background?⟩

theorem wellFormed_filling (path : Path Float) (brush : Brush) (rule : FillRule) :
    ∀ drawing ∈ device.filling path brush rule, drawing.WellFormed := by
  intro drawing hdrawing
  obtain ⟨paint, hpaint, rfl⟩ := List.mem_map.mp hdrawing
  exact plain_paintOf? brush paint (Option.mem_toList.mp hpaint)

theorem wellFormed_stroking (scale : Scale) (path : Path Float) :
    ∀ drawing ∈ device.stroking scale path, drawing.WellFormed := by
  intro drawing hdrawing
  obtain ⟨stroke, hstroke, rfl⟩ := List.mem_map.mp hdrawing
  exact wellFormed_stroke? scale stroke (Option.mem_toList.mp hstroke)

theorem wellFormed_shape (scale : Scale) (path : Path Float) (filled : Bool) :
    ∀ drawing ∈ device.shape scale path filled, drawing.WellFormed := by
  refine List.forall_mem_append.mpr ⟨?_, wellFormed_stroking scale path⟩
  cases filled with
  | true => exact wellFormed_filling _ _ _
  | false => exact List.forall_mem_nil _

theorem wellFormed_blit (operation : UInt32) (target : Box) :
    ∀ drawing ∈ device.blit operation target, drawing.WellFormed := by
  intro drawing hdrawing
  obtain ⟨paint, hpaint, rfl⟩ := List.mem_map.mp hdrawing
  exact plain_operationPaint? operation paint (Option.mem_toList.mp hpaint)

end Device

namespace Action

variable {decoder : BitmapDecoder} {scale : Scale} {context : Context}

theorem wellFormed_imageOver (dib : Bytes) (target : Box) :
    ∀ drawing ∈ imageOver decoder dib target, drawing.WellFormed := by
  intro drawing hdrawing
  obtain ⟨image, -, rfl⟩ := List.mem_map.mp hdrawing
  trivial

/-- In a well-formed context, an action makes well-formed drawings. -/
theorem wellFormed_of_mem_drawings (h : context.WellFormed) (action : Action) :
    ∀ drawing ∈ action.drawings decoder scale context, drawing.WellFormed := by
  cases action with
  | text line origin =>
    exact List.forall_mem_singleton.mpr (Device.wellFormed_textRun h.device _ _ _ _)
  | lineTo point => exact Device.wellFormed_stroking _ _
  | boxFigure figure bounds => cases figure <;> exact Device.wellFormed_shape _ _ _
  | roundedBox | sector | polygons => exact Device.wellFormed_shape _ _ _
  | pointFigure figure points =>
    simp only [drawings]
    split
    · cases figure <;> exact Device.wellFormed_shape _ _ _
    · exact List.forall_mem_nil _
  | setPixel color point =>
    exact List.forall_mem_singleton.mpr (context.device.plain_resolve color)
  | patternBlit operation target => exact Device.wellFormed_blit _ _
  | fillRegion region brush =>
    simp only [drawings]
    split
    · exact Device.wellFormed_filling _ _ _
    · exact List.forall_mem_nil _
  | frameRegion region brush height width =>
    simp only [drawings]
    split
    · exact Device.wellFormed_filling _ _ _
    · exact List.forall_mem_nil _
  | useRegion use region =>
    cases use with
    | paint =>
      simp only [drawings]
      split
      · exact Device.wellFormed_filling _ _ _
      · exact List.forall_mem_nil _
    | invert | clip => exact List.forall_mem_nil _
  | bitBlit operation source target bitmap | stretchBlit operation source target bitmap =>
    cases bitmap with
    | none => exact Device.wellFormed_blit _ _
    | some bitmap => exact List.forall_mem_nil _
  | dibBitBlit operation source target dib | dibStretchBlit operation source target dib =>
    cases dib with
    | none => exact Device.wellFormed_blit _ _
    | some dib => exact wellFormed_imageOver _ _
  | setDibToDevice | stretchDib => exact wellFormed_imageOver _ _
  | _ => exact List.forall_mem_nil _

end Action

/-- A draw call with a well-formed drawing, and with a clip that is a box in 32 bits. -/
structure DrawCall.WellFormed (call : DrawCall) : Prop where
  drawing : call.drawing.WellFormed
  clip : ∀ box ∈ call.clip, box.Valid

namespace ExtendedText

variable {device : Device} {call : DrawCall}

theorem wellFormed_background (content : ExtendedText) (scale : Scale) :
    ∀ drawing ∈ content.background scale device, drawing.WellFormed := by
  intro drawing hdrawing
  unfold background at hdrawing
  split at hdrawing
  · obtain ⟨bounds, -, rfl⟩ := List.mem_map.mp hdrawing
    exact device.plain_resolve _
  · cases hdrawing

theorem wellFormed_characters (h : device.WellFormed) (content : ExtendedText) (scale : Scale) :
    ∀ drawing ∈ content.characters scale device, drawing.WellFormed := by
  unfold characters
  split
  · exact List.forall_mem_nil _
  · exact List.forall_mem_singleton.mpr (Device.wellFormed_textRun h _ _ _ _)

theorem valid_clip (h : device.WellFormed) (content : ExtendedText) (scale : Scale) :
    ∀ box ∈ content.clip scale device, box.Valid := by
  unfold clip
  split
  · split
    · intro box hbox
      obtain rfl := Option.some.inj hbox
      cases hclip : device.clip with
      | none => exact scale.valid_bounds _
      | some clip => exact (h.clip clip hclip).intersect (scale.valid_bounds _)
    · exact h.clip
  · exact h.clip

theorem wellFormed_of_mem_calls (h : device.WellFormed) {content : ExtendedText} {scale : Scale}
    (hcall : call ∈ content.calls scale device) : call.WellFormed := by
  rcases List.mem_append.mp hcall with hbehind | hfront
  · obtain ⟨drawing, hdrawing, rfl⟩ := List.mem_map.mp hbehind
    exact ⟨content.wellFormed_background scale drawing hdrawing, h.clip⟩
  · obtain ⟨drawing, hdrawing, rfl⟩ := List.mem_map.mp hfront
    exact ⟨content.wellFormed_characters h scale drawing hdrawing, content.valid_clip h scale⟩

end ExtendedText

/-- In a well-formed context, an action makes well-formed draw calls. -/
theorem Action.wellFormed_of_mem_calls {decoder : BitmapDecoder} {scale : Scale} {context : Context}
    (h : context.WellFormed) {action : Action} {call : DrawCall}
    (hcall : call ∈ action.calls decoder scale context) : call.WellFormed := by
  unfold calls at hcall
  split at hcall
  · exact ExtendedText.wellFormed_of_mem_calls h.device hcall
  · obtain ⟨drawing, hdrawing, rfl⟩ := List.mem_map.mp hcall
    exact ⟨wellFormed_of_mem_drawings h _ drawing hdrawing, h.device.clip⟩

/-! ### Sessions -/

namespace Session

variable {session : Session}

/-- A session with a well-formed context, and with well-formed draw calls on its canvas. -/
structure WellFormed (session : Session) : Prop where
  context : session.context.WellFormed
  calls : ∀ call ∈ session.canvas.calls.toList, call.WellFormed

/-- The sessions that replays lead to, one after the other. Between two replays the canvas may be
exchanged for a fresh one. -/
inductive Reached : Session → Prop
  | fresh : Reached ⟨.fresh, .fresh⟩
  | replayed {session : Session} (player : Player) (records : List Record)
      (h : Reached session) : Reached (player.play records session).2
  | renewed {session : Session} (h : Reached session) :
      Reached { session with canvas := .fresh }

theorem wellFormed_fresh {context : Context} (h : context.WellFormed) :
    Session.WellFormed ⟨context, .fresh⟩ :=
  ⟨h, List.forall_mem_nil _⟩

end Session

namespace Player

variable {player : Player} {record : Record} {context : Context} {session : Session}

theorem wellFormed_of_mem_calls (h : context.WellFormed) {call : DrawCall}
    (hcall : call ∈ player.calls record context) : call.WellFormed := by
  unfold calls at hcall
  cases hdecode : record.decode with
  | error fault =>
    rw [hdecode] at hcall
    cases hcall
  | ok command =>
    rw [hdecode] at hcall
    exact Action.wellFormed_of_mem_calls h hcall

/-- A draw call is made in the context after the records before its own, which is well formed. -/
theorem wellFormed_of_mem_made (h : context.WellFormed) {records : List Record} {made : MadeCall}
    (hmade : made ∈ player.made context records) : made.call.WellFormed := by
  obtain ⟨-, hbefore, hcall⟩ := of_mem_made hmade
  exact wellFormed_of_mem_calls (hbefore ▸ wellFormed_finish h _) hcall

/-- A replay leads from well-formed sessions to well-formed ones. -/
theorem wellFormed_play (h : session.WellFormed) (player : Player) (records : List Record) :
    (player.play records session).2.WellFormed := by
  constructor
  · obtain ⟨canvas, hplay, -⟩ := player.play_eq_course records session.context session.canvas
    rw [hplay, ← finish_eq_last]
    exact wellFormed_finish h.context records
  · rw [calls_play]
    refine List.forall_mem_append.mpr ⟨h.calls, ?_⟩
    rintro _ hcall
    obtain ⟨made, hmade, rfl⟩ := List.mem_map.mp hcall
    exact wellFormed_of_mem_made h.context hmade

end Player

/-- Whatever is replayed, with whatever player, the sessions that it leads to are well formed: no
clip has a negative size, a record can hold every font, no line or text is thinner or smaller than
one unit, and no colour of a draw call refers to a palette. -/
theorem Session.wellFormed_of_reached {session : Session} (h : session.Reached) :
    session.WellFormed := by
  induction h with
  | fresh => exact wellFormed_fresh Context.wellFormed_fresh
  | replayed player records _ ih => exact Player.wellFormed_play ih player records
  | renewed _ ih => exact wellFormed_fresh ih.context

/-- A text has at least one unit under factors that are no numbers, and in a font that was stored
with a height of zero. -/
theorem Session.wellFormed_of_reached_undefined_scale :
    let player : Player := ⟨.proceed, none, ⟨0 / 0, 0 / 0⟩, fun _ => .error .missingHeaderSize⟩
    ∃ transform clip run,
      (player.play [⟨0x02FB, [0, 0, 0, 0, 0, 0, 0, 0, 0]⟩, ⟨0x0521, [1, 65, 0, 0]⟩]
        ⟨.fresh, .fresh⟩).2.canvas.calls.toList = [⟨transform, clip, .text run⟩] ∧
      1 ≤ run.size := by
  intro player
  have hcalls : ∃ transform clip run,
      (player.play [⟨0x02FB, [0, 0, 0, 0, 0, 0, 0, 0, 0]⟩, ⟨0x0521, [1, 65, 0, 0]⟩]
        ⟨.fresh, .fresh⟩).2.canvas.calls.toList = [⟨transform, clip, .text run⟩] :=
    ⟨_, _, _, rfl⟩
  obtain ⟨transform, clip, run, hcalls⟩ := hcalls
  have hwell := (wellFormed_of_reached (.replayed player _ .fresh)).calls _
    (hcalls ▸ List.mem_singleton_self _)
  exact ⟨transform, clip, run, hcalls, hwell.drawing.one_le_size⟩

end WindowsMetafile
