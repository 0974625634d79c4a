import WindowsMetafile.Proofs.Boxes
import WindowsMetafile.Proofs.Course

/-!
# What draw calls are made under

The canvas keeps a transform and a clip of its own, which fall behind when a record changes the
mapping, the clip, or the whole device context. No draw call shows it: each one is made under the
transform and the clip that the device context has just before the record. There is one exception.
A text with options can ask to be clipped to its rectangle; its characters are then clipped to the
common part of the clip and the rectangle, and nothing else is.

## Main definitions

* `Box.common` — the common part of two boxes, by their corners
* `Action.narrowing?` — the rectangle that a drawing is clipped to besides

## Main results

* `Box.Valid.right_common`, `Box.Valid.bottom_common` — the common part has the corners named
* `Action.inForce_of_mem_calls` — what the calls of an action are made under
* `Player.play_inForce` — what the calls of a replay are made under
-/

namespace WindowsMetafile

namespace Box

/-- The common part of two boxes. The least corner has the greater coordinates of the least corners,
and the greatest one the lesser coordinates of the greatest corners; it is moved to the least corner
where the boxes do not meet. -/
def common (a b : Box) : Box :=
  let x := max a.x b.x
  let y := max a.y b.y
  let right := max x (min a.right b.right)
  let bottom := max y (min a.bottom b.bottom)
  ⟨x, y, right - x, bottom - y⟩

theorem common_eq_intersect (a b : Box) : a.common b = a.intersect b := by
  simp only [common, intersect, Box.mk.injEq, true_and]
  omega

theorem turned_common (a b : Box) : a.turned.common b.turned = (a.common b).turned := rfl

/-- The right side of the common part of two boxes does not wrap around: it is the lesser one of
their right sides, or the greater one of their left sides where the boxes do not meet. -/
theorem Valid.right_common {a b : Box} (ha : a.Valid) (hb : b.Valid) :
    (a.common b).right = max (max a.x b.x) (min a.right b.right) := by
  have hx := ha.le_x
  have hx' := ha.x_le
  have hbx := hb.x_le
  have hright := a.right_le
  have hreal : (a.common b).x + (a.common b).width = max (max a.x b.x) (min a.right b.right) := by
    simp only [common]
    omega
  rw [right, hreal]
  exact wrapAround_eq_self (by omega) (by omega)

theorem Valid.bottom_common {a b : Box} (ha : a.Valid) (hb : b.Valid) :
    (a.common b).bottom = max (max a.y b.y) (min a.bottom b.bottom) := by
  have hturned := ha.turned.right_common hb.turned
  rw [turned_common] at hturned
  exact hturned

end Box

/-- The clip of a device context, narrowed to a box if there is one. -/
def Device.clipWithin (device : Device) : Option Box → Option Box
  | none => device.clip
  | some box =>
    match device.clip with
    | none => some box
    | some clip => some (clip.common box)

theorem Device.clipWithin_some (device : Device) (box : Box) :
    device.clipWithin (some box) =
      some ((device.clip.map (·.intersect box)).getD box) := by
  unfold clipWithin
  cases device.clip with
  | none => rfl
  | some clip =>
    simp only [Option.map_some, Option.getD_some]
    rw [Box.common_eq_intersect]

namespace ExtendedText

/-- The rectangle that the characters of a text with options are clipped to, if they are to be
clipped and there is one. -/
def narrowing? (content : ExtendedText) (scale : Scale) : Option Box :=
  if clips content.options then content.bounds.map scale.bounds else none

theorem clipWithin_narrowing? (content : ExtendedText) (scale : Scale) (device : Device) :
    device.clipWithin (content.narrowing? scale) = content.clip scale device := by
  unfold narrowing? clip
  cases content.bounds with
  | none =>
    rw [Option.map_none, ite_self]
    rfl
  | some bounds =>
    by_cases hclips : clips content.options = true
    · rw [if_pos hclips, Option.map_some, Device.clipWithin_some]
      exact (if_pos hclips).symm
    · rw [if_neg hclips]
      exact (if_neg hclips).symm

end ExtendedText

namespace Action

/-- The rectangle that a drawing of an action is clipped to besides; only characters are. -/
def narrowing? (scale : Scale) : Action → Drawing → Option Box
  | .extendedText content, .text _ => content.narrowing? scale
  | _, _ => none

variable {decoder : BitmapDecoder} {scale : Scale} {context : Context} {call : DrawCall}

theorem narrowing?_of_background {content : ExtendedText} {drawing : Drawing} {device : Device}
    (h : drawing ∈ content.background scale device) :
    narrowing? scale (.extendedText content) drawing = none := by
  unfold ExtendedText.background at h
  split at h
  · obtain ⟨bounds, -, rfl⟩ := List.mem_map.mp h
    rfl
  · cases h

theorem narrowing?_of_characters {content : ExtendedText} {drawing : Drawing} {device : Device}
    (h : drawing ∈ content.characters scale device) :
    narrowing? scale (.extendedText content) drawing = content.narrowing? scale := by
  unfold ExtendedText.characters at h
  split at h
  · cases h
  · obtain rfl := List.mem_singleton.mp h
    rfl

/-- The calls of an action are made under the transform and the clip of the device context before
it, narrowed for a clipped text alone. -/
theorem inForce_of_mem_calls {action : Action} (h : call ∈ action.calls decoder scale context) :
    call.transform = context.device.transform ∧
      call.clip = context.device.clipWithin (action.narrowing? scale call.drawing) := by
  cases action with
  | extendedText content =>
    rcases List.mem_append.mp h with hback | hfront
    · obtain ⟨drawing, hdrawing, rfl⟩ := List.mem_map.mp hback
      refine ⟨rfl, ?_⟩
      change _ = context.device.clipWithin (narrowing? scale (.extendedText content) drawing)
      rw [narrowing?_of_background hdrawing]
      rfl
    · obtain ⟨drawing, hdrawing, rfl⟩ := List.mem_map.mp hfront
      refine ⟨rfl, ?_⟩
      change _ = context.device.clipWithin (narrowing? scale (.extendedText content) drawing)
      rw [narrowing?_of_characters hdrawing, ExtendedText.clipWithin_narrowing?]
  | _ =>
    obtain ⟨drawing, -, rfl⟩ := List.mem_map.mp h
    exact ⟨rfl, rfl⟩

end Action

/-- The rectangle that a drawing of a record is clipped to besides. -/
def Record.narrowing? (record : Record) (scale : Scale) (drawing : Drawing) : Option Box :=
  match record.decode with
  | .ok command => command.action.narrowing? scale drawing
  | .error _ => none

namespace Player

variable {player : Player} {record : Record} {context : Context} {call : DrawCall}

theorem inForce_of_mem_calls (h : call ∈ player.calls record context) :
    call.transform = context.device.transform ∧
      call.clip = context.device.clipWithin (record.narrowing? player.scale call.drawing) := by
  unfold calls at h
  unfold Record.narrowing?
  cases hdecode : record.decode with
  | error fault =>
    rw [hdecode] at h
    cases h
  | ok command =>
    rw [hdecode] at h
    exact Action.inForce_of_mem_calls h

/-- Whatever calls, transform and clip a canvas has before a replay, the replay adds the same calls
to it, one record after the other. Each of them is made by the record at its place, under the
transform and the clip of the device context at the time when the records before that place have
been replayed. Only the characters of a text that asks for it are clipped to its rectangle
besides. -/
theorem play_inForce (player : Player) (records : List Record) (context : Context)
    (canvas : Canvas) :
    let made := player.made context records
    let session (place : Nat) : Session := (player.play (records.take place) ⟨context, canvas⟩).2
    (player.play records ⟨context, canvas⟩).2.canvas.calls.toList =
        canvas.calls.toList ++ made.map MadeCall.call ∧
      (∀ place, (session place).canvas.calls.toList =
        canvas.calls.toList ++ (made.filter (·.index < place)).map MadeCall.call) ∧
      ∀ call ∈ made,
        let device := (session call.index).context.device
        records[call.index]? = some call.record ∧
        call.call.transform = device.transform ∧
        call.call.clip =
          device.clipWithin (call.record.narrowing? player.scale call.call.drawing) := by
  intro made session
  refine ⟨player.calls_play records context canvas, ?_, ?_⟩
  · intro place
    rw [player.calls_play, made_take]
  · intro call hcall device
    obtain ⟨hrecord, hbefore, hmade⟩ := of_mem_made hcall
    -- The context at a place does not depend on the canvas, so it may as well be a fresh one.
    have hdevice : device = call.before.device := by
      obtain ⟨canvas', hplay, -⟩ :=
        player.play_eq_course (records.take call.index) context canvas
      rw [← hbefore, finish_eq_last]
      simp only [device, session, hplay]
    rw [hdevice]
    exact ⟨hrecord, inForce_of_mem_calls hmade⟩

/-- A text that asks for it is clipped to its rectangle, and the text after it is not clipped. -/
theorem play_inForce_clipped_text :
    ∃ first second,
      (Player.mk .proceed none .identity fun _ => .ok ⟨0, 0, []⟩).made .fresh
          [⟨0x0A32, [0, 0, 1, 4, 0, 0, 9, 9, 65]⟩, ⟨0x0521, [1, 66, 0, 0]⟩] = [first, second] ∧
        first.call.clip = some (Scale.identity.bounds ⟨0, 0, 9, 9⟩) ∧
        second.call.clip = none := by
  have hmade : ∃ transform₁ clip₁ run₁ transform₂ clip₂ run₂,
      (Player.mk .proceed none .identity fun _ => .ok ⟨0, 0, []⟩).made .fresh
          [⟨0x0A32, [0, 0, 1, 4, 0, 0, 9, 9, 65]⟩, ⟨0x0521, [1, 66, 0, 0]⟩] =
        [⟨⟨0, ⟨0x0A32, [0, 0, 1, 4, 0, 0, 9, 9, 65]⟩, .fresh⟩, transform₁, clip₁, .text run₁⟩,
          ⟨⟨1, ⟨0x0521, [1, 66, 0, 0]⟩, .fresh⟩, transform₂, clip₂, .text run₂⟩] :=
    ⟨_, _, _, _, _, _, rfl⟩
  obtain ⟨transform₁, clip₁, run₁, transform₂, clip₂, run₂, hmade⟩ := hmade
  obtain ⟨-, -, hforce⟩ :=
    play_inForce (Player.mk .proceed none .identity fun _ => .ok ⟨0, 0, []⟩)
      [⟨0x0A32, [0, 0, 1, 4, 0, 0, 9, 9, 65]⟩, ⟨0x0521, [1, 66, 0, 0]⟩] .fresh .fresh
  rw [hmade] at hforce
  obtain ⟨-, -, hclip₁⟩ := hforce _ (.head _)
  obtain ⟨-, -, hclip₂⟩ := hforce _ (.tail _ (.head _))
  have hnarrow : Record.narrowing? ⟨0x0A32, [0, 0, 1, 4, 0, 0, 9, 9, 65]⟩ .identity (.text run₁) =
      some (Scale.identity.bounds ⟨0, 0, 9, 9⟩) := by
    have hclips : ExtendedText.clips 4 = true := by decide
    exact if_pos (e := none) hclips
  exact ⟨_, _, hmade, hclip₁.trans (congrArg (Device.clipWithin .fresh) hnarrow), hclip₂⟩

end Player

end WindowsMetafile
