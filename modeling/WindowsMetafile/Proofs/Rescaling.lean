import WindowsMetafile.Command.Decode
import WindowsMetafile.Command.Encode

/-!
# Commands under one scale after another

A command can be scaled any number of times. Each scale writes all the coordinates that the action
has, and writes them from the stored ones. So nothing is left of an earlier scale, the stored
coordinates never change, and the scale of one undoes all the others.

## Main definitions

* `Command.setScales` — the same command under several scales, one after another

## Main results

* `Action.rescale_rescale` — coordinates that are written again replace all earlier ones
* `Command.setScale_setScale`, `Command.setScales_concat` — only the last scale counts
* `Record.setScales_of_decode` — a command that was scaled is one that is read and scaled once
-/

namespace WindowsMetafile

/-- An action writes none or all of the coordinates that it has. -/
theorem Action.rescale_rescale (action : Action) (scale scale' : Scale) (fields : ScaledFields) :
    action.rescale scale' (action.rescale scale fields) = action.rescale scale' fields := by
  -- Each kind writes the same coordinates both times, and it never reads them.
  cases action <;> rfl

namespace Command

/-- The same command under several scales, one after another. -/
def setScales (scales : List Scale) (command : Command) : Command :=
  scales.foldl (fun command scale => command.setScale scale.x scale.y) command

/-- A new scale leaves nothing of the one before. -/
theorem setScale_setScale (command : Command) (x y x' y' : Float) :
    (command.setScale x y).setScale x' y' = command.setScale x' y' :=
  congrArg (Command.mk ⟨x', y'⟩ command.action) (Action.rescale_rescale ..)

/-- After several scales, the last of them is all that counts. -/
theorem setScales_concat (command : Command) (scales : List Scale) (x y : Float) :
    command.setScales (scales ++ [⟨x, y⟩]) = command.setScale x y := by
  induction scales generalizing command with
  | nil => rfl
  | cons scale scales ih =>
    calc
      (command.setScale scale.x scale.y).setScales (scales ++ [⟨x, y⟩])
        = (command.setScale scale.x scale.y).setScale x y := ih _
      _ = command.setScale x y := command.setScale_setScale ..

/-- A command that was read has what its action writes, whatever the scale. -/
theorem setScale_ofAction (action : Action) (x y : Float) :
    (ofAction action).setScale x y = ⟨⟨x, y⟩, action, action.rescale ⟨x, y⟩ .blank⟩ :=
  congrArg (Command.mk ⟨x, y⟩ action) (action.rescale_rescale ..)

end Command

namespace Record

variable {record : Record} {expected : UInt16} {command : Command}

theorem eq_ofAction_of_decodeAs (h : record.decodeAs expected = .ok command) :
    command = .ofAction command.action := by
  rw [decodeAs] at h
  cases haction : record.actionAs expected with
  | error fault =>
    rw [haction] at h
    cases h
  | ok action =>
    rw [haction] at h
    cases h
    rfl

/-- A command that was read and then scaled several times has its stored coordinates, the last
scale, and what its action writes under that scale. It is the command that is read again and scaled
once. It is written as it was before, and the scale of one makes it the command that was read. -/
theorem setScales_of_decode (h : record.decodeAs expected = .ok command) (scales : List Scale)
    (x y : Float) :
    let scaled := command.setScales (scales ++ [⟨x, y⟩])
    scaled = ⟨⟨x, y⟩, command.action, command.action.rescale ⟨x, y⟩ .blank⟩ ∧
      (record.decodeAs expected).map (·.setScale x y) = .ok scaled ∧
      scaled.encode = command.encode ∧
      scaled.setScale 1.0 1.0 = command := by
  intro scaled
  have hread := eq_ofAction_of_decodeAs h
  have hlast : scaled = command.setScale x y := command.setScales_concat scales x y
  have hwritten (x y : Float) :
      command.setScale x y = ⟨⟨x, y⟩, command.action, command.action.rescale ⟨x, y⟩ .blank⟩ := by
    rw [hread]
    exact Command.setScale_ofAction ..
  refine ⟨hlast.trans (hwritten x y), ?_, ?_, ?_⟩
  · rw [h, hlast]
    rfl
  · rw [hlast]
    rfl
  · calc
      scaled.setScale 1.0 1.0
        = command.setScale 1.0 1.0 := by rw [hlast, Command.setScale_setScale]
      _ = ⟨.identity, command.action, command.action.rescale .identity .blank⟩ := hwritten 1.0 1.0
      _ = command := hread.symm

/-- A text with a rectangle and two advances, under two scales. -/
theorem setScales_of_decode_text :
    let record : Record := ⟨0x0A32, [5, 7, 2, 2, 0, 0, 20, 10, 0x6948, 3, 4]⟩
    let command := Command.ofAction
      (.extendedText ⟨⟨7, 5⟩, 2, some ⟨0, 0, 20, 10⟩, "Hi", [3, 4]⟩)
    let scaled := command.setScales [⟨3.0, 0.5⟩, ⟨2.0, 0.25⟩]
    record.decodeAs 0x0A32 = .ok command ∧
      (record.decodeAs 0x0A32).map (·.setScale 2.0 0.25) = .ok scaled ∧
      scaled.encode = command.encode ∧ scaled.setScale 1.0 1.0 = command := by
  intro record command scaled
  have hread : record.decodeAs 0x0A32 = .ok command := rfl
  exact ⟨hread, (setScales_of_decode hread [⟨3.0, 0.5⟩] 2.0 0.25).2⟩

end Record

end WindowsMetafile
