import WindowsMetafile.Metafile.Basic
import WindowsMetafile.Settings.Basic

/-!
# The size of a frame

A picture has a logical size, from its placeable header or else from the first record that sets
the window extent, and a natural size in pixels. The settings choose the size of the frame, and the
frame over the logical size gives the scale of the replay.

## Main definitions

* `Metafile.logicalSize?`, `Metafile.naturalSize?` — the two sizes of a picture
* `Metafile.frameSize` — the frame and the scale under some settings
-/

namespace WindowsMetafile

/-- A width and a height. -/
structure Size where
  width : Float
  height : Float
  deriving Repr

/-- A frame in whole pixels, with the scale from logical units to it. -/
structure FrameSize where
  width : Nat
  height : Nat
  scale : Scale
  deriving Repr

namespace Metafile

/-- The width and height that a window extent record gives, without their signs. -/
def windowExtent? (record : Record) : Option (Nat × Nat) :=
  match record.params with
  | height :: width :: _ => some (width.toInt16.toInt.natAbs, height.toInt16.toInt.natAbs)
  | _ => none

/-- The logical size: that of the placeable bounds, or that of the first window extent record. -/
def logicalSize? (metafile : Metafile) : Option (Nat × Nat) :=
  match metafile.bounds? with
  | some bounds => some (bounds.width, bounds.height)
  | none =>
    (metafile.records.find? fun record => record.opcode == RecordType.setWindowExt.opcode).bind
      windowExtent?

/-- The pixels to an inch of a frame of natural size. -/
def pixelsPerInch : Float := 96.0

/-- The natural size in pixels. It needs bounds that are not flat; without units to an inch, units
are pixels. -/
def naturalSize? (metafile : Metafile) : Option Size := do
  let placeable ← metafile.placeable
  let width := placeable.bounds.width
  let height := placeable.bounds.height
  if width = 0 ∨ height = 0 then none
  else if placeable.unitsPerInch = 0 then
    return ⟨Float.ofNat width, Float.ofNat height⟩
  else
    let pixels := pixelsPerInch / Float.ofNat placeable.unitsPerInch.toNat
    return ⟨Float.ofNat width * pixels, Float.ofNat height * pixels⟩

/-- The size that some settings choose: one side that is not given follows from the natural size. -/
def chosenSize (settings : Settings) (natural : Size) : Size :=
  match settings.width, settings.height with
  | some width, some height => ⟨Float.ofNat width, Float.ofNat height⟩
  | some width, none =>
    let width := Float.ofNat width
    ⟨width, width * natural.height / natural.width⟩
  | none, some height =>
    let height := Float.ofNat height
    ⟨height * natural.width / natural.height, height⟩
  | none, none => ⟨natural.width * settings.scale, natural.height * settings.scale⟩

/-- The greatest width and height of a frame. -/
def greatestSide : Float := 65535.0

/-- A side in whole pixels: at least one, and at most the greatest side. -/
def wholeSide (side : Float) : Nat :=
  let rounded := side.round
  let cut :=
    if rounded < 1.0 then 1.0 else if greatestSide < rounded then greatestSide else rounded
  cut.toUInt32.toNat

/-- The frame and the scale under some settings. A picture without a logical size, or with a flat
one, has no frame. -/
def frameSize (metafile : Metafile) (settings : Settings) : Except Fault FrameSize :=
  match metafile.logicalSize? with
  | none => .error (.header .noPictureSize)
  | some (logicalWidth, logicalHeight) =>
    if logicalWidth = 0 ∨ logicalHeight = 0 then .error (.header .noPictureSize)
    else
      let logical : Size := ⟨Float.ofNat logicalWidth, Float.ofNat logicalHeight⟩
      let chosen := chosenSize settings (metafile.naturalSize?.getD logical)
      let width := wholeSide chosen.width
      let height := wholeSide chosen.height
      .ok {
        width, height
        scale := ⟨Float.ofNat width / logical.width, Float.ofNat height / logical.height⟩ }

end Metafile

end WindowsMetafile
