import WindowsMetafile.Command.Action
import WindowsMetafile.Geometry.Scale

/-!
# Scaled geometry of commands

A command keeps the stored coordinates of its action and, beside them, the same coordinates under
the scale that it is replayed under. A new scale writes the scaled coordinates again. Extents of the
mapping and sizes of fonts and pens are not part of them: they are scaled where they are used.

## Main definitions

* `ScaledFields` — the scaled coordinates that a command keeps
* `Action.rescale` — writes the scaled coordinates of an action
* `Command` — an action, a scale, and the coordinates under it
* `Command.setScale` — the same command under another scale
* `Command.placement` — the scaled coordinates in use
-/

namespace WindowsMetafile

/-- The scaled coordinates that a command keeps. An action uses those of its own kind; the others
are never written. -/
structure ScaledFields where
  point : Point Int
  box : Box
  /-- The size of rounded corners. -/
  cornerWidth : Int
  cornerHeight : Int
  /-- The radial points of a sector. -/
  start : Point Int
  finish : Point Int
  points : List (Point Int)
  rings : List (List (Point Int))
  /-- The size of a frame. -/
  frameWidth : Int
  frameHeight : Int
  /-- The rectangle of a text with options. -/
  bounds : Option Box
  advances : List Int
  deriving DecidableEq, Repr

namespace ScaledFields

/-- The fields before they are written for the first time. -/
def blank : ScaledFields where
  point := ⟨0, 0⟩
  box := ⟨0, 0, 0, 0⟩
  cornerWidth := 0
  cornerHeight := 0
  start := ⟨0, 0⟩
  finish := ⟨0, 0⟩
  points := []
  rings := []
  frameWidth := 0
  frameHeight := 0
  bounds := none
  advances := []

end ScaledFields

/-- Writes the scaled coordinates of an action over earlier ones. -/
def Action.rescale (scale : Scale) (fields : ScaledFields) : Action → ScaledFields
  | .editMapping _ _ point | .offsetClip point | .moveTo point | .lineTo point
  | .setPixel _ point | .floodFill _ point | .extendedFloodFill _ _ point | .text _ point =>
    { fields with point := scale.point point }
  | .boxFigure _ bounds | .editClip _ bounds => { fields with box := scale.bounds bounds }
  | .patternBlit _ target | .bitBlit _ _ target _ | .stretchBlit _ _ target _
  | .dibBitBlit _ _ target _ | .dibStretchBlit _ _ target _ | .setDibToDevice _ _ _ _ target _
  | .stretchDib _ _ _ target _ => { fields with box := scale.area target }
  | .roundedBox bounds cornerWidth cornerHeight =>
    { fields with
      box := scale.bounds bounds
      cornerWidth := scale.width cornerWidth.toInt
      cornerHeight := scale.height cornerHeight.toInt }
  | .sector _ bounds start finish =>
    { fields with
      box := scale.bounds bounds
      start := scale.point start
      finish := scale.point finish }
  | .pointFigure _ points => { fields with points := points.map scale.point }
  | .polygons rings => { fields with rings := rings.map (List.map scale.point) }
  | .frameRegion _ _ height width =>
    { fields with
      frameWidth := scale.width width.toInt
      frameHeight := scale.height height.toInt }
  | .extendedText content =>
    { fields with
      point := scale.point content.origin
      bounds := content.bounds.map scale.bounds
      advances := content.advances.map fun advance => scale.width advance.toInt }
  | _ => fields

/-- An action together with a scale and the coordinates under it. -/
structure Command where
  scale : Scale
  action : Action
  scaled : ScaledFields
  deriving Repr

namespace Command

/-- The command with its scaled coordinates written again. -/
def rescaled (command : Command) : Command :=
  { command with scaled := command.action.rescale command.scale command.scaled }

/-- A freshly read command, in stored coordinates. -/
def ofAction (action : Action) : Command :=
  rescaled ⟨.identity, action, .blank⟩

/-- The same command under another scale. -/
def setScale (command : Command) (x y : Float) : Command :=
  rescaled { command with scale := ⟨x, y⟩ }

variable {action action' : Action}

/-- A freshly read command is made of nothing but its action. -/
@[simp] theorem ofAction_inj : ofAction action = ofAction action' ↔ action = action' :=
  ⟨congrArg Command.action, congrArg ofAction⟩

end Command

/-- The scaled coordinates of an action. -/
inductive Placement
  /-- No coordinates. -/
  | nothing
  | point (point : Point Int)
  | box (box : Box)
  /-- A box with the size of its rounded corners. -/
  | rounded (box : Box) (cornerWidth cornerHeight : Int)
  /-- A box with two radial points. -/
  | sector (box : Box) (start finish : Point Int)
  | points (points : List (Point Int))
  | rings (rings : List (List (Point Int)))
  /-- The width and height of a frame. -/
  | size (width height : Int)
  /-- The position, rectangle and advances of a text. -/
  | text (origin : Point Int) (bounds : Option Box) (advances : List Int)
  deriving DecidableEq, Repr

/-- The scaled coordinates that are in use for an action. -/
def ScaledFields.placement (fields : ScaledFields) : Action → Placement
  | .editMapping _ _ _ | .offsetClip _ | .moveTo _ | .lineTo _ | .setPixel _ _ | .floodFill _ _
  | .extendedFloodFill _ _ _ | .text _ _ => .point fields.point
  | .boxFigure _ _ | .editClip _ _ | .patternBlit _ _ | .bitBlit _ _ _ _ | .stretchBlit _ _ _ _
  | .dibBitBlit _ _ _ _ | .dibStretchBlit _ _ _ _ | .setDibToDevice _ _ _ _ _ _
  | .stretchDib _ _ _ _ _ => .box fields.box
  | .roundedBox _ _ _ => .rounded fields.box fields.cornerWidth fields.cornerHeight
  | .sector _ _ _ _ => .sector fields.box fields.start fields.finish
  | .pointFigure _ _ => .points fields.points
  | .polygons _ => .rings fields.rings
  | .frameRegion _ _ _ _ => .size fields.frameWidth fields.frameHeight
  | .extendedText _ => .text fields.point fields.bounds fields.advances
  | _ => .nothing

/-- The scaled coordinates that are in use for a command. -/
def Command.placement (command : Command) : Placement :=
  command.scaled.placement command.action

end WindowsMetafile
