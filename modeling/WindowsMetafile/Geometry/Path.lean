import WindowsMetafile.Geometry.Basic

/-!
# Paths

A path is a list of steps: move, straight line, cubic curve, and close. Straight outlines of scaled
points have integer coordinates; curves have floating point coordinates. `Path.map` takes the first
into the second.

## Main definitions

* `PathStep`, `Path` — steps and paths over any kind of coordinates
* `Box.outline`, `polyline`, `ring` — straight outlines
* `Path.toFloat` — the same outline with floating point coordinates
-/

namespace WindowsMetafile

/-- One step of a path. -/
inductive PathStep (α : Type)
  /-- Start a new part at a point. -/
  | move (target : Point α)
  /-- A straight line. -/
  | line (target : Point α)
  /-- A cubic curve with two control points. -/
  | curve (control₁ control₂ target : Point α)
  /-- A straight line back to where the part started. -/
  | close
  deriving DecidableEq, Repr

/-- A path over one kind of coordinates. -/
abbrev Path (α : Type) := List (PathStep α)

def Point.map {α β : Type} (f : α → β) (p : Point α) : Point β :=
  ⟨f p.x, f p.y⟩

def PathStep.map {α β : Type} (f : α → β) : PathStep α → PathStep β
  | .move p => .move (p.map f)
  | .line p => .line (p.map f)
  | .curve p q r => .curve (p.map f) (q.map f) (r.map f)
  | .close => .close

/-- An integer point with floating point coordinates. -/
def Point.toFloat (p : Point Int) : Point Float :=
  p.map Float.ofInt

/-- An integer path with floating point coordinates. -/
def Path.toFloat (path : Path Int) : Path Float :=
  path.map (PathStep.map Float.ofInt)

/-- The closed outline of a box, clockwise from its least corner. -/
def Box.outline (box : Box) : Path Int :=
  [.move ⟨box.x, box.y⟩, .line ⟨box.right, box.y⟩, .line ⟨box.right, box.bottom⟩,
    .line ⟨box.x, box.bottom⟩, .close]

/-- The open path through a list of points. -/
def polyline : List (Point Int) → Path Int
  | [] => []
  | first :: rest => .move first :: rest.map .line

/-- The closed path through a list of points. -/
def ring : List (Point Int) → Path Int
  | [] => []
  | points => polyline points ++ [.close]

end WindowsMetafile
