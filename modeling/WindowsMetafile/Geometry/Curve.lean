import WindowsMetafile.Geometry.Path
import WindowsMetafile.Geometry.Scale

/-!
# Curved outlines

Elliptic arcs become cubic curves. The number of curves grows with the sixth root of the radius, so
that no curve is further from the arc than a tenth of a unit.

## Main definitions

* `arcCurves` — the curves along an elliptic arc
* `Box.ellipse`, `Box.rounded` — the ellipse and the rounded rectangle in a box
* `Box.sector` — the part of an ellipse between two radial points: open, closed by its chord, or
  closed through the centre
-/

namespace WindowsMetafile

/-- The ratio of a circle to its diameter. -/
def pi : Float := 3.141592653589793

/-- A full turn. -/
def fullTurn : Float := 6.283185307179586

/-- A quarter turn. -/
def quarterTurn : Float := 1.5707963267948966

/-- The greatest distance between an arc and its curves. -/
def curveTolerance : Float := 0.1

def greater (a b : Float) : Float :=
  if a < b then b else a

def lesser (a b : Float) : Float :=
  if b < a then b else a

namespace Point

def add (p q : Point Float) : Point Float := ⟨p.x + q.x, p.y + q.y⟩

def sub (p q : Point Float) : Point Float := ⟨p.x - q.x, p.y - q.y⟩

def scaleBy (factor : Float) (p : Point Float) : Point Float :=
  ⟨factor * p.x, factor * p.y⟩

end Point

/-- The point at an angle of the ellipse around the origin with the given radii, turned by
`rotation`. -/
def ellipsePoint (radii : Point Float) (rotation angle : Float) : Point Float :=
  let u := radii.x * angle.cos
  let v := radii.y * angle.sin
  ⟨u * rotation.cos - v * rotation.sin, u * rotation.sin + v * rotation.cos⟩

/-- The number of curves along an arc. -/
def arcCurveCount (radii : Point Float) (sweep : Float) : Float :=
  let perTurn :=
    -- In this order, a root that is no number gives the least count.
    greater 3.999999 ((1.1163 * (greater radii.x radii.y / curveTolerance)).pow (1.0 / 6.0))
  (perTurn * sweep.abs * (1.0 / (2.0 * pi))).ceil

def arcCurvesFrom (center radii : Point Float) (rotation step arm : Float) :
    Nat → Float → Point Float → Path Float
  | 0, _, _ => []
  | remaining + 1, angle, start =>
    let next := angle + step
    let first := start.add ((ellipsePoint radii rotation (angle + quarterTurn)).scaleBy arm)
    let finish := ellipsePoint radii rotation next
    let second := finish.sub ((ellipsePoint radii rotation (next + quarterTurn)).scaleBy arm)
    .curve (center.add first) (center.add second) (center.add finish) ::
      arcCurvesFrom center radii rotation step arm remaining next finish

/-- The curves along the arc that starts at an angle and runs over the angle `sweep`. -/
def arcCurves (center radii : Point Float) (rotation start sweep : Float) : Path Float :=
  let count := arcCurveCount radii sweep
  let step := sweep / count
  let sign := if sweep < 0.0 then -1.0 else 1.0
  let arm := (4.0 / 3.0) * (0.25 * step).abs.tan * sign
  arcCurvesFrom center radii rotation step arm count.toUInt64.toNat start
    (ellipsePoint radii rotation start)

namespace Box

/-- The centre of a box. -/
def center (box : Box) : Point Float :=
  ⟨0.5 * (Float.ofInt box.x + Float.ofInt box.right),
    0.5 * (Float.ofInt box.y + Float.ofInt box.bottom)⟩

/-- The half width and the half height of a box, as its sides give them. -/
def radii (box : Box) : Point Float :=
  ⟨(Float.ofInt box.right - Float.ofInt box.x) / 2.0,
    (Float.ofInt box.bottom - Float.ofInt box.y) / 2.0⟩

/-- The ellipse in a box, drawn along its longer axis. The outline ends where it started and is not
closed by a step of its own. -/
def ellipse (box : Box) : Path Float :=
  let center := box.center
  let across := box.radii.x.abs
  let down := box.radii.y.abs
  let rotation := if across < down then quarterTurn else 0.0
  let radii : Point Float := ⟨greater across down, lesser across down⟩
  .move (center.add (ellipsePoint radii rotation 0.0)) ::
    arcCurves center radii rotation 0.0 (2.0 * pi)

/-- The box with its corners rounded by quarter circles of at most half the shorter side. -/
def rounded (box : Box) (radius : Float) : Path Float :=
  let x0 := Float.ofInt (min box.x box.right)
  let y0 := Float.ofInt (min box.y box.bottom)
  let x1 := Float.ofInt (max box.x box.right)
  let y1 := Float.ofInt (max box.y box.bottom)
  let r := lesser radius.abs (lesser (x1 - x0) (y1 - y0) / 2.0)
  let corner (x y : Float) (quarter : Float) : Path Float :=
    arcCurves ⟨x, y⟩ ⟨r, r⟩ 0.0 (quarterTurn * quarter) quarterTurn
  [.move ⟨x0, y0 + r⟩] ++ corner (x0 + r) (y0 + r) 2.0 ++
    [.line ⟨x1 - r, y0⟩] ++ corner (x1 - r) (y0 + r) 3.0 ++
    [.line ⟨x1, y1 - r⟩] ++ corner (x1 - r) (y1 - r) 0.0 ++
    [.line ⟨x0 + r, y1⟩] ++ corner (x0 + r) (y1 - r) 1.0 ++ [.close]

end Box

/-- How the part of an ellipse between two radial points is closed. -/
inductive ArcClosing
  /-- Not closed, the bare arc. -/
  | bare
  /-- Closed by a straight line between its ends. -/
  | chord
  /-- Closed by lines to the centre. -/
  | pie
  deriving DecidableEq, Repr

/-- The least radius that an angle is measured with. -/
def leastRadius : Float := 2.220446049250313e-16

/-- The part of the ellipse in a box that runs counter-clockwise on the screen from the direction of
one point to the direction of another; equal directions give the whole ellipse. -/
def Box.sector (box : Box) (start finish : Point Int) (closing : ArcClosing) : Path Float :=
  let center := box.center
  let radii := box.radii
  let angleOf (p : Point Int) : Float :=
    let away := p.toFloat.sub center
    Float.atan2 (away.y / greater radii.y leastRadius) (away.x / greater radii.x leastRadius)
  let startAngle := angleOf start
  let difference := angleOf finish - startAngle
  let sweep := if difference < 0.0 then difference else difference - fullTurn
  let first := center.add ⟨radii.x * startAngle.cos, radii.y * startAngle.sin⟩
  let lead : Path Float :=
    match closing with
    | .pie => [.move center, .line first]
    | _ => [.move first]
  let tail : Path Float := if closing = .bare then [] else [.close]
  lead ++ arcCurves center radii 0.0 startAngle sweep ++ tail

end WindowsMetafile
