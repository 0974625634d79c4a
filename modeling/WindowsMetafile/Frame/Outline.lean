import WindowsMetafile.Geometry.Affine
import WindowsMetafile.Geometry.Curve
import WindowsMetafile.Playback.Canvas

/-!
# Outlines of shapes

Paths are brought to straight lines, and strokes to polygons: one for each line, one for each
corner, and one for each end.

## Main definitions

* `Trace`, `Path.traces` — the connected parts of a path with straight lines only
* `Trace.dashes` — the dashes along a part
* `Stroke.polygons` — the polygons that a stroke covers
-/

namespace WindowsMetafile

/-- The corners of a polygon. -/
abbrev Polygon := List (Point Float)

/-- A connected part of a path. -/
structure Trace where
  points : List (Point Float)
  closed : Bool
  deriving Repr

/-! ### Straight lines -/

/-- The number of lines that a curve is brought to. -/
def curveLines : Nat := 16

/-- The point of a cubic curve at a fraction of its way. -/
def curvePoint (p q r s : Point Float) (t : Float) : Point Float :=
  let u := 1.0 - t
  ((p.scaleBy (u * u * u)).add (q.scaleBy (3.0 * u * u * t))).add
    ((r.scaleBy (3.0 * u * t * t)).add (s.scaleBy (t * t * t)))

/-- The points along a cubic curve, without its first one. -/
def curvePoints (p q r s : Point Float) : List (Point Float) :=
  (List.range curveLines).map fun index =>
    curvePoint p q r s (Float.ofNat (index + 1) / Float.ofNat curveLines)

/-- The parts of a path so far, and the points of the current part, both last one first. -/
structure Tracing where
  finished : List Trace
  current : List (Point Float)

namespace Tracing

/-- Ends the current part, if it has points. -/
def finish (tracing : Tracing) (closed : Bool) : List Trace :=
  if tracing.current.isEmpty then tracing.finished
  else ⟨tracing.current.reverse, closed⟩ :: tracing.finished

/-- Takes one step of a path. After a closing step, lines go on from where the part started. -/
def step (tracing : Tracing) : PathStep Float → Tracing
  | .move target => ⟨tracing.finish false, [target]⟩
  | .line target => { tracing with current := target :: tracing.current }
  | .curve q r s =>
    match tracing.current with
    | [] => { tracing with current := [s] }
    | p :: _ => { tracing with current := (curvePoints p q r s).reverse ++ tracing.current }
  | .close => ⟨tracing.finish true, (tracing.current.getLast?.map fun start => [start]).getD []⟩

end Tracing

/-- The connected parts of a path. -/
def Path.traces (path : Path Float) : List Trace :=
  ((path.foldl Tracing.step ⟨[], []⟩).finish false).reverse

/-! ### Dashes -/

/-- The distance between two points. -/
def distance (p q : Point Float) : Float :=
  let away := q.sub p
  (away.x * away.x + away.y * away.y).sqrt

/-- A part while it is cut into dashes. -/
structure Dashing where
  /-- The finished dashes, last one first. -/
  finished : List (List (Point Float))
  /-- The points of the current dash, last one first; there are none in a gap. -/
  current : Option (List (Point Float))
  /-- What is left of the current dash or gap. -/
  left : Float
  /-- The lengths after it, up to the end of the pattern. -/
  next : List Float

namespace Dashing

/-- Ends the current dash at a point, or begins one there. -/
def turn (pattern : List Float) (place : Point Float) (dashing : Dashing) : Dashing :=
  let (left, next) :=
    match dashing.next, pattern with
    | left :: next, _ => (left, next)
    | [], left :: next => (left, next)
    | [], [] => (0.0, [])
  match dashing.current with
  | some points => ⟨(place :: points).reverse :: dashing.finished, none, left, next⟩
  | none => ⟨dashing.finished, some [place], left, next⟩

/-- Goes along a straight line. -/
def along (pattern : List Float) : Nat → Point Float → Point Float → Dashing → Dashing
  | 0, _, _, dashing => dashing
  | fuel + 1, start, finish, dashing =>
    let length := distance start finish
    if dashing.left < length then
      let cut := start.add ((finish.sub start).scaleBy (dashing.left / length))
      along pattern fuel cut finish (dashing.turn pattern cut)
    else
      { dashing with
        current := dashing.current.map (finish :: ·)
        left := dashing.left - length }

end Dashing

/-- The lines between neighbouring points. -/
def linesThrough (points : List (Point Float)) : List (Point Float × Point Float) :=
  points.zip (points.drop 1)

/-- The points of a part with the first one repeated at the end when the part is closed. -/
def Trace.round (trace : Trace) : List (Point Float) :=
  match trace.closed, trace.points with
  | true, first :: rest => first :: rest ++ [first]
  | _, points => points

/-- The dashes along a part. In a closed part, a dash that runs through its start is one piece; a
closed part inside a single dash stays as it is. -/
def Trace.dashes (pattern : List Float) (trace : Trace) : List Trace :=
  match pattern, trace.points with
  | left :: next, start :: _ =>
    let walk (dashing : Dashing) (line : Point Float × Point Float) : Dashing :=
      Dashing.along pattern ((distance line.1 line.2).toUInt64.toNat + 2) line.1 line.2 dashing
    let walked := (linesThrough trace.round).foldl walk ⟨[], some [start], left, next⟩
    match walked.current.map List.reverse, walked.finished.reverse with
    | some last, [] => if trace.closed then [trace] else [⟨last, false⟩]
    | some last, first :: middle =>
      if trace.closed then ⟨last ++ first.drop 1, false⟩ :: middle.map (⟨·, false⟩)
      else (first :: middle ++ [last]).map (⟨·, false⟩)
    | none, finished => finished.map (⟨·, false⟩)
  | _, _ => [trace]

/-! ### Strokes -/

/-- The direction of a line turned by a right angle, with a given length. -/
def normal (length : Float) (p q : Point Float) : Point Float :=
  let away := q.sub p
  let factor := length / distance p q
  ⟨-away.y * factor, away.x * factor⟩

/-- The rectangle around a line. -/
def lineQuad (half : Float) (p q : Point Float) : Polygon :=
  let n := normal half p q
  [p.sub n, q.sub n, q.add n, p.add n]

/-- The corners of a disc. -/
def discCorners : Nat := 32

/-- A disc around a point. -/
def disc (half : Float) (p : Point Float) : Polygon :=
  (List.range discCorners).map fun index =>
    let angle := fullTurn * Float.ofNat index / Float.ofNat discCorners
    p.add ⟨half * angle.cos, half * angle.sin⟩

/-- What an end adds to the line that comes from `p` and ends at `q`. -/
def capPolygons (cap : LineCap) (half : Float) (p q : Point Float) : List Polygon :=
  match cap with
  | .flat => []
  | .round => [disc half q]
  | .square =>
    let n := normal half p q
    let onward : Point Float := ⟨n.y, -n.x⟩
    [[q.sub n, (q.sub n).add onward, (q.add n).add onward, q.add n]]

/-- How long a pointed corner may be, in multiples of half the width. -/
def miterLimit : Float := 4.0

/-- What the corner at `q` adds to the lines before and after it. -/
def joinPolygons (join : LineJoin) (half : Float) (p q r : Point Float) : List Polygon :=
  let before := q.sub p
  let after := r.sub q
  let cross := before.x * after.y - before.y * after.x
  let dot := before.x * after.x + before.y * after.y
  let outward (n : Point Float) : Point Float := if 0.0 < cross then q.sub n else q.add n
  let first := outward (normal half p q)
  let second := outward (normal half q r)
  match join with
  | .round => [disc half q]
  | .bevel => [[q, first, second]]
  | .miter =>
    let hypotenuse := (cross * cross + dot * dot).sqrt
    if cross != 0.0 && 2.0 * hypotenuse < (hypotenuse + dot) * miterLimit * miterLimit then
      let between := second.sub first
      let way := (before.x * between.y - before.y * between.x) / cross
      [[q, first, second.sub (after.scaleBy way), second]]
    else [[q, first, second]]

/-- A list of points without those that repeat the one before. -/
def withoutRepeats : List (Point Float) → List (Point Float)
  | p :: q :: rest =>
    if p.x == q.x && p.y == q.y then withoutRepeats (p :: rest)
    else p :: withoutRepeats (q :: rest)
  | points => points

/-- The polygons that a stroke along a part covers. A part that stays at one point has none. -/
def Trace.strokePolygons (stroke : Stroke) (trace : Trace) : List Polygon :=
  let half := Float.ofInt stroke.width / 2.0
  let points := withoutRepeats trace.round
  let lines := linesThrough points
  match lines, lines.getLast? with
  | (p, q) :: _, some (r, s) =>
    let quads := lines.map fun (p, q) => lineQuad half p q
    let joins := (lines.zip (lines.drop 1)).flatMap fun ((p, q), (_, r)) =>
      joinPolygons stroke.join half p q r
    let ends :=
      if trace.closed then joinPolygons stroke.join half r s q
      else capPolygons stroke.cap half q p ++ capPolygons stroke.cap half r s
    quads ++ joins ++ ends
  | _, _ => []

/-- The polygons that a stroke along a path covers. -/
def Stroke.polygons (stroke : Stroke) (path : Path Float) : List Polygon :=
  let pattern := stroke.dashes.map Float.ofInt
  (path.traces.flatMap (Trace.dashes pattern)).flatMap (Trace.strokePolygons stroke)

end WindowsMetafile
