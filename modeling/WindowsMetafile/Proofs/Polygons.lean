import WindowsMetafile.Proofs.Effect

/-!
# One polygon and several

A record of one polygon and a record of several draw alike: the rings of all polygons with at least
two points, one after the other, are one path, which is filled with the brush and stroked with the
pen. They part where there is no ring. A record of a single polygon then makes no draw calls; one of
several makes its calls with a path without steps.

## Main definitions

* `Scale.ring?`, `Scale.rings` — the ring of a polygon, and the path of several

## Main results

* `Scale.rings_eq_nil_iff` — the path is empty just when there is no ring
* `Replay.leads_polygon_of_ring?`, `Replay.leads_polygon_of_lt` — the calls for a single polygon
* `Replay.leads_polygons` — the calls for several
* `Replay.polygons_draw_rings` — when the two types of records make the same calls
-/

namespace WindowsMetafile

namespace Scale

variable {scale : Scale} {points : List (Point Int16)} {polygons : List (List (Point Int16))}

/-- The closed ring of a polygon, which has two points or more. -/
def ring? (scale : Scale) (points : List (Point Int16)) : Option (Path Int) :=
  if 2 ≤ points.length then some (ring (points.map scale.point)) else none

/-- The rings of polygons one after the other, in order. -/
def rings (scale : Scale) (polygons : List (List (Point Int16))) : Path Int :=
  (polygons.filterMap scale.ring?).flatten

theorem ring?_of_le (h : 2 ≤ points.length) :
    scale.ring? points = some (ring (points.map scale.point)) :=
  if_pos h

theorem ring?_of_lt (h : points.length < 2) : scale.ring? points = none :=
  if_neg (Nat.not_le_of_lt h)

theorem rings_cons_of_ring? {path : Path Int} (h : scale.ring? points = some path) :
    scale.rings (points :: polygons) = path ++ scale.rings polygons := by
  rw [rings, List.filterMap_cons_some h, List.flatten_cons, rings]

theorem rings_cons_of_lt (h : points.length < 2) :
    scale.rings (points :: polygons) = scale.rings polygons := by
  rw [rings, List.filterMap_cons_none (ring?_of_lt h), rings]

/-- A ring starts with a move to its first point. -/
theorem ne_nil_of_ring? {path : Path Int} (h : scale.ring? points = some path) : path ≠ [] := by
  cases points with
  | nil => cases h
  | cons first rest =>
    by_cases htwo : 2 ≤ (first :: rest).length
    · cases (ring?_of_le htwo).symm.trans h
      exact List.cons_ne_nil _ _
    · cases (ring?_of_lt (Nat.lt_of_not_le htwo)).symm.trans h

/-- There is no path just when no polygon has a ring. -/
theorem rings_eq_nil_iff :
    scale.rings polygons = [] ↔ ∀ points ∈ polygons, points.length < 2 := by
  induction polygons with
  | nil => exact ⟨fun _ => List.forall_mem_nil _, fun _ => rfl⟩
  | cons points polygons ih =>
    rw [List.forall_mem_cons]
    by_cases htwo : 2 ≤ points.length
    · have hring : scale.ring? points = some (ring (points.map scale.point)) :=
        ring?_of_le htwo
      rw [rings_cons_of_ring? hring, List.append_eq_nil_iff]
      exact ⟨fun h => absurd h.1 (ne_nil_of_ring? hring), fun h => absurd htwo (by omega)⟩
    · have hshort : points.length < 2 := Nat.lt_of_not_le htwo
      rw [rings_cons_of_lt hshort, ih]
      exact ⟨fun h => ⟨hshort, h⟩, And.right⟩

/-- Short polygons may be left out before the rings are made. -/
theorem rings_eq_flatMap (scale : Scale) (polygons : List (List (Point Int16))) :
    scale.rings polygons =
      (polygons.filter fun points => 2 ≤ points.length).flatMap fun points =>
        ring (points.map scale.point) := by
  induction polygons with
  | nil => rfl
  | cons points polygons ih =>
    rw [List.filter_cons]
    by_cases htwo : 2 ≤ points.length
    · rw [rings_cons_of_ring? (ring?_of_le htwo), ih, if_pos (decide_eq_true htwo),
        List.flatMap_cons]
    · rw [rings_cons_of_lt (Nat.lt_of_not_le htwo), ih, if_neg (mt of_decide_eq_true htwo)]

end Scale

namespace Device

variable {device : Device} {scale : Scale} {path : Path Float}

theorem stroke?_eq_none_iff : device.stroke? scale = none ↔ device.pen.visible = false := by
  unfold stroke?
  split <;> simp_all

/-- A filled shape is not drawn at all just when neither the brush nor the pen can be seen. The path
has no part in that. -/
theorem shape_eq_nil_iff :
    device.shape scale path true = [] ↔ device.brush = .null ∧ device.pen.visible = false := by
  rw [shape, if_pos rfl, List.append_eq_nil_iff, filling, stroking, List.map_eq_nil_iff,
    List.map_eq_nil_iff, Option.toList_eq_nil_iff, Option.toList_eq_nil_iff, paintOf?_eq_none_iff,
    stroke?_eq_none_iff]

end Device

namespace Replay

variable {decoder : BitmapDecoder} {scale : Scale} {context : Context}
variable {replay : Replay Unit} {calls calls' : List DrawCall}

/-- The calls that a computation makes are determined. -/
theorem Leads.calls_unique {left right : Context} (h : Leads replay context left calls)
    (h' : Leads replay context right calls') : calls = calls' := by
  obtain ⟨canvas, hrun, hcalls⟩ := h .fresh
  obtain ⟨canvas', hrun', hcalls'⟩ := h' .fresh
  cases hrun.symm.trans hrun'
  exact List.append_cancel_left (hcalls.symm.trans hcalls')

/-- A polygon with two points or more draws its ring. -/
theorem leads_polygon_of_ring? {points : List (Point Int16)} {path : Path Int}
    (h : scale.ring? points = some path) :
    Leads (perform decoder scale (.pointFigure .polygon points)) context context
      ((context.device.shape scale path.toFloat true).map context.device.call) := by
  by_cases htwo : 2 ≤ points.length
  · cases (Scale.ring?_of_le htwo).symm.trans h
    have hdrawings : (Action.pointFigure .polygon points).drawings decoder scale context =
        context.device.shape scale (ring (points.map scale.point)).toFloat true :=
      if_pos htwo
    rw [← hdrawings]
    exact perform_of_ok rfl
  · cases (Scale.ring?_of_lt (Nat.lt_of_not_le htwo)).symm.trans h

/-- A polygon with a single point draws nothing. -/
theorem leads_polygon_of_lt {points : List (Point Int16)} (h : points.length < 2) :
    Leads (perform decoder scale (.pointFigure .polygon points)) context context [] := by
  have hdrawings : (Action.pointFigure .polygon points).drawings decoder scale context = [] :=
    if_neg (Nat.not_le_of_lt h)
  have hcalls : (Action.pointFigure .polygon points).calls decoder scale context = [] :=
    congrArg (List.map context.device.call) hdrawings
  rw [← hcalls]
  exact perform_of_ok rfl

/-- Several polygons draw their rings as one path, even if there is none. -/
theorem leads_polygons (decoder : BitmapDecoder) (scale : Scale) (context : Context)
    (polygons : List (List (Point Int16))) :
    Leads (perform decoder scale (.polygons polygons)) context context
      ((context.device.shape scale (scale.rings polygons).toFloat true).map
        context.device.call) := by
  rw [Scale.rings_eq_flatMap]
  exact perform_of_ok rfl

/-- Several polygons make no call at all just when neither the brush nor the pen can be seen. -/
theorem leads_polygons_nil_iff (decoder : BitmapDecoder) (scale : Scale) (context : Context)
    (polygons : List (List (Point Int16))) :
    Leads (perform decoder scale (.polygons polygons)) context context [] ↔
      context.device.brush = .null ∧ context.device.pen.visible = false := by
  have hleads := leads_polygons decoder scale context polygons
  constructor
  · intro hnone
    exact Device.shape_eq_nil_iff.mp (List.map_eq_nil_iff.mp (hleads.calls_unique hnone))
  · intro hunseen
    rwa [Device.shape_eq_nil_iff.mpr hunseen, List.map_nil] at hleads

/-- What several polygons draw, and when a single one among them draws what a polygon alone does: if
it has two points or more, or if nothing can be seen anyway. -/
theorem polygons_draw_rings (decoder : BitmapDecoder) (scale : Scale) (context : Context) :
    (∀ polygons, Leads (perform decoder scale (.polygons polygons)) context context
      ((context.device.shape scale (scale.rings polygons).toFloat true).map
        context.device.call)) ∧
    (∀ polygons, scale.rings polygons = [] ↔ ∀ points ∈ polygons, points.length < 2) ∧
    ∀ points,
      (∃ calls, Leads (perform decoder scale (.polygons [points])) context context calls ∧
        Leads (perform decoder scale (.pointFigure .polygon points)) context context calls) ↔
      2 ≤ points.length ∨ context.device.brush = .null ∧ context.device.pen.visible = false := by
  refine ⟨leads_polygons decoder scale context, fun _ => Scale.rings_eq_nil_iff, fun points => ?_⟩
  by_cases htwo : 2 ≤ points.length
  · -- The path of a single polygon is its ring.
    have hring : scale.ring? points = some (ring (points.map scale.point)) :=
      Scale.ring?_of_le htwo
    have hpath : scale.rings [points] = ring (points.map scale.point) := by
      rw [Scale.rings_cons_of_ring? hring]
      exact List.append_nil _
    refine ⟨fun _ => .inl htwo, fun _ => ⟨_, leads_polygons decoder scale context [points], ?_⟩⟩
    rw [hpath]
    exact leads_polygon_of_ring? hring
  · have hnothing : Leads (perform decoder scale (.pointFigure .polygon points)) context context [] :=
      leads_polygon_of_lt (Nat.lt_of_not_le htwo)
    rw [or_iff_right htwo, ← leads_polygons_nil_iff decoder scale context [points]]
    constructor
    · rintro ⟨calls, hseveral, hone⟩
      rwa [hone.calls_unique hnothing] at hseveral
    · intro hseveral
      exact ⟨[], hseveral, hnothing⟩

/-- A lone point with the first brush and pen: the record of one polygon makes no draw call, the one
of several fills and strokes a path without steps. -/
theorem lone_point_drawn_by_polygons :
    let decoder : BitmapDecoder := fun _ => .ok ⟨0, 0, []⟩
    let points : List (Point Int16) := [⟨7, 7⟩]
    let one := perform decoder .identity (.pointFigure .polygon points)
    let several := perform decoder .identity (.polygons [points])
    Leads one .fresh .fresh [] ∧
      (∃ stroke, Leads several .fresh .fresh
        [Device.fresh.call (.fill [] (.solid .white) .evenOdd),
          Device.fresh.call (.stroke [] stroke)]) ∧
      ¬ ∃ calls, Leads several .fresh .fresh calls ∧ Leads one .fresh .fresh calls := by
  intro decoder points one several
  have hone : Leads one .fresh .fresh [] := leads_polygon_of_lt (by decide)
  have hseveral : ∃ stroke, Leads several .fresh .fresh
      [Device.fresh.call (.fill [] (.solid .white) .evenOdd),
        Device.fresh.call (.stroke [] stroke)] :=
    ⟨_, leads_polygons decoder .identity .fresh [points]⟩
  refine ⟨hone, hseveral, ?_⟩
  rintro ⟨calls, hdrawn, hnone⟩
  obtain ⟨stroke, hcalls⟩ := hseveral
  rw [hnone.calls_unique hone] at hdrawn
  cases hdrawn.calls_unique hcalls

end Replay

end WindowsMetafile
