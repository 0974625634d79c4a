import WindowsMetafile.Geometry.Scale

/-!
# The two stored forms of a rectangle

An area is given by one corner and the signed way to the opposite one. As long as the coordinates of
the opposite corner can be stored, it is a rectangle with two stored corners as well. Both forms
scale to the same box, whatever the signs of the extent are and whatever the factors do: the box
starts at the least corner, and its size depends on the size of the extent alone.

## Main definitions

* `Area.StoredCorners` — the opposite corner can be stored
* `Area.bounds` — the rectangle between the two corners of an area

## Main results

* `scaleLength_natAbs` — the sign of a length has no effect
* `Scale.area_eq_bounds` — both forms scale alike, and so do the four orders of opposite sides
-/

namespace WindowsMetafile

/-- A coordinate that can be stored. -/
def IsStored (value : Int) : Prop :=
  -32768 ≤ value ∧ value ≤ 32767

instance (value : Int) : Decidable (IsStored value) :=
  inferInstanceAs (Decidable (_ ∧ _))

theorem IsStored.toInt_add {a b : Int16} (h : IsStored (a.toInt + b.toInt)) :
    (a + b).toInt = a.toInt + b.toInt := by
  obtain ⟨hlow, hhigh⟩ := h
  rw [Int16.toInt_add]
  exact Int.bmod_eq_of_le (by omega) (by omega)

namespace Area

/-- The corner opposite to the origin of the area can be stored. -/
structure StoredCorners (area : Area) : Prop where
  x : IsStored (area.x.toInt + area.width.toInt)
  y : IsStored (area.y.toInt + area.height.toInt)

/-- The rectangle between the two corners of an area. -/
def bounds (area : Area) : Bounds :=
  ⟨area.x, area.y, area.x + area.width, area.y + area.height⟩

variable {area : Area}

theorem StoredCorners.width_bounds (h : area.StoredCorners) :
    area.bounds.width = area.width.toInt.natAbs := by
  rw [Bounds.width, bounds, h.x.toInt_add]
  dsimp only
  omega

theorem StoredCorners.height_bounds (h : area.StoredCorners) :
    area.bounds.height = area.height.toInt.natAbs := by
  rw [Bounds.height, bounds, h.y.toInt_add]
  dsimp only
  omega

end Area

/-- The sign of a length has no effect. -/
theorem scaleLength_natAbs (raw : Int) (factor : Float) :
    scaleLength raw.natAbs factor = scaleLength raw factor := by
  simp only [scaleLength, Int.natAbs_natCast, Int.natCast_eq_zero, Int.natAbs_eq_zero]

namespace Scale

/-- An area scales like the rectangle between its corners, and that one like any rectangle with
opposite sides exchanged. -/
theorem area_eq_bounds (scale : Scale) :
    (∀ area : Area, area.StoredCorners → scale.area area = scale.bounds area.bounds) ∧
      ∀ left top right bottom : Int16,
        scale.bounds ⟨right, top, left, bottom⟩ = scale.bounds ⟨left, top, right, bottom⟩ ∧
        scale.bounds ⟨left, bottom, right, top⟩ = scale.bounds ⟨left, top, right, bottom⟩ ∧
        scale.bounds ⟨right, bottom, left, top⟩ = scale.bounds ⟨left, top, right, bottom⟩ := by
  constructor
  · intro area h
    -- The sizes are computed in two ways, one of them with the sign.
    have hwidth : scale.width area.bounds.width = scale.width area.width.toInt := by
      rw [h.width_bounds]
      exact scaleLength_natAbs _ scale.x
    have hheight : scale.height area.bounds.height = scale.height area.height.toInt := by
      rw [h.height_bounds]
      exact scaleLength_natAbs _ scale.y
    rw [Scale.area, Scale.bounds, hwidth, hheight]
    simp only [Area.bounds, h.x.toInt_add, h.y.toInt_add]
  · intro left top right bottom
    have hsides := bounds_swap_sides scale right top left bottom
    have hends := bounds_swap_ends scale left bottom right top
    exact ⟨hsides, hends, (bounds_swap_sides scale right bottom left top).trans hends⟩

/-- An extent that goes left by the longest way there is, and up to the last coordinate. -/
theorem area_eq_bounds_leftward :
    let area : Area := ⟨32767, -1, -32768, -32767⟩
    let scale : Scale := ⟨-0.5, 1e300⟩
    area.StoredCorners ∧ scale.area area = scale.bounds ⟨32767, -1, -1, -32768⟩ :=
  ⟨⟨by decide, by decide⟩, (area_eq_bounds _).1 _ ⟨by decide, by decide⟩⟩

end Scale

end WindowsMetafile
