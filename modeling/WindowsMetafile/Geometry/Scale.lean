import WindowsMetafile.Geometry.Basic

/-!
# Scaling of stored coordinates

A picture is replayed under two factors, one for each axis. Coordinates are rounded to the nearest
integer, halves upwards, and stay within 32 bits; lengths use the size of the stored value and of
the factor and never vanish unless the stored length is zero.

## Main definitions

* `scaleCoordinate`, `scaleLength` — the two rules for one axis
* `Scale.point`, `Scale.bounds`, `Scale.area` — points and the two stored forms of a rectangle

## Main results

* `one_le_scaleLength` — a length that is not zero stays at least one, whatever the factor
* `Scale.bounds_swap_sides`, `Scale.bounds_swap_ends` — the order of opposite sides has no effect
-/

namespace WindowsMetafile

/-- The greatest 32-bit signed value. -/
def greatestCoordinate : Nat := 2147483647

/-- A coordinate under a factor, rounded to the nearest integer with halves upwards. Results beyond
32 bits are cut to the nearest 32-bit value, and an undefined product counts as zero. -/
def scaleCoordinate (raw : Int) (factor : Float) : Int :=
  (Float.floor (Float.ofInt raw * factor + 0.5)).toInt32.toInt

/-- A length under a factor: its size, scaled by the size of the factor, and at least one unless the
length is zero. -/
def scaleLength (raw : Int) (factor : Float) : Int :=
  if raw = 0 then 0
  else max 1 (scaleCoordinate (min raw.natAbs greatestCoordinate : Nat) factor.abs)

@[simp] theorem scaleLength_zero (factor : Float) : scaleLength 0 factor = 0 := rfl

theorem one_le_scaleLength {raw : Int} (nonzero : raw ≠ 0) (factor : Float) :
    1 ≤ scaleLength raw factor := by
  simp only [scaleLength, nonzero, if_false]
  omega

theorem scaleLength_nonneg (raw : Int) (factor : Float) : 0 ≤ scaleLength raw factor := by
  by_cases zero : raw = 0
  · simp [zero]
  · exact Int.le_trans (by decide) (one_le_scaleLength zero factor)

/-- The factors of the two axes. -/
structure Scale where
  x : Float
  y : Float
  deriving Repr

namespace Scale

/-- Coordinates as they are stored. -/
def identity : Scale := ⟨1.0, 1.0⟩

/-- A stored point in scaled coordinates. -/
def point (scale : Scale) (p : Point Int16) : Point Int :=
  ⟨scaleCoordinate p.x.toInt scale.x, scaleCoordinate p.y.toInt scale.y⟩

/-- A length along the horizontal axis. -/
def width (scale : Scale) (raw : Int) : Int :=
  scaleLength raw scale.x

/-- A length along the vertical axis. -/
def height (scale : Scale) (raw : Int) : Int :=
  scaleLength raw scale.y

/-- A rectangle given by its sides: the scaled corner that is leftmost and topmost, and the scaled
distances between the sides. -/
def bounds (scale : Scale) (b : Bounds) : Box :=
  ⟨scaleCoordinate (min b.left.toInt b.right.toInt) scale.x,
    scaleCoordinate (min b.top.toInt b.bottom.toInt) scale.y,
    scale.width b.width, scale.height b.height⟩

/-- A rectangle given by a corner and a signed extent. -/
def area (scale : Scale) (a : Area) : Box :=
  ⟨scaleCoordinate (min a.x.toInt (a.x.toInt + a.width.toInt)) scale.x,
    scaleCoordinate (min a.y.toInt (a.y.toInt + a.height.toInt)) scale.y,
    scale.width a.width.toInt, scale.height a.height.toInt⟩

theorem width_nonneg (scale : Scale) (raw : Int) : 0 ≤ scale.width raw :=
  scaleLength_nonneg raw scale.x

theorem height_nonneg (scale : Scale) (raw : Int) : 0 ≤ scale.height raw :=
  scaleLength_nonneg raw scale.y

/-- The left and the right side may be exchanged. -/
theorem bounds_swap_sides (scale : Scale) (left top right bottom : Int16) :
    scale.bounds ⟨left, top, right, bottom⟩ = scale.bounds ⟨right, top, left, bottom⟩ := by
  simp only [bounds, Bounds.width, Bounds.height, Int.min_comm left.toInt]
  rw [show (right.toInt - left.toInt).natAbs = (left.toInt - right.toInt).natAbs by omega]

/-- The top and the bottom side may be exchanged. -/
theorem bounds_swap_ends (scale : Scale) (left top right bottom : Int16) :
    scale.bounds ⟨left, top, right, bottom⟩ = scale.bounds ⟨left, bottom, right, top⟩ := by
  simp only [bounds, Bounds.width, Bounds.height, Int.min_comm top.toInt]
  rw [show (bottom.toInt - top.toInt).natAbs = (top.toInt - bottom.toInt).natAbs by omega]

end Scale

end WindowsMetafile
