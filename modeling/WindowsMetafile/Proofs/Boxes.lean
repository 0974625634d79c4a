import Mathlib.Tactic.SplitIfs
import WindowsMetafile.Geometry.Scale

/-!
# Boxes in 32 bits

The corner and the size of a box are 32-bit numbers, and the size is not negative. The far sides are
sums, which wrap around: those of a box at the edge of the coordinates come out in front of its
corner, and then the box has no point. Scaling makes such boxes, and every edit of a clip leads from
such boxes to such boxes. A box whose far sides are 32-bit numbers as well has its real sides.

## Main definitions

* `Box.Proper` — a box without a negative size
* `Box.Valid` — a box as contexts hold it
* `Box.Fits` — a box whose far sides do not wrap around
* `Box.Excluded` — what an exclusion can leave of a box

## Main results

* `Box.Valid.right_eq_or`, `Box.Fits.right_eq` — where the right side of a box is
* `Box.Valid.excluded_exclude` — an exclusion moves at most one side, to one of the cut
* `Scale.valid_bounds`, `Box.Valid.intersect`, `Box.Valid.intersectWrapping`, `Box.Excluded.valid`,
  `Box.Valid.shift` — the boxes that scaling and edits make
-/

namespace WindowsMetafile

namespace Box

variable {box a b cut : Box}

/-- A box without a negative size. -/
structure Proper (box : Box) : Prop where
  width_nonneg : 0 ≤ box.width
  height_nonneg : 0 ≤ box.height

/-- A box as contexts hold it: its corner and its size are 32-bit numbers, and the size is not
negative. -/
structure Valid (box : Box) : Prop extends box.Proper where
  le_x : -2147483648 ≤ box.x
  x_le : box.x ≤ 2147483647
  le_y : -2147483648 ≤ box.y
  y_le : box.y ≤ 2147483647
  width_le : box.width ≤ 2147483647
  height_le : box.height ≤ 2147483647

/-- A box whose far sides are 32-bit numbers, too. -/
structure Fits (box : Box) : Prop extends box.Valid where
  right_le : box.x + box.width ≤ 2147483647
  bottom_le : box.y + box.height ≤ 2147483647

/-- A box with its axes exchanged. What holds of its right side holds of the bottom of the other. -/
def turned (box : Box) : Box :=
  ⟨box.y, box.x, box.height, box.width⟩

theorem Valid.turned (h : box.Valid) : box.turned.Valid :=
  ⟨⟨h.height_nonneg, h.width_nonneg⟩, h.le_y, h.y_le, h.le_x, h.x_le, h.height_le, h.width_le⟩

theorem Fits.turned (h : box.Fits) : box.turned.Fits :=
  ⟨h.toValid.turned, h.bottom_le, h.right_le⟩

/-! ### Sides -/

theorem le_right (box : Box) : -2147483648 ≤ box.right :=
  le_wrapAround _

theorem right_le (box : Box) : box.right ≤ 2147483647 :=
  wrapAround_le _

theorem le_bottom (box : Box) : -2147483648 ≤ box.bottom :=
  le_wrapAround _

theorem bottom_le (box : Box) : box.bottom ≤ 2147483647 :=
  wrapAround_le _

/-- The right side is where it should be, or it has wrapped around and lies in front of the box. -/
theorem Valid.right_eq_or (h : box.Valid) :
    box.right = box.x + box.width ∨ box.right < box.x := by
  have hnonneg := h.width_nonneg
  have hwidth := h.width_le
  have hx := h.le_x
  have hx' := h.x_le
  -- The sum is less than `2 ^ 32`, so that it wraps around once at most.
  rw [right, wrapAround_eq_emod]
  omega

theorem Valid.bottom_eq_or (h : box.Valid) :
    box.bottom = box.y + box.height ∨ box.bottom < box.y :=
  h.turned.right_eq_or

theorem Valid.right_le_add (h : box.Valid) : box.right ≤ box.x + box.width := by
  have hright := h.right_eq_or
  have hwidth := h.width_nonneg
  omega

theorem Valid.bottom_le_add (h : box.Valid) : box.bottom ≤ box.y + box.height :=
  h.turned.right_le_add

theorem Fits.right_eq (h : box.Fits) : box.right = box.x + box.width := by
  have hx := h.le_x
  have hwidth := h.width_nonneg
  exact wrapAround_eq_self (by omega) h.right_le

theorem Fits.bottom_eq (h : box.Fits) : box.bottom = box.y + box.height :=
  h.turned.right_eq

/-! ### Edited boxes -/

/-- The common part of two boxes is no greater than either. -/
theorem Valid.intersect (ha : a.Valid) (hb : b.Valid) : (a.intersect b).Valid where
  width_nonneg := Int.le_max_left ..
  height_nonneg := Int.le_max_left ..
  le_x := Int.le_trans ha.le_x (Int.le_max_left ..)
  x_le := Int.max_le.mpr ⟨ha.x_le, hb.x_le⟩
  le_y := Int.le_trans ha.le_y (Int.le_max_left ..)
  y_le := Int.max_le.mpr ⟨ha.y_le, hb.y_le⟩
  width_le := by
    have hright := ha.right_le_add
    have hwidth := ha.width_le
    simp only [Box.intersect]
    omega
  height_le := by
    have hbottom := ha.bottom_le_add
    have hheight := ha.height_le
    simp only [Box.intersect]
    omega

theorem proper_intersectWrapping (a b : Box) : (a.intersectWrapping b).Proper :=
  ⟨Int.le_max_left .., Int.le_max_left ..⟩

theorem Valid.intersectWrapping (ha : a.Valid) (hb : b.Valid) : (a.intersectWrapping b).Valid where
  toProper := proper_intersectWrapping a b
  le_x := (ha.intersect hb).le_x
  x_le := (ha.intersect hb).x_le
  le_y := (ha.intersect hb).le_y
  y_le := (ha.intersect hb).y_le
  width_le := Int.max_le.mpr ⟨by decide, wrapAround_le _⟩
  height_le := Int.max_le.mpr ⟨by decide, wrapAround_le _⟩

theorem Valid.shift (h : box.Valid) (offset : Point Int) : (box.shift offset).Valid where
  width_nonneg := h.width_nonneg
  height_nonneg := h.height_nonneg
  le_x := le_wrapAround _
  x_le := wrapAround_le _
  le_y := le_wrapAround _
  y_le := wrapAround_le _
  width_le := h.width_le
  height_le := h.height_le

/-- What an exclusion leaves of a box: nothing, the part behind one side of the cut, or all. -/
inductive Excluded (box cut : Box) : Box → Prop
  | all (hcolumns : cut.x ≤ box.x ∧ box.right ≤ cut.right)
      (hrows : cut.y ≤ box.y ∧ box.bottom ≤ cut.bottom) : Excluded box cut ⟨box.x, box.y, 0, 0⟩
  | left (hrows : cut.y ≤ box.y ∧ box.bottom ≤ cut.bottom) (hfirst : cut.x ≤ box.x)
      (hwithin : box.x < cut.right ∧ cut.right < box.right) :
      Excluded box cut ⟨cut.right, box.y, box.right - cut.right, box.height⟩
  | right (hrows : cut.y ≤ box.y ∧ box.bottom ≤ cut.bottom) (hlast : box.right ≤ cut.right)
      (hwithin : box.x < cut.x ∧ cut.x < box.right) :
      Excluded box cut ⟨box.x, box.y, cut.x - box.x, box.height⟩
  | top (hcolumns : cut.x ≤ box.x ∧ box.right ≤ cut.right) (hfirst : cut.y ≤ box.y)
      (hwithin : box.y < cut.bottom ∧ cut.bottom < box.bottom) :
      Excluded box cut ⟨box.x, cut.bottom, box.width, box.bottom - cut.bottom⟩
  | bottom (hcolumns : cut.x ≤ box.x ∧ box.right ≤ cut.right) (hlast : box.bottom ≤ cut.bottom)
      (hwithin : box.y < cut.y ∧ cut.y < box.bottom) :
      Excluded box cut ⟨box.x, box.y, box.width, cut.y - box.y⟩
  | none
      (hrows : cut.y ≤ box.y ∧ box.bottom ≤ cut.bottom →
        ¬ (cut.x ≤ box.x ∧ box.x < cut.right) ∧ ¬ (box.right ≤ cut.right ∧ cut.x < box.right))
      (hcolumns : cut.x ≤ box.x ∧ box.right ≤ cut.right →
        ¬ (cut.y ≤ box.y ∧ box.y < cut.bottom) ∧ ¬ (box.bottom ≤ cut.bottom ∧ cut.y < box.bottom)) :
      Excluded box cut box

/-- The new sizes do not wrap around, as a side is only moved to one within the box. -/
theorem Valid.excluded_exclude (h : box.Valid) (cut : Box) : box.Excluded cut (box.exclude cut) := by
  have hright := h.right_eq_or
  have hbottom := h.bottom_eq_or
  have hwidth := h.width_le
  have hheight := h.height_le
  -- Where a side is moved, the guard puts a side of the cut between two sides of the box, so that
  -- these have not wrapped around.
  unfold Box.exclude
  dsimp only
  split_ifs with hall hleft hright' htop hbottom'
  · exact .all hall.1 hall.2
  · rw [wrapAround_eq_self (by omega) (by omega)]
    exact .left hleft.1 hleft.2.1 (by omega)
  · rw [wrapAround_eq_self (by omega) (by omega)]
    exact .right hright'.1 hright'.2.1 (by omega)
  · rw [wrapAround_eq_self (by omega) (by omega)]
    exact .top htop.1 htop.2.1 (by omega)
  · rw [wrapAround_eq_self (by omega) (by omega)]
    exact .bottom hbottom'.1 hbottom'.2.1 (by omega)
  · exact .none (by omega) (by omega)

theorem Excluded.valid {rest : Box} (hrest : box.Excluded cut rest) (h : box.Valid) :
    rest.Valid := by
  have hright := h.right_eq_or
  have hbottom := h.bottom_eq_or
  have hcut := And.intro cut.le_right cut.right_le
  have hcut' := And.intro cut.le_bottom cut.bottom_le
  obtain ⟨⟨hwidth, hheight⟩, hx, hx', hy, hy', hwidth', hheight'⟩ := h
  cases hrest with
  | none => exact ⟨⟨hwidth, hheight⟩, hx, hx', hy, hy', hwidth', hheight'⟩
  | all | left | right | top | bottom =>
    refine ⟨⟨?_, ?_⟩, ?_, ?_, ?_, ?_, ?_, ?_⟩ <;> dsimp only <;> omega

end Box

/-! ### Scaled boxes -/

theorem le_scaleCoordinate (raw : Int) (factor : Float) :
    -2147483648 ≤ scaleCoordinate raw factor :=
  Int32.le_toInt _

theorem scaleCoordinate_le (raw : Int) (factor : Float) :
    scaleCoordinate raw factor ≤ 2147483647 :=
  Int.le_of_lt_add_one (Int32.toInt_lt _)

theorem scaleLength_le (raw : Int) (factor : Float) : scaleLength raw factor ≤ 2147483647 := by
  unfold scaleLength
  split
  · decide
  · exact Int.max_le.mpr ⟨by decide, scaleCoordinate_le _ _⟩

theorem Scale.valid_bounds (scale : Scale) (bounds : Bounds) : (scale.bounds bounds).Valid where
  width_nonneg := scale.width_nonneg _
  height_nonneg := scale.height_nonneg _
  le_x := le_scaleCoordinate _ _
  x_le := scaleCoordinate_le _ _
  le_y := le_scaleCoordinate _ _
  y_le := scaleCoordinate_le _ _
  width_le := scaleLength_le _ _
  height_le := scaleLength_le _ _

end WindowsMetafile
