/-!
# Points and rectangles

Records store 16-bit coordinates: points, rectangles given by their four sides, and areas given by
an origin with a signed extent. Scaling turns them into points and boxes with integer coordinates.
These are kept in 32 bits: every sum and every difference of them wraps around.

## Main definitions

* `wrapAround` — a number kept in 32 bits
* `Point` — a point over any kind of coordinates
* `Bounds`, `Area` — the two stored forms of a rectangle
* `Box` — a rectangle in scaled coordinates
* `Box.Contains`, `Box.intersect` — boxes as sets of integer points, and their common part
* `Box.intersectWrapping`, `Box.exclude`, `Box.shift` — the operations on a clip

## Main results

* `wrapAround_eq_self` — a number that fits is kept as it is
-/

namespace WindowsMetafile

/-- A number kept in 32 bits, where it wraps around. -/
def wrapAround (value : Int) : Int :=
  Int.bmod value 4294967296

theorem wrapAround_eq_emod (value : Int) :
    wrapAround value = (value + 2147483648) % 4294967296 - 2147483648 := by
  unfold wrapAround Int.bmod
  dsimp only
  split <;> omega

theorem le_wrapAround (value : Int) : -2147483648 ≤ wrapAround value := by
  rw [wrapAround_eq_emod]
  omega

theorem wrapAround_le (value : Int) : wrapAround value ≤ 2147483647 := by
  rw [wrapAround_eq_emod]
  omega

/-- A number that fits is kept as it is. -/
theorem wrapAround_eq_self {value : Int} (hlow : -2147483648 ≤ value) (hhigh : value ≤ 2147483647) :
    wrapAround value = value := by
  rw [wrapAround_eq_emod]
  omega

/-- A point, or a displacement. -/
structure Point (α : Type) where
  x : α
  y : α
  deriving DecidableEq, Repr

/-- A point moved by a displacement. -/
def Point.shift (point offset : Point Int) : Point Int :=
  ⟨wrapAround (point.x + offset.x), wrapAround (point.y + offset.y)⟩

/-- A stored rectangle, given by its sides in any order. -/
structure Bounds where
  left : Int16
  top : Int16
  right : Int16
  bottom : Int16
  deriving DecidableEq, Repr

/-- The distance between the left and the right side. -/
def Bounds.width (bounds : Bounds) : Nat :=
  (bounds.right.toInt - bounds.left.toInt).natAbs

/-- The distance between the top and the bottom side. -/
def Bounds.height (bounds : Bounds) : Nat :=
  (bounds.bottom.toInt - bounds.top.toInt).natAbs

/-- A stored rectangle, given by one corner and the signed way to the opposite one. -/
structure Area where
  x : Int16
  y : Int16
  width : Int16
  height : Int16
  deriving DecidableEq, Repr

/-- A rectangle in scaled coordinates, given by its least corner and its size. -/
structure Box where
  x : Int
  y : Int
  width : Int
  height : Int
  deriving DecidableEq, Repr

namespace Box

/-- The first column to the right of a box. -/
def right (box : Box) : Int :=
  wrapAround (box.x + box.width)

/-- The first row below a box. -/
def bottom (box : Box) : Int :=
  wrapAround (box.y + box.height)

/-- The integer points of a box, from its corner on as many as its size says. -/
def Contains (box : Box) (point : Point Int) : Prop :=
  box.x ≤ point.x ∧ point.x < box.x + box.width ∧ box.y ≤ point.y ∧ point.y < box.y + box.height

instance (box : Box) (point : Point Int) : Decidable (box.Contains point) :=
  inferInstanceAs (Decidable (_ ∧ _))

/-- The box between the greater ones of the least sides and the lesser ones of the far sides. -/
def intersect (a b : Box) : Box :=
  let x := max a.x b.x
  let y := max a.y b.y
  ⟨x, y, max 0 (min a.right b.right - x), max 0 (min a.bottom b.bottom - y)⟩

/-- The box between the same sides, with its size computed in 32 bits. The differences of the sides
of two boxes can go beyond them even when the sides themselves do not. -/
def intersectWrapping (a b : Box) : Box :=
  let x := max a.x b.x
  let y := max a.y b.y
  let width := wrapAround (min a.right b.right - x)
  let height := wrapAround (min a.bottom b.bottom - y)
  ⟨x, y, max 0 width, max 0 height⟩

/-- The smallest box around the points of `box` that are not in `cut`. Only a cut over the full
height or the full width moves a side; any other cut leaves points at all four sides. -/
def exclude (box cut : Box) : Box :=
  let coversWidth := cut.x ≤ box.x ∧ box.right ≤ cut.right
  let coversHeight := cut.y ≤ box.y ∧ box.bottom ≤ cut.bottom
  if coversWidth ∧ coversHeight then
    { box with width := 0, height := 0 }
  else if coversHeight ∧ cut.x ≤ box.x ∧ box.x < cut.right then
    { box with x := cut.right, width := wrapAround (box.right - cut.right) }
  else if coversHeight ∧ box.right ≤ cut.right ∧ cut.x < box.right then
    { box with width := wrapAround (cut.x - box.x) }
  else if coversWidth ∧ cut.y ≤ box.y ∧ box.y < cut.bottom then
    { box with y := cut.bottom, height := wrapAround (box.bottom - cut.bottom) }
  else if coversWidth ∧ box.bottom ≤ cut.bottom ∧ cut.y < box.bottom then
    { box with height := wrapAround (cut.y - box.y) }
  else
    box

/-- The box moved by a displacement. -/
def shift (box : Box) (offset : Point Int) : Box :=
  let corner := Point.shift ⟨box.x, box.y⟩ offset
  { box with x := corner.x, y := corner.y }

end Box

end WindowsMetafile
