import Mathlib.Logic.Basic
import WindowsMetafile.Playback.Device
import WindowsMetafile.Proofs.Boxes

/-!
# Edits of the clip as sets of points

A clip is a box, and stands for its integer points. Intersecting it with a box leaves the points in
both. Taking a box out of it leaves the smallest box around the points that are not in that one, so
a side only moves when a whole edge of the clip is cut away.

The size of an intersection is computed in 32 bits. This is exact as long as the boxes are not too
far apart; beyond that the negative difference of their sides wraps around, and two boxes without a
common point leave a clip with points of one of them or of neither.

## Main definitions

* `Box.Near` — boxes that are at most `2 ^ 31` apart along each axis
* `Box.IsHull` — the smallest box around some points

## Main results

* `Box.Fits.contains_intersectWrapping_iff` — when an intersection is exact
* `Box.Fits.contains_exclude_iff` — the points that an exclusion takes away
* `Box.Fits.isHull_exclude` — an exclusion leaves the smallest box around the points that remain
* `Device.clip_edits` — both edits of a clip
-/

namespace WindowsMetafile

namespace Box

variable {a b box cut : Box} {p : Point Int}

/-! ### Intersections -/

theorem Fits.contains_intersect_iff (ha : a.Fits) (hb : b.Fits) :
    (a.intersect b).Contains p ↔ a.Contains p ∧ b.Contains p := by
  simp only [Contains, Box.intersect, ha.right_eq, ha.bottom_eq, hb.right_eq, hb.bottom_eq]
  omega

/-- Along neither axis are the boxes more than `2 ^ 31` apart. -/
structure Near (a b : Box) : Prop where
  across : max a.x b.x - min a.right b.right ≤ 2147483648
  down : max a.y b.y - min a.bottom b.bottom ≤ 2147483648

theorem Fits.near_of_contains (ha : a.Fits) (hb : b.Fits) (hpa : a.Contains p)
    (hpb : b.Contains p) : a.Near b := by
  simp only [Contains] at hpa hpb
  constructor
  · rw [ha.right_eq, hb.right_eq]
    omega
  · rw [ha.bottom_eq, hb.bottom_eq]
    omega

/-- The sides of near boxes differ by 32-bit numbers. -/
theorem Valid.intersectWrapping_of_near (ha : a.Valid) (h : a.Near b) :
    a.intersectWrapping b = a.intersect b := by
  have hright := ha.right_le_add
  have hbottom := ha.bottom_le_add
  have hwidth := ha.width_le
  have hheight := ha.height_le
  have hacross := h.across
  have hdown := h.down
  simp only [Box.intersectWrapping, Box.intersect]
  rw [wrapAround_eq_self (by omega) (by omega), wrapAround_eq_self (by omega) (by omega)]

/-- Boxes that are farther apart have no common point, so their intersection is exact only if no
point comes out of the wrapping either. -/
theorem Fits.contains_intersectWrapping_iff (ha : a.Fits) (hb : b.Fits) :
    (∀ p, (a.intersectWrapping b).Contains p ↔ a.Contains p ∧ b.Contains p) ↔
      a.Near b ∨ ∀ p, ¬ (a.intersectWrapping b).Contains p := by
  constructor
  · intro hexact
    rw [or_iff_not_imp_left]
    intro hfar p hp
    obtain ⟨hpa, hpb⟩ := (hexact p).mp hp
    exact hfar (ha.near_of_contains hb hpa hpb)
  · intro h p
    by_cases hnear : a.Near b
    · rw [ha.intersectWrapping_of_near hnear]
      exact ha.contains_intersect_iff hb
    · have hempty := h.resolve_left hnear
      constructor
      · intro hp
        exact absurd hp (hempty p)
      · rintro ⟨hpa, hpb⟩
        exact absurd (ha.near_of_contains hb hpa hpb) hnear

/-! ### Exclusions -/

/-- A box is the smallest one around some points: it contains them, and every other box that
contains them contains all its points. -/
structure IsHull (box : Box) (points : Point Int → Prop) : Prop where
  contains : ∀ p, points p → box.Contains p
  least : ∀ other : Box, (∀ p, points p → other.Contains p) → ∀ p, box.Contains p → other.Contains p

/-- Around no points there is only a box without points. -/
theorem IsHull.not_contains {points : Point Int → Prop} (h : box.IsHull points)
    (hnone : ∀ p, ¬ points p) (p : Point Int) : ¬ box.Contains p := by
  intro hp
  have hempty := h.least ⟨0, 0, 0, 0⟩ (fun p hp => absurd hp (hnone p)) p hp
  simp only [Contains] at hempty
  omega

/-- An exclusion takes away the common points, but only where the cut reaches over a whole side of
the box: over its full height from the left or from the right, or over its full width from the top
or from the bottom. -/
theorem Fits.contains_exclude_iff (hbox : box.Fits) (hcut : cut.Fits) :
    (box.exclude cut).Contains p ↔ box.Contains p ∧
      ¬ (cut.Contains p ∧
        ((cut.y ≤ box.y ∧ box.bottom ≤ cut.bottom) ∧ (cut.x ≤ box.x ∨ box.right ≤ cut.right) ∨
          (cut.x ≤ box.x ∧ box.right ≤ cut.right) ∧ (cut.y ≤ box.y ∨ box.bottom ≤ cut.bottom))) := by
  have hright := hbox.right_eq
  have hbottom := hbox.bottom_eq
  have hcutRight := hcut.right_eq
  have hcutBottom := hcut.bottom_eq
  have hrest := hbox.excluded_exclude cut
  -- One case for each side that can move, with the real size that is left.
  generalize box.exclude cut = rest at hrest ⊢
  cases hrest <;> simp only [Contains] <;> omega

section Remaining

variable {other : Box}

/-- In a row with a point of the box, the first and the last column of the box stay unless the cut
reaches over them. -/
theorem columns_of_remaining (hother : ∀ p, box.Contains p ∧ ¬ cut.Contains p → other.Contains p)
    (hp : box.Contains p) :
    (box.x < cut.x → other.Contains ⟨box.x, p.y⟩) ∧
      (cut.x + cut.width < box.x + box.width → other.Contains ⟨box.x + box.width - 1, p.y⟩) := by
  refine ⟨fun hside => hother _ ?_, fun hside => hother _ ?_⟩
  all_goals
    simp only [Contains] at *
    omega

/-- In a column with a point of the box, the first and the last row of the box stay unless the cut
reaches over them. -/
theorem rows_of_remaining (hother : ∀ p, box.Contains p ∧ ¬ cut.Contains p → other.Contains p)
    (hp : box.Contains p) :
    (box.y < cut.y → other.Contains ⟨p.x, box.y⟩) ∧
      (cut.y + cut.height < box.y + box.height → other.Contains ⟨p.x, box.y + box.height - 1⟩) := by
  refine ⟨fun hside => hother _ ?_, fun hside => hother _ ?_⟩
  all_goals
    simp only [Contains] at *
    omega

end Remaining

/-- A point of the cut that is not taken away has parts of the box around it that stay: on the left
and on the right of it, or above and below it, or on one side at least in either direction. -/
theorem Fits.sides_of_exclude (hbox : box.Fits) (hcut : cut.Fits)
    (h : (box.exclude cut).Contains p) (hp : cut.Contains p) :
    (box.x < cut.x ∧ cut.x + cut.width < box.x + box.width) ∨
      (box.y < cut.y ∧ cut.y + cut.height < box.y + box.height) ∨
      (box.x < cut.x ∨ cut.x + cut.width < box.x + box.width) ∧
        (box.y < cut.y ∨ cut.y + cut.height < box.y + box.height) := by
  obtain ⟨-, hstays⟩ := (hbox.contains_exclude_iff hcut).mp h
  have hsides := not_and.mp hstays hp
  rw [hbox.right_eq, hbox.bottom_eq, hcut.right_eq, hcut.bottom_eq] at hsides
  omega

/-- What is left of a box after an exclusion is the smallest box around the points that stay. -/
theorem Fits.isHull_exclude (hbox : box.Fits) (hcut : cut.Fits) :
    (box.exclude cut).IsHull fun p => box.Contains p ∧ ¬ cut.Contains p where
  contains p hp := (hbox.contains_exclude_iff hcut).mpr ⟨hp.1, fun hgone => hp.2 hgone.1⟩
  least other hother p h := by
    have hp := ((hbox.contains_exclude_iff hcut).mp h).1
    by_cases hpcut : cut.Contains p
    · -- The point itself is cut out, but there are points that stay on the sides that matter.
      obtain ⟨hleft, hright⟩ := columns_of_remaining hother hp
      obtain ⟨habove, hbelow⟩ := rows_of_remaining hother hp
      rcases hbox.sides_of_exclude hcut h hpcut with ⟨hx, hx'⟩ | ⟨hy, hy'⟩ | ⟨hx, hy⟩
      · have hfirst := hleft hx
        have hlast := hright hx'
        simp only [Contains] at *
        omega
      · have hfirst := habove hy
        have hlast := hbelow hy'
        simp only [Contains] at *
        omega
      · -- One point in the row of `p` and one in its column are enough.
        have hrow : ∃ x, other.Contains ⟨x, p.y⟩ :=
          hx.elim (fun hside => ⟨_, hleft hside⟩) fun hside => ⟨_, hright hside⟩
        have hcolumn : ∃ y, other.Contains ⟨p.x, y⟩ :=
          hy.elim (fun hside => ⟨_, habove hside⟩) fun hside => ⟨_, hbelow hside⟩
        obtain ⟨x, hrow⟩ := hrow
        obtain ⟨y, hcolumn⟩ := hcolumn
        simp only [Contains] at *
        omega
    · exact hother p ⟨hp, hpcut⟩

end Box

/-! ### The clip of a device context -/

namespace Device

/-- Intersecting a clip with a box leaves the points in both just when the two are not too far
apart, or when wrapping leaves no point either. Excluding a box leaves the smallest box around the
points outside of it, and so no point at all when it covers the clip. Neither edit leaves a negative
size or changes anything but the clip, and without a clip there is nothing to exclude from. -/
theorem clip_edits (device : Device) {clip box : Box} (hclip : clip.Fits) (hbox : box.Fits) :
    ∃ inner outer : Box,
      { device with clip := some clip }.intersectClip box = { device with clip := some inner } ∧
      { device with clip := some clip }.excludeClip box = { device with clip := some outer } ∧
      { device with clip := none }.excludeClip box = { device with clip := none } ∧
      inner.Proper ∧ outer.Proper ∧
      ((∀ p, inner.Contains p ↔ clip.Contains p ∧ box.Contains p) ↔
        clip.Near box ∨ ∀ p, ¬ inner.Contains p) ∧
      outer.IsHull (fun p => clip.Contains p ∧ ¬ box.Contains p) ∧
      ((∀ p, clip.Contains p → box.Contains p) → ∀ p, ¬ outer.Contains p) ∧
      ∀ p, outer.Contains p → clip.Contains p := by
  have hhull := hclip.isHull_exclude hbox
  have hrest := (hclip.excluded_exclude box).valid hclip.toValid
  refine ⟨clip.intersectWrapping box, clip.exclude box, rfl, rfl, rfl,
    Box.proper_intersectWrapping clip box, hrest.toProper,
    hclip.contains_intersectWrapping_iff hbox, hhull, ?_,
    fun p hp => ((hclip.contains_exclude_iff hbox).mp hp).1⟩
  intro hcovered
  apply hhull.not_contains
  rintro p ⟨hp, hout⟩
  exact hout (hcovered p hp)

/-- A box over the left part of a clip: an intersection leaves that part, and an exclusion the
other. -/
theorem clip_edits_left_part :
    let clip : Box := ⟨50, 20, 50, 10⟩
    let box : Box := ⟨40, 0, 20, 100⟩
    ∃ inner outer : Box,
      ({ Device.fresh with clip := some clip }.intersectClip box).clip = some inner ∧
      ({ Device.fresh with clip := some clip }.excludeClip box).clip = some outer ∧
      (∀ p, inner.Contains p ↔ clip.Contains p ∧ box.Contains p) ∧
      outer.IsHull (fun p => clip.Contains p ∧ ¬ box.Contains p) := by
  intro clip box
  have hclip : clip.Fits := by
    refine ⟨⟨⟨?_, ?_⟩, ?_, ?_, ?_, ?_, ?_, ?_⟩, ?_, ?_⟩ <;> decide
  have hbox : box.Fits := by
    refine ⟨⟨⟨?_, ?_⟩, ?_, ?_, ?_, ?_, ?_, ?_⟩, ?_, ?_⟩ <;> decide
  have hnear : clip.Near box := ⟨by decide, by decide⟩
  obtain ⟨inner, outer, hinner, houter, -, -, -, hexact, hhull, -, -⟩ :=
    clip_edits Device.fresh hclip hbox
  exact ⟨inner, outer, congrArg Device.clip hinner, congrArg Device.clip houter,
    hexact.mpr (.inl hnear), hhull⟩

/-- The difference of two boxes at opposite ends wraps around: their intersection has points, though
not of the left one. -/
theorem intersectClip_far_apart :
    let clip : Box := ⟨-2147483648, 0, 65536, 10⟩
    let box : Box := ⟨2147352576, 0, 65536, 10⟩
    clip.Fits ∧ box.Fits ∧
      ∃ inner : Box, ({ Device.fresh with clip := some clip }.intersectClip box).clip = some inner ∧
        inner.Contains ⟨2147352576, 0⟩ ∧ ¬ clip.Contains ⟨2147352576, 0⟩ := by
  intro clip box
  refine ⟨?_, ?_, ⟨2147352576, 0, 196608, 10⟩, rfl, by decide, by decide⟩
  all_goals refine ⟨⟨⟨?_, ?_⟩, ?_, ?_, ?_, ?_, ?_, ?_⟩, ?_, ?_⟩ <;> decide

end Device

end WindowsMetafile
