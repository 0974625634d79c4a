import Mathlib.Order.Bounds.Basic
import Mathlib.Order.MinMax
import WindowsMetafile.Proofs.Stack

/-!
# The object table

A new object takes the lowest handle without an object, and deleting an object frees its handle
again. So the table never has more places than there were objects at some time, and an object stays
at its handle until it is deleted there. Only the selected palette is edited in its place.

## Main definitions

* `Context.live` — the number of objects in a table
* `Context.StoredLowest`, `Context.Deleted` — what creating and deleting an object do to the table

## Main results

* `Context.length_objects_after` — a table only grows to hold more objects than it has places
* `Context.isGreatest_live` — a table has as many places as it once held objects
* `Context.object?_after`, `Context.object?_run` — an object stays until it is deleted
* `Context.objects_run` — the laws of the table in every run
-/

namespace WindowsMetafile

namespace Context

variable {context context' : Context} {object : GraphicsObject} {handle : UInt16}

/-- The number of objects in the table. -/
def live (context : Context) : Nat :=
  context.objects.countP Option.isSome

theorem live_le_length (context : Context) : context.live ≤ context.objects.length :=
  List.countP_le_length

/-! ### Places and handles -/

theorem exists_of_lt_freePlace {place : Nat} (h : place < context.freePlace) :
    ∃ object, context.objects[place]? = some (some object) := by
  have hwithin : place < context.objects.length := Nat.lt_of_lt_of_le h List.findIdx_le_length
  have hsome : (context.objects[place]).isNone = false := List.not_of_lt_findIdx h
  obtain ⟨object, hobject⟩ := Option.isSome_iff_exists.mp (by simpa using hsome)
  exact ⟨object, by rw [List.getElem?_eq_getElem hwithin, hobject]⟩

theorem getElem_freePlace (h : context.freePlace < context.objects.length) :
    context.objects[context.freePlace] = none :=
  Option.isNone_iff_eq_none.mp (List.findIdx_getElem (w := h))

/-- The free place has no object: it is empty, or there is no such place yet. -/
theorem join_getElem?_freePlace (context : Context) :
    (context.objects[context.freePlace]?).join = none := by
  by_cases hwithin : context.freePlace < context.objects.length
  · rw [List.getElem?_eq_getElem hwithin, getElem_freePlace hwithin]
    rfl
  · rw [List.getElem?_eq_none (Nat.not_lt.mp hwithin)]
    rfl

theorem object?_eq_some_iff :
    context.object? handle = some object ↔
      context.objects[handle.toNat]? = some (some object) := by
  rw [object?, Option.join_eq_some_iff]

namespace Created

variable (h : context.Created object handle context')

include h

theorem getElem?_eq (place : Nat) :
    context'.objects[place]? =
      if place = handle.toNat then some (some object) else context.objects[place]? := by
  rcases h.objects with ⟨hwithin, hobjects⟩ | ⟨hend, hobjects⟩
  · rw [hobjects, List.getElem?_set]
    grind
  · rw [hobjects, List.getElem?_append]
    grind

/-- One object more is live. -/
theorem live_eq : context'.live = context.live + 1 := by
  unfold live
  rcases h.objects with ⟨hwithin, hobjects⟩ | ⟨hend, hobjects⟩
  · have hnone : context.objects[handle.toNat] = none := by
      simp only [h.place] at hwithin ⊢
      exact getElem_freePlace hwithin
    rw [hobjects, List.countP_set hwithin, hnone]
    rfl
  · rw [hobjects, List.countP_append]
    rfl

/-- A table grows only where all its places have an object. -/
theorem length_eq : context'.objects.length = max context.objects.length context'.live := by
  have hlive := h.live_eq
  rcases h.objects with ⟨hwithin, hobjects⟩ | ⟨hend, hobjects⟩
  · have hlength : context'.objects.length = context.objects.length := by
      rw [hobjects, List.length_set]
    have hle := context'.live_le_length
    omega
  · have hlength : context'.objects.length = context.objects.length + 1 := by
      rw [hobjects, List.length_append]
      rfl
    -- The free place is behind the table, so every place within it has an object.
    have hfull : context.live = context.objects.length := by
      refine List.countP_eq_length.mpr fun slot hslot => ?_
      obtain ⟨place, hplace, rfl⟩ := List.getElem_of_mem hslot
      obtain ⟨kept, hkept⟩ := exists_of_lt_freePlace (h.place ▸ hend ▸ hplace)
      rw [List.getElem?_eq_getElem hplace] at hkept
      rw [Option.some.inj hkept]
      rfl
    omega

end Created

/-! ### What happens to the places -/

/-- Deleting leaves an empty place, where there is a place at all. -/
theorem objects_delete (context : Context) (handle : UInt16) :
    (context.delete handle).2.objects = context.objects.set handle.toNat none := by
  unfold delete
  cases hobject : context.object? handle with
  | some object => rfl
  | none =>
    by_cases hwithin : handle.toNat < context.objects.length
    · have hempty : context.objects[handle.toNat] = none := by
        rw [object?, List.getElem?_eq_getElem hwithin] at hobject
        exact hobject
      change context.objects = _
      rw [← hempty, List.set_getElem_self]
    · change context.objects = _
      rw [List.set_eq_of_length_le (Nat.not_lt.mp hwithin)]

/-- The edited palette only goes to the place that the selected one came from, and only if a palette
is there. -/
theorem objects_editPalette_cases (context : Context) (edit : Palette → Palette) :
    (context.editPalette edit).2.objects = context.objects ∨
      ∃ handle old selected, context.device.paletteHandle = some handle ∧
        context.objects[handle.toNat]? = some (some (.palette old)) ∧
        context.device.palette = some selected ∧
        (context.editPalette edit).2.objects =
          context.objects.set handle.toNat (some (.palette (edit selected))) := by
  unfold editPalette
  cases hselected : context.device.palette with
  | none => exact .inl rfl
  | some selected =>
    dsimp only
    unfold storePalette
    split
    · exact .inl rfl
    · rename_i handle hhandle
      split
      · rename_i old hold
        exact .inr ⟨handle, old, selected, hhandle, hold, rfl, rfl⟩
      · exact .inl rfl

@[simp] theorem length_objects_editPalette (context : Context) (edit : Palette → Palette) :
    (context.editPalette edit).2.objects.length = context.objects.length := by
  rcases context.objects_editPalette_cases edit with hsame | ⟨_, _, _, -, -, -, hedited⟩
  · rw [hsame]
  · rw [hedited, List.length_set]

theorem getElem?_editPalette (context : Context) (edit : Palette → Palette) (place : Nat) :
    (context.editPalette edit).2.objects[place]? = context.objects[place]? ∨
      ∃ handle old selected, context.device.paletteHandle = some handle ∧ place = handle.toNat ∧
        context.objects[place]? = some (some (.palette old)) ∧
        context.device.palette = some selected ∧
        (context.editPalette edit).2.objects[place]? = some (some (.palette (edit selected))) := by
  rcases context.objects_editPalette_cases edit with
    hsame | ⟨handle, old, selected, hhandle, hold, hselected, hedited⟩
  · exact .inl (by rw [hsame])
  · rw [hedited]
    by_cases hplace : place = handle.toNat
    · subst hplace
      have hwithin : handle.toNat < context.objects.length := (List.getElem?_eq_some_iff.mp hold).1
      exact .inr ⟨handle, old, selected, hhandle, rfl, hold, hselected,
        List.getElem?_set_self hwithin⟩
    · exact .inl (List.getElem?_set_ne (Ne.symm hplace))

/-- Only a creation changes the length of the table. -/
theorem length_objects_after_cases (context : Context) (operation : Operation) :
    (context.after operation).objects.length = context.objects.length ∨
      ∃ object handle, context.Created object handle (context.after operation) := by
  cases operation with
  | create object =>
    rcases context.after_create_cases object with ⟨handle, hcreated⟩ | ⟨-, hsame⟩
    · exact .inr ⟨object, handle, hcreated⟩
    · exact .inl (by rw [hsame])
  | restore id => exact .inl (by rw [objects_after_restore])
  | delete handle => exact .inl (by rw [after_delete, objects_delete, List.length_set])
  | save | select | editPalette | change => exact .inl (by simp)

/-- A table only grows to hold more objects than it has places. -/
theorem length_objects_after (context : Context) (operation : Operation) :
    (context.after operation).objects.length =
      max context.objects.length (context.after operation).live := by
  rcases context.length_objects_after_cases operation with hsame | ⟨object, handle, hcreated⟩
  · have hlive := (context.after operation).live_le_length
    omega
  · exact hcreated.length_eq

/-- An object stays at its handle, unless it is deleted there or is a palette that is edited. -/
theorem object?_after (h : context.object? handle = some object) (operation : Operation) :
    (context.after operation).object? handle = some object ∨ operation = .delete handle ∨
      ∃ edit old selected, operation = .editPalette edit ∧ object = .palette old ∧
        context.device.paletteHandle = some handle ∧ context.device.palette = some selected ∧
        (context.after operation).object? handle = some (.palette (edit selected)) := by
  cases operation with
  -- The place of a new object was free, so it is not that of the handle.
  | create created =>
    refine .inl ?_
    rcases context.after_create_cases created with ⟨place, hcreated⟩ | ⟨-, hsame⟩
    · have hother : handle.toNat ≠ place.toNat := by
        intro hplace
        have hfree := context.join_getElem?_freePlace
        rw [← hcreated.place, ← hplace, ← object?, h] at hfree
        cases hfree
      rw [object?_eq_some_iff] at h ⊢
      rw [hcreated.getElem?_eq, if_neg hother, h]
    · rw [hsame, h]
  | delete other =>
    by_cases hother : other = handle
    · exact .inr (.inl (by rw [hother]))
    · refine .inl ?_
      have hplace : other.toNat ≠ handle.toNat := fun heq => hother (UInt16.toNat_inj.mp heq)
      rw [object?, after_delete, objects_delete, List.getElem?_set_ne hplace]
      exact h
  | editPalette edit =>
    rw [object?_eq_some_iff] at h
    rcases context.getElem?_editPalette edit handle.toNat with
      hsame | ⟨source, old, selected, hsource, hplace, hold, hselected, hedited⟩
    · exact .inl (object?_eq_some_iff.mpr (hsame.trans h))
    · obtain rfl := UInt16.toNat_inj.mp hplace
      have hobject : object = .palette old := by
        rw [h] at hold
        exact Option.some.inj (Option.some.inj hold)
      exact .inr (.inr ⟨edit, old, selected, rfl, hobject, hsource, hselected,
        object?_eq_some_iff.mpr hedited⟩)
  | restore id =>
    refine .inl ?_
    rw [object?, objects_after_restore]
    exact h
  | save | select | change =>
    refine .inl ?_
    simpa [object?] using h

/-! ### Runs -/

/-- A table has as many places as the greatest number of objects that it held at one time. -/
theorem isGreatest_live (operations : List Operation) :
    IsGreatest {live | ∃ done, done <+: operations ∧ live = (fresh.run done).live}
      (fresh.run operations).objects.length := by
  induction operations using List.reverseRecOn with
  | nil =>
    refine ⟨⟨[], List.prefix_rfl, rfl⟩, ?_⟩
    rintro live ⟨done, hdone, rfl⟩
    rw [List.prefix_nil.mp hdone]
    exact Nat.le_refl _
  | append_singleton operations operation ih =>
    -- The new length is the peak of the run so far, or the number of objects that are live now.
    rw [run_concat, length_objects_after, ← run_concat]
    obtain ⟨⟨done, hdone, hpeak⟩, hbound⟩ := ih
    constructor
    · rcases max_choice (fresh.run operations).objects.length
        (fresh.run (operations ++ [operation])).live with hmax | hmax
      · exact ⟨done, hdone.trans (List.prefix_append _ _), hmax.trans hpeak⟩
      · exact ⟨_, List.prefix_rfl, hmax⟩
    · rintro live ⟨done', hdone', rfl⟩
      rcases List.prefix_concat_iff.mp hdone' with rfl | hdone'
      · exact le_max_right _ _
      · exact (hbound ⟨done', hdone', rfl⟩).trans (le_max_left _ _)

/-- Until it is deleted, an object stays at its handle; a palette may have been edited there. -/
theorem object?_run (operations : List Operation) (h : context.object? handle = some object)
    (hdelete : .delete handle ∉ operations) :
    ∃ kept, (context.run operations).object? handle = some kept ∧
      (kept = object ∨
        (∃ edit, .editPalette edit ∈ operations) ∧
          ∃ old new, object = .palette old ∧ kept = .palette new) := by
  induction operations using List.reverseRecOn with
  | nil => exact ⟨object, h, .inl rfl⟩
  | append_singleton operations operation ih =>
    rw [List.mem_append, List.mem_singleton, not_or] at hdelete
    obtain ⟨kept, hkept, hsame⟩ := ih hdelete.1
    rw [run_concat]
    rcases object?_after hkept operation with
      hstays | rfl | ⟨edit, old, selected, rfl, hold, -, -, hedited⟩
    · refine ⟨kept, hstays, hsame.imp_right fun ⟨⟨edit, hedit⟩, hpalettes⟩ => ?_⟩
      exact ⟨⟨edit, List.mem_append_left _ hedit⟩, hpalettes⟩
    · exact absurd rfl hdelete.2
    · refine ⟨_, hedited, .inr ⟨⟨edit, List.mem_append_right _ List.mem_cons_self⟩, ?_⟩⟩
      rcases hsame with rfl | ⟨-, first, last, hfirst, -⟩
      · exact ⟨old, edit selected, hold, rfl⟩
      · exact ⟨first, edit selected, hfirst, rfl⟩

/-! ### What creating and deleting do -/

/-- An object went to the lowest handle without an object, and nowhere else. -/
structure StoredLowest (context : Context) (object : GraphicsObject) (handle : UInt16)
    (context' : Context) : Prop where
  vacant : context.object? handle = none
  lowest : ∀ lower, lower < handle → (context.object? lower).isSome
  /-- Where no place of the table is free, the handle is that of the place behind it. -/
  within : handle.toNat ≤ context.objects.length
  stored : context'.object? handle = some object
  others : ∀ place, place ≠ handle.toNat → context'.objects[place]? = context.objects[place]?

/-- An object was taken from its handle if there was one, and nothing else was touched. -/
structure Deleted (context : Context) (handle : UInt16) (found : Bool) (context' : Context) :
    Prop where
  found_iff : found = true ↔ (context.object? handle).isSome
  vacant : context'.object? handle = none
  others : ∀ place, place ≠ handle.toNat → context'.objects[place]? = context.objects[place]?
  device : context'.device = context.device
  saved : context'.saved = context.saved

theorem Created.storedLowest (h : context.Created object handle context') :
    context.StoredLowest object handle context' where
  vacant := by
    rw [object?, h.place, join_getElem?_freePlace]
  lowest lower hlower := by
    have hplace : lower.toNat < context.freePlace := h.place ▸ UInt16.lt_iff_toNat_lt.mp hlower
    obtain ⟨found, hfound⟩ := exists_of_lt_freePlace hplace
    rw [object?_eq_some_iff.mpr hfound]
    rfl
  within := h.place ▸ List.findIdx_le_length
  stored := object?_eq_some_iff.mpr (by rw [h.getElem?_eq, if_pos rfl])
  others place hplace := by rw [h.getElem?_eq, if_neg hplace]

/-- Where no handle is left, every handle has an object. -/
theorem isSome_of_full (h : handleCount ≤ context.freePlace) (handle : UInt16) :
    (context.object? handle).isSome := by
  have hplace : handle.toNat < context.freePlace := Nat.lt_of_lt_of_le handle.toNat_lt h
  obtain ⟨found, hfound⟩ := exists_of_lt_freePlace hplace
  rw [object?_eq_some_iff.mpr hfound]
  rfl

theorem delete_deleted (context : Context) (handle : UInt16) :
    context.Deleted handle (context.delete handle).1 (context.delete handle).2 where
  found_iff := by
    unfold delete
    cases context.object? handle <;> simp
  vacant := by
    rw [object?, objects_delete, List.getElem?_set]
    grind
  others place hplace := by rw [objects_delete, List.getElem?_set_ne (Ne.symm hplace)]
  device := device_delete context handle
  saved := saved_delete context handle

/-- Where no handle is left, a creation has put an empty place behind the table. -/
theorem openTable_of_full (h : handleCount ≤ context.freePlace) :
    context.openTable = context.objects ++ [none] :=
  if_neg (Nat.not_lt.mpr (Nat.le_trans context.fits h))

/-- A creation fails where no handle is left, and then nothing has changed. -/
theorem run_create_of_full (h : handleCount ≤ context.freePlace) (object : GraphicsObject)
    (canvas : Canvas) :
    (Replay.create object).run.run ⟨context, canvas⟩ =
      (.error (.invalidHandle 65535 .tableFull), ⟨context, canvas⟩) := by
  rw [Replay.run_create, create_of_full h]
  rfl

/-- The laws of the object table, after any operations that began with an empty one.

The table is as long as the greatest number of objects that it held at one time, and no longer than
there are handles. A new object takes the lowest handle without one; if there is none, the creation
puts an empty place behind the table, fails, and leaves the context as it was. Deleting tells
whether there was an object, empties its place, and leaves what is selected or saved alone.
Selecting, saving and restoring leave the table alone. An object stays at its handle until it is
deleted there, unless it is a palette that is edited: the selected palette goes to its handle
then. -/
theorem objects_run (operations : List Operation) :
    let context := fresh.run operations
    (IsGreatest {live | ∃ done, done <+: operations ∧ live = (fresh.run done).live}
        context.objects.length ∧ context.objects.length ≤ handleCount) ∧
    (∀ object,
      (∃ handle context', context.create object = ⟨.ok handle, context'⟩ ∧
        context.StoredLowest object handle context') ∨
      (∀ handle, (context.object? handle).isSome) ∧
        context.openTable = context.objects ++ [none] ∧
        context.create object = ⟨.error (.invalidHandle 65535 .tableFull), context⟩ ∧
        ∀ canvas, (Replay.create object).run.run ⟨context, canvas⟩ =
          (.error (.invalidHandle 65535 .tableFull), ⟨context, canvas⟩)) ∧
    (∀ handle, context.Deleted handle (context.delete handle).1 (context.delete handle).2) ∧
    ((∀ handle scale, (context.select handle scale).2.objects = context.objects) ∧
      context.save.objects = context.objects ∧
      ∀ id, (context.after (.restore id)).objects = context.objects) ∧
    ∀ handle object, context.object? handle = some object →
      (∀ operation, (context.after operation).object? handle = some object ∨
        operation = .delete handle ∨
        ∃ edit old selected, operation = .editPalette edit ∧ object = .palette old ∧
          context.device.paletteHandle = some handle ∧ context.device.palette = some selected ∧
          (context.after operation).object? handle = some (.palette (edit selected))) ∧
      ∀ more, .delete handle ∉ more →
        ∃ kept, (context.run more).object? handle = some kept ∧
          (kept = object ∨
            (∃ edit, .editPalette edit ∈ more) ∧
              ∃ old new, object = .palette old ∧ kept = .palette new) := by
  intro context
  refine ⟨⟨isGreatest_live operations, context.fits⟩, fun object => ?_,
    context.delete_deleted, ⟨context.objects_select, context.objects_save,
      context.objects_after_restore⟩,
    fun handle object hstored => ⟨object?_after hstored, fun more => object?_run more hstored⟩⟩
  rcases context.create_cases object with ⟨handle, context', hcreate, hcreated⟩ | ⟨hfull, hfails⟩
  · exact .inl ⟨handle, context', hcreate, hcreated.storedLowest⟩
  · exact .inr ⟨isSome_of_full hfull, openTable_of_full hfull, hfails,
      run_create_of_full hfull object⟩

end Context

end WindowsMetafile
