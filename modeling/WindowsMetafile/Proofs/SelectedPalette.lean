import WindowsMetafile.Proofs.ObjectTable

/-!
# The selected palette

The selected palette is held twice: the device context has the palette itself, and the handle that
it came from. An edit goes to both places. The two agree as long as no device context is restored: a
restored one has the palette that was selected when it was saved, and the place of its handle may
hold an edited or another palette by now. The next edit then overwrites what is there.

## Main definitions

* `Context.Coherent` — a palette at the handle of the selected palette is the selected one

## Main results

* `Context.coherent_after` — every operation but restoring keeps the two in step
* `Player.coherent_finish_iff` — a replay keeps them in step just when each RestoreDC does
* `Player.finish_not_coherent` — a RestoreDC that does not, and an edit that overwrites another
  palette after it
-/

namespace WindowsMetafile

namespace Context

variable {context context' : Context} {operation : Operation}

/-- If there is a palette at the handle of the selected palette, it is the selected palette. -/
def Coherent (context : Context) : Prop :=
  ∀ handle palette, context.device.paletteHandle = some handle →
    context.object? handle = some (.palette palette) → context.device.palette = some palette

theorem coherent_fresh : fresh.Coherent := by
  intro handle palette hhandle
  cases hhandle

/-- Where the same palette stays selected, it is enough that no palette comes to its place. -/
theorem Coherent.of_palettes (h : context.Coherent)
    (hpalette : context'.device.palette = context.device.palette)
    (hhandle : context'.device.paletteHandle = context.device.paletteHandle)
    (hobjects : ∀ handle palette, context.device.paletteHandle = some handle →
      context'.object? handle = some (.palette palette) →
      context.object? handle = some (.palette palette)) :
    context'.Coherent := by
  intro handle palette hselected hobject
  rw [hhandle] at hselected
  rw [hpalette]
  exact h handle palette hselected (hobjects handle palette hselected hobject)

theorem coherent_create (h : context.Coherent) (object : GraphicsObject) :
    (context.after (.create object)).Coherent := by
  rcases context.after_create_cases object with ⟨place, hcreated⟩ | ⟨-, hsame⟩
  · have hstored := hcreated.storedLowest.stored
    cases object with
    -- A new palette is selected, and comes to the place of its handle.
    | palette created =>
      intro handle palette hhandle hobject
      rw [hcreated.device] at hhandle ⊢
      obtain rfl : place = handle := Option.some.inj hhandle
      rw [hstored] at hobject
      cases hobject
      rfl
    -- Any other object may come to the place of a deleted palette that is still selected.
    | pen | brush | font | region =>
      refine h.of_palettes (by rw [hcreated.device]; rfl) (by rw [hcreated.device]; rfl) ?_
      intro handle palette _ hobject
      by_cases hplace : handle.toNat = place.toNat
      · rw [UInt16.toNat_inj.mp hplace, hstored] at hobject
        cases hobject
      · rwa [object?, ← hcreated.storedLowest.others _ hplace]
  · rwa [hsame]

theorem coherent_select (h : context.Coherent) (handle : UInt16) (scale : Scale) :
    (context.select handle scale).2.Coherent := by
  unfold select
  cases hobject : context.object? handle with
  | none => exact h
  | some object =>
    cases object with
    | palette palette =>
      intro selected other hselected hother
      obtain rfl : handle = selected := Option.some.inj hselected
      cases hobject.symm.trans hother
      rfl
    | pen | brush | font | region => exact h.of_palettes rfl rfl fun _ _ _ hpalette => hpalette

theorem coherent_delete (h : context.Coherent) (handle : UInt16) :
    (context.delete handle).2.Coherent := by
  refine h.of_palettes (by rw [device_delete]) (by rw [device_delete]) ?_
  intro other palette _ hobject
  rw [object?_eq_some_iff, objects_delete, List.getElem?_set] at hobject
  rw [object?_eq_some_iff]
  split at hobject
  · split at hobject <;> cases hobject
  · exact hobject

theorem coherent_editPalette (h : context.Coherent) (edit : Palette → Palette) :
    (context.editPalette edit).2.Coherent := by
  unfold editPalette
  cases hpalette : context.device.palette with
  | none => exact h
  | some selected =>
    intro handle palette hhandle hobject
    change context.device.paletteHandle = some handle at hhandle
    simp only [object?_eq_some_iff, hhandle, storePalette] at hobject
    split at hobject
    · rename_i old hold
      rw [List.getElem?_set_self (List.getElem?_eq_some_iff.mp hold).1] at hobject
      cases hobject
      rfl
    · rename_i hvacant
      exact absurd hobject (hvacant palette)

/-- Restoring aside, every operation keeps the two in step, as long as other changes of the device
context leave the selected objects alone. -/
theorem coherent_after (h : context.Coherent) (hrestore : ∀ id, operation ≠ .restore id)
    (hchange : ∀ edit, operation = .change edit →
      ∀ device : Device, device.SameObjects (edit device)) :
    (context.after operation).Coherent := by
  cases operation with
  | save => exact h
  | restore id => exact absurd rfl (hrestore id)
  | create object => exact coherent_create h object
  | select handle scale => exact coherent_select h handle scale
  | delete handle => exact coherent_delete h handle
  | editPalette edit => exact coherent_editPalette h edit
  | change edit =>
    have hsame := hchange edit rfl context.device
    exact h.of_palettes hsame.palette hsame.paletteHandle fun _ _ _ hpalette => hpalette

end Context

/-! ### Replays -/

namespace Player

variable {player : Player} {record : Record} {context : Context}

/-- A record keeps the selected palette in step with the table, unless it is a RestoreDC. -/
theorem coherent_after (h : context.Coherent)
    (hopcode : record.opcode ≠ RecordType.restoreDc.opcode) :
    (player.after context record).Coherent := by
  rcases player.after_cases record context with hsame | ⟨command, operation, hdecode, hacts, hafter⟩
  · rwa [hsame]
  · rw [hafter]
    refine Context.coherent_after h ?_ ?_
    · rintro id rfl
      have htype := Record.type?_of_decode hdecode
      rw [hacts.eq_restoreState] at htype
      exact hopcode (RecordType.ofOpcode?_eq_some_iff.mp htype.symm).symm
    · rintro edit rfl
      exact hacts.sameObjects

/-- A record that edits the palette does just that. -/
theorem after_of_paletteEdit? {command : Command} {edit : Palette → Palette}
    (hdecode : record.decode = .ok command) (hedit : command.action.paletteEdit? = some edit) :
    player.after context record = (context.editPalette edit).2 := by
  have hnext : player.next record context = .ok (context.editPalette edit).2 := by
    rw [next, hdecode]
    exact Action.next_of_paletteEdit? hedit
  rw [after, hnext]

/-- A replay keeps the selected palette in step with the table after every record, just when it does
so after every RestoreDC. Where the two are in step, a record that edits the palette edits the
stored palette that is selected, and no other object. -/
theorem coherent_finish_iff (player : Player) (records : List Record) :
    ((∀ done, done <+: records → (player.finish .fresh done).Coherent) ↔
      ∀ done record, done ++ [record] <+: records →
        record.opcode = RecordType.restoreDc.opcode →
        (player.finish .fresh (done ++ [record])).Coherent) ∧
    ∀ done record command edit, record.decode = .ok command →
      command.action.paletteEdit? = some edit → (player.finish .fresh done).Coherent →
      ∀ handle,
        let before := player.finish .fresh done
        let after := player.finish .fresh (done ++ [record])
        after.object? handle = before.object? handle ∨
          ∃ palette, before.device.palette = some palette ∧
            before.object? handle = some (.palette palette) ∧
            after.object? handle = some (.palette (edit palette)) := by
  refine ⟨⟨fun h done record hdone _ => h _ hdone, fun h done hdone => ?_⟩, ?_⟩
  -- A record out of reach changes nothing, and any record but a RestoreDC keeps the two in step.
  · induction done using List.reverseRecOn with
    | nil => exact Context.coherent_fresh
    | append_singleton done record ih =>
      by_cases hopcode : record.opcode = RecordType.restoreDc.opcode
      · exact h done record hdone hopcode
      · have hbefore := ih ((List.prefix_append done [record]).trans hdone)
        rcases player.finish_concat .fresh done record with hsame | hafter
        · rwa [hsame]
        · rw [hafter]
          exact coherent_after hbefore hopcode
  · intro done record command edit hdecode hedit hcoherent handle before after
    rcases player.finish_concat .fresh done record with hsame | hafter
    · exact .inl (by simp only [after, before, hsame])
    · rw [after_of_paletteEdit? hdecode hedit] at hafter
      rcases before.getElem?_editPalette edit handle.toNat with
        hplace | ⟨source, old, selected, hsource, hplace, hold, hselected, hedited⟩
      · refine .inl ?_
        change (player.finish .fresh (done ++ [record])).object? handle = _
        rw [hafter, Context.object?, hplace]
        rfl
      -- The two were in step, so the palette that the edit goes over is the selected one.
      · obtain rfl := UInt16.toNat_inj.mp hplace
        have hstored := Context.object?_eq_some_iff.mpr hold
        obtain rfl : selected = old :=
          Option.some.inj (hselected.symm.trans (hcoherent handle old hsource hstored))
        refine .inr ⟨selected, hselected, hstored, ?_⟩
        change (player.finish .fresh (done ++ [record])).object? handle = _
        rw [hafter]
        exact Context.object?_eq_some_iff.mpr hedited

/-- A palette is saved as selected and deleted, another one takes its handle, and the first one is
restored. The two are no longer in step, and an edit of one colour writes the first palette over the
other: its second colour is lost. -/
theorem finish_not_coherent :
    let player : Player := ⟨.proceed, none, .identity, fun _ => .ok ⟨0, 0, []⟩⟩
    let records : List Record :=
      [⟨0x00F7, [0x0300, 2, 1, 0, 2, 0]⟩, ⟨0x001E, []⟩, ⟨0x01F0, [0]⟩,
        ⟨0x00F7, [0x0300, 2, 3, 0, 4, 0]⟩, ⟨0x0127, [0xFFFF]⟩]
    let edit : Record := ⟨0x0037, [0, 1, 5, 0]⟩
    let before := player.finish .fresh records
    let after := player.finish .fresh (records ++ [edit])
    ¬ before.Coherent ∧
      before.object? 0 = some (.palette ⟨[⟨3, 0, 0, 0⟩, ⟨4, 0, 0, 0⟩]⟩) ∧
      after.object? 0 = some (.palette ⟨[⟨5, 0, 0, 0⟩, ⟨2, 0, 0, 0⟩]⟩) := by
  intro player records edit before after
  have hhandle : before.device.paletteHandle = some 0 := rfl
  have hstored : before.object? 0 = some (.palette ⟨[⟨3, 0, 0, 0⟩, ⟨4, 0, 0, 0⟩]⟩) := rfl
  have hselected : before.device.palette = some ⟨[⟨1, 0, 0, 0⟩, ⟨2, 0, 0, 0⟩]⟩ := rfl
  refine ⟨fun hcoherent => ?_, hstored, rfl⟩
  have hsame := hcoherent 0 _ hhandle hstored
  rw [hselected] at hsame
  exact absurd hsame (by decide)

end Player

end WindowsMetafile
