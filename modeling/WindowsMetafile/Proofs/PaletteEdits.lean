import WindowsMetafile.Proofs.FullRun
import WindowsMetafile.Proofs.ObjectTable

/-!
# Edits of the selected palette

Records that edit the selected palette treat its entries as an array: colours are written over the
entries from an index on, and the array is cut or filled up to a length. An edit makes a new
palette, which is selected, and which also goes to the handle of the old one if a palette is there.
Saved device contexts keep the palette that they had.

## Main definitions

* `Palette.assign`, `Palette.fit` — the two edits of an array of entries
* `Action.editEntries` — what an action makes of the entries of the selected palette
* `Context.PaletteAt` — the place in the table that the selected palette goes to

## Main results

* `Palette.entries_write`, `Palette.entries_resize` — an edit of a palette is one of the array
* `Context.foldl_editPalette` — edits that follow each other are a single edit
* `Player.finish_paletteEdits` — what a replay of such records changes
-/

namespace WindowsMetafile

/-! ### Entries -/

namespace Palette

variable {entries colors : List Color}

/-- Entries with colours written over them, one after the other from an index on. What would come
behind the last entry is not written. -/
def assign : Nat → List Color → List Color → List Color
  | _, [], entries => entries
  | index, color :: colors, entries => assign (index + 1) colors (entries.set index color)

/-- Entries cut to a length, or filled up with black to it. -/
def fit (count : Nat) (entries : List Color) : List Color :=
  (entries.take count).rightpad count .black

@[simp] theorem length_assign (index : Nat) (colors entries : List Color) :
    (assign index colors entries).length = entries.length := by
  induction colors generalizing index entries with
  | nil => rfl
  | cons color colors ih => rw [assign, ih, List.length_set]

/-- An entry is overwritten if one of the colours is for its index. -/
theorem getElem?_assign (index : Nat) (colors entries : List Color) (place : Nat) :
    (assign index colors entries)[place]? =
      if index ≤ place ∧ place < index + colors.length ∧ place < entries.length then
        colors[place - index]?
      else entries[place]? := by
  induction colors generalizing index entries with
  | nil => simp [assign]; omega
  | cons color colors ih =>
    rw [assign, ih, List.length_set, List.getElem?_set]
    grind

theorem entries_write (palette : Palette) (start : UInt16) (colors : List Color) :
    (palette.write start colors).entries = assign start.toNat colors palette.entries := by
  ext1 place
  rw [getElem?_assign]
  simp only [write, List.getElem?_append, List.length_append, List.length_take, List.getElem?_take,
    List.getElem?_drop]
  grind

theorem entries_resize (palette : Palette) (count : UInt16) :
    (palette.resize count).entries = fit count.toNat palette.entries := by
  simp only [resize, fit, List.rightpad, List.length_take]
  congr 2
  omega

end Palette

namespace Action

variable {action : Action} {edit : Palette → Palette}

/-- What an action makes of the entries of the selected palette. -/
def editEntries : Action → List Color → List Color
  | .editPalette _ start colors, entries => Palette.assign start.toNat colors entries
  | .resizePalette count, entries => Palette.fit count.toNat entries
  | _, entries => entries

/-- An edit of a palette is the edit of its entries. -/
theorem editEntries_eq (h : action.paletteEdit? = some edit) (palette : Palette) :
    edit palette = ⟨action.editEntries palette.entries⟩ := by
  cases action with
  | editPalette kind start colors =>
    cases h
    rw [editEntries, ← Palette.entries_write]
  | resizePalette count =>
    cases h
    rw [editEntries, ← Palette.entries_resize]
  | _ => cases h

end Action

/-! ### Contexts -/

namespace Context

variable {context context' context'' : Context} {palette first second : Palette}
variable {decoder : BitmapDecoder} {scale : Scale}

/-- The place in the table that the selected palette goes to when it is edited: that of its handle,
as long as there is a palette. -/
def PaletteAt (context : Context) (place : Nat) : Prop :=
  ∃ handle old, context.device.paletteHandle = some handle ∧ handle.toNat = place ∧
    context.objects[place]? = some (some (.palette old))

/-- A palette has taken the place of the selected one, and nothing else has changed. -/
structure PaletteEdited (context : Context) (edited : Palette) (context' : Context) : Prop where
  device : context'.device = { context.device with palette := some edited }
  saved : context'.saved = context.saved
  stored : ∀ place, context.PaletteAt place →
    context'.objects[place]? = some (some (.palette edited))
  others : ∀ place, ¬ context.PaletteAt place →
    context'.objects[place]? = context.objects[place]?

theorem editPalette_of_unselected (h : context.device.palette = none) (edit : Palette → Palette) :
    (context.editPalette edit).2 = context := by
  rw [editPalette, h]

/-- One edit of the selected palette. -/
theorem paletteEdited_editPalette (h : context.device.palette = some palette)
    (edit : Palette → Palette) :
    context.PaletteEdited (edit palette) (context.editPalette edit).2 where
  device := by rw [editPalette, h]
  saved := context.saved_editPalette edit
  stored place hplace := by
    obtain ⟨handle, old, hhandle, rfl, hold⟩ := hplace
    have hwithin : handle.toNat < context.objects.length := (List.getElem?_eq_some_iff.mp hold).1
    simp only [editPalette, h, storePalette, hhandle, hold]
    exact List.getElem?_set_self hwithin
  others place hplace := by
    rcases context.getElem?_editPalette edit place with
      hsame | ⟨handle, old, _, hhandle, hat, hold, -, -⟩
    · exact hsame
    · exact absurd ⟨handle, old, hhandle, hat.symm, hold⟩ hplace

/-- An edited palette goes to the same place in the table as the one before. -/
theorem PaletteEdited.paletteAt_iff (h : context.PaletteEdited first context') (place : Nat) :
    context'.PaletteAt place ↔ context.PaletteAt place := by
  constructor
  · rintro ⟨handle, old, hhandle, hat, hold⟩
    by_contra hplace
    rw [h.others place hplace] at hold
    rw [h.device] at hhandle
    exact hplace ⟨handle, old, hhandle, hat, hold⟩
  · intro hplace
    have ⟨handle, _, hhandle, hat, _⟩ := hplace
    refine ⟨handle, first, ?_, hat, h.stored place hplace⟩
    rw [h.device]
    exact hhandle

theorem PaletteEdited.trans (h : context.PaletteEdited first context')
    (h' : context'.PaletteEdited second context'') : context.PaletteEdited second context'' where
  device := by rw [h'.device, h.device]
  saved := h'.saved.trans h.saved
  stored place hplace := h'.stored place ((h.paletteAt_iff place).mpr hplace)
  others place hplace := by
    rw [h'.others place (mt (h.paletteAt_iff place).mp hplace), h.others place hplace]

/-- An action on the entries of the selected palette edits it, and cannot fail. -/
theorem after_of_paletteEdit? {action : Action} {edit : Palette → Palette}
    (h : action.paletteEdit? = some edit) :
    action.after decoder scale context = (context.editPalette edit).2 := by
  rw [Action.after, Action.next_of_paletteEdit? h]

variable {edits : List Action} (hedits : ∀ action ∈ edits, action.paletteEdit?.isSome)

include hedits

theorem foldl_of_unselected (h : context.device.palette = none) :
    edits.foldl (Action.after decoder scale) context = context := by
  induction edits with
  | nil => rfl
  | cons action edits ih =>
    obtain ⟨edit, hedit⟩ := Option.isSome_iff_exists.mp (hedits action List.mem_cons_self)
    rw [List.foldl_cons, after_of_paletteEdit? hedit, editPalette_of_unselected h]
    exact ih fun later hlater => hedits later (List.mem_cons_of_mem _ hlater)

/-- Edits that follow each other put one palette in the place of the selected one: the one with the
entries after all of the edits. -/
theorem paletteEdited_foldl (h : context.device.palette = some palette) (hsome : edits ≠ []) :
    context.PaletteEdited
      ⟨edits.foldl (fun entries action => action.editEntries entries) palette.entries⟩
      (edits.foldl (Action.after decoder scale) context) := by
  induction edits generalizing context palette with
  | nil => exact absurd rfl hsome
  | cons action edits ih =>
    obtain ⟨edit, hedit⟩ := Option.isSome_iff_exists.mp (hedits action List.mem_cons_self)
    have hlater (later : Action) (hlater : later ∈ edits) : later.paletteEdit?.isSome :=
      hedits later (List.mem_cons_of_mem _ hlater)
    have hfirst := paletteEdited_editPalette h edit
    rw [Action.editEntries_eq hedit] at hfirst
    rw [List.foldl_cons, List.foldl_cons, after_of_paletteEdit? hedit]
    cases edits with
    | nil => exact hfirst
    | cons next edits =>
      -- The palette that the later edits start from is the one that the first edit has selected.
      have hselected : (context.editPalette edit).2.device.palette =
          some ⟨action.editEntries palette.entries⟩ := by
        rw [hfirst.device]
      exact hfirst.trans (ih hlater hselected (List.cons_ne_nil _ _))

end Context

/-! ### Replays -/

/-- The types of the records that edit the selected palette. -/
def paletteEditTypes : List RecordType :=
  [.setPalEntries, .animatePalette, .resizePalette]

/-- Each of these records asks for an edit of the entries. -/
theorem Action.isSome_paletteEdit? {action : Action}
    (h : ∃ type ∈ paletteEditTypes, action.type? = some type) : action.paletteEdit?.isSome := by
  obtain ⟨type, hmem, htype⟩ := h
  unfold type? at htype
  split at htype
  all_goals first
    | rfl
    | cases htype <;> exact absurd hmem (by decide)

namespace Player

variable {player : Player} {records : List Record}

/-- Records that edit the selected palette, replayed in any context. Without a selected palette they
change nothing. With one, the palette that is selected afterwards has the entries of the first after
all of the edits, made in order on an array. It also stands at the handle of the selected palette if
there was a palette. All other places of the table, the saved device contexts, and the rest of the
device context are as they were. -/
theorem finish_paletteEdits (hlimit : ∀ limit ∈ player.limit, records.length ≤ limit)
    (htypes : ∀ record ∈ records, record.HasType paletteEditTypes)
    (hfaults : player.policy = .proceed ∨ ∀ record ∈ records, record.action?.isSome)
    (context : Context) :
    let last := player.finish context records
    let edits := records.filterMap Record.action?
    (context.device.palette = none → last = context) ∧
    (edits = [] → last = context) ∧
    ∀ palette, context.device.palette = some palette →
      let edited : Palette :=
        ⟨edits.foldl (fun entries action => action.editEntries entries) palette.entries⟩
      last.device = { context.device with palette := some edited } ∧
      last.saved = context.saved ∧
      (∀ place, context.PaletteAt place → edits ≠ [] →
        last.objects[place]? = some (some (.palette edited))) ∧
      ∀ place, ¬ context.PaletteAt place → last.objects[place]? = context.objects[place]? := by
  intro last edits
  have hedits (action : Action) (haction : action ∈ edits) : action.paletteEdit?.isSome :=
    Action.isSome_paletteEdit? (Record.type?_of_mem_actions htypes haction)
  have hreaches : player.ReachesAll records := by
    refine .of_infallible hlimit htypes hfaults (by decide) fun action context htype => ?_
    obtain ⟨edit, hedit⟩ := Option.isSome_iff_exists.mp (Action.isSome_paletteEdit? htype)
    exact ⟨_, Action.next_of_paletteEdit? hedit⟩
  have hlast : last = edits.foldl (Action.after player.decoder player.scale) context :=
    finish_eq_foldl hreaches context
  have hnone (hedits : edits = []) : last = context := by
    rw [hlast, hedits, List.foldl_nil]
  refine ⟨fun hunselected => ?_, hnone, fun palette hpalette => ?_⟩
  · rw [hlast, Context.foldl_of_unselected hedits hunselected]
  · intro edited
    by_cases hsome : edits = []
    -- No record could be read, so the palette is the one that was selected before.
    · have hedited : edited = palette := by
        simp only [edited, hsome, List.foldl_nil]
      rw [hnone hsome, hedited]
      refine ⟨?_, rfl, fun _ _ hne => absurd hsome hne, fun _ _ => rfl⟩
      rw [← hpalette]
    · have hall : context.PaletteEdited edited last := by
        rw [hlast]
        exact Context.paletteEdited_foldl hedits hpalette hsome
      exact ⟨hall.device, hall.saved, fun place hplace _ => hall.stored place hplace, hall.others⟩

/-- A palette of two colours that is selected, saved, and at the second handle: three colours are
written from its second entry on, it is filled up to four, and two are written from the last. -/
theorem finish_paletteEdits_past_end :
    let player : Player := ⟨.stop, some 3, .identity, fun _ => .ok ⟨0, 0, []⟩⟩
    let records : List Record :=
      [⟨0x0037, [1, 3, 5, 0, 6, 0, 7, 0]⟩, ⟨0x0139, [4]⟩, ⟨0x0436, [3, 2, 8, 0, 9, 0]⟩]
    let palette : Palette := ⟨[⟨1, 0, 0, 0⟩, ⟨2, 0, 0, 0⟩]⟩
    let selected : Device :=
      { Device.fresh with palette := some palette, paletteHandle := some 1 }
    let context : Context := ⟨selected, [selected], [none, some (.palette palette)], by decide⟩
    let edited : Palette := ⟨[⟨1, 0, 0, 0⟩, ⟨5, 0, 0, 0⟩, .black, ⟨8, 0, 0, 0⟩]⟩
    let last := player.finish context records
    (∀ limit ∈ player.limit, records.length ≤ limit) ∧
      (∀ record ∈ records, record.HasType paletteEditTypes) ∧
      (∀ record ∈ records, record.action?.isSome) ∧
      last.device = { selected with palette := some edited } ∧ last.saved = [selected] ∧
      last.objects[1]? = some (some (.palette edited)) ∧ last.objects[0]? = some none := by
  intro player records palette selected context edited last
  have htypes : ∀ record ∈ records, record.HasType paletteEditTypes := by
    simp only [records, List.forall_mem_cons]
    exact ⟨⟨.setPalEntries, by decide, rfl⟩, ⟨.resizePalette, by decide, rfl⟩,
      ⟨.animatePalette, by decide, rfl⟩, List.forall_mem_nil _⟩
  have hreadable : ∀ record ∈ records, record.action?.isSome := by
    simp only [records, List.forall_mem_cons]
    exact ⟨rfl, rfl, rfl, List.forall_mem_nil _⟩
  have hedits : records.filterMap Record.action? =
      [.editPalette .replace 1 [⟨5, 0, 0, 0⟩, ⟨6, 0, 0, 0⟩, ⟨7, 0, 0, 0⟩], .resizePalette 4,
        .editPalette .animate 3 [⟨8, 0, 0, 0⟩, ⟨9, 0, 0, 0⟩]] := rfl
  have hlimit : ∀ limit ∈ player.limit, records.length ≤ limit := by decide
  obtain ⟨-, -, hall⟩ := finish_paletteEdits hlimit htypes (.inr hreadable) context
  obtain ⟨hdevice, hsaved, hstored, hothers⟩ := hall palette rfl
  rw [hedits] at hdevice hstored
  -- The first place is empty, so it is not the one of the selected palette.
  have hempty : ¬ context.PaletteAt 0 := by
    rintro ⟨handle, old, -, -, hold⟩
    cases hold
  exact ⟨hlimit, htypes, hreadable, hdevice, hsaved,
    hstored 1 ⟨1, palette, rfl, rfl, rfl⟩ (List.cons_ne_nil _ _), hothers 0 hempty⟩

end Player

end WindowsMetafile
