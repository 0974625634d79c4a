import WindowsMetafile.Proofs.Run

/-!
# Operations on a context

A context changes by a few operations: the stack is pushed and popped, objects are created,
selected and deleted, the selected palette is edited, and the device context is changed in other
ways. A record that does not fail acts on the context by a single operation, and a record that fails
leaves it alone. So a law of every operation is a law of every replay.

## Main definitions

* `Context.Operation`, `Context.run` — the operations, and the context after some of them
* `Action.Acts` — the operations by which an action can act
* `Player.after` — the context after a record
* `Player.finish` — the context at the end of a replay

## Main results

* `Action.acts_of_next` — an action that does not fail acts by one operation
* `Player.after_cases` — a record acts by one operation of its command, or does nothing
* `Player.finish_concat` — one more record acts once more, or is out of reach
-/

namespace WindowsMetafile

namespace Context

/-- A single thing that can be done to a context. -/
inductive Operation
  | save
  | restore (id : Int16)
  | create (object : GraphicsObject)
  | select (handle : UInt16) (scale : Scale)
  | delete (handle : UInt16)
  | editPalette (edit : Palette → Palette)
  /-- Any change of the device context by itself. -/
  | change (edit : Device → Device)

/-- The context after an operation, or why there is none. -/
def perform (context : Context) : Operation → Except Fault Context
  | .save => .ok context.save
  | .restore id => context.restore id
  | .create object => (context.create object).next
  | .select handle scale => .ok (context.select handle scale).2
  | .delete handle => .ok (context.delete handle).2
  | .editPalette edit => .ok (context.editPalette edit).2
  | .change edit => .ok (context.withDevice edit)

/-- The context after an operation; one that fails leaves it as it was. -/
def after (context : Context) (operation : Operation) : Context :=
  match context.perform operation with
  | .ok context' => context'
  | .error _ => context

/-- The context after some operations. -/
def run (context : Context) (operations : List Operation) : Context :=
  operations.foldl after context

variable {context context' : Context} {operation : Operation} {fault : Fault}

theorem after_of_ok (h : context.perform operation = .ok context') :
    context.after operation = context' := by
  rw [after, h]

theorem after_of_error (h : context.perform operation = .error fault) :
    context.after operation = context := by
  rw [after, h]

@[simp] theorem after_save (context : Context) : context.after .save = context.save := rfl

@[simp] theorem after_select (context : Context) (handle : UInt16) (scale : Scale) :
    context.after (.select handle scale) = (context.select handle scale).2 := rfl

@[simp] theorem after_delete (context : Context) (handle : UInt16) :
    context.after (.delete handle) = (context.delete handle).2 := rfl

@[simp] theorem after_editPalette (context : Context) (edit : Palette → Palette) :
    context.after (.editPalette edit) = (context.editPalette edit).2 := rfl

@[simp] theorem after_change (context : Context) (edit : Device → Device) :
    context.after (.change edit) = context.withDevice edit := rfl

theorem run_concat (operations : List Operation) (operation : Operation) :
    context.run (operations ++ [operation]) = (context.run operations).after operation :=
  List.foldl_concat ..

/-! ### What an operation touches -/

variable {object : GraphicsObject} {handle : UInt16}

@[simp] theorem objects_save (context : Context) : context.save.objects = context.objects := rfl

@[simp] theorem saved_withDevice (context : Context) (edit : Device → Device) :
    (context.withDevice edit).saved = context.saved := rfl

@[simp] theorem objects_withDevice (context : Context) (edit : Device → Device) :
    (context.withDevice edit).objects = context.objects := rfl

@[simp] theorem saved_select (context : Context) (handle : UInt16) (scale : Scale) :
    (context.select handle scale).2.saved = context.saved := by
  unfold select
  split <;> rfl

@[simp] theorem objects_select (context : Context) (handle : UInt16) (scale : Scale) :
    (context.select handle scale).2.objects = context.objects := by
  unfold select
  split <;> rfl

@[simp] theorem saved_delete (context : Context) (handle : UInt16) :
    (context.delete handle).2.saved = context.saved := by
  unfold delete
  split <;> rfl

@[simp] theorem device_delete (context : Context) (handle : UInt16) :
    (context.delete handle).2.device = context.device := by
  unfold delete
  split <;> rfl

@[simp] theorem saved_editPalette (context : Context) (edit : Palette → Palette) :
    (context.editPalette edit).2.saved = context.saved := by
  unfold editPalette
  split <;> rfl

/-- An object was put into the free place of a table and selected. -/
structure Created (context : Context) (object : GraphicsObject) (handle : UInt16)
    (context' : Context) : Prop where
  place : handle.toNat = context.freePlace
  /-- The free place is within the table, or just behind it. -/
  objects : handle.toNat < context.objects.length ∧
      context'.objects = context.objects.set handle.toNat (some object) ∨
    handle.toNat = context.objects.length ∧ context'.objects = context.objects ++ [some object]
  device : context'.device = context.device.install handle object
  saved : context'.saved = context.saved

/-- The entry for the free place goes into the table, or behind it. -/
theorem set_openTable_cases (context : Context) (entry : Option GraphicsObject) :
    context.freePlace < context.objects.length ∧
        context.openTable.set context.freePlace entry =
          context.objects.set context.freePlace entry ∨
      context.freePlace = context.objects.length ∧
        context.openTable.set context.freePlace entry = context.objects ++ [entry] := by
  by_cases hwithin : context.freePlace < context.objects.length
  · exact .inl ⟨hwithin, by rw [openTable, if_pos hwithin]⟩
  · have hend : context.freePlace = context.objects.length :=
      Nat.le_antisymm context.freePlace_le (Nat.not_lt.mp hwithin)
    refine .inr ⟨hend, ?_⟩
    rw [openTable, if_neg hwithin, hend, List.set_append_right _ _ (Nat.le_refl _), Nat.sub_self,
      List.set_cons_zero]

/-- An object is put into the free place, unless no handle can name that place. -/
theorem create_cases (context : Context) (object : GraphicsObject) :
    (∃ handle context', context.create object = ⟨.ok handle, context'⟩ ∧
      context.Created object handle context') ∨
    (handleCount ≤ context.freePlace ∧
      context.create object = ⟨.error (.invalidHandle 65535 .tableFull), context⟩) := by
  by_cases hfull : handleCount ≤ context.freePlace
  · exact .inr ⟨hfull, create_of_full hfull object⟩
  · have hplace : (UInt16.ofNat context.freePlace).toNat = context.freePlace :=
      UInt16.toNat_ofNat_of_lt' (Nat.not_le.mp hfull)
    refine .inl ⟨.ofNat context.freePlace, _, dif_neg hfull, hplace, ?_, rfl, rfl⟩
    rw [hplace]
    exact context.set_openTable_cases (some object)

theorem after_create_cases (context : Context) (object : GraphicsObject) :
    (∃ handle, context.Created object handle (context.after (.create object))) ∨
      handleCount ≤ context.freePlace ∧ context.after (.create object) = context := by
  rcases context.create_cases object with ⟨handle, context', hcreate, hcreated⟩ | ⟨hfull, hfails⟩
  · have hperform : context.perform (.create object) = .ok context' := by
      rw [perform, hcreate]
      rfl
    exact .inl ⟨handle, (after_of_ok hperform).symm ▸ hcreated⟩
  · have hperform : context.perform (.create object) =
        .error (.invalidHandle 65535 .tableFull) := by
      rw [perform, hfails]
      rfl
    exact .inr ⟨hfull, after_of_error hperform⟩

end Context

/-! ### Actions -/

/-- Two device contexts have the same objects selected. -/
structure Device.SameObjects (device device' : Device) : Prop where
  pen : device'.pen = device.pen
  brush : device'.brush = device.brush
  font : device'.font = device.font
  palette : device'.palette = device.palette
  paletteHandle : device'.paletteHandle = device.paletteHandle
  region : device'.region = device.region

theorem Device.SameObjects.refl (device : Device) : device.SameObjects device :=
  ⟨rfl, rfl, rfl, rfl, rfl, rfl⟩

namespace Action

variable {decoder : BitmapDecoder} {scale : Scale} {context context' : Context} {action : Action}

/-- What an action does to the entries of the selected palette. -/
def paletteEdit? : Action → Option (Palette → Palette)
  | .editPalette _ start entries => some (·.write start entries)
  | .resizePalette count => some (·.resize count)
  | _ => none

/-- The operations by which an action can act on a context. -/
inductive Acts (decoder : BitmapDecoder) (scale : Scale) : Action → Context.Operation → Prop
  | save : Acts decoder scale .saveState .save
  | restore (id : Int16) : Acts decoder scale (.restoreState id) (.restore id)
  | create {action : Action} {object : GraphicsObject} (h : action.object? decoder = some object) :
      Acts decoder scale action (.create object)
  | select (handle : UInt16) : Acts decoder scale (.useHandle .select handle) (.select handle scale)
  | selectPalette (handle : UInt16) :
      Acts decoder scale (.useHandle .selectPalette handle) (.select handle scale)
  | delete (handle : UInt16) : Acts decoder scale (.useHandle .delete handle) (.delete handle)
  | editPalette {action : Action} {edit : Palette → Palette} (h : action.paletteEdit? = some edit) :
      Acts decoder scale action (.editPalette edit)
  | change {action : Action} {edit : Device → Device}
      (h : ∀ device : Device, device.SameObjects (edit device)) :
      Acts decoder scale action (.change edit)

theorem Acts.eq_restoreState {id : Int16} (h : action.Acts decoder scale (.restore id)) :
    action = .restoreState id := by
  cases h
  rfl

theorem Acts.object?_eq {object : GraphicsObject} (h : action.Acts decoder scale (.create object)) :
    action.object? decoder = some object := by
  cases h
  assumption

theorem Acts.sameObjects {edit : Device → Device} (h : action.Acts decoder scale (.change edit))
    (device : Device) : device.SameObjects (edit device) := by
  cases h with
  | change hsame => exact hsame device

theorem sameObjects_editDevice (scale : Scale) (action : Action) (device : Device) :
    device.SameObjects (action.editDevice scale device) := by
  cases action with
  | setColor role => cases role <;> constructor <;> rfl
  | setMode role => cases role <;> constructor <;> rfl
  | editMapping side edit => cases side <;> cases edit <;> constructor <;> rfl
  | scaleExtent side => cases side <;> constructor <;> rfl
  | editClip edit => cases edit <;> constructor <;> rfl
  | _ => constructor <;> rfl

/-- An action on the entries of the selected palette edits it and does nothing else. -/
theorem next_of_paletteEdit? {edit : Palette → Palette} (h : action.paletteEdit? = some edit) :
    action.next decoder scale context = .ok (context.editPalette edit).2 := by
  cases action <;> cases h <;> rfl

/-- Looking up objects changes nothing. -/
theorem acts_of_lookups {region brush : UInt16}
    (h : (do
      let _ ← context.region region
      let _ ← context.brush brush
      return context : Except Fault Context) = .ok context') :
    ∃ operation, action.Acts decoder scale operation ∧
      context.perform operation = .ok context' := by
  obtain ⟨-, -, -, -, rfl⟩ := Context.lookups_eq_ok h
  exact ⟨.change id, .change .refl, rfl⟩

/-- An action that does not fail acts by a single operation. -/
theorem acts_of_next (h : action.next decoder scale context = .ok context') :
    ∃ operation, action.Acts decoder scale operation ∧
      context.perform operation = .ok context' := by
  cases action with
  | saveState => exact ⟨.save, .save, h⟩
  | restoreState id => exact ⟨.restore id, .restore id, h⟩
  | createPen | createBrush | createFont | createPalette | createPatternBrush
  | createDibPatternBrush | createRegion => exact ⟨_, .create rfl, h⟩
  | useHandle use handle =>
    cases use with
    | select => exact ⟨_, .select handle, h⟩
    | delete => exact ⟨_, .delete handle, h⟩
    -- SelectPalette passes over every handle that has no palette.
    | selectPalette =>
      simp only [next, Replay.useHandle] at h
      split at h
      · exact ⟨_, .selectPalette handle, h⟩
      · exact ⟨.change id, .change .refl, h⟩
  | editPalette | resizePalette => exact ⟨_, .editPalette rfl, h⟩
  | fillRegion | frameRegion => exact acts_of_lookups h
  | useRegion use region =>
    cases hregion : context.region region with
    | error fault =>
      simp only [next, hregion] at h
      cases h
    | ok found =>
      simp only [next, hregion] at h
      cases use with
      | clip =>
        refine ⟨.change ({ · with clip := some (scale.bounds found.bounds) }), .change ?_, h⟩
        exact fun _ => ⟨rfl, rfl, rfl, rfl, rfl, rfl⟩
      | paint | invert => exact ⟨.change id, .change .refl, h⟩
  | _ => exact ⟨_, .change (sameObjects_editDevice scale _), h⟩

end Action

/-! ### Records -/

/-- The function code of a record tells the type of the action in it. -/
theorem Record.type?_of_decode {record : Record} {command : Command}
    (h : record.decode = .ok command) :
    command.action.type? = RecordType.ofOpcode? record.opcode := by
  cases htype : RecordType.ofOpcode? record.opcode with
  | none =>
    rw [decode_of_unknown htype] at h
    cases h
    rfl
  | some type =>
    obtain ⟨action, hread, rfl⟩ := (decode_eq_ok htype).mp h
    exact RecordType.type?_of_run hread

namespace Player

variable {player : Player} {record : Record} {report : Report} {session : Session}

/-- The context after a record; one that fails leaves it as it was. -/
def after (player : Player) (context : Context) (record : Record) : Context :=
  match player.next record context with
  | .ok context' => context'
  | .error _ => context

/-- Replaying a record changes the context as `after` says, whatever the canvas is like. -/
theorem context_playRecord (player : Player) (record : Record) (session : Session) :
    ((player.playRecord record).run.run session).2.context =
      player.after session.context record := by
  unfold after
  cases hnext : player.next record session.context with
  | error fault => rw [playRecord_of_error hnext session.canvas]
  | ok context' =>
    obtain ⟨canvas', hrun, -⟩ := playRecord_of_ok hnext session.canvas
    rw [hrun]

/-- A record acts by a single operation of the command in it, or leaves the context alone. -/
theorem after_cases (player : Player) (record : Record) (context : Context) :
    player.after context record = context ∨
      ∃ command operation, record.decode = .ok command ∧
        command.action.Acts player.decoder player.scale operation ∧
        player.after context record = context.after operation := by
  unfold after
  cases hnext : player.next record context with
  | error fault => exact .inl rfl
  | ok context' =>
    unfold next at hnext
    cases hdecode : record.decode with
    | error fault =>
      rw [hdecode] at hnext
      cases hnext
    | ok command =>
      rw [hdecode] at hnext
      obtain ⟨operation, hacts, hperform⟩ := Action.acts_of_next hnext
      exact .inr ⟨command, operation, rfl, hacts, (Context.after_of_ok hperform).symm⟩

/-- Every record acts by some operation; the one that changes nothing will do where it fails. -/
theorem exists_after_eq (player : Player) (record : Record) (context : Context) :
    ∃ operation, player.after context record = context.after operation := by
  rcases player.after_cases record context with hsame | ⟨_, operation, -, -, hafter⟩
  · exact ⟨.change id, hsame⟩
  · exact ⟨operation, hafter⟩

/-- The context that replaying records in a given one ends with. -/
def finish (player : Player) (context : Context) (records : List Record) : Context :=
  (player.playIn context records).2.context

/-- A replay that ends at a record has not changed the context there. -/
theorem context_of_inl {result : Except Fault Report × Session}
    (h : player.step record report session = .inl result) :
    result.2.context = session.context := by
  unfold step at h
  split at h
  · split at h
    · cases h
      rfl
    · split at h
      · cases h
      -- The record fails and the policy is to stop: a failing record has left all as it was.
      · rename_i fault last hrun
        obtain rfl := eq_of_playRecord_error hrun
        split at h
        · cases h
          rfl
        · cases h
  · cases h
    rfl

/-- A replay that goes on after a record has the context after that record. -/
theorem context_of_inr {report' : Report} {session' : Session}
    (h : player.step record report session = .inr (report', session')) :
    session'.context = player.after session.context record := by
  rw [← context_playRecord]
  unfold step at h
  split at h
  · split at h
    · cases h
    · split at h
      · rename_i unknown last hrun
        cases h
        rw [hrun]
      · rename_i fault last hrun
        split at h
        · cases h
        · cases h
          rw [hrun]
  · cases h

/-- One more record acts on the context that the records before it end with, or is out of reach. -/
theorem context_playOn_concat (player : Player) (records : List Record) (record : Record)
    (report : Report) (session : Session) :
    let last := (player.playOn records report session).2.context
    let next := (player.playOn (records ++ [record]) report session).2.context
    next = last ∨ next = player.after last record := by
  intro last next
  -- A record before the last one may end the replay; then the last one is out of reach.
  induction records generalizing report session with
  | nil =>
    rcases hstep : player.step record report session with result | ⟨report', session'⟩
    · have hnext : next = result.2.context := by
        simp only [next, List.nil_append, playOn_of_inl hstep]
      exact .inl (hnext.trans (context_of_inl hstep))
    · have hnext : next = session'.context := by
        simp only [next, List.nil_append, playOn_of_inr hstep, playOn]
      exact .inr (hnext.trans (context_of_inr hstep))
  | cons first records ih =>
    rcases hstep : player.step first report session with result | ⟨report', session'⟩
    · refine .inl ?_
      simp only [next, last, List.cons_append, playOn_of_inl hstep]
    · simp only [next, last, List.cons_append, playOn_of_inr hstep]
      exact ih report' session'

/-- The context that a replay ends with is that of one record less, or that record acts on it. -/
theorem finish_concat (player : Player) (context : Context) (records : List Record)
    (record : Record) :
    player.finish context (records ++ [record]) = player.finish context records ∨
      player.finish context (records ++ [record]) =
        player.after (player.finish context records) record :=
  context_playOn_concat player records record .empty (Session.mk context .fresh).sync

end Player

end WindowsMetafile
