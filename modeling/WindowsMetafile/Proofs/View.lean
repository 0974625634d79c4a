import WindowsMetafile.Proofs.Course
import WindowsMetafile.Proofs.Stack

/-!
# Replays through a view

A view of contexts does not show all of them: it may hide where something is, or what brushes look
like. Every operation on a context can be seen through a view, since which object is at a handle,
what kind it has, and which place is free never depends on what a view hides. So two players that
look alike through a view take courses that look alike: the same records are replayed, the same ones
fail for the same reasons, and the contexts on the way look alike.

## Main definitions

* `View` — what is shown instead of points, boxes and brushes
* `View.context`, `View.course` — contexts and courses through a view
* `Player.AlikeThrough` — two players that do the same things to what a view shows

## Main results

* `Player.AlikeThrough.next_cases` — a record leads to contexts that look alike, or fails alike
* `Player.AlikeThrough.course_eq` — the courses of the two players look alike
* `Player.AlikeThrough.related_made` — their draw calls are related if those of a single record are
-/

namespace WindowsMetafile

/-- Two outcomes that look alike are the same fault, or values that look alike. -/
theorem error_or_ok_of_map_eq {α β ε : Type} {f : α → β} {outcome outcome' : Except ε α}
    (h : outcome'.map f = outcome.map f) :
    (∃ error, outcome = .error error ∧ outcome' = .error error) ∨
      ∃ value value', outcome = .ok value ∧ outcome' = .ok value' ∧ f value' = f value := by
  cases outcome with
  | error error =>
    cases outcome' with
    | error error' => exact .inl ⟨error, rfl, congrArg Except.error (Except.error.inj h)⟩
    | ok value' => cases h
  | ok value =>
    cases outcome' with
    | error error' => cases h
    | ok value' => exact .inr ⟨value, value', rfl, rfl, Except.ok.inj h⟩

/-- What is shown instead of the points and boxes of a device context and instead of brushes. -/
structure View where
  point : Point Int → Point Int
  box : Box → Box
  brush : Brush → Brush

namespace View

variable (view : View)

/-- An object through a view. -/
def object : GraphicsObject → GraphicsObject
  | .brush brush => .brush (view.brush brush)
  | object => object

/-- A device context through a view. Whether there is a clip is shown. -/
def device (device : Device) : Device :=
  { device with
    brush := view.brush device.brush
    position := view.point device.position
    clip := device.clip.map view.box
    windowOrigin := view.point device.windowOrigin
    viewportOrigin := view.point device.viewportOrigin }

/-- A context through a view. -/
def context (context : Context) : Context :=
  ⟨view.device context.device, context.saved.map view.device,
    context.objects.map (Option.map view.object), by simpa using context.fits⟩

/-- A replayed record through a view. -/
def replayed (replayed : Replayed) : Replayed :=
  { replayed with before := view.context replayed.before }

/-- A course through a view. Its outcome is shown as it is. -/
def course (course : Course) : Course :=
  ⟨course.outcome, view.context course.last, course.trace.map view.replayed⟩

theorem course_preceded (course : Course) (replayed : Replayed) :
    view.course (course.preceded replayed) =
      (view.course course).preceded (view.replayed replayed) := rfl

/-! ### Objects -/

@[simp] theorem kind_object (object : GraphicsObject) :
    (view.object object).kind = object.kind := by
  cases object <;> rfl

theorem install_object (device : Device) (handle : UInt16) (object : GraphicsObject) :
    view.device (device.install handle object) =
      (view.device device).install handle (view.object object) := by
  cases object <;> rfl

theorem device_clip (device : Device) (box : Box) :
    view.device { device with clip := some box } =
      { view.device device with clip := some (view.box box) } := rfl

@[simp] theorem object?_context (context : Context) (handle : UInt16) :
    (view.context context).object? handle = (context.object? handle).map view.object := by
  unfold Context.object? View.context
  rw [List.getElem?_map]
  cases context.objects[handle.toNat]? <;> rfl

theorem map_kind_object?_context (context : Context) (handle : UInt16) :
    ((view.context context).object? handle).map GraphicsObject.kind =
      (context.object? handle).map GraphicsObject.kind := by
  rw [object?_context, Option.map_map]
  exact congrArg (Option.map · _) (funext view.kind_object)

@[simp] theorem freePlace_context (context : Context) :
    (view.context context).freePlace = context.freePlace := by
  unfold Context.freePlace View.context
  rw [List.findIdx_map]
  congr 1
  funext object
  exact Option.isNone_map

@[simp] theorem region_context (context : Context) (handle : UInt16) :
    (view.context context).region handle = context.region handle := by
  unfold Context.region
  rw [object?_context]
  cases context.object? handle with
  | none => rfl
  | some object => cases object <;> rfl

@[simp] theorem brush_context (context : Context) (handle : UInt16) :
    (view.context context).brush handle = (context.brush handle).map view.brush := by
  unfold Context.brush
  rw [object?_context]
  cases context.object? handle with
  | none => rfl
  | some object => cases object <;> rfl

/-! ### Operations through a view -/

theorem context_save (context : Context) :
    view.context context.save = (view.context context).save := rfl

theorem context_restore (context : Context) (id : Int16) :
    (context.restore id).map view.context = (view.context context).restore id := by
  have hdepth : (view.context context).depth = context.depth := List.length_map _
  rcases context.restore_cases id with
    hzero | ⟨hbeyond, hfails⟩ | ⟨newer, device, older, hsaved, hid, hfound⟩
  · subst hzero
    rfl
  -- The stack is as deep as it is without the view, so the same numbers are beyond its ends.
  · rw [← hdepth] at hbeyond
    rw [hfails, Context.restore_eq_error_iff.mpr ⟨rfl, hbeyond⟩, hdepth]
    rfl
  · have hview : (view.context context).saved =
        newer.map view.device ++ view.device device :: older.map view.device := by
      rw [View.context, hsaved, List.map_append, List.map_cons]
    rw [hfound, Context.restore_of_append hview (by rw [hdepth, List.length_map]; exact hid)]
    rfl

theorem openTable_context (context : Context) :
    (view.context context).openTable = context.openTable.map (Option.map view.object) := by
  have hobjects : (view.context context).objects = context.objects.map (Option.map view.object) :=
    rfl
  unfold Context.openTable
  rw [freePlace_context, hobjects, List.length_map]
  split
  · rfl
  · rw [List.map_append]
    rfl

theorem context_create (context : Context) (object : GraphicsObject) :
    (context.create object).next.map view.context =
      ((view.context context).create (view.object object)).next := by
  have hplace := view.freePlace_context context
  by_cases hfull : Context.handleCount ≤ context.freePlace
  · rw [Context.create_of_full hfull, Context.create_of_full (hplace.symm ▸ hfull)]
    rfl
  · have hdevice : view.device (context.device.install (.ofNat context.freePlace) object) =
        (view.context context).device.install (.ofNat (view.context context).freePlace)
          (view.object object) := by
      rw [hplace]
      exact view.install_object _ _ _
    have hobjects : (context.openTable.set context.freePlace (some object)).map
        (Option.map view.object) = (view.context context).openTable.set
          (view.context context).freePlace (some (view.object object)) := by
      rw [List.map_set, hplace, openTable_context]
      rfl
    unfold Context.create
    rw [dif_neg hfull, dif_neg (hplace.symm ▸ hfull)]
    exact congrArg Except.ok (Context.ext hdevice rfl hobjects)

theorem context_delete (context : Context) (handle : UInt16) :
    view.context (context.delete handle).2 = ((view.context context).delete handle).2 := by
  unfold Context.delete
  rw [object?_context]
  cases context.object? handle with
  | none => rfl
  | some object => exact Context.ext rfl rfl List.map_set

theorem map_storePalette (objects : List (Option GraphicsObject)) (handle : Option UInt16)
    (palette : Palette) :
    (Context.storePalette objects handle palette).map (Option.map view.object) =
      Context.storePalette (objects.map (Option.map view.object)) handle palette := by
  unfold Context.storePalette
  cases handle with
  | none => rfl
  | some handle =>
    simp only [List.getElem?_map]
    rcases objects[handle.toNat]? with _ | _ | object
    · rfl
    · rfl
    · cases object with
      | palette => exact List.map_set
      | _ => rfl

theorem context_editPalette (context : Context) (edit : Palette → Palette) :
    view.context (context.editPalette edit).2 = ((view.context context).editPalette edit).2 := by
  have hpalette : (view.context context).device.palette = context.device.palette := rfl
  unfold Context.editPalette
  rw [hpalette]
  cases context.device.palette with
  | none => rfl
  | some palette => exact Context.ext rfl rfl (view.map_storePalette _ _ _)

/-- A context in which the object at a handle is selected, when the clip that comes with a region is
known by its bounds. -/
def selected (context : Context) (handle : UInt16) (clip : Bounds → Box) : Context :=
  match context.object? handle with
  | none => context
  | some (.region region) =>
    context.withDevice fun device =>
      { device.install handle (.region region) with clip := some (clip region.bounds) }
  | some object => context.withDevice (·.install handle object)

theorem context_select (context : Context) (handle : UInt16) (scale : Scale) :
    view.context (context.select handle scale).2 =
      selected (view.context context) handle fun bounds => view.box (scale.bounds bounds) := by
  unfold Context.select selected
  rw [object?_context]
  cases context.object? handle with
  | none => rfl
  | some object => cases object <;> rfl

/-- A palette is selected as such if the object at the handle is one. -/
theorem useHandle_selectPalette (context : Context) (handle : UInt16) (scale : Scale) :
    Replay.useHandle .selectPalette handle scale context =
      if (context.object? handle).map GraphicsObject.kind = some .palette then
        (context.select handle scale).2
      else context := by
  simp only [Replay.useHandle]
  cases context.object? handle with
  | none => rfl
  | some object => cases object <;> rfl

/-! ### Contexts that look alike -/

section Alike

variable {view} {context context' : Context} {scale other : Scale}
variable (hcontext : view.context context' = view.context context)

include hcontext

theorem region_eq (handle : UInt16) : context'.region handle = context.region handle := by
  rw [← view.region_context, hcontext, region_context]

/-- The brushes at a handle look alike, or there is none for the same reason. -/
theorem brush_cases (handle : UInt16) :
    (∃ fault, context.brush handle = .error fault ∧ context'.brush handle = .error fault) ∨
      ∃ brush brush', context.brush handle = .ok brush ∧ context'.brush handle = .ok brush' ∧
        view.brush brush' = view.brush brush := by
  refine error_or_ok_of_map_eq ?_
  rw [← brush_context, ← brush_context, hcontext]

/-- Device contexts are changed to ones that look alike. -/
theorem withDevice_eq {edit edit' : Device → Device}
    (hedit : view.device (edit' context'.device) = view.device (edit context.device)) :
    view.context (context'.withDevice edit') = view.context (context.withDevice edit) := by
  obtain ⟨-, hsaved, hobjects⟩ := Context.mk.inj hcontext
  exact Context.ext hedit hsaved hobjects

theorem create_eq {object object' : GraphicsObject}
    (hobject : view.object object' = view.object object) :
    (context'.create object').next.map view.context =
      (context.create object).next.map view.context := by
  rw [context_create, context_create, hcontext, hobject]

theorem editPalette_eq (edit : Palette → Palette) :
    view.context (context'.editPalette edit).2 = view.context (context.editPalette edit).2 := by
  rw [context_editPalette, context_editPalette, hcontext]

/-- Handles are looked up in the same way, and a selected region becomes a clip that looks alike. -/
theorem useHandle_eq
    (hbounds : ∀ bounds, view.box (other.bounds bounds) = view.box (scale.bounds bounds))
    (use : HandleUse) (handle : UInt16) :
    view.context (Replay.useHandle use handle other context') =
      view.context (Replay.useHandle use handle scale context) := by
  have hselect : view.context (context'.select handle other).2 =
      view.context (context.select handle scale).2 := by
    rw [context_select, context_select, hcontext]
    exact congrArg _ (funext hbounds)
  cases use with
  | select => exact hselect
  | delete =>
    simp only [Replay.useHandle]
    rw [context_delete, context_delete, hcontext]
  | selectPalette =>
    -- The two objects are of one kind, so both of them are palettes, or neither is.
    have hkind : (context'.object? handle).map GraphicsObject.kind =
        (context.object? handle).map GraphicsObject.kind := by
      rw [← view.map_kind_object?_context, hcontext, map_kind_object?_context]
    rw [useHandle_selectPalette, useHandle_selectPalette, hkind]
    split
    · exact hselect
    · exact hcontext

/-- Looking up objects fails in both contexts, for the same reason, or in neither. -/
theorem lookups_eq (region brush : UInt16) :
    (do
      let _ ← context'.region region
      let _ ← context'.brush brush
      return context' : Except Fault Context).map view.context =
    (do
      let _ ← context.region region
      let _ ← context.brush brush
      return context : Except Fault Context).map view.context := by
  rw [region_eq hcontext]
  cases context.region region with
  | error fault => rfl
  | ok found =>
    rcases brush_cases hcontext brush with
      ⟨fault, hfails, hfails'⟩ | ⟨chosen, chosen', hfound, hfound', -⟩
    · rw [hfails, hfails']
      rfl
    · rw [hfound, hfound']
      exact congrArg Except.ok hcontext

end Alike

end View

namespace Player

/-- Two players with the same policy and limit look alike through a view: they bring regions to
boxes, change device contexts and create objects in ways that look alike. -/
structure AlikeThrough (view : View) (player other : Player) : Prop where
  policy : other.policy = player.policy
  limit : other.limit = player.limit
  bounds (bounds : Bounds) :
    view.box (other.scale.bounds bounds) = view.box (player.scale.bounds bounds)
  editDevice (action : Action) {device device' : Device}
    (hdevice : view.device device' = view.device device) :
    view.device (action.editDevice other.scale device') =
      view.device (action.editDevice player.scale device)
  object? (action : Action) :
    (action.object? other.decoder).map view.object = (action.object? player.decoder).map view.object

namespace AlikeThrough

variable {view : View} {player other : Player} {context context' : Context}
variable (halike : AlikeThrough view player other)
variable (hcontext : view.context context' = view.context context)

include halike hcontext

/-- An action leads to contexts that look alike, or fails for the same reason. -/
theorem next_action_eq (action : Action) :
    (action.next other.decoder other.scale context').map view.context =
      (action.next player.decoder player.scale context).map view.context := by
  have hdevice : view.device context'.device = view.device context.device :=
    congrArg Context.device hcontext
  cases action with
  | saveState =>
    refine congrArg Except.ok ?_
    rw [View.context_save, View.context_save, hcontext]
  | restoreState id =>
    simp only [Action.next]
    rw [View.context_restore, View.context_restore, hcontext]
  | useHandle use handle =>
    exact congrArg Except.ok (View.useHandle_eq hcontext halike.bounds use handle)
  | editPalette | resizePalette => exact congrArg Except.ok (View.editPalette_eq hcontext _)
  | createPen | createBrush | createFont | createPalette | createPatternBrush | createRegion =>
    exact View.create_eq hcontext rfl
  -- Of all objects, only the image of a pattern comes from the decoder.
  | createDibPatternBrush style colorUse data =>
    have hobject := halike.object? (.createDibPatternBrush style colorUse data)
    exact View.create_eq hcontext (Option.some.inj hobject)
  | fillRegion region brush | frameRegion region brush =>
    exact View.lookups_eq hcontext region brush
  | useRegion use region =>
    simp only [Action.next]
    rw [View.region_eq hcontext]
    cases context.region region with
    | error fault => rfl
    | ok found =>
      cases use with
      | clip =>
        refine congrArg Except.ok (View.withDevice_eq hcontext ?_)
        rw [View.device_clip, View.device_clip, hdevice, halike.bounds]
      | paint | invert => exact congrArg Except.ok hcontext
  | _ => exact congrArg Except.ok (View.withDevice_eq hcontext (halike.editDevice _ hdevice))

/-- A record leads to contexts that look alike, or fails for the same reason. -/
theorem next_cases (record : Record) :
    (∃ fault, player.next record context = .error fault ∧
      other.next record context' = .error fault) ∨
    ∃ later later', player.next record context = .ok later ∧
      other.next record context' = .ok later' ∧ view.context later' = view.context later := by
  refine error_or_ok_of_map_eq ?_
  unfold next
  cases record.decode with
  | error fault => rfl
  | ok command => exact halike.next_action_eq hcontext command.action

omit hcontext in
theorem allows_eq (records : Nat) : other.allows records = player.allows records := by
  unfold allows
  rw [halike.limit]

/-- The courses of two players that look alike look alike. -/
theorem course_eq (records : List Record) (report : Report) :
    view.course (other.course records report context') =
      view.course (player.course records report context) := by
  induction records generalizing report context context' with
  | nil => exact congrArg (Course.mk _ · []) hcontext
  | cons record records ih =>
    have hallows' := halike.allows_eq report.records
    by_cases hallows : player.allows report.records = true
    · rw [hallows] at hallows'
      by_cases hends : record.endsStream = true
      · rw [course_of_ends hallows hends, course_of_ends hallows' hends]
        exact congrArg (Course.mk _ · []) hcontext
      · rcases halike.next_cases hcontext record with
          ⟨fault, hnext, hnext'⟩ | ⟨later, later', hnext, hnext', hlater⟩
        -- The record fails in both courses, and the policy is the same.
        · have hpolicy' := halike.policy
          cases hpolicy : player.policy with
          | stop =>
            rw [hpolicy] at hpolicy'
            rw [course_of_stop hallows hends hnext hpolicy,
              course_of_stop hallows' hends hnext' hpolicy']
            exact congrArg (Course.mk _ · []) hcontext
          | proceed =>
            rw [hpolicy] at hpolicy'
            rw [course_of_proceed hallows hends hnext hpolicy,
              course_of_proceed hallows' hends hnext' hpolicy']
            exact ih hcontext _
        · rw [course_of_ok hallows hends hnext, course_of_ok hallows' hends hnext',
            View.course_preceded, View.course_preceded, ih hlater]
          unfold View.replayed
          rw [hcontext]
    · rw [course_of_full hallows, course_of_full (by rwa [hallows'])]
      exact congrArg (Course.mk _ · []) hcontext

/-- Replays by two players that look alike end in the same way, in contexts that look alike. -/
theorem playIn_eq (records : List Record) :
    (other.playIn context' records).1 = (player.playIn context records).1 ∧
      view.context (other.playIn context' records).2.context =
        view.context (player.playIn context records).2.context := by
  obtain ⟨canvas, hplay, -⟩ := player.playIn_eq_course records context
  obtain ⟨canvas', hplay', -⟩ := other.playIn_eq_course records context'
  obtain ⟨houtcome, hlast, -⟩ := Course.mk.inj (halike.course_eq hcontext records .empty)
  rw [hplay, hplay']
  exact ⟨houtcome, hlast⟩

/-- The draw calls of two replays are related if those are that a record makes in contexts that look
alike, for a relation of lists that goes through concatenation. -/
theorem related_made (related : List MadeCall → List MadeCall → Prop) (hnil : related [] [])
    (happend : ∀ {front front' back back' : List MadeCall}, related front front' →
      related back back' → related (front ++ back) (front' ++ back'))
    (hcalls : ∀ (replayed : Replayed) (before' : Context),
      view.context before' = view.context replayed.before →
      related (player.callsOf [replayed]) (other.callsOf [{ replayed with before := before' }]))
    (records : List Record) :
    related (player.made context records) (other.made context' records) := by
  obtain ⟨-, -, htrace⟩ := Course.mk.inj (halike.course_eq hcontext records .empty)
  unfold made
  -- The traces have equally many records, so the induction can go along both of them.
  generalize (player.course records .empty context).trace = trace at htrace ⊢
  generalize (other.course records .empty context').trace = trace' at htrace ⊢
  induction trace generalizing trace' with
  | nil =>
    obtain rfl := List.map_eq_nil_iff.mp htrace
    exact hnil
  | cons replayed trace ih =>
    obtain ⟨replayed', later, rfl, hreplayed, hlater⟩ := List.map_eq_cons_iff.mp htrace
    obtain ⟨hindex, hrecord, hbefore⟩ := Replayed.mk.inj hreplayed
    have hsame : { replayed with before := replayed'.before } = replayed' := by
      rw [← hindex, ← hrecord]
    have hown := hcalls replayed replayed'.before hbefore
    rw [hsame] at hown
    have hcons : player.callsOf (replayed :: trace) =
        player.callsOf [replayed] ++ player.callsOf trace := player.callsOf_append [replayed] trace
    have hcons' : other.callsOf (replayed' :: later) =
        other.callsOf [replayed'] ++ other.callsOf later := other.callsOf_append [replayed'] later
    rw [hcons, hcons']
    exact happend hown (ih later hlater)

end AlikeThrough

end Player

end WindowsMetafile
