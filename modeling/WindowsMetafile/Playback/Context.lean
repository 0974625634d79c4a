import WindowsMetafile.Fault
import WindowsMetafile.Playback.Device

/-!
# Replay contexts

A replay context is a device context with a stack of saved ones, and a table of objects. Handles are
places in the table, which never has more places than there are handles; a new object takes the
lowest free place.

## Main definitions

* `Context` — the device context, the saved ones from the newest on, and the object table
* `Context.save`, `Context.restore` — the stack
* `Context.create`, `select`, `delete` — the object table; a creation that fails has put an empty
  place behind the table and taken it away again
* `Context.region`, `Context.brush` — objects of one kind by handle
* `Context.editPalette` — a change of the selected palette
-/

namespace WindowsMetafile

/-- The number of handles that a word can name. -/
def Context.handleCount : Nat := 65536

/-- What replay works on, apart from the calls it makes. -/
@[ext] structure Context where
  device : Device
  /-- The saved device contexts, newest first. -/
  saved : List Device
  objects : List (Option GraphicsObject)
  /-- Every place of the table has a handle. -/
  fits : objects.length ≤ Context.handleCount
  deriving DecidableEq, Repr

namespace Context

/-- The context that a replay starts in. -/
def fresh : Context :=
  ⟨.fresh, [], [], Nat.zero_le _⟩

/-- The number of saved device contexts. -/
def depth (context : Context) : Nat :=
  context.saved.length

/-- Changes the device context. -/
def withDevice (context : Context) (change : Device → Device) : Context :=
  { context with device := change context.device }

/-! ### The stack -/

/-- Saves the device context. -/
def save (context : Context) : Context :=
  { context with saved := context.device :: context.saved }

/-- Brings back a saved device context and drops those saved after it. Positive numbers count from
the oldest one, negative ones from the newest; zero does nothing. -/
def restore (context : Context) (id : Int16) : Except Fault Context :=
  if id = 0 then .ok context
  else
    let depth : Int := context.depth
    let fromOldest := if 0 < id then id.toInt - 1 else depth + id.toInt
    if fromOldest < 0 ∨ depth ≤ fromOldest then
      .error (.missingState id context.depth)
    else
      match context.saved.drop (depth - 1 - fromOldest).toNat with
      | device :: saved => .ok { context with device, saved }
      | [] => .error (.missingState id context.depth)

/-! ### The object table -/

/-- The object at a handle. -/
def object? (context : Context) (handle : UInt16) : Option GraphicsObject :=
  (context.objects[handle.toNat]?).join

/-- The lowest place without an object, which may be the one behind the table. -/
def freePlace (context : Context) : Nat :=
  context.objects.findIdx Option.isNone

theorem freePlace_le (context : Context) : context.freePlace ≤ context.objects.length :=
  List.findIdx_le_length

/-- The table with a free place. Where all places are taken, an empty one is put behind them, also
when no handle can name it. -/
def openTable (context : Context) : List (Option GraphicsObject) :=
  if context.freePlace < context.objects.length then context.objects
  else context.objects ++ [none]

theorem length_take_openTable_le (context : Context) :
    (context.openTable.take context.freePlace).length ≤ handleCount :=
  Nat.le_trans (List.length_take_le ..) (Nat.le_trans context.freePlace_le context.fits)

theorem length_set_openTable_le {context : Context} (h : ¬ handleCount ≤ context.freePlace)
    (entry : Option GraphicsObject) :
    (context.openTable.set context.freePlace entry).length ≤ handleCount := by
  have hfits := context.fits
  have hplace := context.freePlace_le
  rw [List.length_set, openTable]
  split
  · exact hfits
  · rw [List.length_append, List.length_singleton]
    omega

/-- What came of a creation: the handle of the new object or a fault, and the context that is
left. -/
structure Creation where
  outcome : Except Fault UInt16
  context : Context

/-- Puts an object into the lowest free place and selects it; gives its handle. A place without a
handle is taken away again, with all that is behind it. -/
def create (context : Context) (object : GraphicsObject) : Creation :=
  let place := context.freePlace
  if h : handleCount ≤ place then
    ⟨.error (.invalidHandle 65535 .tableFull),
      { context with
        objects := context.openTable.take place
        fits := context.length_take_openTable_le }⟩
  else
    let handle := UInt16.ofNat place
    ⟨.ok handle,
      { context with
        objects := context.openTable.set place (some object)
        fits := length_set_openTable_le h _
        device := context.device.install handle object }⟩

/-- Selects the object at a handle; tells whether there is one. A region also becomes the clip. -/
def select (context : Context) (handle : UInt16) (scale : Scale) : Bool × Context :=
  match context.object? handle with
  | none => (false, context)
  | some object =>
    let device := context.device.install handle object
    let device :=
      match object with
      | .region region => { device with clip := some (scale.bounds region.bounds) }
      | _ => device
    (true, { context with device })

/-- Empties the place of a handle; tells whether there was an object. What is selected stays
selected. -/
def delete (context : Context) (handle : UInt16) : Bool × Context :=
  match context.object? handle with
  | none => (false, context)
  | some _ =>
    (true, { context with
      objects := context.objects.set handle.toNat none
      fits := by simpa using context.fits })

/-- The region at a handle. -/
def region (context : Context) (handle : UInt16) : Except Fault Region :=
  match context.object? handle with
  | some (.region region) => .ok region
  | some other => .error (.invalidHandle handle (.otherKind .region other.kind))
  | none => .error (.invalidHandle handle .vacant)

/-- The brush at a handle. -/
def brush (context : Context) (handle : UInt16) : Except Fault Brush :=
  match context.object? handle with
  | some (.brush brush) => .ok brush
  | some other => .error (.invalidHandle handle (.otherKind .brush other.kind))
  | none => .error (.invalidHandle handle .vacant)

/-- The table with a palette written back to a handle, if that place still holds a palette. -/
def storePalette (objects : List (Option GraphicsObject)) (handle : Option UInt16)
    (palette : Palette) : List (Option GraphicsObject) :=
  match handle with
  | none => objects
  | some handle =>
    match objects[handle.toNat]? with
    | some (some (.palette _)) => objects.set handle.toNat (some (.palette palette))
    | _ => objects

@[simp] theorem length_storePalette (objects : List (Option GraphicsObject))
    (handle : Option UInt16) (palette : Palette) :
    (storePalette objects handle palette).length = objects.length := by
  unfold storePalette
  split
  · rfl
  · split
    · exact List.length_set
    · rfl

/-- Changes the selected palette, in the device context and in the table; tells whether there is
one. -/
def editPalette (context : Context) (edit : Palette → Palette) : Bool × Context :=
  match context.device.palette with
  | none => (false, context)
  | some palette =>
    let edited := edit palette
    (true, { context with
      objects := storePalette context.objects context.device.paletteHandle edited
      fits := by simpa using context.fits
      device := { context.device with palette := some edited } })

end Context

end WindowsMetafile
