import WindowsMetafile.Settings.Basic
import WindowsMetafile.Text.JsonReader

/-!
# Reading settings

Settings are a JSON object with known keys in any order, or an array of the first few values in the
order of the keys. What is missing stays as it is in the standard settings.

## Main definitions

* `Settings.ofText` — the settings in a text
-/

namespace WindowsMetafile.Settings

/-- The settings that a text can give, in the order of an array. -/
inductive Key
  | width
  | height
  | scale
  | clear
  | policy
  | limit
  deriving DecidableEq, Repr

namespace Key

/-- All keys in the order of an array. -/
def all : List Key :=
  [.width, .height, .scale, .clear, .policy, .limit]

/-- The name of a key in a text. -/
def name : Key → String
  | .width => "width"
  | .height => "height"
  | .scale => "scale"
  | .clear => "clear_rgba"
  | .policy => "on_error"
  | .limit => "max_records"

/-- The key with a name. -/
def ofName? (name : String) : Option Key :=
  all.find? fun key => key.name == name

/-- The names of all keys for a fault. -/
def listing : String :=
  ", ".intercalate (all.map fun key => "`" ++ key.name ++ "`")

end Key

open JsonReader

/-- The policies that a text can name. -/
def policies : List FaultPolicy :=
  [.proceed, .stop]

/-- The policy with a name. -/
def policyNamed (name : String) : JsonReader FaultPolicy :=
  match policies.find? fun policy => policy.name == name with
  | some policy => return policy
  | none => refuse (.unknownVariant name "`continue` or `stop`")

/-- A policy: its name, or an object with its name as the only key and null as its value. -/
def readPolicy : JsonReader FaultPolicy := do
  match ← peek with
  | some '"' =>
    advance
    policyNamed (← stringBody)
  | some '\x7b' =>
    advance
    let policy ← policyNamed (← string "variant identifier")
    colon
    match ← peek with
    | some 'n' =>
      advance
      word ['u', 'l', 'l']
    | _ => refuseType "unit"
    match ← peek with
    | some '\x7d' =>
      advance
      return policy
    | some _ => refuse (.missing "value")
    | none => refuse (.endOfText "an object")
  | some _ => refuseNext (.missing "value")
  | none => refuse (.endOfText "a value")

/-- A pixel by its four channels. -/
def readPixel : JsonReader Pixel := do
  match ← JsonReader.list 4 "an array of length 4" (natural 255 "u8") with
  | [red, green, blue, alpha] =>
    return ⟨UInt8.ofNat red, UInt8.ofNat green, UInt8.ofNat blue, UInt8.ofNat alpha⟩
  | short => refuse (.invalidLength short.length "an array of length 4")

/-- The greatest width and height that a text can give. -/
def greatestSide : Nat := 4294967295

/-- Reads the value of a key. -/
def readValue (key : Key) (settings : Settings) : JsonReader Settings := do
  match key with
  | .width => return { settings with width := ← nullable (natural greatestSide "u32") }
  | .height => return { settings with height := ← nullable (natural greatestSide "u32") }
  | .scale => return { settings with scale := ← float "f64" }
  | .clear => return { settings with clear := ← nullable readPixel }
  | .policy => return { settings with policy := ← readPolicy }
  | .limit => return { settings with limit := ← nullable (natural greatestWhole "usize") }

/-- Reads one field of an object, unless its key was there before. -/
def readField (name : String) (state : List Key × Settings) : JsonReader (List Key × Settings) := do
  let (seen, settings) := state
  match Key.ofName? name with
  | none => refuseKey (.unknownField name Key.listing)
  | some key =>
    if key ∈ seen then refuseKey (.duplicateField name)
    else
      colon
      return (key :: seen, ← readValue key settings)

/-- Reads the values of an array in the order of the keys. -/
def readItems : List Key → Bool → Settings → JsonReader Settings
  | [], _, settings => return settings
  | key :: keys, first, settings => do
    if ← nextItem first then
      readItems keys false (← readValue key settings)
    else return settings

/-- Reads settings as an object or as an array. -/
def read : JsonReader Settings := do
  match ← peek with
  | some '\x7b' =>
    advance
    return (← fields readField ([], standard)).2
  | some '[' =>
    advance
    let settings ← readItems Key.all true standard
    endList
    return settings
  | some _ => refuseType "struct ReplaySettings"
  | none => refuse (.endOfText "a value")

/-- The settings in a text. -/
def ofText (text : String) : Except JsonFault Settings :=
  JsonReader.run read text

end WindowsMetafile.Settings
