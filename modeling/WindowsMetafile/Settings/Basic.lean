import WindowsMetafile.Playback.Player
import WindowsMetafile.Text.Json

/-!
# Settings

How a picture is replayed and how large it comes out. Two variables of the environment override
single settings.

## Main definitions

* `Settings`, `Settings.standard` — the settings and their values without a text
* `Settings.override` — the settings under the variables of an environment
* `Settings.toJson` — the settings as JSON
-/

namespace WindowsMetafile

/-- The name of a policy in a text. -/
def FaultPolicy.name : FaultPolicy → String
  | .proceed => "continue"
  | .stop => "stop"

/-- How a picture is replayed and how large it comes out. -/
structure Settings where
  /-- The width of the frame; without one it follows from the height or from the picture. -/
  width : Option Nat
  height : Option Nat
  /-- The factor on the natural size, for a frame without width and height. -/
  scale : Float
  /-- The straight pixel that the frame starts with; without one it starts transparent. -/
  clear : Option Pixel
  policy : FaultPolicy
  /-- The greatest number of records looked at. -/
  limit : Option Nat
  deriving Repr

/-- The variables of an environment that override settings. -/
structure Overrides where
  maxRecords : Option String
  stopOnError : Option String
  deriving DecidableEq, Repr

namespace Settings

/-- The settings of an empty text: a white frame of natural size. -/
def standard : Settings :=
  ⟨none, none, 1.0, some .opaqueWhite, .proceed, none⟩

/-- The player of a replay under some settings. -/
def player (settings : Settings) (scale : Scale) (decoder : BitmapDecoder) : Player :=
  ⟨settings.policy, settings.limit, scale, decoder⟩

/-! ### Overrides -/

/-- The characters of Unicode that count as white space. -/
def isSpace (char : Char) : Bool :=
  let code := char.toNat
  (0x9 ≤ code && code ≤ 0xD) || code = 0x20 || code = 0x85 || code = 0xA0 || code = 0x1680 ||
    (0x2000 ≤ code && code ≤ 0x200A) || code = 0x2028 || code = 0x2029 || code = 0x202F ||
    code = 0x205F || code = 0x3000

/-- A text without the white space at both ends. -/
def trimmed (text : String) : List Char :=
  ((text.toList.dropWhile isSpace).reverse.dropWhile isSpace).reverse

/-- The number of records that a text allows: decimal digits, perhaps behind a plus sign, of a
number above zero that takes at most 64 bits. -/
def limitOf? (text : String) : Option Nat :=
  let digits :=
    match trimmed text with
    | '+' :: digits => digits
    | digits => digits
  if digits.isEmpty || !digits.all Char.isDigit then none
  else
    let number := digits.foldl (fun sum digit => 10 * sum + (digit.toNat - '0'.toNat)) 0
    if 0 < number ∧ number < 18446744073709551616 then some number else none

/-- The policy that a text asks for, in letters of any case. -/
def policyOf? (text : String) : Option FaultPolicy :=
  let word := String.ofList ((trimmed text).map Char.toLower)
  if word ∈ ["1", "true", "yes"] then some .stop
  else if word ∈ ["0", "false", "no"] then some .proceed
  else none

/-- The settings under the variables of an environment; a variable without meaning changes
nothing. -/
def override (settings : Settings) (overrides : Overrides) : Settings :=
  { settings with
    limit := (overrides.maxRecords.bind limitOf?).or settings.limit
    policy := (overrides.stopOnError.bind policyOf?).getD settings.policy }

/-! ### Output -/

/-- The settings as JSON. -/
def toJson (settings : Settings) : Json :=
  let channels (pixel : Pixel) : Json :=
    .array (pixel.toBytes.map fun channel => .nat channel.toNat)
  .object [("width", .ofOption .nat settings.width), ("height", .ofOption .nat settings.height),
    ("scale", .float settings.scale), ("clear_rgba", .ofOption channels settings.clear),
    ("on_error", .string settings.policy.name),
    ("max_records", .ofOption .nat settings.limit)]

end Settings

end WindowsMetafile
