/-!
# Command line arguments

The program has four commands, each with options of its own. Most options take a value, which
follows as the next argument or behind an equals sign; no option may be given twice.

## Main definitions

* `Verb`, `OptionSpec` — the commands, and what is known about an option
* `Invocation` — what the arguments ask for
* `Invocation.ofArguments` — the invocation that some arguments make
-/

namespace WindowsMetafile

/-- The name of the program. -/
def programName : String := "wmf-replay"

/-- The version of the program. -/
def programVersion : String := "0.1.0"

/-- The commands of the program. -/
inductive Verb
  | info
  | dump
  | render
  | reencode
  deriving DecidableEq, Repr

/-- What an option takes as its value. -/
inductive ValueForm
  /-- No value; the option itself counts. -/
  | none
  /-- A path, which is not empty. -/
  | path
  /-- A number of 32 bits. -/
  | number
  deriving DecidableEq, Repr

/-- What is known about an option. -/
structure OptionSpec where
  name : String
  form : ValueForm
  /-- What stands for the value in a description. -/
  placeholder : String
  required : Bool
  about : String
  deriving DecidableEq, Repr

namespace Verb

def all : List Verb :=
  [.info, .dump, .render, .reencode]

def name : Verb → String
  | .info => "info"
  | .dump => "dump"
  | .render => "render"
  | .reencode => "reencode"

def ofName? (name : String) : Option Verb :=
  all.find? fun verb => verb.name == name

def about : Verb → String
  | .info => "Print header information and a per-record histogram"
  | .dump => "Dump decoded records (or replayed surface calls) as JSON lines"
  | .render => "Replay onto the CPU surface and write a PNG"
  | .reencode => "Decode every record and encode it back into a new metafile"

/-- The option for the metafile that is read. -/
def inputSpec : OptionSpec :=
  ⟨"in", .path, "IN_PATH", true, "Input metafile"⟩

/-- The options of a command. -/
def options : Verb → List OptionSpec
  | .info => [inputSpec]
  | .dump =>
    [inputSpec,
      ⟨"ops", .none, "", false,
        "Dump the draw calls produced by replay instead of the decoded records"⟩]
  | .render =>
    [inputSpec,
      ⟨"out", .path, "OUT", true, "Output PNG path"⟩,
      ⟨"settings", .path, "SETTINGS", false, "Replay settings JSON"⟩,
      ⟨"width", .number, "WIDTH", false, "Output width in pixels (overrides the settings file)"⟩,
      ⟨"height", .number, "HEIGHT", false,
        "Output height in pixels (overrides the settings file)"⟩]
  | .reencode => [inputSpec, ⟨"out", .path, "OUT", true, "Output metafile"⟩]

end Verb

/-- What is wrong with some arguments. -/
inductive UsageFault
  | missingCommand
  | unknownCommand (name : String)
  | unexpectedArgument (argument : String)
  | repeatedOption (name : String)
  | missingValue (name : String)
  | unexpectedValue (name : String)
  | invalidValue (name value : String)
  | missingOption (name : String)
  deriving DecidableEq, Repr

/-- The wording of a usage fault. -/
def UsageFault.message : UsageFault → String
  | .missingCommand => "a command is required"
  | .unknownCommand name => s!"unrecognized subcommand '{name}'"
  | .unexpectedArgument argument => s!"unexpected argument '{argument}' found"
  | .repeatedOption name => s!"the argument '--{name}' cannot be used multiple times"
  | .missingValue name => s!"a value is required for '--{name}' but none was supplied"
  | .unexpectedValue name => s!"unexpected value for '--{name}' found; no more were expected"
  | .invalidValue name value => s!"invalid value '{value}' for '--{name}'"
  | .missingOption name => s!"the required argument '--{name}' was not provided"

/-- What a description is about. -/
inductive Topic
  | program
  | command (verb : Verb)
  /-- The command that shows descriptions. -/
  | help
  deriving DecidableEq, Repr

/-- What the arguments ask for. -/
inductive Invocation
  | version
  | help (topic : Topic)
  | info (input : String)
  | dump (input : String) (calls : Bool)
  | render (input output : String) (settings : Option String) (width height : Option Nat)
  | reencode (input output : String)
  deriving DecidableEq, Repr

/-! ### Reading options -/

/-- What a run of arguments gives: a request for help, or options with their values. -/
inductive OptionScan
  | help
  | values (found : List (String × String))

/-- The number of 32 bits that a text stands for: decimal digits, perhaps behind a sign. -/
def number32? (text : String) : Option Nat :=
  let (negative, digits) :=
    match text.toList with
    | '+' :: digits => (false, digits)
    | '-' :: digits => (true, digits)
    | digits => (false, digits)
  if digits.isEmpty || !digits.all Char.isDigit then none
  else
    let number := digits.foldl (fun sum digit => 10 * sum + (digit.toNat - '0'.toNat)) 0
    if negative then (if number = 0 then some 0 else none)
    else if number < 4294967296 then some number else none

/-- Whether a value has the form that an option takes. -/
def ValueForm.admits (form : ValueForm) (value : String) : Bool :=
  match form with
  | .none => false
  | .path => value ≠ ""
  | .number => (number32? value).isSome

/-- Whether an argument is an option by its first character; a single dash is a value. -/
def looksLikeOption (argument : String) : Bool :=
  match argument.toList with
  | '-' :: _ :: _ => true
  | _ => false

/-- The name of a long option, and the value behind its equals sign if there is one. -/
def splitOption (argument : String) : String × Option String :=
  let text := argument.toList.drop 2
  let name := String.ofList (text.takeWhile (· ≠ '='))
  match text.dropWhile (· ≠ '=') with
  | _ :: value => (name, some (String.ofList value))
  | [] => (name, none)

/-- Adds an option with its value to those found before. -/
def addOption (spec : OptionSpec) (found : List (String × String)) (value : String) :
    Except UsageFault (List (String × String)) :=
  if found.any fun (name, _) => name == spec.name then .error (.repeatedOption spec.name)
  else if spec.form = .none then .ok ((spec.name, "") :: found)
  else if spec.form.admits value then .ok ((spec.name, value) :: found)
  else .error (.invalidValue spec.name value)

/-- Reads the options of a command. -/
def scanOptions (specs : List OptionSpec) (found : List (String × String)) :
    List String → Except UsageFault OptionScan
  | [] => .ok (.values found)
  | "--" :: [] => .ok (.values found)
  | "--" :: argument :: _ => .error (.unexpectedArgument argument)
  | argument :: rest =>
    if argument.startsWith "--" then
      let (name, inline) := splitOption argument
      match specs.find? fun spec => spec.name == name with
      | some spec =>
        match spec.form, inline, rest with
        | .none, some _, _ => .error (.unexpectedValue name)
        | .none, none, rest => do scanOptions specs (← addOption spec found "") rest
        | _, some value, rest => do scanOptions specs (← addOption spec found value) rest
        | _, none, [] => .error (.missingValue name)
        | _, none, value :: rest =>
          if looksLikeOption value then .error (.missingValue name)
          else do scanOptions specs (← addOption spec found value) rest
      | none =>
        if argument = "--help" then .ok .help else .error (.unexpectedArgument argument)
    else if argument.startsWith "-h" then .ok .help
    else .error (.unexpectedArgument argument)

/-- The value of an option that has to be there. -/
def requiredValue (found : List (String × String)) (name : String) : Except UsageFault String :=
  match found.lookup name with
  | some value => .ok value
  | none => .error (.missingOption name)

namespace Invocation

/-- The invocation of a command with the options found. -/
def ofOptions (verb : Verb) (found : List (String × String)) : Except UsageFault Invocation := do
  let input ← requiredValue found "in"
  match verb with
  | .info => return .info input
  | .dump => return .dump input (found.lookup "ops").isSome
  | .render =>
    let output ← requiredValue found "out"
    let number (name : String) : Option Nat := (found.lookup name).bind number32?
    return .render input output (found.lookup "settings") (number "width") (number "height")
  | .reencode => return .reencode input (← requiredValue found "out")

/-- The topic that a name stands for. -/
def topicNamed? (name : String) : Option Topic :=
  if name = "help" then some .help else (Verb.ofName? name).map .command

/-- The invocation that some arguments make. -/
def ofArguments : List String → Except UsageFault Invocation
  | [] => .error .missingCommand
  | "help" :: [] => .ok (.help .program)
  | "help" :: name :: rest =>
    match topicNamed? name, rest with
    | some topic, [] => .ok (.help topic)
    | some _, argument :: _ => .error (.unknownCommand argument)
    | none, _ => .error (.unknownCommand name)
  | first :: rest =>
    match Verb.ofName? first with
    | some verb =>
      match scanOptions verb.options [] rest with
      | .error fault => .error fault
      | .ok .help => .ok (.help (.command verb))
      | .ok (.values found) => ofOptions verb found
    | none =>
      if first = "--version" || first.startsWith "-V" then .ok .version
      else if first = "--help" || first.startsWith "-h" then .ok (.help .program)
      else if looksLikeOption first then .error (.unexpectedArgument first)
      else .error (.unknownCommand first)

end Invocation

/-! ### Descriptions -/

/-- An option as it is written in a description. -/
def OptionSpec.usage (spec : OptionSpec) : String :=
  if spec.form = .none then "--" ++ spec.name
  else "--" ++ spec.name ++ " <" ++ spec.placeholder ++ ">"

/-- A text filled up with blanks to a width. -/
def padded (width : Nat) (text : String) : String :=
  text ++ String.ofList (List.replicate (width - text.length) ' ')

/-- Lines of two columns, the second one aligned. -/
def columns (lines : List (String × String)) : List String :=
  let width := (lines.map fun (left, _) => left.length).foldl max 0
  lines.map fun (left, right) => "  " ++ padded width left ++ "  " ++ right

/-- The usage line of a command. -/
def Verb.usage (verb : Verb) : String :=
  let optional := if verb.options.any (!·.required) then " [OPTIONS]" else ""
  let required := verb.options.filter (·.required) |>.map fun spec => " " ++ spec.usage
  "Usage: " ++ programName ++ " " ++ verb.name ++ optional ++ String.join required

/-- The description of a command. -/
def Verb.help (verb : Verb) : List String :=
  let options := verb.options.map fun spec => ("    " ++ spec.usage, spec.about)
  [verb.about, "", verb.usage, "", "Options:"] ++
    columns (options ++ [("-h, --help", "Print help")])

/-- What the command that shows descriptions is about. -/
def helpAbout : String :=
  "Print this message or the help of the given subcommand(s)"

/-- The description of the program. -/
def programHelp : List String :=
  let commands := Verb.all.map fun verb => (verb.name, verb.about)
  ["Usage: " ++ programName ++ " <COMMAND>", "", "Commands:"] ++
    columns (commands ++ [("help", helpAbout)]) ++
    ["", "Options:"] ++
    columns [("-h, --help", "Print help"), ("-V, --version", "Print version")]

/-- The description of a topic. -/
def Topic.text : Topic → List String
  | .program => programHelp
  | .command verb => verb.help
  | .help =>
    [helpAbout, "", "Usage: " ++ programName ++ " help [COMMAND]...", "", "Arguments:"] ++
      columns [("[COMMAND]...", "Print help for the subcommand(s)")]

end WindowsMetafile
