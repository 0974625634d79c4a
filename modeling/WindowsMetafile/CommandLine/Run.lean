import WindowsMetafile.Bitmap.Dib.Decode
import WindowsMetafile.Command.Encode
import WindowsMetafile.CommandLine.Arguments
import WindowsMetafile.CommandLine.Host
import WindowsMetafile.CommandLine.PathText
import WindowsMetafile.Frame.Render
import WindowsMetafile.Playback.Json
import WindowsMetafile.Settings.Read

/-!
# The program

Each command prints lines, notes what went wrong on the way, and may fail as a whole. A failure has
a message, and often a cause.

## Main definitions

* `Failure` — why a command failed
* `Completion` — the exit status and all lines of a run
* `run` — a run of the program on a host
-/

namespace WindowsMetafile

/-- Why a command failed. -/
structure Failure where
  message : String
  cause : Option String
  deriving DecidableEq, Repr

/-- The lines of a text. -/
def linesOf (text : String) : List String :=
  text.splitOn "\n"

/-- The lines that tell about a failure; those of its cause are indented. -/
def Failure.lines (failure : Failure) : List String :=
  linesOf ("Error: " ++ failure.message) ++
    match failure.cause with
    | some cause => ["", "Caused by:"] ++ (linesOf cause).map ("    " ++ ·)
    | none => []

/-- The lines of a run so far. -/
structure Transcript where
  printed : Array String
  notes : Array String
  deriving DecidableEq, Repr

/-- The exit status and all lines of a run. -/
structure Completion where
  status : Nat
  printed : List String
  notes : List String
  deriving DecidableEq, Repr

/-- A computation of the program. -/
abbrev Program (m : Type → Type) := ExceptT Failure (StateT Transcript m)

namespace Program

variable {m : Type → Type} [Monad m] {α : Type}

/-- Prints a text. -/
def print (text : String) : Program m Unit :=
  modify fun transcript =>
    { transcript with printed := transcript.printed ++ linesOf text }

/-- Notes a text. -/
def note (text : String) : Program m Unit :=
  modify fun transcript => { transcript with notes := transcript.notes ++ linesOf text }

/-- An action of the host. -/
def ask (action : m α) : Program m α :=
  ExceptT.lift (StateT.lift action)

/-- A result whose fault fails the command. -/
def require : Except Fault α → Program m α
  | .ok value => return value
  | .error fault => throw ⟨fault.message, none⟩

/-- A result whose fault is the cause of a failure with a message of its own. -/
def requireFor (message : String) : Except Fault α → Program m α
  | .ok value => return value
  | .error fault => throw ⟨message, some fault.message⟩

/-- A result of the host whose fault is the cause of a failure with a message of its own. -/
def requireFile (message : String) : Except FileFault α → Program m α
  | .ok value => return value
  | .error fault => throw ⟨message, some fault.message⟩

/-- A path in quotes. -/
def quoted (path : String) : String :=
  "'" ++ path ++ "'"

/-- The metafile at a path. -/
def readMetafile (host : Host m) (path : String) : Program m Metafile := do
  let bytes ← requireFile ("read " ++ quoted path) (← ask (host.read path))
  requireFor ("parse " ++ quoted path) (Metafile.ofBytes bytes)

/-- The text that a run of bytes holds. -/
def textOf (bytes : Bytes) : Except FileFault String :=
  match String.fromUTF8? ⟨bytes.toArray⟩ with
  | some text => .ok text
  | none => .error .notText

/-- The settings at a path. -/
def readSettings (host : Host m) (path : String) : Program m Settings := do
  let message := "read settings " ++ quoted path
  let bytes ← requireFile message (← ask (host.read path))
  let text ← requireFile message (textOf bytes)
  match Settings.ofText text with
  | .ok settings => return settings
  | .error fault => throw ⟨"parse replay settings", some (fault.message text)⟩

/-! ### The commands -/

/-- The number of records for each function code, in the order of the codes. -/
def histogram (records : List Record) : List (UInt16 × Nat) :=
  let counted := records.foldl
    (fun (counts : Array Nat) record => counts.modify record.opcode.toNat (· + 1))
    (Array.replicate 65536 0)
  (List.range 65536).filterMap fun code =>
    let count := counted.getD code 0
    if count = 0 then none else some (UInt16.ofNat code, count)

/-- The name of a function code, and a question mark for one without meaning. -/
def codeName (code : UInt16) : String :=
  (RecordType.ofOpcode? code).elim "?" RecordType.name

/-- A function code in hexadecimal digits. -/
def codeText (code : UInt16) : String :=
  "0x" ++ hexText 4 code.toNat

/-- The line about a placeable header. -/
def placeableLine (placeable : Placeable) : String :=
  let b := placeable.bounds
  let upperLeft := s!"({b.left}, {b.top})"
  let lowerRight := s!"({b.right}, {b.bottom})"
  s!"placeable: bounds={upperLeft}-{lowerRight} units_per_inch={placeable.unitsPerInch}"

/-- The line about a standard header. -/
def headerLine (header : StandardHeader) : String :=
  "header: version=" ++ codeText header.version ++
    s!" size_words={header.size} objects={header.objectCount}" ++
    s!" max_record_words={header.maxRecordSize}"

/-- Prints the headers and the number of records of each type. -/
def info (host : Host m) (input : String) : Program m Unit := do
  let metafile ← readMetafile host input
  if let some placeable := metafile.placeable then
    print (placeableLine placeable)
  print (headerLine metafile.header)
  print s!"records: {metafile.records.length}"
  for (code, count) in histogram metafile.records do
    print ("  " ++ codeText code ++ " " ++ padded 24 (codeName code) ++ s!" {count}")

/-- Prints each record as a command. -/
def dumpRecords (metafile : Metafile) : Program m Unit := do
  for (record, index) in metafile.records.zipIdx do
    match record.decode with
    | .ok command => print command.toJson.render
    | .error fault => note s!"record {index}: {fault.message}"

/-- Prints the draw calls of a replay. -/
def dumpCalls (host : Host m) (metafile : Metafile) : Program m Unit := do
  let settings := Settings.standard.override (← ask host.overrides)
  let (outcome, session) :=
    (settings.player .identity Dib.decode).playIn .fresh metafile.records
  let report ← require outcome
  for call in session.canvas.recording do
    print call.toJson.render
  let failed := report.failures.size
  note s!"replayed {report.replayed} of {report.records} records ({failed} failed)"

def dump (host : Host m) (input : String) (calls : Bool) : Program m Unit := do
  let metafile ← readMetafile host input
  if calls then dumpCalls host metafile else dumpRecords metafile

/-- The directory that a path is in; there is none to make for a bare name. -/
def directoryOf (path : String) : Option String :=
  (PathText.parent? path).filter (· ≠ "")

/-- Writes the picture of a metafile. -/
def render (host : Host m) (input output : String) (settings : Option String)
    (width height : Option Nat) : Program m Unit := do
  let metafile ← readMetafile host input
  let given ←
    match settings with
    | some path => readSettings host path
    | none => pure .standard
  let overridden := given.override (← ask host.overrides)
  let settings :=
    { overridden with
      width := width.or overridden.width
      height := height.or overridden.height }
  let (frame, report) ← require (metafile.render settings Dib.decode)
  for failure in report.failures do
    let code := codeText failure.opcode
    note s!"record {failure.index} ({code}): {failure.fault.message}"
  if let some directory := directoryOf output then
    requireFile ("create output dir " ++ quoted directory) (← ask (host.makeDirectories directory))
  let picture := Document.picture frame.width frame.height frame.straight
  requireFile ("write png " ++ quoted output) (← ask (host.write output picture))
  note ("wrote " ++ output)

/-- Writes a metafile again from its commands. -/
def reencode (host : Host m) (input output : String) : Program m Unit := do
  let metafile ← readMetafile host input
  let commands ← metafile.records.zipIdx.mapM fun (record, index) =>
    requireFor s!"decode record {index}" record.decode
  let bytes ← require (Metafile.writeCommands metafile.placeable commands)
  requireFile ("write " ++ quoted output) (← ask (host.write output (.bytes bytes)))
  note (s!"wrote {output} ({commands.length} records)")

/-- What an invocation does. -/
def ofInvocation (host : Host m) : Invocation → Program m Unit
  | .version => print (programName ++ " " ++ programVersion)
  | .help topic => topic.text.forM print
  | .info input => info host input
  | .dump input calls => dump host input calls
  | .render input output settings width height => render host input output settings width height
  | .reencode input output => reencode host input output

end Program

/-- The exit status of a command that failed. -/
def failureStatus : Nat := 1

/-- The exit status for arguments without meaning. -/
def usageStatus : Nat := 2

/-- A run of the program on a host. -/
def run {m : Type → Type} [Monad m] (host : Host m) (arguments : List String) : m Completion :=
  match Invocation.ofArguments arguments with
  | .error fault =>
    return ⟨usageStatus, [],
      ["error: " ++ fault.message, "", "For more information, try '--help'."]⟩
  | .ok invocation => do
    let (outcome, transcript) ← ((Program.ofInvocation host invocation).run).run ⟨#[], #[]⟩
    let (status, last) :=
      match outcome with
      | .ok () => (0, [])
      | .error failure => (failureStatus, failure.lines)
    return ⟨status, transcript.printed.toList, transcript.notes.toList ++ last⟩

end WindowsMetafile
