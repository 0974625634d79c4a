import WindowsMetafile.CommandLine.Run
import WindowsMetafile.Frame.Png

/-!
# The command line

Runs the program on the real files, prints its lines, and ends with its exit status.
-/

namespace WindowsMetafile

/-- The cause that the system gives for an error. -/
def FileFault.ofSystem : IO.Error → FileFault
  | .noFileOrDirectory _ _ _ => .missing
  | .inappropriateType _ 20 _ => .notDirectory
  | .inappropriateType _ _ _ => .isDirectory
  | .alreadyExists _ _ _ => .occupied
  | .permissionDenied _ _ _ => .denied
  | .invalidArgument _ 36 _ => .nameTooLong
  | other => .unknown other.toString

/-- An action on files with the cause of its failure. -/
def guarded {α : Type} (action : IO α) : IO (Except FileFault α) := do
  try
    return .ok (← action)
  catch fault =>
    return .error (FileFault.ofSystem fault)

/-- The bytes of a document on file. -/
def Document.toBytes : Document → Bytes
  | .bytes content => content
  | .picture width height pixels => Png.file width height pixels

/-- The host with the real files. -/
def system : Host IO where
  read path := guarded do
    return (← IO.FS.readBinFile path).toList
  write path document := guarded (IO.FS.writeBinFile path ⟨document.toBytes.toArray⟩)
  makeDirectories path := guarded (IO.FS.createDirAll path)
  overrides := do
    return ⟨← IO.getEnv "WMF_REPLAY_MAX_RECORDS", ← IO.getEnv "WMF_REPLAY_STOP_ON_ERROR"⟩

end WindowsMetafile

def main (arguments : List String) : IO UInt32 := do
  let completion ← WindowsMetafile.run WindowsMetafile.system arguments
  for line in completion.printed do
    IO.println line
  for line in completion.notes do
    IO.eprintln line
  return UInt32.ofNat completion.status
