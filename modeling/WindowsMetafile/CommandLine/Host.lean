import WindowsMetafile.Bytes
import WindowsMetafile.Settings.Basic

/-!
# The host of the program

What the program needs from its surroundings: files, directories, and variables of the environment.
The host may be a real one or one that keeps its files in memory.

## Main definitions

* `FileFault` — why a file cannot be used
* `Document` — what is written to a file
* `Host` — the actions of a host
-/

namespace WindowsMetafile

/-- Why a file or a directory cannot be used. -/
inductive FileFault
  | missing
  | notDirectory
  | isDirectory
  | occupied
  | denied
  | nameTooLong
  /-- The bytes of a file are not a text. -/
  | notText
  /-- Another cause, in the words of the host. -/
  | unknown (words : String)
  deriving DecidableEq, Repr

/-- The wording of a file fault. -/
def FileFault.message : FileFault → String
  | .missing => "No such file or directory (os error 2)"
  | .notDirectory => "Not a directory (os error 20)"
  | .isDirectory => "Is a directory (os error 21)"
  | .occupied => "File exists (os error 17)"
  | .denied => "Permission denied (os error 13)"
  | .nameTooLong => "File name too long (os error 36)"
  | .notText => "stream did not contain valid UTF-8"
  | .unknown words => words

/-- What is written to a file. -/
inductive Document
  | bytes (content : Bytes)
  /-- A picture of straight pixels with four channels. -/
  | picture (width height : Nat) (pixels : Bytes)
  deriving DecidableEq, Repr

/-- The actions of a host. -/
structure Host (m : Type → Type) where
  read : String → m (Except FileFault Bytes)
  write : String → Document → m (Except FileFault Unit)
  /-- Makes a directory and those above it, unless they are there. -/
  makeDirectories : String → m (Except FileFault Unit)
  overrides : m Overrides

end WindowsMetafile
