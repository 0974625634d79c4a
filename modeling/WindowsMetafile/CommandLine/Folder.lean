import WindowsMetafile.CommandLine.Host
import WindowsMetafile.CommandLine.PathText

/-!
# A host in memory

A folder keeps files and directories by their places, which are lists of names from the root down.
Paths are followed name by name, and everything on the way has to be a directory that is there, even
when the next name leads back out of it.

## Main definitions

* `Folder` — the files, the directories and the variables of a host
* `Folder.locate` — what a path names, without asking whether it is there
* `Folder.host` — the host whose actions change a folder
-/

namespace WindowsMetafile

/-- The names on the way from the root to a file or a directory. -/
abbrev Place := List String

/-- The places on the way from the root to a place, and the place itself. -/
def wayTo (place : Place) : List Place :=
  (List.range (place.length + 1)).map place.take

/-- The files, the directories and the variables of a host. -/
structure Folder where
  files : List (Place × Document)
  /-- All directories but the root. -/
  directories : List Place
  /-- Where a path starts that does not start at the root. -/
  home : Place
  overrides : Overrides
  deriving DecidableEq, Repr

/-- What a path names. -/
inductive Target
  /-- A directory that is there. -/
  | directory (place : Place)
  /-- A name in a directory that is there; a slash behind it asks for a directory. -/
  | entry (parent : Place) (name : String) (slashed : Bool)
  deriving DecidableEq, Repr

namespace Folder

/-- The greatest number of bytes in a name. -/
def greatestName : Nat := 255

/-- The greatest number of bytes in a path. -/
def greatestPath : Nat := 4095

/-- The file at a place. -/
def file? (folder : Folder) (place : Place) : Option Document :=
  folder.files.lookup place

/-- Whether there is a directory at a place. -/
def isDirectory (folder : Folder) (place : Place) : Bool :=
  place = [] || folder.directories.contains place

/-- The place that a name leads to from a directory; the root is its own parent. -/
def goTo (here : Place) (name : String) : Place :=
  if name = "." then here
  else if name = ".." then here.dropLast
  else here ++ [name]

/-- Why a directory cannot be reached by a name, if so. -/
def obstacle? (folder : Folder) (here : Place) (name : String) : Option FileFault :=
  if greatestName < name.utf8ByteSize then some .nameTooLong
  else if folder.isDirectory (goTo here name) then none
  else if (folder.file? (goTo here name)).isSome then some .notDirectory
  else some .missing

/-- The directory that some names lead to. -/
def follow (folder : Folder) : Place → List String → Except FileFault Place
  | here, [] => .ok here
  | here, name :: names =>
    match folder.obstacle? here name with
    | some fault => .error fault
    | none => folder.follow (goTo here name) names

/-- What a path names. Only the last name may be that of nothing yet. -/
def locate (folder : Folder) (path : String) : Except FileFault Target := do
  if path = "" then throw .missing
  if greatestPath < path.utf8ByteSize then throw .nameTooLong
  let names := PathText.names path
  let parent ← folder.follow (if PathText.isAbsolute path then [] else folder.home) names.dropLast
  match names.getLast? with
  | none => return .directory parent
  | some name =>
    if name = "." ∨ name = ".." then return .directory (goTo parent name)
    else return .entry parent name (PathText.isSlashed path)

/-- The document at a path. -/
def document (folder : Folder) (path : String) : Except FileFault Document := do
  match ← folder.locate path with
  | .directory _ => throw .isDirectory
  | .entry parent name slashed =>
    if greatestName < name.utf8ByteSize then throw .nameTooLong
    let place := goTo parent name
    if folder.isDirectory place then throw .isDirectory
    match folder.file? place with
    | some document => if slashed then throw .notDirectory else return document
    | none => throw .missing

/-- The folder with a document written to a path. -/
def write (folder : Folder) (path : String) (document : Document) : Except FileFault Folder := do
  match ← folder.locate path with
  | .directory _ | .entry _ _ true => throw .isDirectory
  | .entry parent name false =>
    if greatestName < name.utf8ByteSize then throw .nameTooLong
    let place := goTo parent name
    if folder.isDirectory place then throw .isDirectory
    let others := folder.files.filter fun (other, _) => other ≠ place
    return { folder with files := (place, document) :: others }

/-- The folder with a new directory at a path. -/
def makeDirectory (folder : Folder) (path : String) : Except FileFault Folder := do
  match ← folder.locate path with
  | .directory _ => throw .occupied
  | .entry parent name _ =>
    if greatestName < name.utf8ByteSize then throw .nameTooLong
    let place := goTo parent name
    if folder.isDirectory place || (folder.file? place).isSome then throw .occupied
    return { folder with directories := place :: folder.directories }

/-- Whether a path is that of a directory that is there. -/
def hasDirectory (folder : Folder) (path : String) : Bool :=
  match folder.locate path with
  | .ok (.directory _) => true
  | .ok (.entry parent name _) => folder.isDirectory (goTo parent name)
  | .error _ => false

/-- The folder with a directory at a path, be it new or not. -/
def provide (folder : Folder) (path : String) : Except FileFault Folder :=
  if folder.hasDirectory path then .ok folder else folder.makeDirectory path

/-- The folder with the first of some directories. Only if something on the way to it is missing,
the others are made before it. -/
def provideAll (folder : Folder) : List String → Except FileFault Folder
  | [] => .ok folder
  | path :: above =>
    match folder.provide path with
    | .error .missing => do (← folder.provideAll above).provide path
    | outcome => outcome

/-- The folder with a directory and all those above it; an empty path needs none. -/
def makeDirectories (folder : Folder) (path : String) : Except FileFault Folder :=
  folder.provideAll ((PathText.ancestors path).filter (· ≠ ""))

/-- A folder that holds files by their paths, in a directory of its own; besides, there is an empty
file that serves as a null device. -/
def ofFiles (files : List (String × Bytes)) (overrides : Overrides) : Folder :=
  let home : Place := ["tmp", "work"]
  let device : Place := ["dev", "null"]
  let placed := files.map fun (path, content) =>
    ((PathText.names path).foldl goTo home, Document.bytes content)
  let above := wayTo home ++ wayTo device.dropLast ++
    placed.flatMap fun (place, _) => wayTo place.dropLast
  ⟨placed ++ [(device, .bytes [])], above, home, overrides⟩

/-- Keeps the folder that an action gives. -/
def keep (action : Folder → Except FileFault Folder) : StateM Folder (Except FileFault Unit) :=
  fun folder =>
    match action folder with
    | .ok changed => (.ok (), changed)
    | .error fault => (.error fault, folder)

/-- The bytes of a document. A picture has none in memory, since its file form is up to a host. -/
def bytesOf : Document → Bytes
  | .bytes content => content
  | .picture _ _ _ => []

/-- The host whose actions change a folder. -/
def host : Host (StateM Folder) where
  read path := return ((← get).document path).map bytesOf
  write path document := keep fun folder => folder.write path document
  makeDirectories path := keep fun folder => folder.makeDirectories path
  overrides := return (← get).overrides

end Folder

end WindowsMetafile
