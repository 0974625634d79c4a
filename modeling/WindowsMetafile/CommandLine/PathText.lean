/-!
# Paths as text

A path is a run of names with slashes between them. Names that are empty or a single dot say
nothing, so a path without its last name also loses those around it; what is left is the start of
the path as it was written. A slash in front is the root; a single dot in front counts as a name.

## Main definitions

* `PathText.names` — the names of a path that say something to a file system
* `PathText.parent?` — the path without its last name
* `PathText.ancestors` — a path and all that are left when names are taken off its end
-/

namespace WindowsMetafile.PathText

/-- Whether a path starts at the root. -/
def isAbsolute (path : String) : Bool :=
  path.toList.head? = some '/'

/-- Whether a path ends with a slash, so that it can only be that of a directory. -/
def isSlashed (path : String) : Bool :=
  path.toList.getLast? = some '/'

/-- The names of a path, dots included. -/
def names (path : String) : List String :=
  (path.splitOn "/").filter (· ≠ "")

/-- How many characters of a path stand before its names: the root, or a dot in front. -/
def leadLength : List Char → Nat
  | '/' :: _ | ['.'] | '.' :: '/' :: _ => 1
  | _ => 0

/-- Takes names that say nothing off a path in reverse. -/
def dropBlankNames : List Char → List Char
  | '/' :: rest | '.' :: '/' :: rest => dropBlankNames rest
  | ['.'] => []
  | rest => rest

/-- The path without its last name. The root and the empty path have none. -/
def parent? (path : String) : Option String :=
  let chars := path.toList
  let lead := chars.take (leadLength chars)
  match dropBlankNames (chars.drop lead.length).reverse with
  | [] => if lead = ['.'] then some "" else none
  | body =>
    some (String.ofList (lead ++ (dropBlankNames (body.dropWhile (· ≠ '/'))).reverse))

/-- The first so many of the paths that are left when names are taken off the end of a path. -/
def ancestorsWithin : Nat → String → List String
  | 0, _ => []
  | count + 1, path => path :: (parent? path).elim [] (ancestorsWithin count)

/-- A path and all that are left when names are taken off its end. -/
def ancestors (path : String) : List String :=
  ancestorsWithin (path.length + 1) path

end WindowsMetafile.PathText
