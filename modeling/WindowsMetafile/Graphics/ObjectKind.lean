/-!
# Kinds of graphics objects
-/

namespace WindowsMetafile

/-- The five kinds of objects that records create and select. -/
inductive ObjectKind
  | pen
  | brush
  | font
  | palette
  | region
  deriving DecidableEq, Repr

/-- The word for a kind of object in messages. -/
def ObjectKind.name : ObjectKind → String
  | .pen => "pen"
  | .brush => "brush"
  | .font => "font"
  | .palette => "palette"
  | .region => "region"

end WindowsMetafile
