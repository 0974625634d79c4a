/-!
# Fonts
-/

namespace WindowsMetafile

/-- A font as a record describes it. -/
structure Font where
  faceName : String
  height : Int16
  width : Int16
  escapement : Int16
  orientation : Int16
  weight : Int16
  italic : Bool
  underline : Bool
  strikeOut : Bool
  charset : UInt8
  outPrecision : UInt8
  clipPrecision : UInt8
  quality : UInt8
  pitchAndFamily : UInt8
  deriving DecidableEq, Repr

namespace Font

/-- The font of a fresh device context. -/
def stock : Font :=
  ⟨"System", 12, 0, 0, 0, 400, false, false, false, 0, 0, 0, 0, 0⟩

/-- Whether the weight counts as bold. -/
def bold (font : Font) : Bool :=
  600 ≤ font.weight

end Font

end WindowsMetafile
