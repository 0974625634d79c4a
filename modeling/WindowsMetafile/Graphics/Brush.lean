import WindowsMetafile.Bitmap.Pixmap
import WindowsMetafile.Color

/-!
# Brushes

A brush fills areas with a colour, with hatch lines, or with a tiled image.
-/

namespace WindowsMetafile

/-- The brush styles that records name by a word. -/
inductive BrushStyle
  | solid
  | null
  | hatched
  | pattern
  | indexed
  | dibPattern
  | dibPatternPt
  | pattern8x8
  | dibPattern8x8
  | monoPattern
  deriving DecidableEq, Repr

namespace BrushStyle

/-- All styles in the order of their words. -/
def all : List BrushStyle :=
  [.solid, .null, .hatched, .pattern, .indexed, .dibPattern, .dibPatternPt, .pattern8x8,
    .dibPattern8x8, .monoPattern]

/-- The style that a word names. -/
def ofWord? (word : UInt16) : Option BrushStyle :=
  all[word.toNat]?

/-- The word of a style. -/
def toWord : BrushStyle → UInt16
  | .solid => 0
  | .null => 1
  | .hatched => 2
  | .pattern => 3
  | .indexed => 4
  | .dibPattern => 5
  | .dibPatternPt => 6
  | .pattern8x8 => 7
  | .dibPattern8x8 => 8
  | .monoPattern => 9

@[simp] theorem ofWord?_toWord (style : BrushStyle) : ofWord? style.toWord = some style := by
  cases style <;> rfl

/-- The name of a style. -/
def name : BrushStyle → String
  | .solid => "Solid"
  | .null => "Null"
  | .hatched => "Hatched"
  | .pattern => "Pattern"
  | .indexed => "Indexed"
  | .dibPattern => "DibPattern"
  | .dibPatternPt => "DibPatternPt"
  | .pattern8x8 => "Pattern8x8"
  | .dibPattern8x8 => "DibPattern8x8"
  | .monoPattern => "MonoPattern"

end BrushStyle

/-- The directions of hatch lines. -/
inductive Hatch
  | horizontal
  | vertical
  | forwardDiagonal
  | backwardDiagonal
  | cross
  | diagonalCross
  deriving DecidableEq, Repr

namespace Hatch

/-- All hatches in the order of their words. -/
def all : List Hatch :=
  [.horizontal, .vertical, .forwardDiagonal, .backwardDiagonal, .cross, .diagonalCross]

/-- The hatch that a word names. -/
def ofWord? (word : UInt16) : Option Hatch :=
  all[word.toNat]?

/-- The word of a hatch. -/
def toWord : Hatch → UInt16
  | .horizontal => 0
  | .vertical => 1
  | .forwardDiagonal => 2
  | .backwardDiagonal => 3
  | .cross => 4
  | .diagonalCross => 5

@[simp] theorem ofWord?_toWord (hatch : Hatch) : ofWord? hatch.toWord = some hatch := by
  cases hatch <;> rfl

/-- The name of a hatch. -/
def name : Hatch → String
  | .horizontal => "Horizontal"
  | .vertical => "Vertical"
  | .forwardDiagonal => "ForwardDiagonal"
  | .backwardDiagonal => "BackwardDiagonal"
  | .cross => "Cross"
  | .diagonalCross => "DiagonalCross"

end Hatch

/-- What areas are filled with. -/
inductive Brush
  /-- A plain colour. -/
  | solid (color : Color)
  /-- Nothing. -/
  | null
  /-- Lines in a colour. -/
  | hatched (hatch : Hatch) (color : Color)
  /-- A tiled image; it is missing when it could not be decoded. -/
  | pattern (image : Option Pixmap)
  deriving DecidableEq, Repr

namespace Brush

/-- The brush of a fresh device context. -/
def stock : Brush := .solid .white

/-- Whether areas are filled at all. -/
def visible : Brush → Bool
  | .null => false
  | _ => true

end Brush

end WindowsMetafile
