import WindowsMetafile.Geometry.Basic
import WindowsMetafile.Graphics.Brush
import WindowsMetafile.Graphics.Font
import WindowsMetafile.Graphics.ObjectKind
import WindowsMetafile.Graphics.Pen

/-!
# Graphics objects

## Main definitions

* `Palette`, with the two edits `Palette.write` and `Palette.resize`
* `Region` — a region, known by its bounding rectangle
* `GraphicsObject` — an entry of the object table
-/

namespace WindowsMetafile

/-- A list of colours that indexed colours refer to. -/
structure Palette where
  entries : List Color
  deriving DecidableEq, Repr

namespace Palette

/-- The colour at an index. -/
def get? (palette : Palette) (index : UInt16) : Option Color :=
  palette.entries[index.toNat]?

/-- The palette with colours written from an index on; colours past its end are dropped. -/
def write (palette : Palette) (start : UInt16) (colors : List Color) : Palette :=
  let entries := palette.entries
  ⟨entries.take start.toNat ++ colors.take (entries.length - start.toNat) ++
    entries.drop (start.toNat + colors.length)⟩

/-- The palette cut to a length, or filled up with black to it. -/
def resize (palette : Palette) (count : UInt16) : Palette :=
  ⟨palette.entries.take count.toNat ++
    List.replicate (count.toNat - palette.entries.length) .black⟩

end Palette

/-- A region, known by its bounding rectangle. -/
structure Region where
  bounds : Bounds
  deriving DecidableEq, Repr

/-- An object that the object table can hold. -/
inductive GraphicsObject
  | pen (pen : Pen)
  | brush (brush : Brush)
  | font (font : Font)
  | palette (palette : Palette)
  | region (region : Region)
  deriving DecidableEq, Repr

/-- The kind of an object. -/
def GraphicsObject.kind : GraphicsObject → ObjectKind
  | .pen _ => .pen
  | .brush _ => .brush
  | .font _ => .font
  | .palette _ => .palette
  | .region _ => .region

end WindowsMetafile
