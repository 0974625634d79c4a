import WindowsMetafile.Color

/-!
# Pens

One style word of a pen holds three choices: the low four bits name a dash pattern, the next group
the ends of lines, and the top four bits their corners.
-/

namespace WindowsMetafile

/-- The dash patterns that a pen style can name. -/
inductive Dash
  | solid
  | dash
  | dot
  | dashDot
  | dashDotDot
  | null
  | insideFrame
  | userStyle
  | alternate
  deriving DecidableEq, Repr

namespace Dash

/-- The dash pattern that a pen style names. -/
def ofStyle? (style : UInt16) : Option Dash :=
  match (style &&& 0x000F).toNat with
  | 0 => some .solid
  | 1 => some .dash
  | 2 => some .dot
  | 3 => some .dashDot
  | 4 => some .dashDotDot
  | 5 => some .null
  | 6 => some .insideFrame
  | 7 => some .userStyle
  | 8 => some .alternate
  | _ => none

/-- The lengths of strokes and gaps in multiples of the pen width; none for a continuous line. -/
def pattern : Dash → List Nat
  | .dash => [3, 1]
  | .dot | .alternate => [1, 1]
  | .dashDot => [3, 1, 1, 1]
  | .dashDotDot => [3, 1, 1, 1, 1, 1]
  | .solid | .null | .insideFrame | .userStyle => []

/-- The name of a dash pattern. -/
def name : Dash → String
  | .solid => "Solid"
  | .dash => "Dash"
  | .dot => "Dot"
  | .dashDot => "DashDot"
  | .dashDotDot => "DashDotDot"
  | .null => "Null"
  | .insideFrame => "InsideFrame"
  | .userStyle => "UserStyle"
  | .alternate => "Alternate"

end Dash

/-- The ends of lines. -/
inductive LineCap
  | round
  | square
  | flat
  deriving DecidableEq, Repr

/-- The name of a line end. -/
def LineCap.name : LineCap → String
  | .round => "Round"
  | .square => "Square"
  | .flat => "Flat"

/-- The corners of lines. -/
inductive LineJoin
  | round
  | bevel
  | miter
  deriving DecidableEq, Repr

/-- The name of a line corner. -/
def LineJoin.name : LineJoin → String
  | .round => "Round"
  | .bevel => "Bevel"
  | .miter => "Miter"

/-- A pen; a width of zero means the thinnest line. -/
structure Pen where
  style : UInt16
  width : Int16
  color : Color
  deriving DecidableEq, Repr

namespace Pen

/-- The pen of a fresh device context. -/
def stock : Pen := ⟨0, 1, .black⟩

/-- The pattern that lines are drawn with; a style without meaning draws continuous lines. -/
def dash (pen : Pen) : Dash :=
  (Dash.ofStyle? pen.style).getD .solid

/-- Whether lines are drawn at all. -/
def visible (pen : Pen) : Bool :=
  pen.dash ≠ .null

/-- The ends of the pen's lines. -/
def cap (pen : Pen) : LineCap :=
  match (pen.style &&& 0x0F00).toNat with
  | 0x0100 => .square
  | 0x0200 => .flat
  | _ => .round

/-- The corners of the pen's lines. -/
def join (pen : Pen) : LineJoin :=
  match (pen.style &&& 0xF000).toNat with
  | 0x1000 => .bevel
  | 0x2000 => .miter
  | _ => .round

end Pen

end WindowsMetafile
