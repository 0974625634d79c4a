import WindowsMetafile.Geometry.Basic

/-!
# Affine maps of the plane

The map with coefficients `xx`, `yx`, `xy`, `yy`, `tx`, `ty` takes `(x, y)` to
`(xx * x + xy * y + tx, yx * x + yy * y + ty)`.
-/

namespace WindowsMetafile

/-- An affine map of the plane. -/
structure Affine where
  xx : Float
  yx : Float
  xy : Float
  yy : Float
  tx : Float
  ty : Float
  deriving Repr

namespace Affine

def identity : Affine := ⟨1.0, 0.0, 0.0, 1.0, 0.0, 0.0⟩

def shift (x y : Float) : Affine := ⟨1.0, 0.0, 0.0, 1.0, x, y⟩

def scaling (x y : Float) : Affine := ⟨x, 0.0, 0.0, y, 0.0, 0.0⟩

/-- The map that applies `b` first and `a` to its result. -/
def after (a b : Affine) : Affine :=
  ⟨a.xx * b.xx + a.xy * b.yx, a.yx * b.xx + a.yy * b.yx,
    a.xx * b.xy + a.xy * b.yy, a.yx * b.xy + a.yy * b.yy,
    a.xx * b.tx + a.xy * b.ty + a.tx, a.yx * b.tx + a.yy * b.ty + a.ty⟩

/-- The image of a point. -/
def apply (a : Affine) (p : Point Float) : Point Float :=
  ⟨a.xx * p.x + a.xy * p.y + a.tx, a.yx * p.x + a.yy * p.y + a.ty⟩

/-- The point that the map takes to `p`; there is none when the map flattens the plane. -/
def preimage? (a : Affine) (p : Point Float) : Option (Point Float) :=
  let determinant := a.xx * a.yy - a.yx * a.xy
  if determinant == 0.0 || determinant.isNaN || determinant.isInf then none
  else
    let x := p.x - a.tx
    let y := p.y - a.ty
    some ⟨(a.yy * x - a.xy * y) / determinant, (a.xx * y - a.yx * x) / determinant⟩

/-- The six coefficients, linear part first, column by column. -/
def coefficients (a : Affine) : List Float :=
  [a.xx, a.yx, a.xy, a.yy, a.tx, a.ty]

end Affine

end WindowsMetafile
