import WindowsMetafile.Bytes

/-!
# Pixel images

A pixmap holds its pixels row by row from the top. Its colour channels are premultiplied: each is
already weighted by the opacity of its pixel.

## Main definitions

* `Pixel`, `Pixmap` — pixels and images
* `Pixel.premultiply`, `Pixel.unpremultiply` — between straight and premultiplied channels
-/

namespace WindowsMetafile

/-- A pixel with three colour channels and an opacity. -/
structure Pixel where
  red : UInt8
  green : UInt8
  blue : UInt8
  alpha : UInt8
  deriving DecidableEq, Repr

namespace Pixel

def opaqueBlack : Pixel := ⟨0, 0, 0, 255⟩

def opaqueWhite : Pixel := ⟨255, 255, 255, 255⟩

def transparent : Pixel := ⟨0, 0, 0, 0⟩

/-- The four bytes of a pixel. -/
def toBytes (pixel : Pixel) : Bytes :=
  [pixel.red, pixel.green, pixel.blue, pixel.alpha]

/-- A channel weighted by an opacity, rounded to the nearest byte. -/
def weighted (alpha channel : UInt8) : UInt8 :=
  UInt8.ofNat ((channel.toNat * alpha.toNat + 127) / 255)

/-- A weighted channel divided by its opacity, rounded to the nearest byte and at most 255. -/
def unweighted (alpha channel : UInt8) : UInt8 :=
  UInt8.ofNat (min 255 ((channel.toNat * 255 + alpha.toNat / 2) / alpha.toNat))

/-- The premultiplied form of a straight pixel. -/
def premultiply (pixel : Pixel) : Pixel :=
  ⟨weighted pixel.alpha pixel.red, weighted pixel.alpha pixel.green,
    weighted pixel.alpha pixel.blue, pixel.alpha⟩

/-- The straight form of a premultiplied pixel; fully clear and fully opaque pixels stay. -/
def unpremultiply (pixel : Pixel) : Pixel :=
  if pixel.alpha = 0 ∨ pixel.alpha = 255 then pixel
  else
    ⟨unweighted pixel.alpha pixel.red, unweighted pixel.alpha pixel.green,
      unweighted pixel.alpha pixel.blue, pixel.alpha⟩

end Pixel

/-- An image of premultiplied pixels. -/
structure Pixmap where
  width : Nat
  height : Nat
  pixels : List Pixel
  deriving DecidableEq, Repr

/-- The bytes of an image, four for each pixel. -/
def Pixmap.toBytes (pixmap : Pixmap) : Bytes :=
  pixmap.pixels.flatMap Pixel.toBytes

end WindowsMetafile
