import WindowsMetafile.Bitmap.Pixmap

/-!
# Frames

A frame holds the bytes of its pixels, four for each pixel, row by row from the top. Files want
straight channels, while painting gives weighted ones.

## Main definitions

* `mapPixels` — a run of bytes with each pixel changed
* `Frame`, `Frame.straight` — a frame, and its bytes with straight channels
-/

namespace WindowsMetafile

def mapPixelsOnto (change : Pixel → Pixel) (done : Bytes) : Bytes → Bytes
  | red :: green :: blue :: alpha :: rest =>
    let pixel := change ⟨red, green, blue, alpha⟩
    mapPixelsOnto change
      (pixel.alpha :: pixel.blue :: pixel.green :: pixel.red :: done) rest
  | short => done.reverse ++ short

/-- A run of bytes with each whole pixel changed; bytes that are left over stay. -/
def mapPixels (change : Pixel → Pixel) (bytes : Bytes) : Bytes :=
  mapPixelsOnto change [] bytes

/-- A picture in pixels. -/
structure Frame where
  width : Nat
  height : Nat
  data : Bytes
  /-- Whether the colour channels are weighted by the opacity of their pixel. -/
  premultiplied : Bool
  deriving DecidableEq, Repr

namespace Frame

/-- The bytes of a frame with straight channels. -/
def straight (frame : Frame) : Bytes :=
  if frame.premultiplied then mapPixels Pixel.unpremultiply frame.data else frame.data

end Frame

end WindowsMetafile
