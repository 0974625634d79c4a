import WindowsMetafile.Bytes

/-!
# Colours

A colour reference packs red, green and blue, from the lowest byte on, with a byte of flags on top.
Flags of one say that the low word is an index into the selected palette.

## Main definitions

* `Color.ofReference`, `Color.toReference` — a colour and its packed form
* `Color.paletteIndex?` — the index that a colour stands for, if it is one
* `Color.withoutFlags` — the plain colour

## Main results

* `Color.toReference_ofReference`, `Color.ofReference_toReference` — packing loses nothing
-/

namespace WindowsMetafile

/-- A colour with its flags. -/
structure Color where
  red : UInt8
  green : UInt8
  blue : UInt8
  flags : UInt8
  deriving DecidableEq, Repr

namespace Color

/-- A plain colour, without flags. -/
def rgb (red green blue : UInt8) : Color :=
  ⟨red, green, blue, 0⟩

def black : Color := rgb 0 0 0

def white : Color := rgb 255 255 255

/-- The colour of a packed reference. -/
def ofReference (reference : UInt32) : Color :=
  ⟨Word.low (Long.low reference), Word.high (Long.low reference),
    Word.low (Long.high reference), Word.high (Long.high reference)⟩

/-- The packed reference of a colour. -/
def toReference (color : Color) : UInt32 :=
  Long.ofWords (Word.ofBytes color.red color.green) (Word.ofBytes color.blue color.flags)

@[simp] theorem toReference_ofReference (reference : UInt32) :
    (ofReference reference).toReference = reference := by
  simp [ofReference, toReference]

@[simp] theorem ofReference_toReference (color : Color) :
    ofReference color.toReference = color := by
  simp [ofReference, toReference]

/-- The palette index that a colour stands for. -/
def paletteIndex? (color : Color) : Option UInt16 :=
  if color.flags = 1 then some (Word.ofBytes color.red color.green) else none

/-- The same red, green and blue with all flags cleared. -/
def withoutFlags (color : Color) : Color :=
  { color with flags := 0 }

@[simp] theorem flags_withoutFlags (color : Color) : color.withoutFlags.flags = 0 := rfl

end Color

end WindowsMetafile
