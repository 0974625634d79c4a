import WindowsMetafile.Bitmap.Pixmap

/-!
# Channels inside a pixel value

Pixels of 16 and 32 bits keep each channel in a run of neighbouring bits, given by a mask.

## Main definitions

* `Channel` — a run of bits
* `Channel.ofMask?` — the run that a mask gives
* `Channel.read` — the channel as a byte
-/

namespace WindowsMetafile

/-- A run of at most eight bits inside a pixel value. -/
structure Channel where
  /-- The place of the lowest bit. -/
  shift : Nat
  /-- The number of bits; none for a channel that is not there. -/
  length : Nat
  deriving DecidableEq, Repr

namespace Channel

/-- The number of zero bits below the lowest one bit, of at most `fuel` bits. -/
def zerosBelow : Nat → Nat → Nat
  | 0, _ => 0
  | fuel + 1, mask => if mask % 2 = 1 then 0 else zerosBelow fuel (mask / 2) + 1

/-- The run of bits that a mask gives, if the bits of the mask are neighbours inside a depth. Of a
longer run only the top eight bits count. -/
def ofMask? (mask depth : Nat) : Option Channel :=
  if mask = 0 then some ⟨0, 0⟩
  else
    let shift := zerosBelow 32 mask
    let length := (mask >>> shift).log2 + 1
    if mask = ((1 <<< length) - 1) <<< shift ∧ shift + length ≤ depth then
      some ⟨shift + (length - 8), min length 8⟩
    else none

/-- The channel of a pixel value, brought from its range to that of a byte. -/
def read (channel : Channel) (value : Nat) : UInt8 :=
  let greatest := (1 <<< channel.length) - 1
  let field := (value >>> channel.shift) % (1 <<< channel.length)
  UInt8.ofNat ((2 * 255 * field + greatest) / (2 * greatest))

end Channel

/-- The channels of a pixel value. -/
structure Channels where
  red : Channel
  green : Channel
  blue : Channel
  alpha : Channel
  deriving DecidableEq, Repr

namespace Channels

/-- The channels that four masks give. All colours have to be there; opacity may be missing. -/
def ofMasks? (depth red green blue alpha : Nat) : Option Channels := do
  if red = 0 ∨ green = 0 ∨ blue = 0 then none
  else
    return ⟨← Channel.ofMask? red depth, ← Channel.ofMask? green depth,
      ← Channel.ofMask? blue depth, ← Channel.ofMask? alpha depth⟩

/-- Five bits for each colour, blue in the lowest. -/
def fiveBits : Channels :=
  ⟨⟨10, 5⟩, ⟨5, 5⟩, ⟨0, 5⟩, ⟨0, 0⟩⟩

/-- Whether opacity is kept in the pixels. -/
def hasAlpha (channels : Channels) : Bool :=
  channels.alpha.length ≠ 0

/-- The pixel of a value. Without a channel for it, opacity is full. -/
def read (channels : Channels) (value : Nat) : Pixel :=
  ⟨channels.red.read value, channels.green.read value, channels.blue.read value,
    if channels.hasAlpha then channels.alpha.read value else 255⟩

end Channels

end WindowsMetafile
