import WindowsMetafile.Bytes

/-!
# PNG files

A picture of straight pixels with four channels, stored without compression.

## Main definitions

* `Png.checksum`, `Png.adler` — the two checksums
* `Png.file` — the file of a picture
-/

namespace WindowsMetafile.Png

/-- The four bytes of a number, highest byte first. -/
def bigEndian (number : UInt32) : Bytes :=
  (Long.toBytes number).reverse

/-- Divides by the polynomial of the cyclic checksum, bit by bit. -/
def divide : Nat → UInt32 → UInt32
  | 0, remainder => remainder
  | bits + 1, remainder =>
    let shifted := remainder >>> 1
    divide bits (if remainder &&& 1 = 1 then shifted ^^^ 0xEDB88320 else shifted)

/-- The cyclic checksum of a run of bytes. -/
def checksum (bytes : Bytes) : UInt32 :=
  (bytes.foldl (fun sum byte => divide 8 (sum ^^^ byte.toUInt32)) 0xFFFFFFFF) ^^^ 0xFFFFFFFF

/-- The checksum of two sums at the end of compressed data. -/
def adler (bytes : Bytes) : UInt32 :=
  let (low, high) := bytes.foldl
    (fun ((low, high) : Nat × Nat) byte =>
      let low := (low + byte.toNat) % 65521
      (low, (high + low) % 65521)) (1, 0)
  UInt32.ofNat (high * 65536 + low)

/-- A chunk of a file: its length, its name, its data, and their checksum. -/
def chunk (name data : Bytes) : Bytes :=
  bigEndian (UInt32.ofNat data.length) ++ name ++ data ++ bigEndian (checksum (name ++ data))

/-- The greatest length of a stored block. -/
def blockLength : Nat := 65535

/-- Stored blocks, each with its length and the complement of its length. -/
def storedBlocks : List Bytes → Bytes
  | [] => []
  | block :: blocks =>
    let length := UInt16.ofNat block.length
    (if blocks.isEmpty then 1 else 0) ::
      (Word.toBytes length ++ Word.toBytes (length ^^^ 0xFFFF) ++ block ++ storedBlocks blocks)

/-- Data in the form of compressed data, but stored as it is. -/
def stored (data : Bytes) : Bytes :=
  let blocks := chunks blockLength (data.length / blockLength + 1) data
  [0x78, 0x01] ++ storedBlocks blocks ++ bigEndian (adler data)

/-- The eight bytes that each file starts with. -/
def signature : Bytes :=
  [0x89, 0x50, 0x4E, 0x47, 0x0D, 0x0A, 0x1A, 0x0A]

/-- The header chunk: the size, eight bits to a channel, four channels. -/
def header (width height : Nat) : Bytes :=
  chunk [0x49, 0x48, 0x44, 0x52]
    (bigEndian (UInt32.ofNat width) ++ bigEndian (UInt32.ofNat height) ++ [8, 6, 0, 0, 0])

/-- The rows of a picture, each behind a zero byte that stands for no filter. -/
def filtered (width height : Nat) (pixels : Bytes) : Bytes :=
  (chunks (4 * width) height pixels).flatMap fun row => 0 :: row

/-- The file of a picture with the given straight pixels. -/
def file (width height : Nat) (pixels : Bytes) : Bytes :=
  signature ++ header width height ++
    chunk [0x49, 0x44, 0x41, 0x54] (stored (filtered width height pixels)) ++
    chunk [0x49, 0x45, 0x4E, 0x44] []

end WindowsMetafile.Png
