import WindowsMetafile.Record.Basic
import WindowsMetafile.Text.Latin1

/-!
# Parameters by position

Reading and writing the words, 32-bit values, bytes and texts of a record at any position. Positions
are 64-bit numbers; nothing is read or written past the end of a record, and its length never
changes. The end of a run of bytes is computed in 64 bits when it is written, and wraps around.

## Main definitions

* `Record.require` — the record has at least so many words
* `Record.word`, `int16`, `long`, `bytes`, `text` — reading
* `Record.setWord`, `setInt16`, `setLong`, `setBytes`, `setText` — writing; a refused write gives
  the fault together with the record as the write left it
-/

namespace WindowsMetafile.Record

/-- Requires a number of words, for the purpose named in the fault. -/
def require (record : Record) (needed : Nat) (what : String) : Except Fault Unit :=
  if record.params.length < needed then
    .error (record.malformed (.tooFewWords what needed record.params.length))
  else .ok ()

/-- The word at a position. -/
def word (record : Record) (index : Nat) : Except Fault UInt16 :=
  match record.params[index]? with
  | some value => .ok value
  | none => .error (record.malformed (.wordOutOfRange index record.params.length))

/-- The signed word at a position. -/
def int16 (record : Record) (index : Nat) : Except Fault Int16 :=
  (record.word index).map UInt16.toInt16

/-- The 32-bit value whose low word is at a position. -/
def long (record : Record) (index : Nat) : Except Fault UInt32 := do
  let low ← record.word index
  let high ← record.word (index + 1)
  return Long.ofWords low high

/-- A number of bytes from a position on. -/
def bytes (record : Record) (offset count : Nat) : Except Fault Bytes :=
  if record.params.length < offset + wordsFor count then
    .error (record.malformed (.bytesOutOfRange count offset record.params.length))
  else
    .ok ((unpackWords ((record.params.drop offset).take (wordsFor count))).take count)

/-- The text in a number of bytes from a position on, up to its first zero byte. -/
def text (record : Record) (offset count : Nat) : Except Fault String :=
  (record.bytes offset count).map Latin1.decode

/-! ### Writing -/

/-- The outcome of a write: the record afterwards, and the fault of a refused write. -/
structure Written where
  record : Record
  fault : Option Fault
  deriving DecidableEq, Repr

/-- Writes the word at a position. -/
def setWord (record : Record) (index : Nat) (value : UInt16) : Written :=
  if index < record.params.length then
    ⟨{ record with params := record.params.set index value }, none⟩
  else
    ⟨record, some (record.malformed (.writeOutOfRange index record.params.length))⟩

/-- Writes the signed word at a position. -/
def setInt16 (record : Record) (index : Nat) (value : Int16) : Written :=
  record.setWord index value.toUInt16

/-- Writes a 32-bit value, low word first. When only the low word fits, it stays written. -/
def setLong (record : Record) (index : Nat) (value : UInt32) : Written :=
  let first := record.setWord index (Long.low value)
  match first.fault with
  | some _ => first
  | none => first.record.setWord (index + 1) (Long.high value)

/-- The number of 64-bit positions. -/
def positions : Nat := 18446744073709551616

/-- Writes a run of bytes from a position on; an odd run is followed by a zero byte. The run is
refused when its end, as it is computed, lies behind the record. Otherwise the end has to be the
real one, or else there is no place for the first word. -/
def setBytes (record : Record) (offset : Nat) (bytes : Bytes) : Written :=
  let count := record.params.length
  let needed := wordsFor bytes.length
  if count < (offset + needed) % positions then
    ⟨record, some (record.malformed (.bytesDoNotFit bytes.length offset count))⟩
  else if positions ≤ offset + needed then
    ⟨record, some (.positionOverflow offset needed)⟩
  else
    ⟨{ record with
        params := record.params.take offset ++ packWords bytes ++
          record.params.drop (offset + needed) }, none⟩

/-- Writes a text from a position on, one byte for each character. -/
def setText (record : Record) (offset : Nat) (text : String) : Written :=
  record.setBytes offset (Latin1.encode text)

end WindowsMetafile.Record
