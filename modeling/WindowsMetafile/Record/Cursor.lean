import WindowsMetafile.Record.Basic

/-!
# Parameters in sequence

A cursor moves over the parameter words of a record from the first to the last. A failed read leaves
it where it is.

## Main definitions

* `Cursor` — the words still to come, with what a fault has to name
* `Reader` — a computation that moves a cursor and can fail
* `Reader.word`, `int16`, `long`, `bytes`, `restBytes`, `skip` — the single reads
* `Reader.times` — the same read a number of times
-/

namespace WindowsMetafile

/-- A place in the parameters of a record. -/
structure Cursor where
  /-- The function code of the record. -/
  opcode : UInt16
  /-- The number of all parameter words. -/
  count : Nat
  /-- The words still to come. -/
  rest : List UInt16
  deriving DecidableEq, Repr

/-- The cursor before the first parameter of a record. -/
def Record.cursor (record : Record) : Cursor :=
  ⟨record.opcode, record.params.length, record.params⟩

namespace Cursor

/-- The number of words behind the cursor. -/
def position (cursor : Cursor) : Nat :=
  cursor.count - cursor.rest.length

/-- The number of words still to come. -/
def remaining (cursor : Cursor) : Nat :=
  cursor.rest.length

/-- A fault of the record that the cursor is in. -/
def malformed (cursor : Cursor) (defect : Defect) : Fault :=
  .malformed cursor.opcode defect

end Cursor

/-- A computation that moves a cursor and can fail. -/
abbrev Reader := StateT Cursor (Except Fault)

namespace Reader

/-- The next word. -/
def word : Reader UInt16 := fun cursor =>
  match cursor.rest with
  | value :: rest => .ok (value, { cursor with rest })
  | [] => .error (cursor.malformed (.wordOutOfRange cursor.position cursor.count))

/-- The next word as a signed number. -/
def int16 : Reader Int16 := fun cursor =>
  match cursor.rest with
  | value :: rest => .ok (value.toInt16, { cursor with rest })
  | [] => .error (cursor.malformed (.wordOutOfRange cursor.position cursor.count))

/-- The next two words as a 32-bit value; when there is only one, the second is missed. -/
def long : Reader UInt32 := fun cursor =>
  match cursor.rest with
  | low :: high :: rest => .ok (Long.ofWords low high, { cursor with rest })
  | [_] => .error (cursor.malformed (.wordOutOfRange (cursor.position + 1) cursor.count))
  | [] => .error (cursor.malformed (.wordOutOfRange cursor.position cursor.count))

/-- A number of bytes; an odd run takes the whole of its last word. -/
def bytes (count : Nat) : Reader Bytes := fun cursor =>
  if cursor.rest.length < wordsFor count then
    .error (cursor.malformed (.bytesOutOfRange count cursor.position cursor.count))
  else
    .ok ((unpackWords (cursor.rest.take (wordsFor count))).take count,
      { cursor with rest := cursor.rest.drop (wordsFor count) })

/-- All bytes still to come. -/
def restBytes : Reader Bytes := fun cursor =>
  .ok (unpackWords cursor.rest, { cursor with rest := [] })

/-- All words still to come. -/
def restWords : Reader (List UInt16) := fun cursor =>
  .ok (cursor.rest, { cursor with rest := [] })

/-- Passes over a number of words. -/
def skip (words : Nat) : Reader Unit := fun cursor =>
  if cursor.remaining < words then
    .error (cursor.malformed (.skipTooFar words cursor.remaining))
  else
    .ok ((), { cursor with rest := cursor.rest.drop words })

/-- The number of words still to come. -/
def remaining : Reader Nat := fun cursor =>
  .ok (cursor.remaining, cursor)

/-- The number of words of the record as a whole. -/
def count : Reader Nat := fun cursor =>
  .ok (cursor.count, cursor)

/-- Requires that the record as a whole has a number of words, for the purpose named in the
fault. -/
def require (needed : Nat) (what : String) : Reader Unit := fun cursor =>
  if cursor.count < needed then
    .error (cursor.malformed (.tooFewWords what needed cursor.count))
  else
    .ok ((), cursor)

/-- Refuses the record. -/
def refuse {α : Type} (defect : Defect) : Reader α := fun cursor =>
  .error (cursor.malformed defect)

def timesOnto {α : Type} (read : Reader α) : Nat → List α → Cursor →
    Except Fault (List α × Cursor)
  | 0, done, cursor => .ok (done.reverse, cursor)
  | more + 1, done, cursor =>
    match read cursor with
    | .ok (value, next) => timesOnto read more (value :: done) next
    | .error fault => .error fault

/-- The results of the same read, made a number of times. -/
def times {α : Type} (count : Nat) (read : Reader α) : Reader (List α) := fun cursor =>
  timesOnto read count [] cursor

/-- Runs a reader over the parameters of a record; what it leaves over is ignored. -/
def run {α : Type} (read : Reader α) (record : Record) : Except Fault α :=
  match read record.cursor with
  | .ok (value, _) => .ok value
  | .error fault => .error fault

end Reader

end WindowsMetafile
