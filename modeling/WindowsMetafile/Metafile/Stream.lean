import WindowsMetafile.Record.Basic
import WindowsMetafile.Record.Type

/-!
# Streams of records

The body of a metafile is a run of records. It is read up to the record that ends the metafile, up
to the end of the data, or up to the first place where no record can be read.

## Main definitions

* `StreamItem` — a record or a fault, with the place behind it
* `readStream` — all items of a body
-/

namespace WindowsMetafile

/-- Whether a record ends the metafile. -/
def Record.endsStream (record : Record) : Bool :=
  record.opcode == RecordType.eof.opcode

/-- What is found at one place of a body. -/
structure StreamItem where
  /-- The record, or why there is none. -/
  outcome : Except Fault Record
  /-- The number of bytes behind the item. A fault takes no bytes. -/
  position : Nat

def readFrom : Nat → Nat → Bytes → List StreamItem
  | 0, _, _ => []
  | _ + 1, _, [] => []
  | fuel + 1, position, bytes =>
    match Record.split bytes with
    | .error fault => [⟨.error fault, position⟩]
    | .ok (record, rest) =>
      let next := position + 2 * record.size
      ⟨.ok record, next⟩ :: if record.endsStream then [] else readFrom fuel next rest

/-- The items of a body. Each record takes at least six bytes, which bounds their number. -/
def readStream (body : Bytes) : List StreamItem :=
  readFrom (body.length / 6 + 1) 0 body

/-- The records of a body, or the first fault in it. -/
def readRecords (body : Bytes) : Except Fault (List Record) :=
  (readStream body).mapM StreamItem.outcome

end WindowsMetafile
