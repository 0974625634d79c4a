import WindowsMetafile.Record.Cursor

/-!
# Composing records

The parameters of a record are written as a list of typed fields. Reading with the same list of
types gives the values back.

## Main definitions

* `Field` — a value that takes one or more words
* `Record.compose` — the record with the given fields
* `Field.read` — reads the next words in the form of a field
-/

namespace WindowsMetafile

/-- A typed parameter. -/
inductive Field
  | word (value : UInt16)
  | int16 (value : Int16)
  | long (value : UInt32)
  | bytes (value : Bytes)
  deriving DecidableEq, Repr

/-- The words that a field takes. -/
def Field.words : Field → List UInt16
  | .word value => [value]
  | .int16 value => [value.toUInt16]
  | .long value => [Long.low value, Long.high value]
  | .bytes value => packWords value

/-- The record whose parameters are the given fields, one after the other. -/
def Record.compose (opcode : UInt16) (fields : List Field) : Record :=
  ⟨opcode, fields.flatMap Field.words⟩

/-- Reads the next words in the form of a given field; of a run of bytes only the length counts. -/
def Field.read : Field → Reader Field
  | .word _ => Field.word <$> Reader.word
  | .int16 _ => Field.int16 <$> Reader.int16
  | .long _ => Field.long <$> Reader.long
  | .bytes shape => Field.bytes <$> Reader.bytes shape.length

end WindowsMetafile
