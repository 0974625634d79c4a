import WindowsMetafile.Bytes
import WindowsMetafile.Fault

/-!
# Records

A record is a function code with a run of 16-bit parameter words. On file it starts with its size
in words (two words) and its function code (one word).

## Main definitions

* `Record.toBytes` — the record on file
* `Record.split` — the record at the start of a run of bytes, and the bytes after it
-/

namespace WindowsMetafile

/-- A function code with its parameter words. -/
structure Record where
  opcode : UInt16
  params : List UInt16
  deriving DecidableEq, Repr

namespace Record

/-- The words that size and function code take on file. -/
def headerWords : Nat := 3

/-- A record of zeros. -/
def blank (opcode : UInt16) (count : Nat) : Record :=
  ⟨opcode, List.replicate count 0⟩

/-- The number of words that a record takes on file. -/
def size (record : Record) : Nat :=
  record.params.length + headerWords

/-- A fault of this record. -/
def malformed (record : Record) (defect : Defect) : Fault :=
  .malformed record.opcode defect

/-- The record on file. -/
def toBytes (record : Record) : Bytes :=
  Long.toBytes (UInt32.ofNat record.size) ++ Word.toBytes record.opcode ++
    unpackWords record.params

/-- The record at the start of a run of bytes, and the bytes after it. -/
def split (bytes : Bytes) : Except Fault (Record × Bytes) :=
  match bytes with
  | s₀ :: s₁ :: s₂ :: s₃ :: o₀ :: o₁ :: body =>
    let words := (Long.ofWords (Word.ofBytes s₀ s₁) (Word.ofBytes s₂ s₃)).toNat
    let opcode := Word.ofBytes o₀ o₁
    if words < headerWords then
      .error (.malformed opcode (.sizeBelowHeader words))
    else
      let paramBytes := 2 * (words - headerWords)
      let params := body.take paramBytes
      if params.length < paramBytes then
        .error (.malformed opcode (.sizeBeyondData (2 * words) bytes.length))
      else
        .ok (⟨opcode, packWords params⟩, body.drop paramBytes)
  | _ => .error (.malformed 0 .truncatedHeader)

/-- The record at the start of a run of bytes; what follows it is ignored. -/
def ofBytes (bytes : Bytes) : Except Fault Record :=
  (split bytes).map Prod.fst

@[simp] theorem length_toBytes (record : Record) : record.toBytes.length = 2 * record.size := by
  simp [toBytes, size, headerWords]
  omega

end Record

end WindowsMetafile
