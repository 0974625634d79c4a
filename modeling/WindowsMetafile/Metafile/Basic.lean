import WindowsMetafile.Command.Encode
import WindowsMetafile.Metafile.Header
import WindowsMetafile.Metafile.Stream

/-!
# Metafiles

## Main definitions

* `Metafile.ofBytes` — the metafile in a run of bytes
* `Metafile.looksLike` — a quick look at the first words
* `Metafile.write`, `Metafile.writeCommands` — a run of bytes for given records or commands
* `peakObjectCount` — the number of objects that records hold at one time
-/

namespace WindowsMetafile

/-- A metafile: its headers and its records. -/
structure Metafile where
  placeable : Option Placeable
  header : StandardHeader
  records : List Record
  deriving DecidableEq, Repr

/-- Whether data starts with the key of a placeable header. -/
def startsPlaceable (data : Bytes) : Bool :=
  data.take 4 == Long.toBytes Placeable.key

namespace Metafile

/-- The placeable header of data that starts with its key, and the data after it. -/
def splitPlaceable (data : Bytes) : Except Fault (Option Placeable × Bytes) :=
  if startsPlaceable data then
    let headerBytes := data.take Placeable.byteCount
    if headerBytes.length < Placeable.byteCount then
      .error (.header .placeableTruncated)
    else
      match Placeable.ofWords? (packWords headerBytes) with
      | none => .error (.header .placeableTruncated)
      | some placeable =>
        if placeable.checksum = placeable.computedChecksum then
          .ok (some placeable, data.drop Placeable.byteCount)
        else
          .error (.header (.checksumMismatch placeable.checksum placeable.computedChecksum))
  else
    .ok (none, data)

/-- The standard header at the start of data, and the body that its size points to. -/
def splitHeader (data : Bytes) : Except Fault (StandardHeader × Bytes) :=
  let headerBytes := data.take StandardHeader.byteCount
  if headerBytes.length < StandardHeader.byteCount then
    .error (.header .standardTruncated)
  else
    match StandardHeader.ofWords? (packWords headerBytes) with
    | none => .error (.header .standardTruncated)
    | some header =>
      let bodyStart := 2 * header.headerWords.toNat
      if header.fileType ≠ StandardHeader.memoryType ∧
          header.fileType ≠ StandardHeader.diskType then
        .error (.header (.unknownType header.fileType))
      else if bodyStart < StandardHeader.byteCount then
        .error (.header (.headerTooSmall header.headerWords))
      else if data.length < bodyStart then
        .error (.header .bodyBeyondData)
      else
        .ok (header, data.drop bodyStart)

/-- The metafile in a run of bytes. -/
def ofBytes (data : Bytes) : Except Fault Metafile := do
  let (placeable, rest) ← splitPlaceable data
  let (header, body) ← splitHeader rest
  let records ← readRecords body
  return { placeable, header, records }

/-- Whether data starts with a placeable key, or with a standard header of nine words. -/
def looksLike (data : Bytes) : Bool :=
  startsPlaceable data ||
    match StandardHeader.ofWords? (packWords (data.take StandardHeader.byteCount)) with
    | some header =>
      StandardHeader.byteCount ≤ data.length &&
        (header.fileType == StandardHeader.memoryType ||
          header.fileType == StandardHeader.diskType) &&
        header.headerWords.toNat == StandardHeader.wordCount
    | none => false

/-- The bounds that the placeable header gives. -/
def bounds? (metafile : Metafile) : Option Bounds :=
  metafile.placeable.map Placeable.bounds

end Metafile

/-- The size of the largest of some records, and that of a record without parameters if there are
none. -/
def largestSize (records : List Record) : Nat :=
  (records.map Record.size).max?.getD Record.headerWords

/-! ### Writing -/

/-- The number of objects alive after a record and the greatest number so far, judged by function
codes alone. -/
def countObjects (counts : Nat × Nat) (record : Record) : Nat × Nat :=
  match RecordType.ofOpcode? record.opcode with
  | some type =>
    if type.createsObject then (counts.1 + 1, max counts.2 (counts.1 + 1))
    else if type = .deleteObject then (counts.1 - 1, counts.2)
    else counts
  | none => counts

/-- The greatest number of objects that records hold at one time, judged by their function codes,
and cut to what a word can hold. -/
def peakObjectCount (records : List Record) : UInt16 :=
  UInt16.ofNat (min (records.foldl countObjects (0, 0)).2 65535)

/-- The records with a closing record added unless they end with one. -/
def closeStream (records : List Record) : List Record :=
  match records.getLast? with
  | some last => if last.endsStream then records else records ++ [.blank RecordType.eof.opcode 0]
  | none => [.blank RecordType.eof.opcode 0]

/-- The words of a metafile with the given records, its standard header included. -/
def fileSize (records : List Record) : Nat :=
  StandardHeader.wordCount + (records.map Record.size).foldr (· + ·) 0

/-- The standard header of a metafile on disk. It counts the given records with the one that closes
them; objects are counted before. -/
def StandardHeader.ofRecords (records : List Record) : StandardHeader :=
  let all := closeStream records
  { fileType := StandardHeader.diskType
    headerWords := UInt16.ofNat StandardHeader.wordCount
    version := StandardHeader.version3
    size := UInt32.ofNat (fileSize all)
    objectCount := peakObjectCount records
    maxRecordSize := UInt32.ofNat (largestSize all)
    memberCount := 0 }

namespace Metafile

/-- A metafile on file: an optional placeable header with its checksum renewed, a standard header
that counts what follows, and the records, closed. -/
def write (placeable : Option Placeable) (records : List Record) : Except Fault Bytes :=
  let all := closeStream records
  if 4294967296 ≤ fileSize all then
    .error (.header .tooLong)
  else
    let front : Bytes :=
      match placeable with
      | some placeable => placeable.withChecksum.toBytes
      | none => []
    .ok (front ++ (StandardHeader.ofRecords records).toBytes ++ all.flatMap Record.toBytes)

/-- A metafile on file with given commands. The first one without a written form is the fault. -/
def writeCommands (placeable : Option Placeable) (commands : List Command) :
    Except Fault Bytes := do
  let records ← commands.mapM Command.encode
  write placeable records

end Metafile

end WindowsMetafile
