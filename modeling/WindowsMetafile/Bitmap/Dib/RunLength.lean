import WindowsMetafile.Bytes

/-!
# Run-length coded pixels

Pixels that index a colour table can be stored as a list of steps: runs of one value or of two in
turn, values one by one, and moves that leave pixels out. A value takes eight bits or four.

## Main definitions

* `RunStep`, `RunStep.split` — the steps, and the first step of a run of bytes
* `runRows?` — the rows that the steps paint
-/

namespace WindowsMetafile

/-- The two widths of coded values. -/
inductive RunWidth
  | four
  | eight
  deriving DecidableEq, Repr

/-- A step of run-length coding. -/
inductive RunStep
  | endRow
  | endImage
  /-- Pixels to the right and rows further on, which are left out. -/
  | move (right rows : Nat)
  | values (indices : List Nat)
  /-- A run, which alternates between the two halves of a byte when values take four bits. -/
  | run (indices : List Nat)
  deriving DecidableEq, Repr

/-- The values in a byte, the high half first. -/
def RunWidth.indices (width : RunWidth) (byte : UInt8) : List Nat :=
  match width with
  | .four => [byte.toNat / 16, byte.toNat % 16]
  | .eight => [byte.toNat]

/-- The bytes that a number of values take, filled up to an even number. -/
def RunWidth.paddedBytes (width : RunWidth) (count : Nat) : Nat :=
  match width with
  | .four => 2 * wordsFor ((count + 1) / 2)
  | .eight => 2 * wordsFor count

/-- The first `count` values of a byte repeated. -/
def RunWidth.repeated (width : RunWidth) (count : Nat) (byte : UInt8) : List Nat :=
  ((List.replicate count byte).flatMap width.indices).take count

/-- The first step of a run of bytes, and the bytes after it. -/
def RunStep.split (width : RunWidth) : Bytes → Option (RunStep × Bytes)
  | 0 :: 0 :: rest => some (.endRow, rest)
  | 0 :: 1 :: rest => some (.endImage, rest)
  | 0 :: 2 :: right :: rows :: rest => some (.move right.toNat rows.toNat, rest)
  | 0 :: 2 :: _ => none
  | 0 :: count :: rest =>
    let taken := width.paddedBytes count.toNat
    let bytes := rest.take taken
    if bytes.length < taken then none
    else some (.values ((bytes.flatMap width.indices).take count.toNat), rest.drop taken)
  | count :: byte :: rest => some (.run (width.repeated count.toNat byte), rest)
  | _ => none

/-- Rows while they are painted. -/
structure RunCanvas where
  /-- The finished rows, last one first. -/
  finished : List (List (Option Nat))
  /-- The pixels of the current row, last one first; those left out have no value. -/
  row : List (Option Nat)
  /-- The column that steps count from. A run that is cut at the end of a row counts in full. -/
  column : Nat
  deriving DecidableEq, Repr

namespace RunCanvas

/-- Leaves out pixels of the current row. -/
def leaveOut (canvas : RunCanvas) (count : Nat) : RunCanvas :=
  { canvas with row := List.replicate count none ++ canvas.row, column := canvas.column + count }

/-- Paints pixels of the current row. -/
def paint (canvas : RunCanvas) (indices : List Nat) : RunCanvas :=
  { canvas with
    row := indices.foldl (fun row index => some index :: row) canvas.row
    column := canvas.column + indices.length }

/-- Fills up the current row and begins the next one. -/
def endRow (width : Nat) (canvas : RunCanvas) : RunCanvas :=
  let rest := List.replicate (width - canvas.row.length) none
  ⟨(rest ++ canvas.row).reverse :: canvas.finished, [], 0⟩

/-- Fills up all rows that are not finished. -/
def endImage (width height : Nat) (canvas : RunCanvas) : List (List (Option Nat)) :=
  let closed := canvas.endRow width
  let blank := List.replicate width none
  (List.replicate (height - closed.finished.length) blank ++ closed.finished).reverse

/-- Moves to another row, at the column of the current one. -/
def skipRows (width rows : Nat) (canvas : RunCanvas) : RunCanvas :=
  let closed := canvas.endRow width
  let blank := List.replicate width none
  let finished := List.replicate (rows - 1) blank ++ closed.finished
  { finished, row := List.replicate canvas.column none, column := canvas.column }

/-- What a step does to the rows, if it stays inside the image. A run of eight-bit values is cut at
the end of its row. -/
def step? (codes : RunWidth) (width height : Nat) (canvas : RunCanvas) :
    RunStep → Option RunCanvas
  | .endRow | .endImage => some (canvas.endRow width)
  | .move right rows =>
    if rows = 0 then
      if canvas.row.length + right ≤ width then some (canvas.leaveOut right) else none
    else if canvas.finished.length + rows < height ∧ canvas.column + right ≤ width then
      some ((canvas.skipRows width rows).leaveOut right)
    else none
  | .values indices =>
    if canvas.row.length + indices.length ≤ width then some (canvas.paint indices) else none
  | .run indices =>
    if canvas.row.length + indices.length ≤ width then some (canvas.paint indices)
    else
      match codes with
      | .four => none
      | .eight =>
        let cut := canvas.paint (indices.take (width - canvas.row.length))
        some { cut with column := canvas.column + indices.length }

end RunCanvas

def runRowsFrom (codes : RunWidth) (width height : Nat) :
    Nat → RunCanvas → Bytes → Option (List (List (Option Nat)))
  | 0, _, _ => none
  | fuel + 1, canvas, bytes =>
    if height ≤ canvas.finished.length then some canvas.finished.reverse
    else
      match RunStep.split codes bytes with
      | none => none
      | some (.endImage, _) => some (canvas.endImage width height)
      | some (step, rest) =>
        match canvas.step? codes width height step with
        | none => none
        | some next => runRowsFrom codes width height fuel next rest

/-- The rows that run-length coded bytes paint; pixels that are left out have no value. Each step
takes at least two bytes. A row only ends by a step of its own, and all rows have to end. -/
def runRows? (codes : RunWidth) (width height : Nat) (bytes : Bytes) :
    Option (List (List (Option Nat))) :=
  runRowsFrom codes width height (bytes.length / 2 + 1) ⟨[], [], 0⟩ bytes

end WindowsMetafile
