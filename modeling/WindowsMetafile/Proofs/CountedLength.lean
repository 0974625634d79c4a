import Mathlib.Algebra.BigOperators.Ring.List
import Mathlib.Algebra.Ring.Nat
import WindowsMetafile.Proofs.Reencoding

/-!
# Records that are as long as their counts tell

The records of lists, of escapes and of texts hold counts of what follows, and these counts tell how
many words the record has to have. Part of the words are required before anything is read, part of
them are missed only by the read that comes too late. Together this comes to one thing: a record is
refused just when it is shorter than its counts tell, as malformed, and the words behind that length
have no part in what is read. Text with options alone looks at them, for its rectangle and advances.

## Main definitions

* `RecordType.CountedBy` — the number of words that the counts of a record ask for
* `Reader.Takes` — a reader takes a fixed number of words
* `Reader.Measured` — a reader takes as many words as those in front of it tell
* `Reader.AcceptsBy` — a reader accepts the records that are long enough

## Main results

* `Reader.Takes.bind`, `Reader.Takes.times`, `Reader.Takes.mapM` — fixed numbers of words add up
* `Reader.Measured.require`, `Reader.Measured.word`, `Reader.Measured.words` — a requirement changes
  nothing when the reads behind it need the words anyway; a count is one more word
* `Reader.acceptsBy_extendedText` — the rectangle on a filled background is never missed
* `Record.decode_countedBy` — the records with counts that are accepted, and what is read from them
-/

namespace WindowsMetafile

namespace RecordType

/-! ### Lengths that follow from counts -/

/-- The words of a record of points; there are none without a count. -/
def pointsLength : List UInt16 → Option Nat
  | count :: _ => some (1 + 2 * count.toNat)
  | [] => none

/-- The words of a record of polygons. The counts of the single polygons have to be there. -/
def ringsLength : List UInt16 → Option Nat
  | count :: rest =>
    if count.toNat ≤ rest.length then
      some (1 + count.toNat + 2 * ((rest.take count.toNat).map UInt16.toNat).sum)
    else none
  | [] => none

/-- The words of a record of palette entries. -/
def entriesLength : List UInt16 → Option Nat
  | _ :: count :: _ => some (2 + 2 * count.toNat)
  | _ => none

/-- The words of an escape, two bytes to a word. -/
def escapeLength : List UInt16 → Option Nat
  | _ :: bytes :: _ => some (2 + (bytes.toNat + 1) / 2)
  | _ => none

/-- The words of a line of text, two characters to a word, with its position. -/
def textLength : List UInt16 → Option Nat
  | length :: _ => some (3 + (length.toNat + 1) / 2)
  | [] => none

/-- The words of a text with options, which has a rectangle when it is clipped. -/
def extendedTextLength : List UInt16 → Option Nat
  | _ :: _ :: length :: options :: _ =>
    some (4 + (length.toNat + 1) / 2 + if ExtendedText.clips options then 4 else 0)
  | _ => none

/-- The number of words that the counts in a record of some type ask for, unless the record is too
short to hold these counts. -/
inductive CountedBy : RecordType → (List UInt16 → Option Nat) → Prop
  | polygon : CountedBy .polygon pointsLength
  | polyline : CountedBy .polyline pointsLength
  | polyPolygon : CountedBy .polyPolygon ringsLength
  | createPalette : CountedBy .createPalette entriesLength
  | setPalEntries : CountedBy .setPalEntries entriesLength
  | animatePalette : CountedBy .animatePalette entriesLength
  | escape : CountedBy .escape escapeLength
  | textOut : CountedBy .textOut textLength
  | extTextOut : CountedBy .extTextOut extendedTextLength

end RecordType

namespace Reader

variable {α β κ : Type} {read : Reader α} {next : α → Reader β} {cursor : Cursor} {fault : Fault}
variable {m n before : Nat} {needed : List UInt16 → Option Nat}

theorem bind_of_error (h : read cursor = .error fault) : (read >>= next) cursor = .error fault := by
  change (read cursor).bind (fun p => next p.1 p.2) = _
  rw [h]
  rfl

theorem require_of_lt {required : Nat} {what : String} (h : cursor.count < required) :
    require required what cursor =
      .error (cursor.malformed (.tooFewWords what required cursor.count)) :=
  if_pos h

/-! ### Fixed numbers of words -/

/-- The reader returns something when a number of words is left, and otherwise the record is
malformed. -/
structure Accepts (n : Nat) (read : Reader α) : Prop where
  accepts : ∀ cursor : Cursor, n ≤ cursor.rest.length → ∃ a last, read cursor = .ok (a, last)
  refuses : ∀ cursor : Cursor, cursor.rest.length < n →
    ∃ defect, read cursor = .error (.malformed cursor.opcode defect)

/-- The reader takes a fixed number of words, which alone decide what it returns. With fewer words
left, the record is malformed. -/
structure Takes (n : Nat) (read : Reader α) : Prop where
  reads : ∀ front : List UInt16, front.length = n → ∃ a, ∀ opcode count rest,
    read ⟨opcode, count, front ++ rest⟩ = .ok (a, ⟨opcode, count, rest⟩)
  refuses : ∀ cursor : Cursor, cursor.rest.length < n →
    ∃ defect, read cursor = .error (.malformed cursor.opcode defect)

/-- A cursor with words enough is moved behind them. -/
theorem Takes.ok_of_le (h : Takes n read) (cursor : Cursor) (hlong : n ≤ cursor.rest.length) :
    ∃ a, read cursor = .ok (a, { cursor with rest := cursor.rest.drop n }) := by
  obtain ⟨a, ha⟩ := h.reads (cursor.rest.take n) (List.length_take_of_le hlong)
  have hok := ha cursor.opcode cursor.count (cursor.rest.drop n)
  rw [List.take_append_drop] at hok
  exact ⟨a, hok⟩

theorem Takes.accepts (h : Takes n read) : Accepts n read where
  accepts cursor hlong := by
    obtain ⟨a, ha⟩ := h.ok_of_le cursor hlong
    exact ⟨a, _, ha⟩
  refuses := h.refuses

/-- The words of two readers in a row add up. -/
theorem Takes.bind_accepts (hread : Takes m read) (hnext : ∀ a, Accepts n (next a)) :
    Accepts (m + n) (read >>= next) where
  accepts cursor hlong := by
    obtain ⟨a, ha⟩ := hread.ok_of_le cursor (Nat.le_of_add_right_le hlong)
    have hrest : n ≤ (cursor.rest.drop m).length := by
      rw [List.length_drop]
      omega
    obtain ⟨b, last, hb⟩ := (hnext a).accepts { cursor with rest := cursor.rest.drop m } hrest
    exact ⟨b, last, (bind_of_ok ha).trans hb⟩
  refuses cursor hshort := by
    by_cases hfirst : m ≤ cursor.rest.length
    · -- There are words enough for the first reader, and so not for the second.
      obtain ⟨a, ha⟩ := hread.ok_of_le cursor hfirst
      have hrest : (cursor.rest.drop m).length < n := by
        rw [List.length_drop]
        omega
      obtain ⟨defect, hdefect⟩ :=
        (hnext a).refuses { cursor with rest := cursor.rest.drop m } hrest
      exact ⟨defect, (bind_of_ok ha).trans hdefect⟩
    · obtain ⟨defect, hdefect⟩ := hread.refuses cursor (Nat.not_le.mp hfirst)
      exact ⟨defect, bind_of_error hdefect⟩

theorem Accepts.map (h : Accepts n read) (f : α → β) :
    Accepts n (read >>= fun a => Pure.pure (f a)) where
  accepts cursor hlong := by
    obtain ⟨a, last, ha⟩ := h.accepts cursor hlong
    exact ⟨f a, last, bind_of_ok ha⟩
  refuses cursor hshort := by
    obtain ⟨defect, hdefect⟩ := h.refuses cursor hshort
    exact ⟨defect, bind_of_error hdefect⟩

theorem takes_word : Takes 1 word where
  reads front h := by
    obtain ⟨value, rfl⟩ := List.length_eq_one_iff.mp h
    exact ⟨value, fun opcode count rest => word_cons opcode count value rest⟩
  refuses := by
    rintro ⟨opcode, count, rest⟩ h
    obtain rfl : rest = [] := List.length_eq_zero_iff.mp (Nat.lt_one_iff.mp h)
    exact ⟨_, rfl⟩

theorem takes_long : Takes 2 long where
  reads front h := by
    obtain ⟨low, high, rfl⟩ := List.length_eq_two.mp h
    exact ⟨Long.ofWords low high, fun opcode count rest => rfl⟩
  refuses := by
    rintro ⟨opcode, count, rest⟩ h
    -- One word is missed at the second place, no word at the first.
    match rest with
    | [] => exact ⟨_, rfl⟩
    | [_] => exact ⟨_, rfl⟩
    | _ :: _ :: rest => exact absurd h (Nat.not_lt.mpr (Nat.le_add_left 2 rest.length))

theorem takes_bytes (n : Nat) : Takes (wordsFor n) (bytes n) where
  reads front h := by
    refine ⟨(unpackWords front).take n, fun opcode count rest => ?_⟩
    have hlong : ¬ (front ++ rest).length < wordsFor n := by
      rw [List.length_append, h]
      omega
    unfold bytes
    rw [if_neg hlong, ← h]
    simp
  refuses cursor h := ⟨_, if_pos h⟩

theorem Takes.pure (a : α) : Takes 0 (Pure.pure a : Reader α) where
  reads front h := by
    obtain rfl := List.length_eq_zero_iff.mp h
    exact ⟨a, fun _ _ _ => rfl⟩
  refuses _ h := absurd h (Nat.not_lt_zero _)

theorem Takes.bind (hread : Takes m read) (hnext : ∀ a, Takes n (next a)) :
    Takes (m + n) (read >>= next) where
  reads front h := by
    have hfirst : (front.take m).length = m := by
      rw [List.length_take]
      omega
    have hsecond : (front.drop m).length = n := by
      rw [List.length_drop]
      omega
    obtain ⟨a, ha⟩ := hread.reads (front.take m) hfirst
    obtain ⟨b, hb⟩ := (hnext a).reads (front.drop m) hsecond
    refine ⟨b, fun opcode count rest => ?_⟩
    rw [← List.take_append_drop m front, List.append_assoc, bind_of_ok (ha ..), hb]
  refuses := (hread.bind_accepts fun a => (hnext a).accepts).refuses

theorem int16_eq_bind : int16 = word >>= fun value => Pure.pure value.toInt16 := by
  funext cursor
  obtain ⟨opcode, count, rest⟩ := cursor
  cases rest <;> rfl

theorem takes_int16 : Takes 1 int16 := by
  rw [int16_eq_bind]
  exact takes_word.bind fun _ => .pure _

/-- One reader for each key, in sequence, takes the words of all. -/
theorem Takes.mapM {f : κ → Reader α} {size : κ → Nat} (h : ∀ key, Takes (size key) (f key))
    (keys : List κ) : Takes (keys.map size).sum (keys.mapM f) := by
  -- Along the keys: the words of the first reader, then those of the others.
  induction keys with
  | nil => exact .pure []
  | cons key keys ih =>
    rw [List.mapM_cons, List.map_cons, List.sum_cons]
    exact (h key).bind fun a => ih.bind fun as => .pure (a :: as)

theorem Takes.times (h : Takes m read) (n : Nat) : Takes (m * n) (times n read) := by
  have hwords : ((List.replicate n ()).map fun _ => m).sum = m * n := by
    rw [List.map_replicate, List.sum_replicate_nat, Nat.mul_comm]
  rw [times_eq_mapM, ← hwords]
  exact .mapM (fun _ => h) _

theorem takes_color : Takes 2 color :=
  takes_long.bind fun _ => .pure _

theorem takes_pointXY : Takes 2 pointXY :=
  takes_int16.bind fun _ => takes_int16.bind fun _ => .pure _

theorem takes_pointYX : Takes 2 pointYX :=
  takes_int16.bind fun _ => takes_int16.bind fun _ => .pure _

theorem takes_boundsDownward : Takes 4 boundsDownward :=
  takes_int16.bind fun _ => takes_int16.bind fun _ => takes_int16.bind fun _ =>
    takes_int16.bind fun _ => .pure _

theorem takes_points (n : Nat) : Takes (2 * n) (points n) :=
  takes_pointXY.times n

theorem takes_rings (counts : List Nat) : Takes (2 * counts.sum) (counts.mapM points) := by
  have hwords := List.sum_map_mul_left counts id 2
  rw [List.map_id] at hwords
  rw [← hwords]
  exact .mapM takes_points counts

/-! ### Numbers of words that are told by counts -/

/-- Behind some words of its record, the reader takes as many words as these tell, and they alone
decide what it returns. With fewer words, or without the counts among them, the record is
malformed. -/
structure Measured (before : Nat) (needed : List UInt16 → Option Nat) (read : Reader α) : Prop where
  reads : ∀ {params : List UInt16} {n : Nat}, needed params = some n → n ≤ params.length →
    ∃ a, ∀ opcode count tail, count = before + n + tail.length →
      ∃ last, read ⟨opcode, count, params.take n ++ tail⟩ = .ok (a, last)
  refuses : ∀ opcode count params, count = before + params.length →
    (∀ n ∈ needed params, params.length < n) →
      ∃ defect, read ⟨opcode, count, params⟩ = .error (.malformed opcode defect)

/-- A word, and then as many words as this one and those behind it tell. -/
def afterWord (needed : UInt16 → List UInt16 → Option Nat) : List UInt16 → Option Nat
  | value :: rest => (needed value rest).map (1 + ·)
  | [] => none

/-- A number of words, and then as many words as these and those behind them tell. -/
def afterWords (k : Nat) (needed : List UInt16 → List UInt16 → Option Nat)
    (params : List UInt16) : Option Nat :=
  if k ≤ params.length then (needed (params.take k) (params.drop k)).map (k + ·) else none

/-- Whatever the counts are, they tell a number of words that is not lower. -/
def AtLeast (k : Nat) (needed : List UInt16 → Option Nat) : Prop :=
  ∀ params, ∀ n ∈ needed params, k ≤ n

theorem atLeast_zero (needed : List UInt16 → Option Nat) : AtLeast 0 needed :=
  fun _ _ _ => Nat.zero_le _

theorem atLeast_some (n : Nat) : AtLeast n fun _ => some n := by
  rintro params _ ⟨⟩
  exact Nat.le_refl n

theorem AtLeast.afterWord {k : Nat} {needed : UInt16 → List UInt16 → Option Nat}
    (h : ∀ value, AtLeast k (needed value)) : AtLeast (1 + k) (afterWord needed) := by
  intro params n hn
  cases params with
  | nil => cases hn
  | cons value rest =>
    obtain ⟨m, hm, rfl⟩ := Option.map_eq_some_iff.mp hn
    exact Nat.add_le_add_left (h value rest m hm) 1

theorem AtLeast.afterWords {k l : Nat} {needed : List UInt16 → List UInt16 → Option Nat}
    (h : ∀ front, AtLeast l (needed front)) : AtLeast (k + l) (afterWords k needed) := by
  intro params n hn
  unfold Reader.afterWords at hn
  split at hn
  · obtain ⟨m, hm, rfl⟩ := Option.map_eq_some_iff.mp hn
    exact Nat.add_le_add_left (h _ _ m hm) k
  · cases hn

theorem Measured.of_eq {needed' : List UInt16 → Option Nat} (h : Measured before needed read)
    (hneeded : ∀ params, needed' params = needed params) : Measured before needed' read :=
  (funext hneeded : needed' = needed) ▸ h

theorem Measured.of_takes (h : Takes n read) : Measured before (fun _ => some n) read where
  reads := by
    rintro params _ ⟨⟩ hlong
    obtain ⟨a, ha⟩ := h.reads (params.take n) (List.length_take_of_le hlong)
    exact ⟨a, fun opcode count tail _ => ⟨_, ha opcode count tail⟩⟩
  refuses opcode count params _ hshort := h.refuses ⟨opcode, count, params⟩ (hshort n rfl)

theorem Measured.map (h : Measured before needed read) (f : α → β) :
    Measured before needed (read >>= fun a => Pure.pure (f a)) where
  reads hneeded hlong := by
    obtain ⟨a, ha⟩ := h.reads hneeded hlong
    refine ⟨f a, fun opcode count tail hcount => ?_⟩
    obtain ⟨last, hlast⟩ := ha opcode count tail hcount
    exact ⟨last, bind_of_ok hlast⟩
  refuses opcode count params hcount hshort := by
    obtain ⟨defect, hdefect⟩ := h.refuses opcode count params hcount hshort
    exact ⟨defect, bind_of_error hdefect⟩

/-- Words that are needed anyway may be required in front. -/
theorem Measured.require {read : Reader β} {required k : Nat} {what : String}
    (h : Measured before needed read) (hneeded : AtLeast k needed)
    (hrequired : required ≤ before + k) :
    Measured before needed (Reader.require required what >>= fun _ => read) where
  reads {params n} hn hlong := by
    obtain ⟨a, ha⟩ := h.reads hn hlong
    refine ⟨a, fun opcode count tail hcount => ?_⟩
    -- The needed words are there, and with those in front of them as many as are required.
    have hk := hneeded params n hn
    have hmet : required ≤ count := by omega
    obtain ⟨last, hlast⟩ := ha opcode count tail hcount
    exact ⟨last, (bind_of_ok (require_of_le hmet)).trans hlast⟩
  refuses opcode count params hcount hshort := by
    by_cases hmet : required ≤ count
    · -- What is required may be there without all that is needed: then the reads miss it.
      obtain ⟨defect, hdefect⟩ := h.refuses opcode count params hcount hshort
      exact ⟨defect, (bind_of_ok (require_of_le hmet)).trans hdefect⟩
    · exact ⟨_, bind_of_error (require_of_lt (Nat.not_le.mp hmet))⟩

theorem Measured.word {next : UInt16 → Reader β} {needed : UInt16 → List UInt16 → Option Nat}
    (h : ∀ value, Measured (before + 1) (needed value) (next value)) :
    Measured before (afterWord needed) (Reader.word >>= next) where
  reads := by
    intro params n hneeded hlong
    cases params with
    | nil => cases hneeded
    | cons value rest =>
      obtain ⟨m, hm, rfl⟩ := Option.map_eq_some_iff.mp hneeded
      rw [Nat.add_comm, List.length_cons, Nat.succ_le_succ_iff] at hlong
      obtain ⟨b, hb⟩ := (h value).reads hm hlong
      refine ⟨b, fun opcode count tail hcount => ?_⟩
      obtain ⟨last, hlast⟩ := hb opcode count tail (by omega)
      refine ⟨last, ?_⟩
      rw [Nat.add_comm, List.take_succ_cons, List.cons_append, bind_of_ok (word_cons ..), hlast]
  refuses opcode count params hcount hshort := by
    cases params with
    | nil => exact ⟨_, rfl⟩
    | cons value rest =>
      have hrest : ∀ m ∈ needed value rest, rest.length < m := by
        intro m hm
        have hlt := hshort (1 + m) (Option.map_eq_some_iff.mpr ⟨m, hm, rfl⟩)
        rw [List.length_cons] at hlt
        omega
      rw [List.length_cons] at hcount
      obtain ⟨defect, hdefect⟩ := (h value).refuses opcode count rest (by omega) hrest
      exact ⟨defect, (bind_of_ok (word_cons ..)).trans hdefect⟩

theorem times_word_append {k : Nat} {front : List UInt16} (h : front.length = k) (opcode : UInt16)
    (count : Nat) (rest : List UInt16) :
    times k Reader.word ⟨opcode, count, front ++ rest⟩ = .ok (front, ⟨opcode, count, rest⟩) := by
  have hread := (exact_words k).complete opcode count rest h
  rwa [writtenWords_map_word] at hread

theorem Measured.words {k : Nat} {next : List UInt16 → Reader β}
    {needed : List UInt16 → List UInt16 → Option Nat}
    (h : ∀ front, Measured (before + k) (needed front) (next front)) :
    Measured before (afterWords k needed) (Reader.times k Reader.word >>= next) where
  reads := by
    intro params n hneeded hlong
    unfold afterWords at hneeded
    split at hneeded
    · rename_i hk
      have hfront : (params.take k).length = k := List.length_take_of_le hk
      obtain ⟨m, hm, rfl⟩ := Option.map_eq_some_iff.mp hneeded
      have hrest : m ≤ (params.drop k).length := by
        rw [List.length_drop]
        omega
      obtain ⟨b, hb⟩ := (h (params.take k)).reads hm hrest
      refine ⟨b, fun opcode count tail hcount => ?_⟩
      obtain ⟨last, hlast⟩ := hb opcode count tail (by omega)
      refine ⟨last, ?_⟩
      rw [List.take_add, List.append_assoc, bind_of_ok (times_word_append hfront ..), hlast]
    · cases hneeded
  refuses opcode count params hcount hshort := by
    by_cases hk : k ≤ params.length
    · have hfront : (params.take k).length = k := List.length_take_of_le hk
      have hdrop : (params.drop k).length = params.length - k := List.length_drop
      -- The words themselves are there, so those that they tell of are missing behind them.
      have hrest : ∀ m ∈ needed (params.take k) (params.drop k), (params.drop k).length < m := by
        intro m hm
        have hlt : params.length < k + m := by
          refine hshort (k + m) ?_
          rw [afterWords, if_pos hk]
          exact Option.map_eq_some_iff.mpr ⟨m, hm, rfl⟩
        omega
      obtain ⟨defect, hdefect⟩ :=
        (h (params.take k)).refuses opcode count (params.drop k) (by omega) hrest
      have hread := times_word_append hfront opcode count (params.drop k)
      rw [List.take_append_drop] at hread
      exact ⟨defect, (bind_of_ok hread).trans hdefect⟩
    · have hfew : (Cursor.mk opcode count params).rest.length < 1 * k := by
        rw [Nat.one_mul]
        exact Nat.not_le.mp hk
      obtain ⟨defect, hdefect⟩ := (takes_word.times k).refuses _ hfew
      exact ⟨defect, bind_of_error hdefect⟩

/-! ### Readers with counts -/

theorem measured_pointFigure (figure : PointFigure) :
    Measured 0 RecordType.pointsLength (pointFigure figure) := by
  have hlength (params : List UInt16) : RecordType.pointsLength params =
      afterWord (fun count _ => some (2 * count.toNat)) params := by
    cases params <;> rfl
  refine .of_eq (.require (.word fun count => ?_)
    (.afterWord fun _ => atLeast_zero _) (by omega)) hlength
  exact .require (.of_takes ((takes_points count.toNat).bind fun _ => .pure _))
    (atLeast_some _) (by omega)

/-- The counts of the polygons are read before it is known how many points there are. -/
theorem measured_polygons : Measured 0 RecordType.ringsLength polygons := by
  have hlength (params : List UInt16) : RecordType.ringsLength params =
      afterWord (fun count => afterWords count.toNat fun counts _ =>
        some (2 * (counts.map UInt16.toNat).sum)) params := by
    cases params with
    | nil => rfl
    | cons count rest =>
      rw [RecordType.ringsLength, afterWord, afterWords]
      split
      · rw [Nat.add_assoc]
        rfl
      · rfl
  refine .of_eq (.require (.word fun count => ?_)
    (.afterWord fun _ => atLeast_zero _) (by omega)) hlength
  -- First the counts of all polygons, then two words for each point that they count.
  refine .require (.words fun counts => ?_) (.afterWords fun _ => atLeast_zero _) (by omega)
  exact .require (.of_takes ((takes_rings (counts.map UInt16.toNat)).bind fun _ => .pure _))
    (atLeast_some _) (by simp [List.sum_eq_foldr])

theorem measured_entries : Measured 0 RecordType.entriesLength entries := by
  have hlength (params : List UInt16) : RecordType.entriesLength params =
      afterWord (fun _ => afterWord fun count _ => some (2 * count.toNat)) params := by
    match params with
    | [] => rfl
    | [_] => rfl
    | _ :: count :: _ =>
      simp only [RecordType.entriesLength, afterWord, Option.map_some, Option.some.injEq]
      omega
  refine .of_eq (.require (.word fun start => .word fun count => ?_)
    (.afterWord fun _ => .afterWord fun _ => atLeast_zero _) (by omega)) hlength
  exact .require (.of_takes ((takes_color.times count.toNat).bind fun _ => .pure _))
    (atLeast_some _) (by omega)

theorem measured_escape : Measured 0 RecordType.escapeLength RecordType.escape.reader := by
  have hlength (params : List UInt16) : RecordType.escapeLength params =
      afterWord (fun _ => afterWord fun count _ => some (wordsFor count.toNat)) params := by
    match params with
    | [] => rfl
    | [_] => rfl
    | _ :: count :: _ =>
      simp only [RecordType.escapeLength, afterWord, wordsFor, Option.map_some, Option.some.injEq]
      omega
  refine .of_eq (.require (.word fun function => .word fun count => ?_)
    (.afterWord fun _ => .afterWord fun _ => atLeast_zero _) (by omega)) hlength
  exact .of_takes ((takes_bytes count.toNat).bind fun _ => .pure _)

theorem measured_plainText : Measured 0 RecordType.textLength plainText := by
  have hlength (params : List UInt16) : RecordType.textLength params =
      afterWord (fun length _ => some (wordsFor length.toNat + 2)) params := by
    cases params with
    | nil => rfl
    | cons length rest =>
      simp only [RecordType.textLength, afterWord, wordsFor, Option.map_some, Option.some.injEq]
      omega
  refine .of_eq (.require (.word fun length => ?_)
    (.afterWord fun _ => atLeast_zero _) (by omega)) hlength
  refine .require (.of_takes ?_) (atLeast_some _) (by omega)
  exact (takes_bytes length.toNat).bind fun _ => takes_pointYX.bind fun _ => .pure _

/-! ### Text with options -/

theorem takes_optionalBounds (present : Bool) :
    Takes (if present then 4 else 0) (optionalBounds present) := by
  cases present with
  | true =>
    change Takes (4 + 0) (some <$> boundsDownward)
    rw [map_eq_pure_bind]
    exact takes_boundsDownward.bind fun _ => .pure _
  | false => exact .pure none

/-- Advances are left out when there are not enough of them. -/
theorem accepts_advances (n : Nat) : Accepts 0 (advances n) where
  accepts := by
    rintro ⟨opcode, count, rest⟩ -
    unfold advances
    rw [bind_of_ok (remaining_eq ..)]
    by_cases hmany : 0 < n ∧ n ≤ rest.length
    · have hwords : 1 * n ≤ rest.length := (Nat.one_mul n).symm ▸ hmany.2
      obtain ⟨values, hvalues⟩ := (takes_int16.times n).ok_of_le ⟨opcode, count, rest⟩ hwords
      rw [if_pos hmany]
      exact ⟨values, _, hvalues⟩
    · rw [if_neg hmany]
      exact ⟨[], _, rfl⟩
  refuses _ h := absurd h (Nat.not_lt_zero _)

/-- The reader accepts the records that are as long as their counts tell, and the others are
malformed. -/
structure AcceptsBy (needed : List UInt16 → Option Nat) (read : Reader α) : Prop where
  accepts : ∀ (record : Record), ∀ n ∈ needed record.params, n ≤ record.params.length →
    ∃ a, read.run record = .ok a
  refuses : ∀ record : Record, (∀ n ∈ needed record.params, record.params.length < n) →
    ∃ defect, read.run record = .error (.malformed record.opcode defect)

theorem run_eq_error {record : Record} :
    read.run record = .error fault ↔ read record.cursor = .error fault := by
  unfold run
  split
  · rename_i h
    simp [h]
  · rename_i h
    simp [h]

/-- On a filled background, the rectangle is only read from a record that is long enough for it. So
it takes no more words than are there, and only clipped text needs them. -/
theorem boundsWords_le_iff (options length : UInt16) (words : Nat) :
    (if ExtendedText.storesBounds options length (4 + words) then 4 else 0) +
        wordsFor length.toNat ≤ words ↔
      4 + (length.toNat + 1) / 2 + (if ExtendedText.clips options then 4 else 0) ≤ 4 + words := by
  unfold ExtendedText.storesBounds wordsFor
  cases ExtendedText.clips options with
  | true =>
    simp only [Bool.true_or, if_true]
    omega
  | false =>
    cases ExtendedText.fillsBackground options with
    | false =>
      simp only [Bool.false_or, Bool.false_and, Bool.false_eq_true, if_false]
      omega
    | true =>
      simp only [Bool.false_or, Bool.true_and, decide_eq_true_eq, Bool.false_eq_true, if_false]
      split <;> omega

/-- Behind its first four words, a text with options takes its rectangle and its characters. -/
theorem extendedText_front (opcode y x length options : UInt16) (rest : List UInt16) :
    ∃ read : Reader ExtendedText,
      extendedText ⟨opcode, 4 + rest.length, y :: x :: length :: options :: rest⟩ =
        read ⟨opcode, 4 + rest.length, rest⟩ ∧
      Accepts ((if ExtendedText.storesBounds options length (4 + rest.length) then 4 else 0) +
        wordsFor length.toNat) read := by
  refine ⟨optionalBounds (ExtendedText.storesBounds options length (4 + rest.length)) >>=
    fun bounds => bytes length.toNat >>= fun data => advances length.toNat >>= fun values =>
      Pure.pure ⟨⟨x.toInt16, y.toInt16⟩, options, bounds, Latin1.decode data, values⟩, ?_, ?_⟩
  · unfold extendedText
    rw [bind_of_ok (require_of_le (Nat.le_add_right 4 rest.length))]
    rfl
  · exact (takes_optionalBounds _).bind_accepts fun _ =>
      (takes_bytes length.toNat).bind_accepts fun _ => (accepts_advances length.toNat).map _

/-- A record is too short for the counts of a text with options, or has four words in front. -/
theorem extendedTextLength_cases (params : List UInt16) :
    (params.length < 4 ∧ RecordType.extendedTextLength params = none) ∨
      ∃ y x length options rest, params = y :: x :: length :: options :: rest := by
  -- One case for each length below four; in the last one all four words are there.
  rcases params with _ | ⟨y, _ | ⟨x, _ | ⟨length, _ | ⟨options, rest⟩⟩⟩⟩
  iterate 4 exact .inl ⟨by simp, rfl⟩
  exact .inr ⟨y, x, length, options, rest, rfl⟩

theorem acceptsBy_extendedText : AcceptsBy RecordType.extendedTextLength extendedText where
  accepts := by
    rintro ⟨opcode, params⟩ n hn hlong
    obtain ⟨-, hnone⟩ | ⟨y, x, length, options, rest, rfl⟩ := extendedTextLength_cases params
    · cases hnone.symm.trans hn
    · have hcount : (y :: x :: length :: options :: rest).length = 4 + rest.length :=
        Nat.add_comm rest.length 4
      obtain ⟨read, hread, haccepts⟩ := extendedText_front opcode y x length options rest
      cases hn
      rw [hcount] at hlong
      obtain ⟨content, last, hcontent⟩ := haccepts.accepts ⟨opcode, 4 + rest.length, rest⟩
        ((boundsWords_le_iff options length rest.length).mpr hlong)
      refine ⟨content, run_eq_ok.mpr ⟨last, ?_⟩⟩
      rw [Record.cursor, hcount, hread, hcontent]
  refuses := by
    rintro ⟨opcode, params⟩ hshort
    obtain ⟨hfew, -⟩ | ⟨y, x, length, options, rest, rfl⟩ := extendedTextLength_cases params
    · exact ⟨_, run_eq_error.mpr (bind_of_error (require_of_lt hfew))⟩
    · have hcount : (y :: x :: length :: options :: rest).length = 4 + rest.length :=
        Nat.add_comm rest.length 4
      obtain ⟨read, hread, haccepts⟩ := extendedText_front opcode y x length options rest
      have hlt := hshort _ rfl
      rw [hcount, ← Nat.not_le, ← boundsWords_le_iff, Nat.not_le] at hlt
      obtain ⟨defect, hdefect⟩ := haccepts.refuses ⟨opcode, 4 + rest.length, rest⟩ hlt
      refine ⟨defect, run_eq_error.mpr ?_⟩
      rw [Record.cursor, hcount, hread, hdefect]

/-! ### Records -/

theorem Measured.acceptsBy (h : Measured 0 needed read) : AcceptsBy needed read where
  accepts record n hn hlong := by
    obtain ⟨a, ha⟩ := h.reads hn hlong
    have hcount : record.params.length = 0 + n + (record.params.drop n).length := by
      rw [List.length_drop]
      omega
    obtain ⟨last, hlast⟩ := ha record.opcode record.params.length (record.params.drop n) hcount
    rw [List.take_append_drop] at hlast
    exact ⟨a, run_eq_ok.mpr ⟨last, hlast⟩⟩
  refuses record hshort := by
    obtain ⟨defect, hdefect⟩ := h.refuses record.opcode record.params.length record.params
      (Nat.zero_add _).symm hshort
    exact ⟨defect, run_eq_error.mpr hdefect⟩

/-- The words behind those that are needed have no part in what is read. -/
theorem Measured.run_take_append {record : Record} (h : Measured 0 needed read)
    (hneeded : needed record.params = some n) (hlong : n ≤ record.params.length)
    (tail : List UInt16) :
    read.run ⟨record.opcode, record.params.take n ++ tail⟩ = read.run record := by
  obtain ⟨a, ha⟩ := h.reads hneeded hlong
  have hrun (tail : List UInt16) :
      read.run ⟨record.opcode, record.params.take n ++ tail⟩ = .ok a := by
    have hcount : (record.params.take n ++ tail).length = 0 + n + tail.length := by
      rw [List.length_append, List.length_take_of_le hlong, Nat.zero_add]
    exact run_eq_ok.mpr (ha record.opcode _ tail hcount)
  -- The record itself is one of these, with the words that it has behind the needed ones.
  have hwhole := hrun (record.params.drop n)
  rw [List.take_append_drop] at hwhole
  rw [hrun tail, hwhole]

theorem AcceptsBy.map (h : AcceptsBy needed read) (f : α → β) :
    AcceptsBy needed (read >>= fun a => Pure.pure (f a)) where
  accepts record n hn hlong := by
    obtain ⟨a, ha⟩ := h.accepts record n hn hlong
    obtain ⟨last, hlast⟩ := run_eq_ok.mp ha
    exact ⟨f a, run_eq_ok.mpr ⟨last, bind_of_ok hlast⟩⟩
  refuses record hshort := by
    obtain ⟨defect, hdefect⟩ := h.refuses record hshort
    exact ⟨defect, run_eq_error.mpr (bind_of_error (run_eq_error.mp hdefect))⟩

end Reader

namespace RecordType

variable {type : RecordType} {needed : List UInt16 → Option Nat}

open Reader

/-- Text with options aside, a record with counts takes just the words that these tell. -/
theorem CountedBy.measured (h : type.CountedBy needed) (hext : type ≠ .extTextOut) :
    Measured 0 needed type.reader := by
  cases h with
  | polygon => exact measured_pointFigure .polygon
  | polyline => exact measured_pointFigure .polyline
  | polyPolygon => exact measured_polygons
  | createPalette | setPalEntries | animatePalette => exact measured_entries.map _
  | escape => exact measured_escape
  | textOut => exact measured_plainText
  | extTextOut => exact absurd rfl hext

theorem CountedBy.acceptsBy (h : type.CountedBy needed) : AcceptsBy needed type.reader := by
  by_cases hext : type = .extTextOut
  · subst hext
    cases h
    exact acceptsBy_extendedText.map _
  · exact (h.measured hext).acceptsBy

end RecordType

namespace Record

variable {record : Record} {type : RecordType} {needed : List UInt16 → Option Nat}

theorem decode_eq_map (h : RecordType.ofOpcode? record.opcode = some type) :
    record.decode = (type.reader.run record).map Command.ofAction := by
  rw [decode, decodeAs, actionAs, h]
  dsimp only
  rw [if_pos rfl]

theorem decode_of_long (htype : RecordType.ofOpcode? record.opcode = some type)
    (h : type.CountedBy needed) (hlong : ∃ n ∈ needed record.params, n ≤ record.params.length) :
    ∃ command, record.decode = .ok command := by
  obtain ⟨n, hn, hle⟩ := hlong
  obtain ⟨action, haction⟩ := h.acceptsBy.accepts record n hn hle
  rw [decode_eq_map htype, haction]
  exact ⟨_, rfl⟩

theorem decode_of_short (htype : RecordType.ofOpcode? record.opcode = some type)
    (h : type.CountedBy needed) (hshort : ¬ ∃ n ∈ needed record.params, n ≤ record.params.length) :
    ∃ defect, record.decode = .error (.malformed record.opcode defect) := by
  have hall : ∀ n ∈ needed record.params, record.params.length < n := fun n hn =>
    Nat.not_le.mp fun hle => hshort ⟨n, hn, hle⟩
  obtain ⟨defect, hdefect⟩ := h.acceptsBy.refuses record hall
  rw [decode_eq_map htype, hdefect]
  exact ⟨defect, rfl⟩

/-- A record with counts is accepted just when it is as long as these tell, and malformed otherwise.
Text with options aside, the words behind that length may be anything, or be missing. -/
theorem decode_countedBy (htype : RecordType.ofOpcode? record.opcode = some type)
    (h : type.CountedBy needed) :
    ((∃ command, record.decode = .ok command) ↔
      ∃ n ∈ needed record.params, n ≤ record.params.length) ∧
    (∀ fault, record.decode = .error fault →
      ∃ defect, fault = .malformed record.opcode defect) ∧
    (type ≠ .extTextOut → ∀ n ∈ needed record.params, n ≤ record.params.length →
      ∀ tail, decode ⟨record.opcode, record.params.take n ++ tail⟩ = record.decode) := by
  refine ⟨⟨?_, decode_of_long htype h⟩, ?_, ?_⟩
  · rintro ⟨command, hcommand⟩
    by_contra hshort
    obtain ⟨defect, hdefect⟩ := decode_of_short htype h hshort
    cases hcommand.symm.trans hdefect
  · intro fault hfault
    -- A refused record is not long enough, and so it is malformed.
    have hshort : ¬ ∃ n ∈ needed record.params, n ≤ record.params.length := by
      intro hlong
      obtain ⟨command, hcommand⟩ := decode_of_long htype h hlong
      cases hfault.symm.trans hcommand
    obtain ⟨defect, hdefect⟩ := decode_of_short htype h hshort
    exact ⟨defect, Except.error.inj (hfault.symm.trans hdefect)⟩
  · intro hext n hn hlong tail
    have hrun := (h.measured hext).run_take_append hn hlong tail
    rw [decode_eq_map htype, ← hrun]
    exact decode_eq_map htype

/-- Two polygons, of two points and of one, need nine words. A tenth word makes no difference, and
without the ninth the record is refused. -/
theorem decode_countedBy_two_rings :
    let record : Record := ⟨0x0538, [2, 2, 1, 1, 2, 3, 4, 5, 6, 7]⟩
    let short : Record := ⟨0x0538, record.params.take 8⟩
    let command := Command.ofAction (.polygons [[⟨1, 2⟩, ⟨3, 4⟩], [⟨5, 6⟩]])
    record.decode = .ok command ∧ decode ⟨0x0538, record.params.take 9⟩ = .ok command ∧
      ¬ ∃ other, short.decode = .ok other := by
  intro record short command
  have hread : record.decode = .ok command := rfl
  have htype : RecordType.ofOpcode? record.opcode = some .polyPolygon := rfl
  have htype' : RecordType.ofOpcode? short.opcode = some .polyPolygon := rfl
  have hsettled := (decode_countedBy htype .polyPolygon).2.2 (by decide) 9 rfl (by decide) []
  refine ⟨hread, hsettled.trans hread, fun haccepted => ?_⟩
  obtain ⟨n, hn, hle⟩ := (decode_countedBy htype' .polyPolygon).1.mp haccepted
  cases hn
  exact absurd hle (by decide)

/-- One word more is the advance of the only character of a text with options. -/
example : decode ⟨0x0A32, [0, 0, 1, 0, 65]⟩ =
      .ok (.ofAction (.extendedText ⟨⟨0, 0⟩, 0, none, "A", []⟩)) ∧
    decode ⟨0x0A32, [0, 0, 1, 0, 65, 9]⟩ =
      .ok (.ofAction (.extendedText ⟨⟨0, 0⟩, 0, none, "A", [9]⟩)) :=
  ⟨rfl, rfl⟩

end Record

end WindowsMetafile
