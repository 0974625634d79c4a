import WindowsMetafile.Proofs.Reading
import WindowsMetafile.Record.Access

/-!
# Parameters by position and in sequence

The parameters of a record are read by position, or in sequence by a cursor that holds the words
still to come. A bookmark is the place of such a cursor: it names the record and counts the words
behind it. A read at a bookmark is a read by position, and the bookmark moves once that read has
succeeded. Cursors and bookmarks take the same steps, and a refused step leaves the bookmark where
it was.

## Main definitions

* `Bookmark` — a position in the parameters of a record
* `MarkedReader` — a computation that moves a bookmark and can fail, with the bookmark it leaves
* `KeepsPlace` — a reader over cursors is one over bookmarks, which a failure does not move

## Main results

* `MarkedReader.keepsPlace_past` — a read by position keeps its place when it fails
* `Reader.mapM_read_writtenWords` — fields are read back, whatever comes after them
* `Reader.reads_compose_and_keepsPlace` — a composed record is read back to its end, and no single
  read that fails moves the place
-/

namespace WindowsMetafile

/-! ### Reads by position -/

namespace Record

variable {record : Record} {index offset count : Nat}

theorem word_of_lt (h : index < record.params.length) :
    record.word index = .ok record.params[index] := by
  simp [word, h]

theorem word_of_le (h : record.params.length ≤ index) :
    record.word index =
      .error (record.malformed (.wordOutOfRange index record.params.length)) := by
  simp [word, h]

theorem long_of_lt (h : index + 1 < record.params.length) :
    record.long index = .ok (Long.ofWords record.params[index] record.params[index + 1]) := by
  rw [long, word_of_lt (Nat.lt_of_succ_lt h), word_of_lt h]
  rfl

/-- Of a 32-bit value whose low word is the last one, the high word is missed. -/
theorem long_of_last (h : index + 1 = record.params.length) :
    record.long index =
      .error (record.malformed (.wordOutOfRange (index + 1) record.params.length)) := by
  rw [long, word_of_lt (Nat.lt_of_succ_le (Nat.le_of_eq h)), word_of_le (Nat.le_of_eq h.symm)]
  rfl

theorem long_of_le (h : record.params.length ≤ index) :
    record.long index =
      .error (record.malformed (.wordOutOfRange index record.params.length)) := by
  rw [long, word_of_le h]
  rfl

theorem bytes_of_le (h : offset + wordsFor count ≤ record.params.length) :
    record.bytes offset count =
      .ok ((unpackWords ((record.params.drop offset).take (wordsFor count))).take count) :=
  if_neg (Nat.not_lt.mpr h)

theorem bytes_of_lt (h : record.params.length < offset + wordsFor count) :
    record.bytes offset count =
      .error (record.malformed (.bytesOutOfRange count offset record.params.length)) :=
  if_pos h

end Record

namespace Reader

variable {cursor : Cursor}

theorem word_of_nil (h : cursor.rest = []) :
    word cursor =
      .error (cursor.malformed (.wordOutOfRange cursor.position cursor.count)) := by
  simp [word, h]

theorem long_of_singleton {value : UInt16} (h : cursor.rest = [value]) :
    long cursor =
      .error (cursor.malformed (.wordOutOfRange (cursor.position + 1) cursor.count)) := by
  simp [long, h]

theorem long_of_nil (h : cursor.rest = []) :
    long cursor =
      .error (cursor.malformed (.wordOutOfRange cursor.position cursor.count)) := by
  simp [long, h]

end Reader

/-! ### Bookmarks -/

/-- A position in the parameters of a record, counted in words. -/
structure Bookmark where
  record : Record
  position : Nat

namespace Bookmark

/-- The number of words behind the bookmark. -/
def remaining (mark : Bookmark) : Nat :=
  mark.record.params.length - mark.position

/-- The cursor at the bookmark. -/
def cursor (mark : Bookmark) : Cursor :=
  ⟨mark.record.opcode, mark.record.params.length, mark.record.params.drop mark.position⟩

variable {mark : Bookmark}

@[simp] theorem remaining_cursor (mark : Bookmark) : mark.cursor.remaining = mark.remaining :=
  List.length_drop

theorem cursor_of_lt (h : mark.position < mark.record.params.length) :
    mark.cursor = ⟨mark.record.opcode, mark.record.params.length,
      mark.record.params[mark.position] :: mark.record.params.drop (mark.position + 1)⟩ := by
  rw [cursor, List.drop_eq_getElem_cons h]

theorem rest_of_le (h : mark.record.params.length ≤ mark.position) : mark.cursor.rest = [] :=
  List.drop_of_length_le h

theorem rest_of_last (h : mark.position + 1 = mark.record.params.length) :
    ∃ value, mark.cursor.rest = [value] :=
  List.length_eq_one_iff.mp (by rw [cursor, List.length_drop]; omega)

theorem position_cursor (h : mark.position ≤ mark.record.params.length) :
    mark.cursor.position = mark.position := by
  rw [Cursor.position, cursor, List.length_drop]
  exact Nat.sub_sub_self h

end Bookmark

/-- A computation that moves a bookmark and can fail. A failure comes with the bookmark as it is
then. -/
abbrev MarkedReader := ExceptT Fault (StateM Bookmark)

namespace MarkedReader

/-- A read by position, which passes over a number of words once it has succeeded. -/
def past {α : Type} (words : Nat) (read : Record → Nat → Except Fault α) : MarkedReader α := do
  let mark ← get
  let value ← MonadExcept.ofExcept (read mark.record mark.position)
  set { mark with position := mark.position + words }
  return value

/-- The word at the bookmark. -/
def word : MarkedReader UInt16 := past 1 Record.word

/-- The word at the bookmark as a signed number. -/
def int16 : MarkedReader Int16 := UInt16.toInt16 <$> word

/-- The 32-bit value at the bookmark. -/
def long : MarkedReader UInt32 := past 2 Record.long

/-- A number of bytes at the bookmark; an odd run takes the whole of its last word. -/
def bytes (count : Nat) : MarkedReader Bytes :=
  past (wordsFor count) fun record position => record.bytes position count

/-- All bytes behind the bookmark. -/
def restBytes : MarkedReader Bytes := do
  let mark ← get
  bytes (2 * mark.remaining)

/-- Passes over a number of words. -/
def skip (words : Nat) : MarkedReader Unit := do
  let mark ← get
  if mark.remaining < words then
    throw (mark.record.malformed (.skipTooFar words mark.remaining))
  set { mark with position := mark.position + words }

variable {α β : Type} {mark after : Bookmark} {words : Nat} {fault : Fault} {a : α}
variable {read : Record → Nat → Except Fault α}

theorem past_of_ok (h : read mark.record mark.position = .ok a) :
    past words read mark = (.ok a, { mark with position := mark.position + words }) := by
  change (MonadExcept.ofExcept (read mark.record mark.position) >>= _ : MarkedReader α) mark = _
  rw [h]
  rfl

theorem past_of_error (h : read mark.record mark.position = .error fault) :
    past words read mark = (.error fault, mark) := by
  change (MonadExcept.ofExcept (read mark.record mark.position) >>= _ : MarkedReader α) mark = _
  rw [h]
  rfl

theorem map_eq (f : α → β) (marked : MarkedReader α) (mark : Bookmark) :
    (f <$> marked) mark = ((marked mark).1.map f, (marked mark).2) := by
  change ((f <$> marked).run).run mark = _
  rw [ExceptT.run_map, StateT.run_map]
  rfl

theorem skip_of_le (h : words ≤ mark.remaining) :
    skip words mark = (.ok (), { mark with position := mark.position + words }) := by
  have hskip : ¬ mark.remaining < words := Nat.not_lt.mpr h
  change (if mark.remaining < words then _ else _ : MarkedReader Unit) mark = _
  rw [if_neg hskip]
  rfl

theorem skip_of_lt (h : mark.remaining < words) :
    skip words mark =
      (.error (mark.record.malformed (.skipTooFar words mark.remaining)), mark) := by
  change (if mark.remaining < words then _ else _ : MarkedReader Unit) mark = _
  rw [if_pos h]
  rfl

/-! ### Cursors and bookmarks -/

/-- The outcome of a step of bookmarks as one of cursors, which a failure leaves without a place. -/
def toCursor : Except Fault α × Bookmark → Except Fault (α × Cursor)
  | (.ok a, after) => .ok (a, after.cursor)
  | (.error fault, _) => .error fault

/-- A reader over cursors takes the steps of one over bookmarks. The bookmark stays inside the
record, and a failure, which always names the record, does not move it. -/
structure KeepsPlace (read : Reader α) (marked : MarkedReader α) : Prop where
  agrees : ∀ mark : Bookmark, mark.position ≤ mark.record.params.length →
    read mark.cursor = toCursor (marked mark)
  inside : ∀ mark : Bookmark, mark.position ≤ mark.record.params.length →
    (marked mark).2.position ≤ (marked mark).2.record.params.length
  refused : ∀ mark fault after, marked mark = (.error fault, after) →
    after = mark ∧ ∃ defect, fault = .malformed mark.record.opcode defect

/-- A read by position, at some place of a record, beside one in sequence. -/
inductive ReadsAlike (read : Reader α) (words : Nat) (readAt : Record → Nat → Except Fault α)
    (mark : Bookmark) : Prop
  | ok (a : α) (hat : readAt mark.record mark.position = .ok a)
      (hinside : mark.position ≤ mark.record.params.length →
        mark.position + words ≤ mark.record.params.length)
      (hread : mark.position ≤ mark.record.params.length →
        read mark.cursor = .ok (a, { mark with position := mark.position + words }.cursor))
  | error (defect : Defect)
      (hat : readAt mark.record mark.position = .error (mark.record.malformed defect))
      (hread : mark.position ≤ mark.record.params.length →
        read mark.cursor = .error (mark.record.malformed defect))

/-- A read by position that is one in sequence everywhere keeps its place when it fails. -/
theorem keepsPlace_past {read : Reader α} {readAt : Record → Nat → Except Fault α}
    (h : ∀ mark, ReadsAlike read words readAt mark) : KeepsPlace read (past words readAt) where
  agrees mark hmark := by
    cases h mark with
    | ok a hat hinside hread => rw [past_of_ok hat, hread hmark, toCursor]
    | error defect hat hread => rw [past_of_error hat, hread hmark, toCursor]
  inside mark hmark := by
    cases h mark with
    | ok a hat hinside hread =>
      rw [past_of_ok hat]
      exact hinside hmark
    | error defect hat hread =>
      rw [past_of_error hat]
      exact hmark
  refused mark fault after hfault := by
    cases h mark with
    | ok a hat hinside hread =>
      rw [past_of_ok hat] at hfault
      cases hfault
    | error defect hat hread =>
      rw [past_of_error hat] at hfault
      cases hfault
      exact ⟨rfl, defect, rfl⟩

theorem KeepsPlace.map {read : Reader α} {marked : MarkedReader α} (h : KeepsPlace read marked)
    (f : α → β) : KeepsPlace (f <$> read) (f <$> marked) where
  agrees mark hmark := by
    change (read mark.cursor).map (fun p => (f p.1, p.2)) = _
    rw [h.agrees mark hmark, map_eq]
    cases marked mark with
    | mk outcome after => cases outcome <;> rfl
  inside mark hmark := by
    rw [map_eq]
    exact h.inside mark hmark
  refused mark fault after hfault := by
    rw [map_eq] at hfault
    cases hmarked : marked mark with
    | mk outcome next =>
      rw [hmarked] at hfault
      cases outcome with
      | ok a => cases hfault
      | error _ =>
        cases hfault
        exact h.refused mark _ _ hmarked

/-! ### The single reads -/

theorem keepsPlace_word : KeepsPlace Reader.word word :=
  keepsPlace_past fun mark => by
    by_cases hword : mark.position < mark.record.params.length
    · refine .ok _ (Record.word_of_lt hword) (fun _ => hword) fun _ => ?_
      rw [Bookmark.cursor_of_lt hword]
      rfl
    · have hend := Nat.not_lt.mp hword
      refine .error _ (Record.word_of_le hend) fun hmark => ?_
      rw [Reader.word_of_nil (Bookmark.rest_of_le hend), Bookmark.position_cursor hmark]
      rfl

theorem keepsPlace_int16 : KeepsPlace Reader.int16 int16 := by
  have hread : Reader.int16 = UInt16.toInt16 <$> Reader.word := by
    funext ⟨opcode, count, rest⟩
    cases rest <;> rfl
  rw [hread]
  exact keepsPlace_word.map _

theorem keepsPlace_long : KeepsPlace Reader.long long :=
  keepsPlace_past fun mark => by
    -- Both words are there, or the high word is missed, or already the low one is.
    obtain hlong | hlast | hend : mark.position + 1 < mark.record.params.length ∨
        mark.position + 1 = mark.record.params.length ∨
        mark.record.params.length ≤ mark.position := by omega
    · refine .ok _ (Record.long_of_lt hlong) (fun _ => hlong) fun _ => ?_
      rw [Bookmark.cursor_of_lt (Nat.lt_of_succ_lt hlong), List.drop_eq_getElem_cons hlong]
      rfl
    · refine .error _ (Record.long_of_last hlast) fun hmark => ?_
      obtain ⟨value, hrest⟩ := Bookmark.rest_of_last hlast
      rw [Reader.long_of_singleton hrest, Bookmark.position_cursor hmark]
      rfl
    · refine .error _ (Record.long_of_le hend) fun hmark => ?_
      rw [Reader.long_of_nil (Bookmark.rest_of_le hend), Bookmark.position_cursor hmark]
      rfl

/-- A 32-bit value whose high word is missed leaves the bookmark in front of its low word. -/
example :
    let mark : Bookmark := ⟨⟨0x0538, [2, 3]⟩, 1⟩
    long mark = (.error (.malformed 0x0538 (.wordOutOfRange 2 2)), mark) := rfl

theorem keepsPlace_bytes (count : Nat) : KeepsPlace (Reader.bytes count) (bytes count) :=
  keepsPlace_past fun mark => by
    have hrest : mark.cursor.rest.length = mark.record.params.length - mark.position :=
      List.length_drop
    by_cases hlong : mark.position + wordsFor count ≤ mark.record.params.length
    · refine .ok _ (Record.bytes_of_le hlong) (fun _ => hlong) fun _ => ?_
      have hread : ¬ mark.cursor.rest.length < wordsFor count := by omega
      rw [Reader.bytes, if_neg hread]
      simp [Bookmark.cursor, List.drop_drop]
    · refine .error _ (Record.bytes_of_lt (Nat.not_le.mp hlong)) fun hmark => ?_
      have hread : mark.cursor.rest.length < wordsFor count := by omega
      rw [Reader.bytes, if_pos hread, Bookmark.position_cursor hmark]
      rfl

theorem restBytes_eq (mark : Bookmark) : restBytes mark = bytes (2 * mark.remaining) mark :=
  rfl

/-- As many bytes as there are words behind the bookmark, twice over, are all that are left. -/
theorem keepsPlace_restBytes : KeepsPlace Reader.restBytes restBytes where
  agrees mark hmark := by
    have hread : Reader.restBytes mark.cursor = Reader.bytes (2 * mark.remaining) mark.cursor := by
      have hrest : mark.cursor.rest.length = mark.remaining := List.length_drop
      have hwords : wordsFor (2 * mark.remaining) = mark.remaining := by
        rw [wordsFor]
        omega
      have hlong : ¬ mark.cursor.rest.length < wordsFor (2 * mark.remaining) := by omega
      rw [Reader.bytes, if_neg hlong, hwords, ← hrest]
      simp [Reader.restBytes, ← length_unpackWords]
    rw [hread, restBytes_eq]
    exact (keepsPlace_bytes (2 * mark.remaining)).agrees mark hmark
  inside mark hmark := by
    rw [restBytes_eq]
    exact (keepsPlace_bytes (2 * mark.remaining)).inside mark hmark
  refused mark fault after hfault := by
    rw [restBytes_eq] at hfault
    exact (keepsPlace_bytes (2 * mark.remaining)).refused mark fault after hfault

theorem keepsPlace_skip (words : Nat) : KeepsPlace (Reader.skip words) (skip words) where
  agrees mark hmark := by
    by_cases hwords : words ≤ mark.remaining
    · have hread : ¬ mark.cursor.remaining < words := by simpa using hwords
      rw [skip_of_le hwords, Reader.skip, if_neg hread, Bookmark.cursor, List.drop_drop]
      rfl
    · have hread : mark.cursor.remaining < words := by simpa using hwords
      rw [skip_of_lt (Nat.not_le.mp hwords), Reader.skip, if_pos hread, Bookmark.remaining_cursor]
      rfl
  inside mark hmark := by
    by_cases hwords : words ≤ mark.remaining
    · rw [skip_of_le hwords]
      exact Nat.add_le_of_le_sub' hmark hwords
    · rw [skip_of_lt (Nat.not_le.mp hwords)]
      exact hmark
  refused mark fault after hfault := by
    by_cases hwords : words ≤ mark.remaining
    · rw [skip_of_le hwords] at hfault
      cases hfault
    · rw [skip_of_lt (Nat.not_le.mp hwords)] at hfault
      cases hfault
      exact ⟨rfl, _, rfl⟩

end MarkedReader

/-! ### Composed records -/

namespace Reader

theorem map_of_ok {α β : Type} {read : Reader α} {cursor last : Cursor} {a : α}
    (h : read cursor = .ok (a, last)) (f : α → β) : (f <$> read) cursor = .ok (f a, last) := by
  change (read cursor).map (fun p => (f p.1, p.2)) = _
  rw [h]
  rfl

/-- A field is read back, whatever comes after it. -/
theorem read_words_append (field : Field) (opcode : UInt16) (count : Nat) (rest : List UInt16) :
    field.read ⟨opcode, count, field.words ++ rest⟩ = .ok (field, ⟨opcode, count, rest⟩) := by
  cases field with
  | word value => exact map_of_ok (word_cons opcode count value rest) Field.word
  | int16 value => exact map_of_ok (int16_cons opcode count value rest) Field.int16
  | long value => exact map_of_ok (long_cons opcode count value rest) Field.long
  | bytes value => exact map_of_ok (bytes_packWords opcode count value rest) Field.bytes

/-- Fields are read back, whatever comes after them. -/
theorem mapM_read_writtenWords (fields : List Field) (opcode : UInt16) (count : Nat)
    (rest : List UInt16) :
    fields.mapM Field.read ⟨opcode, count, writtenWords fields ++ rest⟩ =
      .ok (fields, ⟨opcode, count, rest⟩) := by
  -- Along the fields: the words of the first one, then those of the others.
  induction fields with
  | nil => rfl
  | cons field fields ih =>
    rw [List.mapM_cons, writtenWords_cons, List.append_assoc,
      bind_of_ok (read_words_append field opcode count _), bind_of_ok ih]
    rfl

/-- A record that was composed of fields is read back to its end, and no single read or skip moves
the place when it fails. -/
theorem reads_compose_and_keepsPlace :
    (∀ opcode fields, ∃ last,
      fields.mapM Field.read (Record.compose opcode fields).cursor = .ok (fields, last) ∧
        last.position = (Record.compose opcode fields).params.length ∧ last.remaining = 0) ∧
    MarkedReader.KeepsPlace word MarkedReader.word ∧
    MarkedReader.KeepsPlace int16 MarkedReader.int16 ∧
    MarkedReader.KeepsPlace long MarkedReader.long ∧
    (∀ count, MarkedReader.KeepsPlace (bytes count) (MarkedReader.bytes count)) ∧
    MarkedReader.KeepsPlace restBytes MarkedReader.restBytes ∧
    ∀ words, MarkedReader.KeepsPlace (skip words) (MarkedReader.skip words) := by
  refine ⟨fun opcode fields => ?_, MarkedReader.keepsPlace_word, MarkedReader.keepsPlace_int16,
    MarkedReader.keepsPlace_long, MarkedReader.keepsPlace_bytes,
    MarkedReader.keepsPlace_restBytes, MarkedReader.keepsPlace_skip⟩
  have hread := mapM_read_writtenWords fields opcode (writtenWords fields).length []
  rw [List.append_nil] at hread
  exact ⟨_, hread, rfl, rfl⟩

end Reader

end WindowsMetafile
