import Mathlib.Data.List.Forall2
import Mathlib.Tactic.Tauto
import WindowsMetafile.Command.Encode

/-!
# Laws of readers

A reader is *exact* when it takes precisely the words that the fields of its value are written with.
Such a reader invents nothing and misses nothing: whatever it takes is the written form of what it
returns, and the written form of a value is read back as that value, whatever comes after it.

## Main definitions

* `writtenWords` — the words that a list of fields is written with
* `Reader.Yields` — all values of a reader have a property
* `Reader.Exact` — a reader takes the written form of its value

## Main results

* `Reader.bind_eq_ok`, `Reader.bind_of_ok` — one step of a reader at a time
* `Reader.exact_word`, `Reader.exact_pointYX`, `Reader.exact_area`, ... — the single reads are exact
* `Reader.Exact.times`, `Reader.exact_rings` — so are the reads of lists whose lengths are known
* `Reader.bytes_packWords`, `Reader.eq_of_bytes` — a run of bytes is exact up to its padding
-/

namespace WindowsMetafile

/-- The words that a list of fields is written with. -/
def writtenWords (fields : List Field) : List UInt16 :=
  fields.flatMap Field.words

@[simp] theorem writtenWords_nil : writtenWords [] = [] := rfl

@[simp] theorem writtenWords_cons (field : Field) (fields : List Field) :
    writtenWords (field :: fields) = field.words ++ writtenWords fields := rfl

@[simp] theorem writtenWords_append (fields fields' : List Field) :
    writtenWords (fields ++ fields') = writtenWords fields ++ writtenWords fields' :=
  List.flatMap_append

@[simp] theorem writtenWords_map_word (words : List UInt16) :
    writtenWords (words.map .word) = words := by
  induction words with
  | nil => rfl
  | cons word words ih => simp [ih, Field.words]

@[simp] theorem writtenWords_map_int16 (values : List Int16) :
    writtenWords (values.map .int16) = values.map Int16.toUInt16 := by
  induction values with
  | nil => rfl
  | cons value values ih => simp [ih, Field.words]

@[simp] theorem length_writtenWords_colors (colors : List Color) :
    (writtenWords (colors.map Color.field)).length = 2 * colors.length := by
  induction colors with
  | nil => rfl
  | cons c colors ih =>
    simp only [List.map_cons, writtenWords_cons, List.length_append, ih, List.length_cons]
    exact Nat.add_comm _ _

@[simp] theorem length_writtenWords_points (points : List (Point Int16)) :
    (writtenWords (points.flatMap Point.fieldsXY)).length = 2 * points.length := by
  induction points with
  | nil => rfl
  | cons p points ih =>
    simp only [List.flatMap_cons, writtenWords_append, List.length_append, ih, List.length_cons]
    exact Nat.add_comm _ _

namespace Reader

variable {α β : Type} {read : Reader α} {next : α → Reader β} {cursor mid last : Cursor}
variable {a : α} {b : β}

/-! ### Steps of a reader -/

theorem bind_eq_ok :
    (read >>= next) cursor = .ok (b, last) ↔
      ∃ a mid, read cursor = .ok (a, mid) ∧ next a mid = .ok (b, last) := by
  change (read cursor).bind (fun p => next p.1 p.2) = _ ↔ _
  cases read cursor with
  | error fault => simp [Except.bind]
  | ok p => simp [Except.bind, Prod.ext_iff, and_assoc]

theorem bind_of_ok (h : read cursor = .ok (a, mid)) : (read >>= next) cursor = next a mid := by
  change (read cursor).bind (fun p => next p.1 p.2) = _
  rw [h]
  rfl

@[simp] theorem pure_eq_ok :
    (pure a : Reader α) cursor = .ok (a', last) ↔ a = a' ∧ cursor = last := by
  change Except.ok (a, cursor) = _ ↔ _
  simp

theorem run_eq_ok {record : Record} :
    read.run record = .ok a ↔ ∃ last, read record.cursor = .ok (a, last) := by
  unfold run
  split
  · rename_i h
    simp [h]
  · rename_i h
    simp [h]

/-- A reader that makes something of what it has read. -/
theorem of_run_bind_pure {record : Record} {f : α → β}
    (h : (read >>= fun a => pure (f a)).run record = .ok b) :
    ∃ a last, read record.cursor = .ok (a, last) ∧ b = f a := by
  obtain ⟨last, hok⟩ := run_eq_ok.mp h
  obtain ⟨a, mid, hread, hpure⟩ := bind_eq_ok.mp hok
  obtain ⟨rfl, -⟩ := pure_eq_ok.mp hpure
  exact ⟨a, mid, hread, rfl⟩

@[simp] theorem require_eq_ok {needed : Nat} {what : String} {u : Unit} :
    require needed what cursor = .ok (u, last) ↔ needed ≤ cursor.count ∧ cursor = last := by
  unfold require
  split
  · simp only [reduceCtorEq, false_iff]
    omega
  · simp only [Except.ok.injEq, Prod.mk.injEq, true_and, iff_and_self]
    omega

theorem require_of_le {needed : Nat} {what : String} (h : needed ≤ cursor.count) :
    require needed what cursor = .ok ((), cursor) := by
  simp [h]

theorem word_cons (opcode : UInt16) (count : Nat) (value : UInt16) (rest : List UInt16) :
    word ⟨opcode, count, value :: rest⟩ = .ok (value, ⟨opcode, count, rest⟩) := rfl

theorem int16_cons (opcode : UInt16) (count : Nat) (value : Int16) (rest : List UInt16) :
    int16 ⟨opcode, count, value.toUInt16 :: rest⟩ = .ok (value, ⟨opcode, count, rest⟩) := rfl

theorem long_cons (opcode : UInt16) (count : Nat) (value : UInt32) (rest : List UInt16) :
    long ⟨opcode, count, Long.low value :: Long.high value :: rest⟩ =
      .ok (value, ⟨opcode, count, rest⟩) := by
  simp [long]

theorem bytePair_cons (opcode : UInt16) (count : Nat) (low high : UInt8) (rest : List UInt16) :
    bytePair ⟨opcode, count, Word.ofBytes low high :: rest⟩ =
      .ok ((low, high), ⟨opcode, count, rest⟩) := by
  rw [bytePair, bind_of_ok (word_cons ..), Word.low_ofBytes, Word.high_ofBytes]
  rfl

theorem skip_one_cons (opcode : UInt16) (count : Nat) (value : UInt16) (rest : List UInt16) :
    skip 1 ⟨opcode, count, value :: rest⟩ = .ok ((), ⟨opcode, count, rest⟩) := rfl

theorem remaining_eq (opcode : UInt16) (count : Nat) (rest : List UInt16) :
    remaining ⟨opcode, count, rest⟩ = .ok (rest.length, ⟨opcode, count, rest⟩) := rfl

theorem count_eq (opcode : UInt16) (words : Nat) (rest : List UInt16) :
    count ⟨opcode, words, rest⟩ = .ok (words, ⟨opcode, words, rest⟩) := rfl

theorem restBytes_eq (opcode : UInt16) (count : Nat) (rest : List UInt16) :
    restBytes ⟨opcode, count, rest⟩ = .ok (unpackWords rest, ⟨opcode, count, []⟩) := rfl

/-! ### What readers return -/

/-- All values that the reader returns have a property. -/
def Yields (P : α → Prop) (read : Reader α) : Prop :=
  ∀ cursor a last, read cursor = .ok (a, last) → P a

theorem yields_pure {P : α → Prop} (h : P a) : Yields P (pure a) := by
  intro cursor a' last hread
  obtain ⟨rfl, -⟩ := pure_eq_ok.mp hread
  exact h

theorem yields_bind {P : β → Prop} (h : ∀ a, Yields P (next a)) : Yields P (read >>= next) := by
  intro cursor b last hread
  obtain ⟨a, mid, -, hnext⟩ := bind_eq_ok.mp hread
  exact h a mid b last hnext

/-! ### Exact readers -/

/-- The reader takes precisely the words that a valid value is written with. -/
structure Exact (read : Reader α) (valid : α → Prop) (fields : α → List Field) : Prop where
  sound : ∀ {cursor a last}, read cursor = .ok (a, last) →
    valid a ∧ cursor.rest = writtenWords (fields a) ++ last.rest ∧
      last = { cursor with rest := last.rest }
  complete : ∀ {a} (opcode : UInt16) (count : Nat) (rest : List UInt16), valid a →
    read ⟨opcode, count, writtenWords (fields a) ++ rest⟩ = .ok (a, ⟨opcode, count, rest⟩)

/-- The written form of a valid value may be all that is left. -/
theorem Exact.complete_all {valid : α → Prop} {fields : α → List Field}
    (h : Exact read valid fields) (opcode : UInt16) (count : Nat) (hvalid : valid a) :
    read ⟨opcode, count, writtenWords (fields a)⟩ = .ok (a, ⟨opcode, count, []⟩) := by
  have hread := h.complete opcode count [] hvalid
  rwa [List.append_nil] at hread

/-- Every value can be read. -/
def anyValue : α → Prop := fun _ => True

theorem exact_word : Exact word anyValue fun value => [.word value] where
  sound {cursor a last} h := by
    unfold word at h
    split at h
    · rename_i hrest
      simp only [Except.ok.injEq, Prod.mk.injEq] at h
      obtain ⟨rfl, rfl⟩ := h
      exact ⟨trivial, hrest, rfl⟩
    · cases h
  complete _ _ _ _ := rfl

theorem exact_int16 : Exact int16 anyValue fun value => [.int16 value] where
  sound {cursor a last} h := by
    unfold int16 at h
    split at h
    · rename_i hrest
      simp only [Except.ok.injEq, Prod.mk.injEq] at h
      obtain ⟨rfl, rfl⟩ := h
      exact ⟨trivial, by simpa [Field.words] using hrest, rfl⟩
    · cases h
  complete _ _ _ _ := rfl

theorem exact_long : Exact long anyValue fun value => [.long value] where
  sound {cursor a last} h := by
    unfold long at h
    split at h
    · rename_i hrest
      simp only [Except.ok.injEq, Prod.mk.injEq] at h
      obtain ⟨rfl, rfl⟩ := h
      exact ⟨trivial, by simpa [Field.words] using hrest, rfl⟩
    · cases h
    · cases h
  complete {a} opcode count rest _ := long_cons opcode count a rest

theorem exact_color : Exact color anyValue fun c => [c.field] where
  sound {cursor a last} h := by
    obtain ⟨reference, mid, hlong, hpure⟩ := bind_eq_ok.mp h
    obtain ⟨rfl, rfl⟩ := pure_eq_ok.mp hpure
    obtain ⟨-, hrest, hlast⟩ := exact_long.sound hlong
    exact ⟨trivial, by simpa [Color.field] using hrest, hlast⟩
  complete {a} opcode count rest _ := by
    have h := exact_long.complete (a := a.toReference) opcode count rest trivial
    rw [color, Color.field, bind_of_ok h, Color.ofReference_toReference]
    rfl

theorem Exact.of_iff {valid valid' : α → Prop} {fields : α → List Field}
    (h : Exact read valid fields) (hvalid : ∀ a, valid' a ↔ valid a) :
    Exact read valid' fields :=
  funext (fun a => propext (hvalid a)) ▸ h

/-! ### Readers in sequence -/

/-- A reader that takes nothing is exact for the one value that it returns. -/
theorem Exact.pure {valid : α → Prop} (h : ∀ a', valid a' ↔ a' = a) :
    Exact (Pure.pure a) valid fun _ => [] where
  sound {cursor a' last} hread := by
    obtain ⟨rfl, rfl⟩ := pure_eq_ok.mp hread
    exact ⟨(h _).mpr rfl, rfl, rfl⟩
  complete {a'} opcode count rest hvalid := by
    obtain rfl := (h _).mp hvalid
    rfl

/-- Two exact readers in a row are exact when the first value can be picked out of the result. -/
theorem Exact.bind {valid : α → Prop} {fields : α → List Field} {valid' : β → Prop}
    {fields' : β → List Field} {p : β → α} (hread : Exact read valid fields)
    (hpick : ∀ b, valid' b → valid (p b))
    (hnext : ∀ a, Exact (next a) (fun b => valid' b ∧ p b = a) fields') :
    Exact (read >>= next) valid' fun b => fields (p b) ++ fields' b where
  sound {cursor b last} h := by
    obtain ⟨a, mid, hfirst, hsecond⟩ := bind_eq_ok.mp h
    obtain ⟨-, hrest, hmid⟩ := hread.sound hfirst
    -- The first value is the part of the result that was picked, so its words come first.
    obtain ⟨⟨hvalid, rfl⟩, hrest', hlast⟩ := (hnext a).sound hsecond
    refine ⟨hvalid, ?_, ?_⟩
    · rw [hrest, hrest', writtenWords_append, List.append_assoc]
    · rw [hlast, hmid]
  complete {b} opcode count rest hvalid := by
    have hfirst := hread.complete opcode count (writtenWords (fields' b) ++ rest) (hpick b hvalid)
    rw [writtenWords_append, List.append_assoc, bind_of_ok hfirst]
    exact (hnext _).complete opcode count rest ⟨hvalid, rfl⟩

theorem exact_pointYX : Exact pointYX anyValue Point.fieldsYX :=
  exact_int16.bind (p := Point.y) (fun _ _ => trivial) fun _ =>
    exact_int16.bind (p := Point.x) (fun _ _ => trivial) fun _ =>
      .pure fun ⟨_, _⟩ => by simp [anyValue, and_comm]

theorem exact_pointXY : Exact pointXY anyValue Point.fieldsXY :=
  exact_int16.bind (p := Point.x) (fun _ _ => trivial) fun _ =>
    exact_int16.bind (p := Point.y) (fun _ _ => trivial) fun _ =>
      .pure fun ⟨_, _⟩ => by simp [anyValue]

theorem exact_boundsUpward : Exact boundsUpward anyValue Bounds.fieldsUpward :=
  exact_int16.bind (p := Bounds.bottom) (fun _ _ => trivial) fun _ =>
    exact_int16.bind (p := Bounds.right) (fun _ _ => trivial) fun _ =>
      exact_int16.bind (p := Bounds.top) (fun _ _ => trivial) fun _ =>
        exact_int16.bind (p := Bounds.left) (fun _ _ => trivial) fun _ =>
          .pure fun ⟨_, _, _, _⟩ => by simp only [anyValue, Bounds.mk.injEq]; tauto

theorem exact_boundsDownward : Exact boundsDownward anyValue Bounds.fieldsDownward :=
  exact_int16.bind (p := Bounds.left) (fun _ _ => trivial) fun _ =>
    exact_int16.bind (p := Bounds.top) (fun _ _ => trivial) fun _ =>
      exact_int16.bind (p := Bounds.right) (fun _ _ => trivial) fun _ =>
        exact_int16.bind (p := Bounds.bottom) (fun _ _ => trivial) fun _ =>
          .pure fun ⟨_, _, _, _⟩ => by simp only [anyValue, Bounds.mk.injEq]; tauto

theorem exact_area : Exact area anyValue Area.fields :=
  exact_int16.bind (p := Area.height) (fun _ _ => trivial) fun _ =>
    exact_int16.bind (p := Area.width) (fun _ _ => trivial) fun _ =>
      exact_int16.bind (p := Area.y) (fun _ _ => trivial) fun _ =>
        exact_int16.bind (p := Area.x) (fun _ _ => trivial) fun _ =>
          .pure fun ⟨_, _, _, _⟩ => by simp only [anyValue, Area.mk.injEq]; tauto

/-! ### Lists of known length -/

/-- The accumulator of the loop is reversed in front of what is still read. -/
theorem timesOnto_eq (read : Reader α) (n : Nat) (done : List α) (cursor : Cursor) :
    timesOnto read n done cursor =
      ((List.replicate n ()).mapM (fun _ => read) >>= fun values =>
        (pure (done.reverse ++ values) : Reader (List α))) cursor := by
  induction n generalizing done cursor with
  | zero => simp [timesOnto]; rfl
  | succ n ih =>
    rw [List.replicate_succ, List.mapM_cons, timesOnto]
    cases h : read cursor with
    | ok p =>
      simp only [bind_assoc, pure_bind]
      rw [bind_of_ok h, ih]
      simp
    | error fault =>
      simp only [bind_assoc, pure_bind]
      change _ = (read cursor).bind _
      rw [h]
      rfl

theorem times_eq_mapM (n : Nat) (read : Reader α) :
    times n read = (List.replicate n ()).mapM fun _ => read := by
  funext cursor
  change timesOnto read n [] cursor = _
  simp [timesOnto_eq]

/-- One exact reader for each key, in sequence. -/
theorem Exact.mapM {κ : Type} {f : κ → Reader α} {valid : κ → α → Prop}
    {fields : α → List Field} (h : ∀ key, Exact (f key) (valid key) fields) (keys : List κ) :
    Exact (keys.mapM f) (List.Forall₂ valid keys) fun values => values.flatMap fields := by
  -- Along the keys: the words of the first value, then those of the others.
  induction keys with
  | nil =>
    constructor
    · intro cursor values last hread
      obtain ⟨rfl, rfl⟩ := pure_eq_ok.mp hread
      exact ⟨.nil, rfl, rfl⟩
    · rintro values opcode count rest ⟨⟩
      rfl
  | cons key keys ih =>
    rw [List.mapM_cons]
    constructor
    · intro cursor values last hread
      obtain ⟨a, mid, hfirst, hread⟩ := bind_eq_ok.mp hread
      obtain ⟨as, mid', hrest, hlast⟩ := bind_eq_ok.mp hread
      obtain ⟨rfl, rfl⟩ := pure_eq_ok.mp hlast
      obtain ⟨hvalid, htaken, hmid⟩ := (h key).sound hfirst
      obtain ⟨hvalid', htaken', hmid'⟩ := ih.sound hrest
      refine ⟨.cons hvalid hvalid', ?_, ?_⟩
      · rw [htaken, htaken', List.flatMap_cons, writtenWords_append, List.append_assoc]
      · rw [hmid', hmid]
    · intro values opcode count rest hvalid
      cases hvalid with
      | cons hfirst hrest =>
        rw [List.flatMap_cons, writtenWords_append, List.append_assoc,
          bind_of_ok ((h key).complete opcode count _ hfirst),
          bind_of_ok (ih.complete opcode count rest hrest)]
        rfl

theorem forall₂_replicate {valid : α → Prop} {n : Nat} {values : List α} :
    List.Forall₂ (fun _ => valid) (List.replicate n ()) values ↔
      values.length = n ∧ ∀ a ∈ values, valid a := by
  induction n generalizing values with
  | zero =>
    rw [List.replicate_zero, List.forall₂_nil_left_iff, List.length_eq_zero_iff]
    constructor
    · rintro rfl
      simp
    · exact fun h => h.1
  | succ n ih =>
    cases values with
    | nil => simp [List.replicate_succ]
    | cons a values => simp [List.replicate_succ, ih, and_left_comm]

/-- The same exact reader a number of times. -/
theorem Exact.times {valid : α → Prop} {fields : α → List Field} (h : Exact read valid fields)
    (n : Nat) :
    Exact (times n read) (fun values => values.length = n ∧ ∀ a ∈ values, valid a)
      fun values => values.flatMap fields := by
  rw [times_eq_mapM]
  exact (Exact.mapM (fun _ => h) _).of_iff fun _ => forall₂_replicate.symm

theorem exact_words (n : Nat) :
    Exact (times n word) (fun ws => ws.length = n) fun ws => ws.map .word := by
  simpa [anyValue, List.map_eq_flatMap] using exact_word.times n

theorem exact_int16s (n : Nat) :
    Exact (times n int16) (fun values => values.length = n) fun values => values.map .int16 := by
  simpa [anyValue, List.map_eq_flatMap] using exact_int16.times n

theorem exact_colors (n : Nat) :
    Exact (times n color) (fun cs => cs.length = n) fun cs => cs.map Color.field := by
  simpa [anyValue, List.map_eq_flatMap] using exact_color.times n

theorem exact_points (n : Nat) :
    Exact (points n) (fun ps => ps.length = n) fun ps => ps.flatMap Point.fieldsXY :=
  (exact_pointXY.times n).of_iff fun _ => by simp [anyValue]

/-- Lists of points, of which only the lengths are given. -/
theorem exact_rings (counts : List Nat) :
    Exact (counts.mapM points) (fun rings => rings.map List.length = counts)
      fun rings => rings.flatten.flatMap Point.fieldsXY := by
  have hfields (rings : List (List (Point Int16))) :
      (rings.flatMap fun ps => ps.flatMap Point.fieldsXY) =
        rings.flatten.flatMap Point.fieldsXY := by
    rw [List.flatten_eq_flatMap, List.flatMap_assoc]
    rfl
  -- A ring is valid for its count alone, so the lists agree element by element.
  have hexact := Exact.mapM exact_points counts
  simp only [hfields] at hexact
  refine hexact.of_iff fun rings => ?_
  have h := List.forall₂_map_right_iff (R := Eq) (f := List.length) (l := counts) (u := rings)
  rw [List.forall₂_eq_eq_eq] at h
  rw [eq_comm, h]
  simp only [eq_comm]

/-! ### Runs of bytes -/

/-- A run of bytes takes whole words, of which it drops the padding. -/
theorem eq_of_bytes {n : Nat} {data : Bytes} (h : bytes n cursor = .ok (data, last)) :
    data.length = n ∧ ∃ taken, taken.length = wordsFor n ∧ cursor.rest = taken ++ last.rest ∧
      data = (unpackWords taken).take n ∧ last = { cursor with rest := last.rest } := by
  unfold bytes at h
  split at h
  · cases h
  · rename_i hlen
    simp only [Except.ok.injEq, Prod.mk.injEq] at h
    obtain ⟨rfl, rfl⟩ := h
    have hwords : (cursor.rest.take (wordsFor n)).length = wordsFor n := by
      simp only [List.length_take]
      omega
    -- The words hold `n` bytes, or one more when `n` is odd.
    refine ⟨?_, _, hwords, (List.take_append_drop _ _).symm, rfl, rfl⟩
    rw [List.length_take, length_unpackWords, hwords]
    simp only [wordsFor]
    omega

/-- The packed form of a run of bytes is read back. -/
theorem bytes_packWords (opcode : UInt16) (count : Nat) (data : Bytes) (rest : List UInt16) :
    bytes data.length ⟨opcode, count, packWords data ++ rest⟩ =
      .ok (data, ⟨opcode, count, rest⟩) := by
  have hlen : ¬ (packWords data ++ rest).length < wordsFor data.length := by
    simp
  unfold bytes
  rw [if_neg hlen]
  simp [← length_packWords]

end Reader

end WindowsMetafile
