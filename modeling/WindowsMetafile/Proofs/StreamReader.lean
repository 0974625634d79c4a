import WindowsMetafile.Proofs.Grammar

/-!
# Bodies read item by item

A reader of a body stands at a byte position and gives one item after the other. A record takes as
many bytes as it has on file, a fault takes none, and nothing is given behind a fault or behind the
record that ends the metafile. Hence the records that were given so far are the bytes in front of
the position, whatever the body holds, and the reader comes to an end.

## Main definitions

* `StreamReader` — a reader between two items of a body
* `StreamReader.next` — the next item, with the reader behind it
* `StreamReader.Gives` — the items that a reader gives on its way to another one

## Main results

* `Record.ofBytes_toBytes_append`, `Record.toBytes_of_ofBytes` — a record is read as it was written,
  and written as it was read
* `StreamReader.gives_readStream` — the reader gives the items of the body, and then no more
* `StreamReader.readStream_partition` — at every step, the records are the bytes up to the position
-/

namespace WindowsMetafile

variable {body rest : Bytes} {record : Record} {fault : Fault}

namespace Record

/-- A record is read as it was written, whatever comes after it. -/
theorem ofBytes_toBytes_append (h : record.size < 4294967296) (rest : Bytes) :
    ofBytes (record.toBytes ++ rest) = .ok record := by
  rw [ofBytes, split_toBytes h]
  rfl

theorem ofBytes_ok_iff_split {bytes : Bytes} :
    ofBytes bytes = .ok record ↔ ∃ rest, split bytes = .ok (record, rest) := by
  rw [ofBytes]
  cases split bytes with
  | error fault => simp [Except.map]
  | ok found => simp [Except.map, Prod.ext_iff, eq_comm]

theorem ofBytes_error_iff_split {bytes : Bytes} :
    ofBytes bytes = .error fault ↔ split bytes = .error fault := by
  rw [ofBytes]
  cases split bytes <;> simp [Except.map]

/-- A record is written as it was read: as the bytes of the size that they declare. -/
theorem toBytes_of_ofBytes {bytes : Bytes} (h : ofBytes bytes = .ok record) :
    ∃ words, longAt? bytes 0 = some words ∧ 2 * words.toNat ≤ bytes.length ∧
      record.toBytes = bytes.take (2 * words.toNat) := by
  obtain ⟨rest, hsplit⟩ := ofBytes_ok_iff_split.mp h
  obtain ⟨hsize, rfl⟩ := eq_toBytes_append_of_split hsplit
  have hwords : (UInt32.ofNat record.size).toNat = record.size := UInt32.toNat_ofNat_of_lt' hsize
  refine ⟨UInt32.ofNat record.size, ?_, ?_, ?_⟩
  · simp [toBytes_eq_unpackWords, longAt?]
  · rw [hwords, List.length_append, length_toBytes]
    exact Nat.le_add_right ..
  · rw [hwords, ← length_toBytes, List.take_left]

end Record

/-! ### Items -/

namespace StreamItem

/-- The record of an item on file; a fault has no bytes. -/
def bytes (item : StreamItem) : Bytes :=
  match item.outcome with
  | .ok record => record.toBytes
  | .error _ => []

/-- Whether nothing is given behind an item. -/
def Closes (item : StreamItem) : Prop :=
  ∀ record, item.outcome = .ok record → record.endsStream = true

theorem not_closes_iff {item : StreamItem} :
    ¬ item.Closes ↔ ∃ record, item.outcome = .ok record ∧ record.endsStream = false := by
  simp [Closes]

end StreamItem

/-- A reader of a body between two items. -/
structure StreamReader where
  body : Bytes
  /-- The number of bytes behind the reader. -/
  position : Nat
  /-- Nothing more is given. -/
  done : Bool

namespace StreamReader

/-- The reader in front of a body. -/
def start (body : Bytes) : StreamReader :=
  ⟨body, 0, false⟩

/-- The next item, if there is one, and the reader behind it. The reader moves by the size with
which the record would be written, whatever size it was read with. -/
def next (reader : StreamReader) : Option (Except Fault Record × StreamReader) :=
  if reader.done || reader.body.length ≤ reader.position then none
  else
    match Record.ofBytes (reader.body.drop reader.position) with
    | .ok record =>
      let bytes := 2 * (UInt32.ofNat record.size).toNat
      some (.ok record,
        { reader with position := reader.position + bytes, done := record.endsStream })
    | .error fault => some (.error fault, { reader with done := true })

/-- The items that a reader gives one after the other, until it has become another one. -/
inductive Gives : StreamReader → List StreamItem → StreamReader → Prop
  | nothing (reader : StreamReader) : Gives reader [] reader
  | item {reader after last : StreamReader} {outcome : Except Fault Record}
      {items : List StreamItem} (hnext : reader.next = some (outcome, after))
      (hitems : Gives after items last) : Gives reader (⟨outcome, after.position⟩ :: items) last

variable {reader after last : StreamReader} {outcome : Except Fault Record}
variable {items : List StreamItem}

/-! ### One step -/

theorem next_eq_none_iff :
    reader.next = none ↔ reader.done = true ∨ reader.body.length ≤ reader.position := by
  rw [next]
  split
  · rename_i h
    simpa using h
  · rename_i h
    have hmore : ¬ (reader.done = true ∨ reader.body.length ≤ reader.position) := by simpa using h
    split <;> simp [hmore]

/-- What is given by one step: a complete record, by whose bytes the reader moves, or a fault, which
stops it where it is. -/
inductive Step (reader : StreamReader) : Except Fault Record → StreamReader → Prop
  | record (record : Record) (rest : Bytes)
      (hbytes : reader.body.drop reader.position = record.toBytes ++ rest) :
      Step reader (.ok record) ⟨reader.body, reader.position + 2 * record.size, record.endsStream⟩
  | fault (fault : Fault) : Step reader (.error fault) ⟨reader.body, reader.position, true⟩

theorem not_ended (hdone : reader.done = false) (hmore : reader.position < reader.body.length) :
    ¬ (reader.done || decide (reader.body.length ≤ reader.position)) = true := by
  simp [hdone, hmore]

theorem next_of_split (hdone : reader.done = false) (hmore : reader.position < reader.body.length)
    (h : Record.split (reader.body.drop reader.position) = .ok (record, rest)) :
    reader.next = some (.ok record,
      ⟨reader.body, reader.position + 2 * record.size, record.endsStream⟩) := by
  obtain ⟨hsize, -⟩ := Record.eq_toBytes_append_of_split h
  have hwords : (UInt32.ofNat record.size).toNat = record.size := UInt32.toNat_ofNat_of_lt' hsize
  rw [next, if_neg (not_ended hdone hmore), Record.ofBytes_ok_iff_split.mpr ⟨rest, h⟩]
  simp only [hwords]

theorem next_of_split_error (hdone : reader.done = false)
    (hmore : reader.position < reader.body.length)
    (h : Record.split (reader.body.drop reader.position) = .error fault) :
    reader.next = some (.error fault, ⟨reader.body, reader.position, true⟩) := by
  rw [next, if_neg (not_ended hdone hmore), Record.ofBytes_error_iff_split.mpr h]

theorem step_of_next (h : reader.next = some (outcome, after)) : reader.Step outcome after := by
  have hgoes : ¬ (reader.done = true ∨ reader.body.length ≤ reader.position) := by
    rw [← next_eq_none_iff, h]
    nofun
  obtain ⟨hdone, hmore⟩ := not_or.mp hgoes
  rw [Bool.not_eq_true] at hdone
  rw [Nat.not_le] at hmore
  cases hsplit : Record.split (reader.body.drop reader.position) with
  | ok found =>
    obtain ⟨record, rest⟩ := found
    obtain ⟨-, hbytes⟩ := Record.eq_toBytes_append_of_split hsplit
    rw [next_of_split hdone hmore hsplit] at h
    cases h
    exact .record record rest hbytes
  | error fault =>
    rw [next_of_split_error hdone hmore hsplit] at h
    cases h
    exact .fault fault

theorem Step.body_eq (h : reader.Step outcome after) : after.body = reader.body := by
  cases h <;> rfl

/-- A record is as long as its bytes, so the reader stays inside of the body. -/
theorem Step.position_le (h : reader.Step outcome after)
    (hinside : reader.position ≤ reader.body.length) : after.position ≤ after.body.length := by
  cases h with
  | record record rest hbytes =>
    have hlength := congrArg List.length hbytes
    rw [List.length_drop, List.length_append, Record.length_toBytes] at hlength
    dsimp only
    omega
  | fault fault => exact hinside

theorem Step.le (h : reader.Step outcome after) : reader.position ≤ after.position := by
  cases h with
  | record record rest hbytes => exact Nat.le_add_right ..
  | fault fault => exact Nat.le_refl _

/-- A reader that goes on has passed over a record, which takes six bytes at least. -/
theorem Step.six_le (h : reader.Step outcome after) (hdone : after.done = false) :
    reader.position + 6 ≤ after.position := by
  cases h with
  | record record rest hbytes =>
    dsimp only [Record.size, Record.headerWords]
    omega
  | fault fault => cases hdone

/-- The bytes of the item stand between the two positions. -/
theorem Step.take (h : reader.Step outcome after)
    (hinside : reader.position ≤ reader.body.length) (position : Nat) :
    reader.body.take reader.position ++ StreamItem.bytes ⟨outcome, position⟩ =
      after.body.take after.position := by
  cases h with
  | record record rest hbytes =>
    -- What stands behind the position begins with the record.
    have htaken := List.take_append_drop reader.position reader.body
    rw [hbytes, ← List.append_assoc] at htaken
    have hlength : (reader.body.take reader.position ++ record.toBytes).length =
        reader.position + 2 * record.size := by
      rw [List.length_append, List.length_take_of_le hinside, Record.length_toBytes]
    calc reader.body.take reader.position ++ record.toBytes
        = (reader.body.take reader.position ++ record.toBytes ++ rest).take
            (reader.position + 2 * record.size) := by rw [← hlength, List.take_left]
      _ = reader.body.take (reader.position + 2 * record.size) := by rw [htaken]
  | fault fault => exact List.append_nil _

/-- Nothing is given behind a fault, nor behind the record that ends the metafile. -/
theorem Step.done (h : reader.Step outcome after) (position : Nat) :
    after.done = true ↔ StreamItem.Closes ⟨outcome, position⟩ := by
  cases h with
  | record record rest hbytes => simp [StreamItem.Closes]
  | fault fault => simp [StreamItem.Closes]

/-! ### All steps -/

/-- How a reader is related to the one that it becomes when it gives some items. -/
structure Follows (reader : StreamReader) (items : List StreamItem) (last : StreamReader) :
    Prop where
  body : last.body = reader.body
  /-- The reader stays inside of the body. -/
  inside : last.position ≤ last.body.length
  /-- The bytes of the items stand between the two positions. -/
  bytes : reader.body.take reader.position ++ items.flatMap StreamItem.bytes =
    last.body.take last.position
  /-- Every item but a fault takes six bytes at least. -/
  few : 6 * items.length + reader.position ≤ last.position + 6
  /-- Only the last item can be a fault, or end the metafile. -/
  inner : ∀ item ∈ items.dropLast, ¬ item.Closes
  /-- The reader has come to its end just behind such an item. -/
  closed : last.done = true → ∃ item ∈ items.getLast?, item.Closes

theorem follows_nothing (hdone : reader.done = false)
    (hinside : reader.position ≤ reader.body.length) : reader.Follows [] reader where
  body := rfl
  inside := hinside
  bytes := List.append_nil _
  few := by
    rw [List.length_nil, Nat.mul_zero, Nat.zero_add]
    exact Nat.le_add_right ..
  inner := List.forall_mem_nil _
  closed h := absurd h (by simp [hdone])

theorem Step.follows_last (h : reader.Step outcome after)
    (hinside : reader.position ≤ reader.body.length) :
    reader.Follows [⟨outcome, after.position⟩] after where
  body := h.body_eq
  inside := h.position_le hinside
  bytes := by
    rw [List.flatMap_singleton]
    exact h.take hinside after.position
  few := by
    have hmoves := h.le
    rw [List.length_singleton]
    omega
  inner := List.forall_mem_nil _
  closed hdone := ⟨_, rfl, (h.done after.position).mp hdone⟩

/-- A step in front of others, as long as the reader goes on. -/
theorem Step.follows_cons (h : reader.Step outcome after) (hdone : after.done = false)
    (hinside : reader.position ≤ reader.body.length) (hitems : after.Follows items last) :
    reader.Follows (⟨outcome, after.position⟩ :: items) last where
  body := hitems.body.trans h.body_eq
  inside := hitems.inside
  bytes := by
    rw [List.flatMap_cons, ← List.append_assoc, h.take hinside after.position]
    exact hitems.bytes
  few := by
    have hmoves := h.six_le hdone
    have hfew := hitems.few
    rw [List.length_cons]
    omega
  inner := by
    have hopen : ¬ StreamItem.Closes ⟨outcome, after.position⟩ := by
      rw [← h.done after.position, hdone]
      nofun
    cases items with
    | nil => exact List.forall_mem_nil _
    | cons item items =>
      rw [List.dropLast_cons_cons, List.forall_mem_cons]
      exact ⟨hopen, hitems.inner⟩
  closed hlast := by
    obtain ⟨item, hitem, hcloses⟩ := hitems.closed hlast
    exact ⟨item, List.mem_getLast?_cons hitem, hcloses⟩

/-- Every way that a reader goes is made of such steps, and ends behind one that closes. -/
theorem Gives.follows (h : reader.Gives items last) (hdone : reader.done = false)
    (hinside : reader.position ≤ reader.body.length) : reader.Follows items last := by
  -- Along the way that the reader goes: what holds behind the first item holds from there on.
  induction h with
  | nothing reader => exact follows_nothing hdone hinside
  | @item reader after last outcome items hnext hitems ih =>
    have hstep := step_of_next hnext
    cases hafter : after.done with
    | false => exact hstep.follows_cons hafter hinside (ih hafter (hstep.position_le hinside))
    | true =>
      -- The reader has come to its end, so this was the last item.
      cases hitems with
      | nothing => exact hstep.follows_last hinside
      | item hmore => exact absurd (hmore.symm.trans (next_eq_none_iff.mpr (.inl hafter))) nofun

/-! ### The items of a body -/

/-- With fuel for all records that the bytes can hold, the items are those that the reader gives,
and it gives no more. -/
theorem gives_readFrom {fuel position : Nat} (hinside : position ≤ body.length)
    (hfuel : body.length < position + 6 * fuel) :
    ∃ last, Gives ⟨body, position, false⟩ (readFrom fuel position (body.drop position)) last ∧
      last.next = none := by
  -- Every round passes six bytes, so the body ends before the fuel does.
  induction fuel generalizing position with
  | zero => omega
  | succ fuel ih =>
    obtain hend | hmore := Nat.eq_or_lt_of_le hinside
    · have hlength : body.length ≤ position := Nat.le_of_eq hend.symm
      rw [List.drop_of_length_le hlength]
      exact ⟨⟨body, position, false⟩, .nothing _, next_eq_none_iff.mpr (.inr hlength)⟩
    · have hdone : (StreamReader.mk body position false).done = false := rfl
      cases hsplit : Record.split (body.drop position) with
      | ok found =>
        obtain ⟨record, rest⟩ := found
        have hnext := next_of_split hdone hmore hsplit
        have hstep := step_of_next hnext
        rw [readFrom_of_split hsplit]
        cases hends : record.endsStream with
        | true => exact ⟨_, .item hnext (.nothing _), next_eq_none_iff.mpr (.inl hends)⟩
        | false =>
          obtain ⟨hsize, hbytes⟩ := Record.eq_toBytes_append_of_split hsplit
          have hrest : rest = body.drop (position + 2 * record.size) := by
            rw [← List.drop_drop, hbytes, ← Record.length_toBytes, List.drop_left]
          have hmoves : position + 6 ≤ position + 2 * record.size := hstep.six_le hends
          have hafter : position + 2 * record.size ≤ body.length := hstep.position_le hinside
          obtain ⟨last, hgives, hlast⟩ := ih hafter (by omega)
          rw [hrest]
          rw [hends] at hnext
          exact ⟨last, .item hnext hgives, hlast⟩
      | error fault =>
        have hnext := next_of_split_error hdone hmore hsplit
        have hbody : body.drop position ≠ [] := by simpa using hmore
        rw [readFrom_of_split_error hbody hsplit]
        exact ⟨_, .item hnext (.nothing _), next_eq_none_iff.mpr (.inl rfl)⟩

theorem gives_readStream (body : Bytes) :
    ∃ last, (start body).Gives (readStream body) last ∧ last.next = none :=
  gives_readFrom (Nat.zero_le _) (by omega)

/-- A reader gives one thing after the other in one way only. -/
theorem Gives.prefix_of_last {more : List StreamItem} (h : reader.Gives items after)
    (hmore : reader.Gives more last) (hlast : last.next = none) : items <+: more := by
  induction h generalizing more with
  | nothing reader => exact List.nil_prefix
  | item hnext hitems ih =>
    cases hmore with
    | nothing => cases hlast.symm.trans hnext
    | item hnext' hmore =>
      cases hnext.symm.trans hnext'
      exact (List.cons_prefix_cons).mpr ⟨rfl, ih hmore⟩

/-- The reader of a body comes to its end behind the items of the body, of which there is at most
one more than the body has runs of six bytes. Wherever it stands on its way, the records in front of
it are the bytes up to its position; only the last item so far can be a fault or end the metafile, a
fault does not move the reader, and without either the reader ends at the end of the body. Records
are read as they were written, and written as they were read. -/
theorem readStream_partition (body : Bytes) :
    (∃ last, (start body).Gives (readStream body) last ∧ last.next = none) ∧
    (readStream body).length ≤ body.length / 6 + 1 ∧
    (∀ items reader, (start body).Gives items reader →
      items <+: readStream body ∧ reader.position ≤ body.length ∧
      items.flatMap StreamItem.bytes = body.take reader.position ∧
      (∀ item ∈ items.dropLast, ∃ record, item.outcome = .ok record ∧
        record.endsStream = false) ∧
      (∀ fault after, reader.next = some (.error fault, after) →
        after.position = reader.position ∧ after.next = none) ∧
      (reader.next = none →
        (∀ item ∈ items, ∃ record, item.outcome = .ok record ∧ record.endsStream = false) →
          reader.position = body.length)) ∧
    (∀ (record : Record) tail, record.params.length < 4294967296 - 3 →
      Record.ofBytes (record.toBytes ++ tail) = .ok record) ∧
    ∀ bytes record, Record.ofBytes bytes = .ok record →
      ∃ words, longAt? bytes 0 = some words ∧ 2 * words.toNat ≤ bytes.length ∧
        record.toBytes = bytes.take (2 * words.toNat) := by
  obtain ⟨last, hgives, hlast⟩ := gives_readStream body
  refine ⟨⟨last, hgives, hlast⟩, ?_, fun items reader h => ?_, fun record tail hfew => ?_,
    fun bytes record => Record.toBytes_of_ofBytes⟩
  · have hfollows := hgives.follows rfl (Nat.zero_le _)
    have hfew : 6 * (readStream body).length ≤ last.position + 6 := hfollows.few
    have hbody : last.body = body := hfollows.body
    have hinside : last.position ≤ body.length := hbody ▸ hfollows.inside
    omega
  · have hfollows := h.follows rfl (Nat.zero_le _)
    have hbody : reader.body = body := hfollows.body
    have hinside : reader.position ≤ body.length := hbody ▸ hfollows.inside
    refine ⟨h.prefix_of_last hgives hlast, hinside, ?_, fun item hitem => ?_,
      fun fault after hfault => ?_, fun hend hopen => ?_⟩
    · rw [← hbody]
      exact hfollows.bytes
    · exact StreamItem.not_closes_iff.mp (hfollows.inner item hitem)
    · cases step_of_next hfault
      exact ⟨rfl, next_eq_none_iff.mpr (.inl rfl)⟩
    · obtain hdone | hbehind := next_eq_none_iff.mp hend
      · obtain ⟨item, hitem, hcloses⟩ := hfollows.closed hdone
        have hmem := List.mem_of_getLast? hitem
        exact absurd hcloses (StreamItem.not_closes_iff.mpr (hopen item hmem))
      · exact Nat.le_antisymm hinside (hbody ▸ hbehind)
  · have hsize : record.size < 4294967296 := by
      rw [Record.size, Record.headerWords]
      omega
    exact Record.ofBytes_toBytes_append hsize tail

end StreamReader

end WindowsMetafile
