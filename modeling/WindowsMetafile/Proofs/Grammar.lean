import WindowsMetafile.Proofs.Stream

/-!
# The grammar of metafiles

Which runs of bytes are metafiles, said without the reader: a placeable header with its checksum may
stand in front, a standard header of nine words or more follows, and then complete records, of which
only the last one may end the metafile. Bytes may follow that one, and no other.

## Main definitions

* `Record.OnFile` — bytes that are a complete record
* `IsBody` — bytes that are the records of a metafile, with what may follow them
* `Placeable.Fits`, `StandardHeader.Fits` — bytes that start with the headers of a metafile

## Main results

* `Record.split_eq_ok_iff` — the reader splits off complete records, and nothing else
* `readRecords_eq_ok_iff` — a body is read as its records, and nothing else is read
* `Metafile.ofBytes_eq_ok_iff` — the reader accepts the metafiles, and tells what is wrong with
  other bytes: their headers, or else a record
* `Metafile.looksLike_of_ofBytes` — the quick look at a metafile misses those that have a longer
  standard header and no placeable one
-/

namespace WindowsMetafile

/-! ### Words in bytes -/

variable {bytes : Bytes} {words : List UInt16}

/-- An even number of bytes packs without loss. -/
theorem unpackWords_packWords {count : Nat} (h : bytes.length = 2 * count) :
    unpackWords (packWords bytes) = bytes := by
  have hlength : (unpackWords (packWords bytes)).length = bytes.length := by
    rw [length_unpackWords, length_packWords, h, wordsFor]
    omega
  rw [← List.take_of_length_le (Nat.le_of_eq hlength), take_unpackWords_packWords]

theorem length_take_lt {count : Nat} (h : ¬ count ≤ bytes.length) :
    (bytes.take count).length < count := by
  rw [List.length_take]
  exact Nat.lt_of_le_of_lt (Nat.min_le_right ..) (Nat.not_le.mp h)

/-- Bytes that are long enough start with a number of words. -/
theorem exists_eq_unpackWords_append (count : Nat) (h : 2 * count ≤ bytes.length) :
    ∃ words rest, words.length = count ∧ bytes = unpackWords words ++ rest := by
  have hlength : (bytes.take (2 * count)).length = 2 * count := List.length_take_of_le h
  refine ⟨packWords (bytes.take (2 * count)), bytes.drop (2 * count), ?_, ?_⟩
  · rw [length_packWords, hlength, wordsFor]
    omega
  · rw [unpackWords_packWords hlength, List.take_append_drop]

theorem take_unpackWords_append (rest : Bytes) {count : Nat} (h : count ≤ words.length) :
    (unpackWords words ++ rest).take (2 * count) = unpackWords (words.take count) := by
  induction words generalizing count with
  | nil =>
    obtain rfl : count = 0 := Nat.le_zero.mp h
    rfl
  | cons word words ih =>
    cases count with
    | zero => rfl
    | succ count =>
      rw [Nat.mul_succ, unpackWords_cons, List.take_succ_cons, unpackWords_cons,
        ← ih (by simpa using h)]
      rfl

theorem take_unpackWords_append_of_length (rest : Bytes) {count : Nat} (h : words.length = count) :
    (unpackWords words ++ rest).take (2 * count) = unpackWords words := by
  rw [take_unpackWords_append rest h.ge, List.take_of_length_le h.le]

theorem wordAt?_unpackWords_append (words : List UInt16) (rest : Bytes) (place : Nat)
    (h : place < words.length) :
    wordAt? (unpackWords words ++ rest) (2 * place) = some words[place] := by
  induction words generalizing place with
  | nil => cases h
  | cons word words ih =>
    cases place with
    | zero => simp [wordAt?]
    | succ place => exact ih place (Nat.lt_of_succ_lt_succ h)

theorem longAt?_zero_eq_some_iff {long : UInt32} :
    longAt? bytes 0 = some long ↔ bytes.take 4 = Long.toBytes long := by
  constructor
  · intro h
    match bytes, h with
    | a :: b :: c :: d :: bytes, h =>
      obtain rfl := Option.some.inj h
      simp [Long.toBytes, Word.toBytes]
  · intro h
    rw [← List.take_append_drop 4 bytes, h]
    simp [longAt?, Long.toBytes, Word.toBytes]

theorem longAt?_unpackWords_append (low high : UInt16) (words : List UInt16) (rest : Bytes) :
    longAt? (unpackWords (low :: high :: words) ++ rest) 0 = some (Long.ofWords low high) := by
  simp [longAt?]

theorem take_two_of_longAt? {rest : Bytes} {long : UInt32} (hlength : 2 ≤ words.length)
    (h : longAt? (unpackWords words ++ rest) 0 = some long) :
    words.take 2 = [Long.low long, Long.high long] := by
  match words, hlength with
  | low :: high :: words, _ =>
    rw [longAt?_unpackWords_append] at h
    obtain rfl := Option.some.inj h
    simp

/-! ### Records -/

namespace Record

variable {record : Record} {rest : Bytes} {fault : Fault}

/-- Bytes that are a complete record: they declare a size of three words or more, which is their
own, and hold the function code and the parameters behind it. -/
structure OnFile (record : Record) (bytes : Bytes) : Prop where
  size : ∃ words, longAt? bytes 0 = some words ∧ 3 ≤ words.toNat ∧ bytes.length = 2 * words.toNat
  opcode : wordAt? bytes 4 = some record.opcode
  params : bytes.drop 6 = unpackWords record.params

theorem toBytes_eq_unpackWords (record : Record) :
    record.toBytes = unpackWords (Long.low (UInt32.ofNat record.size) ::
      Long.high (UInt32.ofNat record.size) :: record.opcode :: record.params) := rfl

/-- There is one way to put a record on file, as long as its size can be declared. -/
theorem onFile_iff : record.OnFile bytes ↔ record.size < 4294967296 ∧ bytes = record.toBytes := by
  constructor
  · rintro ⟨⟨words, hsize, hleast, hlength⟩, hopcode, hparams⟩
    -- The bytes are as many words as they declare, so nothing is left behind these.
    obtain ⟨all, rest, hall, rfl⟩ := exists_eq_unpackWords_append _ (Nat.le_of_eq hlength.symm)
    obtain rfl : rest = [] := by
      rw [List.length_append, length_unpackWords, hall] at hlength
      exact List.length_eq_zero_iff.mp (by omega)
    match all with
    | [] | [_] | [_, _] => simp at hall; omega
    | low :: high :: opcode :: params =>
      rw [longAt?_unpackWords_append, Option.some.injEq] at hsize
      have hcode := wordAt?_unpackWords_append (low :: high :: opcode :: params) [] 2
        (by simp)
      obtain rfl : opcode = record.opcode := Option.some.inj (hcode.symm.trans hopcode)
      obtain rfl : params = record.params := by
        have hpacked := congrArg packWords hparams
        simpa using hpacked
      have hwords : record.size = words.toNat := hall
      refine ⟨hwords ▸ words.toNat_lt, ?_⟩
      rw [toBytes_eq_unpackWords, hwords, UInt32.ofNat_toNat, ← hsize, Long.low_ofWords,
        Long.high_ofWords, List.append_nil]
  · rintro ⟨hsize, rfl⟩
    have hdeclared : (UInt32.ofNat record.size).toNat = record.size :=
      UInt32.toNat_ofNat_of_lt' hsize
    refine ⟨⟨UInt32.ofNat record.size, ?_, ?_, ?_⟩, ?_, ?_⟩
    · simp [toBytes_eq_unpackWords, longAt?]
    · rw [hdeclared]
      exact Nat.le_add_left ..
    · rw [hdeclared, length_toBytes]
    · simp [toBytes_eq_unpackWords, wordAt?]
    · simp [toBytes_eq_unpackWords]

/-- A record whose parameters come from bytes is those bytes behind its size and function code. -/
theorem toBytes_packWords {words : UInt32} {params : Bytes} (opcode : UInt16)
    (hleast : headerWords ≤ words.toNat)
    (hlength : params.length = 2 * (words.toNat - headerWords)) :
    size ⟨opcode, packWords params⟩ = words.toNat ∧
      toBytes ⟨opcode, packWords params⟩ = Long.toBytes words ++ Word.toBytes opcode ++ params := by
  have hsize : size ⟨opcode, packWords params⟩ = words.toNat := by
    rw [size, length_packWords, hlength, wordsFor]
    omega
  refine ⟨hsize, ?_⟩
  rw [toBytes, hsize, UInt32.ofNat_toNat, unpackWords_packWords hlength]

theorem eq_toBytes_append_of_split (h : split bytes = .ok (record, rest)) :
    record.size < 4294967296 ∧ bytes = record.toBytes ++ rest := by
  unfold split at h
  split at h
  · rename_i s₀ s₁ s₂ s₃ o₀ o₁ body
    dsimp only at h
    generalize hwords : Long.ofWords (Word.ofBytes s₀ s₁) (Word.ofBytes s₂ s₃) = words at h
    split at h
    · cases h
    · rename_i hleast
      split at h
      · cases h
      · rename_i hcomplete
        cases h
        obtain ⟨hsize, hbytes⟩ := toBytes_packWords (Word.ofBytes o₀ o₁) (Nat.not_lt.mp hleast)
          (Nat.le_antisymm (List.length_take_le ..) (Nat.not_lt.mp hcomplete))
        refine ⟨hsize.trans_lt words.toNat_lt, ?_⟩
        rw [hbytes, List.append_assoc, List.take_append_drop]
        simp [Long.toBytes, Word.toBytes, ← hwords]
  · cases h

/-- A record is split off the bytes that start with a complete record. -/
theorem split_eq_ok_iff :
    split bytes = .ok (record, rest) ↔ ∃ front, record.OnFile front ∧ bytes = front ++ rest := by
  constructor
  · intro h
    obtain ⟨hsize, hbytes⟩ := eq_toBytes_append_of_split h
    exact ⟨record.toBytes, onFile_iff.mpr ⟨hsize, rfl⟩, hbytes⟩
  · rintro ⟨front, hfront, rfl⟩
    obtain ⟨hsize, rfl⟩ := onFile_iff.mp hfront
    exact split_toBytes hsize rest

theorem malformed_of_split (h : split bytes = .error fault) :
    ∃ opcode defect, fault = .malformed opcode defect := by
  unfold split at h
  split at h
  · dsimp only at h
    split at h
    · cases h
      exact ⟨_, _, rfl⟩
    · split at h
      · cases h
        exact ⟨_, _, rfl⟩
      · cases h
  · cases h
    exact ⟨_, _, rfl⟩

end Record

/-! ### Bodies -/

/-- Bytes that are the records of a metafile: complete records, of which only the last one may end
the metafile. Other bytes may follow a record that ends the metafile. -/
structure IsBody (records : List Record) (body : Bytes) : Prop where
  parts : ∃ parts tail, List.Forall₂ Record.OnFile records parts ∧ body = parts.flatten ++ tail ∧
    (tail = [] ∨ ∃ last ∈ records.getLast?, last.endsStream = true)
  inner : ∀ record ∈ records.dropLast, record.endsStream = false

variable {record : Record} {records : List Record} {body : Bytes} {fault : Fault}

theorem Record.OnFile.ne_nil (h : record.OnFile bytes) : bytes ≠ [] := by
  rintro rfl
  obtain ⟨-, hbytes⟩ := Record.onFile_iff.mp h
  have hlength := congrArg List.length hbytes
  simp [Record.size, Record.headerWords] at hlength

theorem isBody_nil_iff : IsBody records [] ↔ records = [] := by
  constructor
  · rintro ⟨⟨parts, tail, hparts, hbody, -⟩, -⟩
    cases hparts with
    | nil => rfl
    | cons hpart _ =>
      rw [List.flatten_cons, List.append_assoc] at hbody
      exact absurd (List.append_eq_nil_iff.mp hbody.symm).1 hpart.ne_nil
  · rintro rfl
    exact ⟨⟨[], [], .nil, rfl, .inl rfl⟩, List.forall_mem_nil _⟩

/-- A body that is not empty starts with a record, and has more records if that one does not end
the metafile. -/
theorem isBody_iff (h : body ≠ []) :
    IsBody records body ↔ ∃ record rest more, Record.split body = .ok (record, rest) ∧
      records = record :: more ∧
      if record.endsStream then more = [] else IsBody more rest := by
  constructor
  · rintro ⟨⟨parts, tail, hparts, rfl, htail⟩, hinner⟩
    cases hparts with
    | nil =>
      obtain rfl | ⟨last, hlast, -⟩ := htail
      · exact absurd rfl h
      · cases hlast
    | @cons record front more parts hfront hparts =>
      refine ⟨record, parts.flatten ++ tail, more, ?_, rfl, ?_⟩
      · rw [Record.split_eq_ok_iff]
        exact ⟨front, hfront, by rw [List.flatten_cons, List.append_assoc]⟩
      · cases more with
        | nil =>
          cases hparts
          split
          · rfl
          · rename_i hends
            -- Nothing follows the last record, since it does not end the metafile.
            obtain rfl | ⟨last, hlast, hclosed⟩ := htail
            · exact isBody_nil_iff.mpr rfl
            · cases hlast
              exact absurd hclosed hends
        | cons next more =>
          rw [List.dropLast_cons_cons, List.forall_mem_cons] at hinner
          rw [if_neg (by simp [hinner.1])]
          rw [List.getLast?_cons_cons] at htail
          exact ⟨⟨parts, tail, hparts, rfl, htail⟩, hinner.2⟩
  · rintro ⟨record, rest, more, hsplit, rfl, hmore⟩
    obtain ⟨front, hfront, rfl⟩ := Record.split_eq_ok_iff.mp hsplit
    split at hmore
    · rename_i hends
      subst hmore
      refine ⟨⟨[front], rest, .cons hfront .nil, by simp, .inr ⟨record, rfl, hends⟩⟩, ?_⟩
      exact List.forall_mem_nil _
    · rename_i hends
      obtain ⟨⟨parts, tail, hparts, rfl, htail⟩, hinner⟩ := hmore
      refine ⟨⟨front :: parts, tail, .cons hfront hparts, by simp, ?_⟩, ?_⟩
      · refine htail.imp_right ?_
        rintro ⟨last, hlast, hclosed⟩
        exact ⟨last, List.mem_getLast?_cons hlast, hclosed⟩
      · cases more with
        | nil => exact List.forall_mem_nil _
        | cons next more =>
          rw [List.dropLast_cons_cons, List.forall_mem_cons]
          exact ⟨by simpa using hends, hinner⟩

/-- Whether there are more items behind a record depends on whether it ends the metafile. -/
theorem readFrom_of_split {record : Record} {rest : Bytes}
    (h : Record.split body = .ok (record, rest)) (fuel position : Nat) :
    readFrom (fuel + 1) position body = ⟨.ok record, position + 2 * record.size⟩ ::
      if record.endsStream then [] else readFrom fuel (position + 2 * record.size) rest := by
  cases body with
  | nil => cases h
  | cons byte body =>
    rw [readFrom, h]
    exact List.cons_ne_nil byte body

theorem readFrom_of_split_error (hbody : body ≠ []) (h : Record.split body = .error fault)
    (fuel position : Nat) : readFrom (fuel + 1) position body = [⟨.error fault, position⟩] := by
  obtain ⟨byte, bytes, rfl⟩ := List.exists_cons_of_ne_nil hbody
  rw [readFrom, h]
  exact hbody

section Items

variable {record : Record} {items : List StreamItem} {position : Nat}

theorem mapM_outcome_cons (record : Record) (position : Nat) (items : List StreamItem) :
    (⟨.ok record, position⟩ :: items).mapM StreamItem.outcome =
      (items.mapM StreamItem.outcome).map (record :: ·) := by
  rw [List.mapM_cons]
  cases items.mapM StreamItem.outcome <;> rfl

theorem mapM_outcome_cons_eq_ok :
    (⟨.ok record, position⟩ :: items).mapM StreamItem.outcome = .ok records ↔
      ∃ more, items.mapM StreamItem.outcome = .ok more ∧ records = record :: more := by
  rw [mapM_outcome_cons]
  cases items.mapM StreamItem.outcome with
  | error fault => simp [Except.map]
  | ok more => simp [Except.map, eq_comm]

theorem mapM_outcome_cons_eq_error :
    (⟨.ok record, position⟩ :: items).mapM StreamItem.outcome = .error fault ↔
      items.mapM StreamItem.outcome = .error fault := by
  rw [mapM_outcome_cons]
  cases items.mapM StreamItem.outcome <;> simp [Except.map]

end Items

/-- With fuel for all records that the bytes can hold, a body is read as its records. -/
theorem readFrom_eq_ok_iff {fuel : Nat} (hfuel : body.length < 6 * fuel) (position : Nat) :
    (readFrom fuel position body).mapM StreamItem.outcome = .ok records ↔ IsBody records body := by
  induction fuel generalizing body records position with
  | zero => cases hfuel
  | succ fuel ih =>
    by_cases hempty : body = []
    · subst hempty
      rw [isBody_nil_iff]
      exact ⟨fun h => (Except.ok.inj h).symm, fun h => congrArg Except.ok h.symm⟩
    · rw [isBody_iff hempty]
      cases hsplit : Record.split body with
      | error fault =>
        rw [readFrom_of_split_error hempty hsplit]
        constructor
        · intro h
          cases h
        · rintro ⟨record, rest, more, hother, -⟩
          cases hother
      | ok split =>
        obtain ⟨record, rest⟩ := split
        -- A record takes six bytes at least, so the fuel that is left will do for the rest.
        have hrest : rest.length < 6 * fuel := by
          obtain ⟨-, hbody⟩ := Record.eq_toBytes_append_of_split hsplit
          rw [hbody, List.length_append, Record.length_toBytes, Record.size, Record.headerWords]
            at hfuel
          omega
        rw [readFrom_of_split hsplit, mapM_outcome_cons_eq_ok]
        constructor
        · rintro ⟨more, hmore, rfl⟩
          refine ⟨record, rest, more, rfl, rfl, ?_⟩
          split at hmore
          · rename_i hends
            rw [if_pos hends]
            exact (Except.ok.inj hmore).symm
          · rename_i hends
            rw [if_neg hends]
            exact (ih hrest _).mp hmore
        · rintro ⟨record', rest', more, hsame, rfl, hmore⟩
          cases hsame
          refine ⟨more, ?_, rfl⟩
          split at hmore
          · rename_i hends
            rw [if_pos hends, hmore]
            rfl
          · rename_i hends
            rw [if_neg hends]
            exact (ih hrest _).mpr hmore

/-- A body is read as its records, and nothing else is read. -/
theorem readRecords_eq_ok_iff : readRecords body = .ok records ↔ IsBody records body :=
  -- The fuel is one more than the number of records that fit into the bytes.
  readFrom_eq_ok_iff (by omega) 0

theorem malformed_of_readFrom {fuel position : Nat}
    (h : (readFrom fuel position body).mapM StreamItem.outcome = .error fault) :
    ∃ opcode defect, fault = .malformed opcode defect := by
  induction fuel generalizing body position with
  | zero => cases h
  | succ fuel ih =>
    by_cases hempty : body = []
    · subst hempty
      cases h
    · cases hsplit : Record.split body with
      | error cause =>
        rw [readFrom_of_split_error hempty hsplit] at h
        cases h
        exact Record.malformed_of_split hsplit
      | ok split =>
        obtain ⟨record, rest⟩ := split
        rw [readFrom_of_split hsplit, mapM_outcome_cons_eq_error] at h
        split at h
        · cases h
        · exact ih h

/-- What is wrong with bytes that are no body is a malformed record. -/
theorem malformed_of_readRecords (h : readRecords body = .error fault) :
    ∃ opcode defect, fault = .malformed opcode defect :=
  malformed_of_readFrom h

/-! ### Headers -/

/-- Bytes that may be the start of a metafile as far as a placeable header goes: where they have its
key, there are eleven words, and the last of these is the checksum of the ten before it. -/
def Placeable.Fits (data : Bytes) : Prop :=
  longAt? data 0 = some 0x9AC6CDD7 →
    22 ≤ data.length ∧ wordAt? data 20 = some ((packWords (data.take 20)).foldl (· ^^^ ·) 0)

/-- Bytes that start with a standard header of a number of words. -/
structure StandardHeader.Fits (words : UInt16) (data : Bytes) : Prop where
  complete : 18 ≤ data.length
  fileType : wordAt? data 0 = some 1 ∨ wordAt? data 0 = some 2
  headerWords : wordAt? data 2 = some words
  least : 9 ≤ words.toNat
  within : 2 * words.toNat ≤ data.length

/-- Eleven words that start with the key are a placeable header. -/
theorem Placeable.ofWords?_of_length (hlength : words.length = 11)
    (hkey : words.take 2 = [Long.low Placeable.key, Long.high Placeable.key]) :
    ∃ placeable, Placeable.ofWords? words = some placeable ∧
      placeable.computedChecksum = (words.take 10).foldl (· ^^^ ·) 0 ∧
      words[10]? = some placeable.checksum := by
  match words, hlength with
  | [low, high, handle, left, top, right, bottom, units, reserved₀, reserved₁, checksum], _ =>
    simp only [List.take_succ_cons, List.take_zero, List.cons.injEq, and_true] at hkey
    obtain ⟨rfl, rfl⟩ := hkey
    refine ⟨_, rfl, ?_, rfl⟩
    simp [Placeable.computedChecksum, Placeable.checkedWords]

/-- Nine words are a standard header. -/
theorem StandardHeader.ofWords?_of_length (hlength : words.length = 9) :
    ∃ header, StandardHeader.ofWords? words = some header ∧
      words[0]? = some header.fileType ∧ words[1]? = some header.headerWords := by
  match words, hlength with
  | [fileType, headerWords, version, size₀, size₁, objectCount, max₀, max₁, memberCount], _ =>
    exact ⟨_, rfl, rfl, rfl⟩

/-- Eleven words with the key in front fit just when the last one is their checksum. -/
theorem Placeable.fits_iff {placeable : Placeable} {rest : Bytes} (hlength : words.length = 11)
    (hkey : longAt? (unpackWords words ++ rest) 0 = some Placeable.key)
    (hcomputed : placeable.computedChecksum = (words.take 10).foldl (· ^^^ ·) 0)
    (hchecksum : words[10]? = some placeable.checksum) :
    Placeable.Fits (unpackWords words ++ rest) ↔
      placeable.checksum = placeable.computedChecksum := by
  have hlast := wordAt?_unpackWords_append words rest 10 (by omega)
  rw [← List.getElem?_eq_getElem, hchecksum] at hlast
  have hfront : packWords ((unpackWords words ++ rest).take 20) = words.take 10 := by
    rw [show 20 = 2 * 10 from rfl, take_unpackWords_append rest (by omega), packWords_unpackWords]
  have hlong : 22 ≤ (unpackWords words ++ rest).length := by
    rw [List.length_append, length_unpackWords]
    omega
  rw [Placeable.Fits, hfront, ← hcomputed, hlast, Option.some.injEq]
  exact ⟨fun h => (h hkey).2, fun h _ => ⟨hlong, h⟩⟩

/-- Nine words fit just when their type, the size that they give and the length behind them do. -/
theorem StandardHeader.fits_iff {header : StandardHeader} (rest : Bytes)
    (hlength : words.length = 9) (htype : words[0]? = some header.fileType)
    (hsize : words[1]? = some header.headerWords) (count : UInt16) :
    StandardHeader.Fits count (unpackWords words ++ rest) ↔
      header.headerWords = count ∧ (header.fileType = 1 ∨ header.fileType = 2) ∧
        9 ≤ header.headerWords.toNat ∧
        2 * header.headerWords.toNat ≤ (unpackWords words ++ rest).length := by
  have htypeAt := wordAt?_unpackWords_append words rest 0 (by omega)
  rw [← List.getElem?_eq_getElem, htype] at htypeAt
  have hsizeAt := wordAt?_unpackWords_append words rest 1 (by omega)
  rw [← List.getElem?_eq_getElem, hsize] at hsizeAt
  have hlong : 18 ≤ (unpackWords words ++ rest).length := by
    rw [List.length_append, length_unpackWords]
    omega
  constructor
  · rintro ⟨-, hfileType, hwords, hleast, hwithin⟩
    obtain rfl := Option.some.inj (hsizeAt.symm.trans hwords)
    rw [show 0 = 2 * 0 from rfl, htypeAt, Option.some.injEq, Option.some.injEq] at hfileType
    exact ⟨rfl, hfileType, hleast, hwithin⟩
  · rintro ⟨rfl, hfileType, hleast, hwithin⟩
    refine ⟨hlong, ?_, hsizeAt, hleast, hwithin⟩
    rwa [show 0 = 2 * 0 from rfl, htypeAt, Option.some.injEq, Option.some.injEq]

namespace Metafile

variable {data : Bytes}

theorem startsPlaceable_eq_true_iff :
    startsPlaceable data = true ↔ longAt? data 0 = some 0x9AC6CDD7 := by
  rw [startsPlaceable, beq_iff_eq, longAt?_zero_eq_some_iff]
  rfl

/-- What stands before the standard header is split off where it fits, and is faulty elsewhere. -/
theorem splitPlaceable_cases (data : Bytes) :
    (Placeable.Fits data ∧ ∃ placeable, placeable.isSome = startsPlaceable data ∧
      splitPlaceable data =
        .ok (placeable, data.drop (if longAt? data 0 = some 0x9AC6CDD7 then 22 else 0))) ∨
    (¬ Placeable.Fits data ∧ ∃ defect, splitPlaceable data = .error (.header defect)) := by
  by_cases hstarts : startsPlaceable data = true
  · have hkey := startsPlaceable_eq_true_iff.mp hstarts
    rw [splitPlaceable, if_pos hstarts, if_pos hkey]
    by_cases hlength : 22 ≤ data.length
    · obtain ⟨words, rest, hwords, rfl⟩ := exists_eq_unpackWords_append 11 hlength
      obtain ⟨placeable, hplaceable, hcomputed, hchecksum⟩ :=
        Placeable.ofWords?_of_length hwords (take_two_of_longAt? (by omega) hkey)
      have hfits := Placeable.fits_iff hwords hkey hcomputed hchecksum
      have hfront : (unpackWords words ++ rest).take Placeable.byteCount = unpackWords words :=
        take_unpackWords_append_of_length rest hwords
      have hcomplete : ¬ (unpackWords words).length < Placeable.byteCount := by
        rw [length_unpackWords, hwords]
        decide
      simp only [hfront, if_neg hcomplete, packWords_unpackWords, hplaceable]
      by_cases hequal : placeable.checksum = placeable.computedChecksum
      · refine .inl ⟨hfits.mpr hequal, some placeable, ?_, if_pos hequal⟩
        rw [hstarts]
        rfl
      · exact .inr ⟨mt hfits.mp hequal, _, if_neg hequal⟩
    · exact .inr ⟨fun hfits => hlength (hfits hkey).1, _, if_pos (length_take_lt hlength)⟩
  · have hkey := mt startsPlaceable_eq_true_iff.mpr hstarts
    rw [splitPlaceable, if_neg hstarts, if_neg hkey]
    refine .inl ⟨fun h => absurd h hkey, none, ?_, rfl⟩
    rw [Bool.eq_false_iff.mpr hstarts]
    rfl

/-- A standard header is split off with all its words where it fits, and is faulty elsewhere. -/
theorem splitHeader_cases (data : Bytes) :
    (∃ header : StandardHeader, StandardHeader.Fits header.headerWords data ∧
      splitHeader data = .ok (header, data.drop (2 * header.headerWords.toNat))) ∨
    ((∀ words, ¬ StandardHeader.Fits words data) ∧
      ∃ defect, splitHeader data = .error (.header defect)) := by
  by_cases hlength : 18 ≤ data.length
  · obtain ⟨words, rest, hwords, rfl⟩ := exists_eq_unpackWords_append 9 hlength
    obtain ⟨header, hheader, htype, hsize⟩ := StandardHeader.ofWords?_of_length hwords
    have hfits := StandardHeader.fits_iff rest hwords htype hsize
    have hfront :
        (unpackWords words ++ rest).take StandardHeader.byteCount = unpackWords words :=
      take_unpackWords_append_of_length rest hwords
    have hcomplete : ¬ (unpackWords words).length < StandardHeader.byteCount := by
      rw [length_unpackWords, hwords]
      decide
    -- All that the checks look at is in the header now, but for the length of the data.
    generalize unpackWords words ++ rest = data at *
    rw [splitHeader, hfront]
    dsimp only
    rw [if_neg hcomplete, packWords_unpackWords, hheader]
    dsimp only
    by_cases hkind : header.fileType ≠ StandardHeader.memoryType ∧
        header.fileType ≠ StandardHeader.diskType
    · rw [if_pos hkind]
      refine .inr ⟨fun count h => ?_, _, rfl⟩
      exact ((hfits count).mp h).2.1.elim hkind.1 hkind.2
    · rw [if_neg hkind]
      by_cases hleast : 2 * header.headerWords.toNat < StandardHeader.byteCount
      · rw [if_pos hleast]
        refine .inr ⟨fun count h => ?_, _, rfl⟩
        have hnine := ((hfits count).mp h).2.2.1
        exact absurd (Nat.mul_le_mul_left 2 hnine) (Nat.not_le.mpr hleast)
      · rw [if_neg hleast]
        by_cases hwithin : data.length < 2 * header.headerWords.toNat
        · rw [if_pos hwithin]
          refine .inr ⟨fun count h => ?_, _, rfl⟩
          exact absurd ((hfits count).mp h).2.2.2 (Nat.not_le.mpr hwithin)
        · rw [if_neg hwithin]
          refine .inl ⟨header, (hfits _).mpr ⟨rfl, ?_, ?_, Nat.not_lt.mp hwithin⟩, rfl⟩
          · rwa [not_and_or, not_not, not_not] at hkind
          · simp only [StandardHeader.byteCount] at hleast
            omega
  · exact .inr ⟨fun _ hfits => hlength hfits.complete, _, if_pos (length_take_lt hlength)⟩

/-! ### Metafiles -/

/-- Behind headers that fit, a metafile is read as its body; other headers are faulty. -/
theorem ofBytes_cases (data : Bytes) :
    let rest := data.drop (if longAt? data 0 = some 0x9AC6CDD7 then 22 else 0)
    (Placeable.Fits data ∧ ∃ (placeable : Option Placeable) (header : StandardHeader),
      placeable.isSome = startsPlaceable data ∧ StandardHeader.Fits header.headerWords rest ∧
      ofBytes data = (readRecords (rest.drop (2 * header.headerWords.toNat))).map
        (Metafile.mk placeable header)) ∨
    (¬ (Placeable.Fits data ∧ ∃ words, StandardHeader.Fits words rest) ∧
      ∃ defect, ofBytes data = .error (.header defect)) := by
  intro rest
  rcases splitPlaceable_cases data with
    ⟨hfits, placeable, hsome, hplaceable⟩ | ⟨hfits, defect, hfault⟩
  · rcases splitHeader_cases rest with ⟨header, hheader, hsplit⟩ | ⟨hheader, defect, hfault⟩
    · refine .inl ⟨hfits, placeable, header, hsome, hheader, ?_⟩
      rw [ofBytes, hplaceable]
      change (splitHeader rest >>= _) = _
      rw [hsplit]
      change (readRecords _ >>= _) = _
      cases readRecords (rest.drop (2 * header.headerWords.toNat)) <;> rfl
    · refine .inr ⟨fun h => h.2.elim hheader, defect, ?_⟩
      rw [ofBytes, hplaceable]
      change (splitHeader rest >>= _) = _
      rw [hfault]
      rfl
  · refine .inr ⟨fun h => hfits h.1, defect, ?_⟩
    rw [ofBytes, hfault]
    rfl

/-- The reader accepts the metafiles and gives their records. Headers that do not fit are told as
such, and behind headers that fit it is a record that is malformed. -/
theorem ofBytes_eq_ok_iff (data : Bytes) :
    let rest := data.drop (if longAt? data 0 = some 0x9AC6CDD7 then 22 else 0)
    (∀ records, (∃ metafile, ofBytes data = .ok metafile ∧ metafile.records = records) ↔
      Placeable.Fits data ∧ ∃ words, StandardHeader.Fits words rest ∧
        IsBody records (rest.drop (2 * words.toNat))) ∧
    (¬ (Placeable.Fits data ∧ ∃ words, StandardHeader.Fits words rest) →
      ∃ defect, ofBytes data = .error (.header defect)) ∧
    (∀ words, Placeable.Fits data → StandardHeader.Fits words rest →
      (∀ records, ¬ IsBody records (rest.drop (2 * words.toNat))) →
      ∃ opcode defect, ofBytes data = .error (.malformed opcode defect)) := by
  intro rest
  rcases ofBytes_cases data with ⟨hfits, placeable, header, -, hheader, hread⟩ | ⟨hfits, hfault⟩
  · -- The size of the standard header stands at one place, so it is the one that was read.
    have hwords {words : UInt16} (h : StandardHeader.Fits words rest) :
        words = header.headerWords :=
      Option.some.inj (h.headerWords.symm.trans hheader.headerWords)
    rw [hread]
    refine ⟨fun records => ⟨?_, ?_⟩, fun h => absurd ⟨hfits, _, hheader⟩ h, ?_⟩
    · rintro ⟨metafile, hmetafile, rfl⟩
      refine ⟨hfits, header.headerWords, hheader, readRecords_eq_ok_iff.mp ?_⟩
      cases hrecords : readRecords (rest.drop (2 * header.headerWords.toNat)) with
      | error fault =>
        rw [hrecords] at hmetafile
        cases hmetafile
      | ok records =>
        rw [hrecords] at hmetafile
        cases hmetafile
        rfl
    · rintro ⟨-, words, hother, hbody⟩
      obtain rfl := hwords hother
      rw [readRecords_eq_ok_iff.mpr hbody]
      exact ⟨_, rfl, rfl⟩
    · intro words _ hother hnone
      obtain rfl := hwords hother
      cases hrecords : readRecords (rest.drop (2 * header.headerWords.toNat)) with
      | error fault =>
        obtain ⟨opcode, defect, rfl⟩ := malformed_of_readRecords hrecords
        exact ⟨opcode, defect, rfl⟩
      | ok records => exact absurd (readRecords_eq_ok_iff.mp hrecords) (hnone records)
  · refine ⟨fun records => ⟨?_, ?_⟩, fun _ => hfault, ?_⟩
    · rintro ⟨metafile, hmetafile, -⟩
      obtain ⟨defect, hfault⟩ := hfault
      cases hfault.symm.trans hmetafile
    · rintro ⟨hplaceable, words, hheader, -⟩
      exact absurd ⟨hplaceable, words, hheader⟩ hfits
    · intro words hplaceable hheader _
      exact absurd ⟨hplaceable, words, hheader⟩ hfits

/-! ### The quick look -/

/-- The quick look sees the key of a placeable header, or a standard header of nine words. -/
theorem looksLike_eq_true_iff :
    looksLike data = true ↔ longAt? data 0 = some 0x9AC6CDD7 ∨ StandardHeader.Fits 9 data := by
  rw [looksLike, Bool.or_eq_true, startsPlaceable_eq_true_iff]
  refine or_congr_right ?_
  by_cases hlength : 18 ≤ data.length
  · obtain ⟨words, rest, hwords, rfl⟩ := exists_eq_unpackWords_append 9 hlength
    obtain ⟨header, hheader, htype, hsize⟩ := StandardHeader.ofWords?_of_length hwords
    have hfront :
        (unpackWords words ++ rest).take StandardHeader.byteCount = unpackWords words :=
      take_unpackWords_append_of_length rest hwords
    rw [hfront, packWords_unpackWords, hheader, StandardHeader.fits_iff rest hwords htype hsize]
    simp only [Bool.and_eq_true, Bool.or_eq_true, decide_eq_true_eq, beq_iff_eq]
    constructor
    · rintro ⟨⟨-, hkind⟩, hnine⟩
      have hnine' : header.headerWords.toNat = 9 := hnine
      exact ⟨UInt16.toNat_inj.mp hnine, hkind, hnine'.ge, by omega⟩
    · rintro ⟨hnine, hkind, -⟩
      exact ⟨⟨hlength, hkind⟩, congrArg UInt16.toNat hnine⟩
  · constructor
    · intro h
      split at h
      · simp [StandardHeader.byteCount, hlength] at h
      · cases h
    · exact fun h => absurd h.complete hlength

/-- Among metafiles, the quick look sees those with a placeable header and those with a standard
header of nine words. -/
theorem looksLike_of_ofBytes {metafile : Metafile} (h : ofBytes data = .ok metafile) :
    looksLike data = true ↔
      metafile.placeable.isSome = true ∨ metafile.header.headerWords = 9 := by
  rw [looksLike_eq_true_iff, ← startsPlaceable_eq_true_iff]
  rcases ofBytes_cases data with ⟨-, placeable, header, hsome, hheader, hread⟩ | ⟨-, defect, hfault⟩
  · cases hrecords : readRecords
        ((data.drop (if longAt? data 0 = some 0x9AC6CDD7 then 22 else 0)).drop
          (2 * header.headerWords.toNat)) with
    | error fault =>
      rw [hread, hrecords] at h
      cases h
    | ok records =>
      rw [hread, hrecords] at h
      cases h
      rw [hsome]
      refine or_congr_right' fun hstarts => ?_
      -- Without a placeable header, the standard header stands at the beginning.
      rw [if_neg (mt startsPlaceable_eq_true_iff.mpr hstarts)] at hheader
      constructor
      · intro hnine
        exact Option.some.inj (hheader.headerWords.symm.trans hnine.headerWords)
      · intro hnine
        exact hnine ▸ hheader
  · cases hfault.symm.trans h

/-- Behind a placeable header, the size of the standard header is not looked at. -/
theorem looksLike_of_ofBytes_placeable :
    let data : Bytes := unpackWords [0xCDD7, 0x9AC6, 0, 0, 0, 100, 50, 96, 0, 0, 0x5727,
      1, 10, 0x0300, 13, 0, 0, 3, 0, 0, 0, 3, 0, 0]
    ∃ metafile, ofBytes data = .ok metafile ∧ metafile.header.headerWords = 10 ∧
      looksLike data = true :=
  ⟨_, rfl, rfl, (looksLike_of_ofBytes rfl).mpr (.inl rfl)⟩

/-- A standard header of ten words is read, with the record behind it, but the quick look misses
it. -/
theorem looksLike_extended_header :
    let data : Bytes := unpackWords [1, 10, 0x0300, 13, 0, 0, 3, 0, 0, 0, 3, 0, 0]
    (∃ metafile, ofBytes data = .ok metafile ∧ metafile.header.headerWords = 10 ∧
      metafile.records = [⟨0, []⟩]) ∧ looksLike data = false :=
  ⟨⟨_, rfl, rfl, rfl⟩, rfl⟩

end Metafile

end WindowsMetafile
