import WindowsMetafile.Proofs.Rereading

/-!
# Texts and fonts written and read again

A text that was read is written with the count of its own characters. It may be shorter than the
bytes it came from, since a zero byte cuts it; the bytes behind the zero are gone, and with them go
the advances that stood for them.

## Main definitions

* `Latin1.Storable` — a text that a record can hold behind the word that counts it
* `Font.Storable` — a font that a record can hold as it is
* `ExtendedText.Mismatch` — the rectangle of a text does not go with its options

## Main results

* `Reader.stable_plainText`, `Reader.stable_font` — lines of text and fonts are read again
* `Reader.extendedText_written` — text with options is read again, but for advances without a
  character
* `Reader.fields_of_extendedText` — text with options that was read can be written
-/

namespace WindowsMetafile

/-! ### Counted text -/

/-- A text that a record can hold behind the word that counts its characters. -/
structure Latin1.Storable (text : String) : Prop where
  length_lt : text.length < 65536
  representable : ∀ c ∈ text.toList, Representable c

theorem Latin1.storable_decode {data : Bytes} (h : data.length < 65536) : Storable (decode data) :=
  ⟨Nat.lt_of_le_of_lt (length_decode_le data) h, fun _ => representable_of_mem_decode⟩

namespace Reader

variable {α : Type} {cursor last : Cursor} {action : Action} {text : String}

theorem bytes_encode (h : text.length < 65536) (opcode : UInt16) (count : Nat)
    (rest : List UInt16) :
    bytes (UInt16.ofNat text.length).toNat
        ⟨opcode, count, packWords (Latin1.encode text) ++ rest⟩ =
      .ok (Latin1.encode text, ⟨opcode, count, rest⟩) := by
  rw [UInt16.toNat_ofNat_of_lt' h, ← Latin1.length_encode]
  exact bytes_packWords opcode count (Latin1.encode text) rest

/-- A line of text is read back as far as its characters have bytes and no zero cuts them. -/
theorem plainText_written (h : text.length < 65536) (origin : Point Int16) (opcode : UInt16) :
    ∃ last, plainText ⟨opcode, 1 + wordsFor text.length + 2,
        UInt16.ofNat text.length :: (packWords (Latin1.encode text) ++
          writtenWords origin.fieldsYX)⟩ =
      .ok (.text (Latin1.decode (Latin1.encode text)) origin, last) := by
  refine ⟨⟨opcode, 1 + wordsFor text.length + 2, []⟩, ?_⟩
  have hcount : (UInt16.ofNat text.length).toNat = text.length := UInt16.toNat_ofNat_of_lt' h
  have hneeded : 1 + wordsFor (UInt16.ofNat text.length).toNat + 2 ≤
      1 + wordsFor text.length + 2 := Nat.le_of_eq (by rw [hcount])
  have horigin := exact_pointYX.complete_all (a := origin) opcode (1 + wordsFor text.length + 2)
    trivial
  unfold plainText
  rw [bind_of_ok (require_of_le (by simp)), bind_of_ok (word_cons ..),
    bind_of_ok (require_of_le hneeded), bind_of_ok (bytes_encode h opcode _ _), bind_of_ok horigin]
  rfl

/-- A line of text is written with a count of its own, and without the bytes that a zero cuts. -/
theorem stable_plainText {kept : Prop} (hkept : ¬ kept) :
    Stable .textOut kept [] 0 plainText := by
  constructor
  intro cursor action last h
  obtain ⟨_, _, -, h⟩ := bind_eq_ok.mp h
  obtain ⟨length, _, -, h⟩ := bind_eq_ok.mp h
  obtain ⟨_, _, -, h⟩ := bind_eq_ok.mp h
  obtain ⟨data, _, hdata, h⟩ := bind_eq_ok.mp h
  obtain ⟨origin, _, -, h⟩ := bind_eq_ok.mp h
  obtain ⟨rfl, -⟩ := pure_eq_ok.mp h
  have hline : Latin1.Storable (Latin1.decode data) :=
    Latin1.storable_decode ((eq_of_bytes hdata).1 ▸ length.toNat_lt)
  -- From here on only the text counts, not the bytes it came from.
  generalize Latin1.decode data = line at hline
  refine ⟨.word (UInt16.ofNat line.length) :: .bytes (Latin1.encode line) :: origin.fieldsYX, rfl,
    ?_, Nat.zero_le _, hkept.elim, fun opcode => ?_⟩
  · rw [Action.fields, countWord, if_pos hline.length_lt]
    rfl
  · have hagain := plainText_written hline.length_lt origin opcode
    rw [Latin1.decode_encode hline.representable] at hagain
    simpa [Field.words, Point.fieldsYX, Nat.add_comm, Nat.add_left_comm] using hagain

end Reader

/-! ### Fonts -/

theorem magnitude_of_pos {value : Int16} (h : 0 < value) : magnitude value = value := by
  have hleast : value ≠ Int16.minValue := by
    rintro rfl
    exact absurd h (by decide)
  have hneg : ¬ value < 0 := by
    rw [Int16.lt_iff_toInt_lt] at h ⊢
    omega
  rw [magnitude, if_neg hleast, if_neg hneg]

theorem magnitude_pos {value : Int16} (h : value ≠ 0) : 0 < magnitude value := by
  unfold magnitude
  split
  · decide
  · rename_i hmin
    have hleast : value.toInt ≠ -32768 := mt (Int16.toInt_inj (y := Int16.minValue)).mp hmin
    have hzero : value.toInt ≠ 0 := mt (Int16.toInt_inj (y := 0)).mp h
    have hbelow := value.le_toInt
    split
    · rename_i hneg
      rw [Int16.lt_iff_toInt_lt, Int16.toInt_zero] at hneg
      rw [Int16.lt_iff_toInt_lt, Int16.toInt_neg, Int.bmod_eq_of_le (by omega) (by omega),
        Int16.toInt_zero]
      omega
    · rename_i hneg
      rw [Int16.lt_iff_toInt_lt, Int16.toInt_zero] at hneg ⊢
      omega

namespace Font

variable {font : Font}

/-- The font that is read from the record of a font. -/
def normalized (font : Font) : Font :=
  { font with
    height := if font.height = 0 then 10 else magnitude font.height
    faceName := Latin1.decode ((Latin1.encode font.faceName).take (faceNameBytes - 1)) }

/-- A font that a record can hold as it is. -/
structure Storable (font : Font) : Prop where
  height_pos : 0 < font.height
  face_short : font.faceName.length < faceNameBytes
  representable : ∀ c ∈ font.faceName.toList, Latin1.Representable c

theorem Storable.normalized_eq (h : font.Storable) : font.normalized = font := by
  have hheight : font.height ≠ 0 := by
    intro hzero
    exact absurd (hzero ▸ h.height_pos) (by decide)
  have hface : (Latin1.encode font.faceName).take (faceNameBytes - 1) =
      Latin1.encode font.faceName := by
    refine List.take_of_length_le ?_
    rw [Latin1.length_encode]
    exact Nat.le_sub_one_of_lt h.face_short
  rw [normalized, if_neg hheight, magnitude_of_pos h.height_pos, hface,
    Latin1.decode_encode h.representable]

/-- The face name of a written font is read up to the zeros that fill it up. -/
theorem decode_face (font : Font) :
    let face := (Latin1.encode font.faceName).take (faceNameBytes - 1)
    Latin1.decode ((unpackWords (packWords
      (face ++ List.replicate (faceNameBytes - face.length) 0))).take (faceNameBytes - 1)) =
        Latin1.decode face := by
  intro face
  have hface : face.length ≤ faceNameBytes - 1 := List.length_take_le ..
  have hbytes : faceNameBytes - 1 ≤
      (face ++ List.replicate (faceNameBytes - face.length) 0).length := by
    simp only [List.length_append, List.length_replicate]
    omega
  rw [← Nat.min_eq_left hbytes, ← List.take_take, take_unpackWords_packWords,
    List.take_append, List.take_of_length_le hface, List.take_replicate,
    Latin1.decode_append_zeros]

end Font

namespace Reader

variable {cursor last : Cursor} {font : Font}

theorem flagByte_ne_zero (flag : Bool) : (flagByte flag != 0) = flag := by
  cases flag <;> rfl

/-- The record of a font gives the font back as far as a record can hold it. -/
theorem font_written (font : Font) (opcode : UInt16) {count : Nat} (h : 9 ≤ count) :
    Reader.font ⟨opcode, count, writtenWords font.fields⟩ =
      .ok (font.normalized, ⟨opcode, count, []⟩) := by
  unfold Reader.font
  rw [bind_of_ok (require_of_le h)]
  -- Five numbers, four pairs of bytes, and the face in all that is left.
  simp only [Font.fields, writtenWords_cons, writtenWords_nil, Field.words, pairField,
    List.cons_append, List.nil_append, List.append_nil]
  iterate 5 rw [bind_of_ok (int16_cons ..)]
  iterate 4
    rw [bind_of_ok (bytePair_cons ..)]
    dsimp only
  rw [bind_of_ok (restBytes_eq ..), Font.decode_face]
  simp only [flagByte_ne_zero]
  rfl

theorem storable_of_font (h : Reader.font cursor = .ok (font, last)) : font.Storable := by
  -- Only the height and the face are checked; the other numbers and bytes may have any value.
  obtain ⟨_, _, -, h⟩ := bind_eq_ok.mp h
  obtain ⟨height, _, -, h⟩ := bind_eq_ok.mp h
  iterate 4 obtain ⟨_, _, -, h⟩ := bind_eq_ok.mp h
  iterate 4 obtain ⟨⟨_, _⟩, _, -, h⟩ := bind_eq_ok.mp h
  obtain ⟨face, _, -, h⟩ := bind_eq_ok.mp h
  obtain ⟨rfl, -⟩ := pure_eq_ok.mp h
  refine ⟨?_, ?_, fun _ => Latin1.representable_of_mem_decode⟩
  · dsimp only
    split
    · decide
    · rename_i hheight
      exact magnitude_pos hheight
  · exact Nat.lt_of_le_of_lt (Latin1.length_decode_le _)
      (Nat.lt_of_le_of_lt (List.length_take_le ..) (by decide))

theorem stable_font {kept : Prop} (hkept : ¬ kept) :
    Stable .createFontIndirect kept [] 0 RecordType.createFontIndirect.reader := by
  constructor
  intro cursor action last h
  obtain ⟨font, _, hfont, h⟩ := bind_eq_ok.mp h
  obtain ⟨rfl, -⟩ := pure_eq_ok.mp h
  have hstorable := storable_of_font hfont
  refine ⟨font.fields, rfl, rfl, Nat.zero_le _, hkept.elim, fun opcode => ?_⟩
  have hwords : 9 ≤ (writtenWords font.fields).length := by
    simp [Font.fields, Field.words, pairField]
  refine ⟨⟨opcode, (writtenWords font.fields).length, []⟩, ?_⟩
  have hagain := font_written font opcode hwords
  rw [hstorable.normalized_eq] at hagain
  rw [List.nil_append, RecordType.reader, bind_of_ok hagain]
  rfl

end Reader

/-! ### Text with options -/

namespace ExtendedText

variable {content : ExtendedText} {opcode : UInt16} {fields : List Field}

/-- The text without the advances behind its last character. -/
def trimmed (content : ExtendedText) : ExtendedText :=
  { content with advances := content.advances.take content.text.length }

/-- The rectangle of a text does not go with its options: it is missing from clipped text, nothing
uses it, or a filled background goes without it while there are advances to be read in its place. -/
inductive Mismatch (content : ExtendedText) : Prop
  | missing (hclips : clips content.options = true) (hbounds : content.bounds = none)
  | unused (bounds : Bounds) (hbounds : content.bounds = some bounds)
      (hclips : clips content.options = false) (hfills : fillsBackground content.options = false)
  | ambiguous (hfills : fillsBackground content.options = true)
      (hclips : clips content.options = false) (hbounds : content.bounds = none)
      (hmany : 4 ≤ content.advances.length)

theorem boundsFields_of_mismatch (h : content.Mismatch) (opcode : UInt16) :
    ∃ defect, content.boundsFields opcode = .error (.malformed opcode defect) := by
  unfold boundsFields
  cases h with
  | missing hclips hbounds =>
    rw [hbounds, hclips]
    exact ⟨_, rfl⟩
  | unused bounds hbounds hclips hfills =>
    rw [hbounds, hclips, hfills]
    exact ⟨_, rfl⟩
  | ambiguous hfills hclips hbounds hmany =>
    have hread : (true && decide (4 ≤ content.advances.length)) = true := decide_eq_true hmany
    rw [hbounds, hclips, hfills]
    dsimp only
    rw [if_neg Bool.false_ne_true, if_pos hread]
    exact ⟨_, rfl⟩

theorem boundsFields_of_not_mismatch (h : ¬ content.Mismatch) (opcode : UInt16) :
    content.boundsFields opcode = .ok (content.bounds.elim [] Bounds.fieldsDownward) := by
  unfold boundsFields
  cases hbounds : content.bounds with
  | some bounds =>
    refine if_pos ?_
    by_contra hunused
    rw [Bool.not_eq_true, Bool.or_eq_false_iff] at hunused
    exact h (.unused bounds hbounds hunused.1 hunused.2)
  | none =>
    have hclips : ¬ clips content.options = true := fun hclips => h (.missing hclips hbounds)
    have hfew : ¬ (fillsBackground content.options && 4 ≤ content.advances.length) = true := by
      intro hmany
      rw [Bool.and_eq_true, decide_eq_true_eq] at hmany
      exact h (.ambiguous hmany.1 (Bool.eq_false_iff.mpr hclips) hbounds hmany.2)
    exact (if_neg hclips).trans (if_neg hfew)

theorem boundsFields_eq_ok (h : content.boundsFields opcode = .ok fields) :
    ¬ content.Mismatch ∧ fields = content.bounds.elim [] Bounds.fieldsDownward := by
  have hmatch : ¬ content.Mismatch := by
    intro hmismatch
    obtain ⟨defect, herror⟩ := boundsFields_of_mismatch hmismatch opcode
    cases h.symm.trans herror
  exact ⟨hmatch, Except.ok.inj (h.symm.trans (boundsFields_of_not_mismatch hmatch opcode))⟩

/-- Where the rectangle can be written, it is there just when a record of that length has one. -/
theorem storesBounds_written (h : content.boundsFields opcode = .ok fields) (length : UInt16) :
    storesBounds content.options length
        (4 + (writtenWords fields).length + wordsFor length.toNat + content.advances.length) =
      content.bounds.isSome := by
  obtain ⟨hmatch, rfl⟩ := boundsFields_eq_ok h
  rw [storesBounds]
  cases hclips : clips content.options with
  | true =>
    have hsome : content.bounds ≠ none := fun hbounds => hmatch (.missing hclips hbounds)
    rw [Bool.true_or, Option.isSome_iff_ne_none.mpr hsome]
  | false =>
    cases hfills : fillsBackground content.options with
    | false =>
      have hnone : content.bounds = none :=
        Option.eq_none_iff_forall_not_mem.mpr fun bounds hbounds =>
          hmatch (.unused bounds hbounds hclips hfills)
      rw [hnone]
      rfl
    | true =>
      rw [Bool.false_or, Bool.true_and]
      cases hbounds : content.bounds with
      | some bounds =>
        -- The words of the rectangle itself make the record long enough to have one.
        have hwords : (writtenWords bounds.fieldsDownward).length = 4 := rfl
        rw [Option.isSome_some, decide_eq_true_eq, Option.elim_some, hwords]
        exact Nat.le_add_right ..
      | none =>
        -- With three advances at most, there is no room for a rectangle behind the text.
        have hfew : ¬ 4 ≤ content.advances.length := fun hmany =>
          hmatch (.ambiguous hfills hclips hbounds hmany)
        rw [Option.isSome_none, decide_eq_false_iff_not, Option.elim_none, writtenWords_nil,
          List.length_nil]
        omega

/-- A rectangle that was read, or left out for a record too short to hold one, can be written. -/
theorem not_mismatch_of_storesBounds {length : UInt16} {words : Nat}
    (h : content.bounds.isSome = storesBounds content.options length words)
    (hfew : content.bounds = none → words < 4 + 4 + wordsFor length.toNat →
      content.advances.length < 4) : ¬ content.Mismatch := by
  intro hmismatch
  cases hmismatch with
  | missing hclips hbounds =>
    rw [hbounds, storesBounds, hclips] at h
    cases h
  | unused bounds hbounds hclips hfills =>
    rw [hbounds, storesBounds, hclips, hfills] at h
    cases h
  | ambiguous hfills hclips hbounds hmany =>
    rw [hbounds, storesBounds, hclips, hfills, Option.isSome_none, eq_comm, Bool.false_or,
      Bool.true_and, decide_eq_false_iff_not, Nat.not_le] at h
    exact absurd hmany (Nat.not_le.mpr (hfew hbounds h))

end ExtendedText

namespace Reader

variable {content : ExtendedText} {fields : List Field} {last : Cursor}

theorem optionalBounds_written {code : UInt16} (h : content.boundsFields code = .ok fields)
    (opcode : UInt16) (count : Nat) (rest : List UInt16) :
    optionalBounds content.bounds.isSome ⟨opcode, count, writtenWords fields ++ rest⟩ =
      .ok (content.bounds, ⟨opcode, count, rest⟩) := by
  obtain ⟨-, rfl⟩ := ExtendedText.boundsFields_eq_ok h
  cases content.bounds with
  | some bounds =>
    have hread := exact_boundsDownward.complete (a := bounds) opcode count rest trivial
    change (some <$> boundsDownward) _ = _
    rw [map_eq_pure_bind, Option.elim_some, bind_of_ok hread]
    rfl
  | none => rfl

/-- Advances are read back for as many characters as there are. -/
theorem advances_written {n : Nat} {values : List Int16} (h : values = [] ∨ n ≤ values.length)
    (opcode : UInt16) (count : Nat) :
    ∃ last, advances n ⟨opcode, count, values.map Int16.toUInt16⟩ =
      .ok (values.take n, last) := by
  unfold advances
  rw [bind_of_ok (remaining_eq ..), List.length_map]
  -- Without enough of them for a text, the advances are left out, and `take` is empty too.
  by_cases hread : 0 < n ∧ n ≤ values.length
  · have hsplit : values.map Int16.toUInt16 = writtenWords ((values.take n).map .int16) ++
        (values.drop n).map Int16.toUInt16 := by
      rw [writtenWords_map_int16, ← List.map_append, List.take_append_drop]
    rw [if_pos hread, hsplit]
    exact ⟨_, (exact_int16s n).complete opcode count _ (List.length_take_of_le hread.2)⟩
  · have hnone : values.take n = [] := by
      rcases h with rfl | hlong
      · exact List.take_nil
      · rw [show n = 0 from by omega, List.take_zero]
    rw [if_neg hread, hnone]
    exact ⟨_, rfl⟩

/-- Text with options that can be written is read back up to advances without a character. -/
theorem extendedText_written {code : UInt16} (htext : Latin1.Storable content.text)
    (hadvances : content.advances = [] ∨ content.text.length ≤ content.advances.length)
    (h : content.fields code = .ok fields) (opcode : UInt16) :
    ∃ last, extendedText ⟨opcode, (writtenWords fields).length, writtenWords fields⟩ =
      .ok (content.trimmed, last) := by
  unfold ExtendedText.fields at h
  rw [countWord, if_pos htext.length_lt] at h
  cases hbounds : content.boundsFields code with
  | error fault =>
    rw [hbounds] at h
    cases h
  | ok bounds =>
    rw [hbounds] at h
    cases h
    have hlength : (UInt16.ofNat content.text.length).toNat = content.text.length :=
      UInt16.toNat_ofNat_of_lt' htext.length_lt
    generalize hfields : content.origin.fieldsYX ++ [Field.word (UInt16.ofNat content.text.length),
      Field.word content.options] ++ bounds ++ [Field.bytes (Latin1.encode content.text)] ++
        content.advances.map Field.int16 = fields
    -- The words in the order in which the reader asks for them.
    have hwords : writtenWords fields = writtenWords content.origin.fieldsYX ++
        (UInt16.ofNat content.text.length :: content.options :: (writtenWords bounds ++
          (packWords (Latin1.encode content.text) ++ content.advances.map Int16.toUInt16))) := by
      simp [← hfields, Field.words]
    have hcount : (writtenWords fields).length = 4 + (writtenWords bounds).length +
        wordsFor (UInt16.ofNat content.text.length).toNat + content.advances.length := by
      rw [hwords, hlength]
      simp [Point.fieldsYX, Field.words]
      omega
    have hstored := ExtendedText.storesBounds_written hbounds (UInt16.ofNat content.text.length)
    rw [← hcount] at hstored
    obtain ⟨last, hlast⟩ := advances_written hadvances opcode (writtenWords fields).length
    refine ⟨last, ?_⟩
    unfold extendedText
    have hlong : 4 ≤ (writtenWords fields).length := by omega
    rw [bind_of_ok (require_of_le hlong), hwords,
      bind_of_ok (exact_pointYX.complete opcode _ _ trivial), bind_of_ok (word_cons ..),
      bind_of_ok (word_cons ..), bind_of_ok (count_eq ..), ← hwords, hstored,
      bind_of_ok (optionalBounds_written hbounds opcode _ _),
      bind_of_ok (bytes_encode htext.length_lt opcode _ _), hlength, bind_of_ok hlast,
      Latin1.decode_encode htext.representable]
    rfl

theorem isSome_of_optionalBounds {present : Bool} {cursor : Cursor} {bounds : Option Bounds}
    (h : optionalBounds present cursor = .ok (bounds, last)) :
    bounds.isSome = present ∧ (present = false → last = cursor) := by
  unfold optionalBounds at h
  cases present with
  | true =>
    rw [if_pos rfl, map_eq_pure_bind] at h
    obtain ⟨read, _, -, h⟩ := bind_eq_ok.mp h
    obtain ⟨rfl, -⟩ := pure_eq_ok.mp h
    exact ⟨rfl, nofun⟩
  | false =>
    obtain ⟨rfl, rfl⟩ := pure_eq_ok.mp h
    exact ⟨rfl, fun _ => rfl⟩

theorem length_of_advances {n : Nat} {cursor : Cursor} {values : List Int16}
    (h : advances n cursor = .ok (values, last)) :
    values = [] ∨ values.length = n ∧ n ≤ cursor.rest.length := by
  obtain ⟨left, _, hleft, h⟩ := bind_eq_ok.mp h
  cases hleft
  split at h
  · rename_i hlong
    obtain ⟨hlength, -, -⟩ := (exact_int16s n).sound h
    exact .inr ⟨hlength, hlong.2⟩
  · obtain ⟨rfl, -⟩ := pure_eq_ok.mp h
    exact .inl rfl

/-- Text with options that was read can be written. Without a rectangle on a filled background the
record was too short to hold one, so there are not even four advances. -/
theorem fields_of_extendedText {record : Record}
    (h : extendedText record.cursor = .ok (content, last)) (opcode : UInt16) :
    Latin1.Storable content.text ∧
      (content.advances = [] ∨ content.text.length ≤ content.advances.length) ∧
        ∃ fields, content.fields opcode = .ok fields := by
  obtain ⟨_, mid₀, hrequire, h⟩ := bind_eq_ok.mp h
  obtain ⟨-, rfl⟩ := require_eq_ok.mp hrequire
  obtain ⟨origin, mid₁, horigin, h⟩ := bind_eq_ok.mp h
  obtain ⟨length, mid₂, hlength, h⟩ := bind_eq_ok.mp h
  obtain ⟨options, mid₃, hoptions, h⟩ := bind_eq_ok.mp h
  obtain ⟨words, _, hwords, h⟩ := bind_eq_ok.mp h
  cases hwords
  obtain ⟨bounds, mid₄, hbounds, h⟩ := bind_eq_ok.mp h
  obtain ⟨data, mid₅, hdata, h⟩ := bind_eq_ok.mp h
  obtain ⟨values, mid₆, hvalues, h⟩ := bind_eq_ok.mp h
  obtain ⟨rfl, -⟩ := pure_eq_ok.mp h
  obtain ⟨-, hrest₁, hmid₁⟩ := exact_pointYX.sound horigin
  obtain ⟨-, hrest₂, hmid₂⟩ := exact_word.sound hlength
  obtain ⟨-, hrest₃, hmid₃⟩ := exact_word.sound hoptions
  obtain ⟨hsome, hmid₄⟩ := isSome_of_optionalBounds hbounds
  obtain ⟨hcount, taken, htaken, hrest₅, -⟩ := eq_of_bytes hdata
  have htext : Latin1.Storable (Latin1.decode data) :=
    Latin1.storable_decode (hcount ▸ length.toNat_lt)
  have hlong := length_of_advances hvalues
  refine ⟨htext, ?_, ?_⟩
  -- One advance was read for each byte, and the text has no more characters than bytes.
  · refine hlong.imp_right fun hlong => ?_
    rw [hlong.1, ← hcount]
    exact Latin1.length_decode_le data
  · have hwords : mid₃.count = record.params.length :=
      (congrArg Cursor.count hmid₃).trans
        ((congrArg Cursor.count hmid₂).trans (congrArg Cursor.count hmid₁))
    -- Without a rectangle, what follows the text is all that the record has behind its first words.
    have hshort : bounds = none →
        record.params.length = 4 + wordsFor length.toNat + mid₅.rest.length := by
      rintro rfl
      have hsame := hmid₄ hsome.symm
      have hparams : record.params = writtenWords origin.fieldsYX ++
          (length :: options :: (taken ++ mid₅.rest)) := by
        rw [← hrest₅, hsame]
        exact hrest₁.trans (congrArg _ (hrest₂.trans (congrArg _ hrest₃)))
      rw [hparams, ← htaken]
      simp [Point.fieldsYX, Field.words]
      omega
    rw [hwords] at hsome
    have hfew : bounds = none → record.params.length < 4 + 4 + wordsFor length.toNat →
        values.length < 4 := by
      intro hnone hless
      rw [hshort hnone] at hless
      rcases hlong with rfl | hlong
      · exact Nat.zero_lt_succ 3
      · omega
    have hmatch : ¬ ExtendedText.Mismatch
        ⟨origin, options, bounds, Latin1.decode data, values⟩ :=
      ExtendedText.not_mismatch_of_storesBounds hsome hfew
    rw [ExtendedText.fields, countWord, if_pos htext.length_lt,
      ExtendedText.boundsFields_of_not_mismatch hmatch]
    exact ⟨_, rfl⟩

end Reader

end WindowsMetafile
