import WindowsMetafile.Proofs.CountedLists

/-!
# What a record keeps of texts and fonts

Text and fonts come back from their records in a normal form. A character above `U+00FF` has no byte
and comes back as a question mark, a zero character ends the text, and a face name is cut to the
thirty-one characters that leave room for its closing zero. The height of a font comes back as a
positive number. What has been through a record once is in normal form and changes no more.

## Main definitions

* `Latin1.normalForm`, `Font.normalForm` — what a record keeps of a text and of a font
* `Action.StoredAs` — an action has a record, from which another action is read

## Main results

* `Latin1.decode_encode_eq_normalForm`, `Font.normalized_eq_normalForm` — the normal form is what is
  read again
* `Latin1.normalForm_normalForm`, `Font.normalForm_normalForm` — a normal form is that of itself
* `Action.storedAs_normalForm` — lines of text and fonts are stored in normal form
-/

namespace WindowsMetafile

/-! ### Texts -/

namespace Latin1

/-- What a record keeps of a character: the question mark stands for all that have no byte. -/
def stored (char : Char) : Char :=
  if char.toNat < 256 then char else '?'

/-- What a record keeps of a text: the stored characters in front of the first zero character. -/
def normalForm (text : String) : String :=
  String.ofList ((text.toList.map stored).takeWhile fun char => 0 < char.toNat)

theorem charOfByte_byteOfChar_eq_stored (char : Char) :
    charOfByte (byteOfChar char) = stored char := by
  unfold stored
  split
  · rename_i hsmall
    exact charOfByte_byteOfChar hsmall
  · rename_i hlarge
    rw [byteOfChar, if_neg hlarge]
    rfl

/-- A character ends a text just when its byte does. -/
theorem byteOfChar_bne_zero (char : Char) :
    (byteOfChar char != 0) = decide (0 < (stored char).toNat) := by
  have hnumber : (stored char).toNat = (byteOfChar char).toNat := by
    rw [← charOfByte_byteOfChar_eq_stored, toNat_charOfByte]
  rw [hnumber, Bool.eq_iff_iff, bne_iff_ne, decide_eq_true_eq, Nat.pos_iff_ne_zero, ne_eq, ne_eq,
    ← UInt8.toNat_inj]
  rfl

theorem decode_map_byteOfChar (chars : List Char) :
    decode (chars.map byteOfChar) = normalForm (String.ofList chars) := by
  -- Both the end of the text and what is kept in front of it can be told from the characters.
  have hends : (fun byte : UInt8 => byte != 0) ∘ byteOfChar =
      (fun char : Char => decide (0 < char.toNat)) ∘ stored := funext byteOfChar_bne_zero
  have hkept : charOfByte ∘ byteOfChar = stored := funext charOfByte_byteOfChar_eq_stored
  rw [decode, normalForm, String.toList_ofList, List.takeWhile_map, List.takeWhile_map,
    List.map_map, hends, hkept]

/-- The normal form of a text is what is read from its bytes. -/
theorem decode_encode_eq_normalForm (text : String) : decode (encode text) = normalForm text := by
  rw [encode, decode_map_byteOfChar, String.ofList_toList]

theorem representable_of_mem_normalForm {text : String} {char : Char}
    (h : char ∈ (normalForm text).toList) : Representable char := by
  rw [← decode_encode_eq_normalForm] at h
  exact representable_of_mem_decode h

theorem normalForm_normalForm (text : String) : normalForm (normalForm text) = normalForm text := by
  rw [← decode_encode_eq_normalForm (normalForm text)]
  exact decode_encode fun _ => representable_of_mem_normalForm

theorem length_normalForm_le (text : String) : (normalForm text).length ≤ text.length := by
  have hbytes := length_decode_le (encode text)
  rwa [length_encode, decode_encode_eq_normalForm] at hbytes

end Latin1

/-! ### Fonts -/

namespace Font

/-- What a record keeps of the height of a font: ten for zero, the greatest number for the least
one, and the absolute value of every other. -/
def storedHeight (height : Int16) : Int16 :=
  if height = 0 then 10
  else if height = -32768 then 32767
  else Int16.ofNat height.toInt.natAbs

/-- What a record keeps of a font. -/
def normalForm (font : Font) : Font :=
  { font with
    height := storedHeight font.height
    faceName := Latin1.normalForm (String.ofList (font.faceName.toList.take 31)) }

theorem magnitude_eq_natAbs {value : Int16} (h : value ≠ Int16.minValue) :
    magnitude value = Int16.ofNat value.toInt.natAbs := by
  have hleast : value.toInt ≠ -32768 := mt (Int16.toInt_inj (y := Int16.minValue)).mp h
  have hbelow := value.le_toInt
  have habove := value.toInt_lt
  have hnatAbs : (Int16.ofNat value.toInt.natAbs).toInt = value.toInt.natAbs :=
    Int16.toInt_ofNat_of_lt (by omega)
  rw [magnitude, if_neg h, ← Int16.toInt_inj, hnatAbs]
  split
  · rename_i hneg
    rw [Int16.lt_iff_toInt_lt, Int16.toInt_zero] at hneg
    rw [Int16.toInt_neg, Int.bmod_eq_of_le (by omega) (by omega)]
    omega
  · rename_i hneg
    rw [Int16.lt_iff_toInt_lt, Int16.toInt_zero] at hneg
    omega

/-- The normal form of a font is what is read from its record. -/
theorem normalized_eq_normalForm (font : Font) : font.normalized = font.normalForm := by
  have hface : Latin1.decode ((Latin1.encode font.faceName).take (faceNameBytes - 1)) =
      Latin1.normalForm (String.ofList (font.faceName.toList.take 31)) := by
    rw [Latin1.encode, ← List.map_take, Latin1.decode_map_byteOfChar]
    rfl
  have hheight : (if font.height = 0 then 10 else magnitude font.height) =
      storedHeight font.height := by
    unfold storedHeight
    split
    · rfl
    · -- Only the least number has no absolute value of its own.
      by_cases hleast : font.height = Int16.minValue
      · rw [hleast]
        rfl
      · exact (magnitude_eq_natAbs hleast).trans (if_neg hleast).symm
  rw [normalized, normalForm, hface, hheight]

/-- The record of a font in normal form holds it as it is. -/
theorem storable_normalForm (font : Font) : font.normalForm.Storable := by
  rw [← normalized_eq_normalForm]
  exact Reader.storable_of_font (Reader.font_written font 0 (Nat.le_refl 9))

theorem normalForm_normalForm (font : Font) : font.normalForm.normalForm = font.normalForm := by
  rw [← normalized_eq_normalForm font.normalForm]
  exact font.storable_normalForm.normalized_eq

end Font

/-! ### Records -/

namespace Action

/-- An action has a record, from which the second action is read. -/
def StoredAs (action read : Action) : Prop :=
  ∃ record, action.encode = .ok record ∧ record.opcode = action.opcode ∧
    record.decode = .ok (.ofAction read)

/-- An action is stored as what the reader of its type returns from its fields. -/
theorem StoredAs.of_reader {action read : Action} {type : RecordType} {written : List Field}
    (htype : action.type? = some type) (hfields : action.fields = .ok written)
    (hread : ∃ last, type.reader ⟨type.opcode, (writtenWords written).length,
      writtenWords written⟩ = .ok (read, last)) : action.StoredAs read := by
  have hencode : action.encode = .ok (.compose type.opcode written) := by
    rw [encode, hfields, opcode_of_type? htype]
    rfl
  exact ⟨_, hencode, (opcode_of_type? htype).symm, Record.decode_compose hread⟩

theorem storedAs_text {line : String} (h : line.length ≤ 65535) (origin : Point Int16) :
    (text line origin).StoredAs (text (Latin1.normalForm line) origin) := by
  have hfields : (text line origin).fields = .ok (.word (UInt16.ofNat line.length) ::
      .bytes (Latin1.encode line) :: origin.fieldsYX) := by
    rw [Action.fields, countWord_of_fits h]
    rfl
  have hread := Reader.plainText_written (Nat.lt_succ_of_le h) origin RecordType.textOut.opcode
  rw [Latin1.decode_encode_eq_normalForm] at hread
  -- The record has the count, the words of the text, and two words for the position.
  refine .of_reader rfl hfields ?_
  simpa [RecordType.reader, Field.words, Point.fieldsYX, Nat.add_comm, Nat.add_left_comm] using
    hread

theorem encode_text_of_tooLong {line : String} (h : 65535 < line.length) (origin : Point Int16) :
    ∃ defect, (text line origin).encode =
      .error (.malformed RecordType.textOut.opcode defect) := by
  refine ⟨.textTooLong, ?_⟩
  rw [encode, Action.fields, countWord_of_tooMany h]
  rfl

theorem storedAs_createFont (font : Font) :
    (createFont font).StoredAs (createFont font.normalForm) := by
  have htype : (createFont font).type? = some .createFontIndirect := rfl
  have hwords : 9 ≤ (writtenWords font.fields).length := by
    simp [Font.fields, Field.words, pairField]
  have hread := Reader.font_written font RecordType.createFontIndirect.opcode hwords
  rw [Font.normalized_eq_normalForm] at hread
  exact .of_reader htype rfl ⟨_, Reader.bind_of_ok hread⟩

/-- A line of text has a record just when it is not longer than the word that counts its characters
tells, and every font has one. Both are read again in normal form, with everything else as it was;
the normal form itself is read again unchanged. -/
theorem storedAs_normalForm (line : String) (origin : Point Int16) (font : Font) :
    (line.length ≤ 65535 →
      (text line origin).StoredAs (text (Latin1.normalForm line) origin) ∧
        (text (Latin1.normalForm line) origin).StoredAs
          (text (Latin1.normalForm line) origin)) ∧
    (65535 < line.length → ∃ defect, (text line origin).encode =
      .error (.malformed RecordType.textOut.opcode defect)) ∧
    (createFont font).StoredAs (createFont font.normalForm) ∧
    (createFont font.normalForm).StoredAs (createFont font.normalForm) := by
  refine ⟨fun hshort => ⟨storedAs_text hshort origin, ?_⟩,
    fun hlong => encode_text_of_tooLong hlong origin, storedAs_createFont font, ?_⟩
  · -- The normal form is short enough to be written in its turn, and changes no more.
    have hagain := storedAs_text
      (Nat.le_trans (Latin1.length_normalForm_le line) hshort) origin
    rwa [Latin1.normalForm_normalForm] at hagain
  · have hagain := storedAs_createFont font.normalForm
    rwa [Font.normalForm_normalForm] at hagain

/-- A character without a byte becomes a question mark, and the text ends at the zero character. -/
theorem storedAs_normalForm_resistance :
    (text "10Ω\x00k" ⟨7, 5⟩).StoredAs (text "10?" ⟨7, 5⟩) := by
  have hform : Latin1.normalForm "10Ω\x00k" = "10?" := by
    simp [Latin1.normalForm, Latin1.stored]
  have hstored := ((storedAs_normalForm "10Ω\x00k" ⟨7, 5⟩ .stock).1 (by decide)).1
  rwa [hform] at hstored

end Action

end WindowsMetafile
