import Mathlib.Data.List.TakeDrop
import WindowsMetafile.Proofs.CountedLists

/-!
# Text with options, written and read again

The record of a text with options does not say whether it has a rectangle: that follows from the
options and, on a filled background, from the length of the record. So a text has no written form
when its rectangle does not go with its options, or when its advances would be taken for one. Every
other text is read again as it was, as long as it has an advance for each character, or none.

A text that was read may have more advances than characters, because a zero byte cuts the characters
and leaves the advances. It can be written all the same, but then the advances behind the last
character are lost.

## Main results

* `ExtendedText.decode_encode_trimmed` — a text that can be written is read back up to advances
  without a character
* `Action.encode_extendedText` — which texts with options can be written, and that these are read
  again
* `Record.encode_of_decode_extendedText` — a text that was read can be written, and is read again
  just when it has no more advances than characters
-/

namespace WindowsMetafile

/-! ### Texts with a written form -/

namespace ExtendedText

variable {content : ExtendedText} {opcode : UInt16} {written : List Field}

theorem fields_of_refused (content : ExtendedText)
    (h : 65535 < content.text.length ∨ content.Mismatch) (opcode : UInt16) :
    ∃ defect, content.fields opcode = .error (.malformed opcode defect) := by
  by_cases hlength : content.text.length ≤ 65535
  · obtain ⟨defect, hbounds⟩ :=
      boundsFields_of_mismatch (h.resolve_left (Nat.not_lt.mpr hlength)) opcode
    rw [fields, countWord_of_fits hlength, hbounds]
    exact ⟨defect, rfl⟩
  · rw [fields, countWord_of_tooMany (Nat.not_le.mp hlength)]
    exact ⟨_, rfl⟩

theorem fields_of_not_mismatch (hlength : content.text.length ≤ 65535) (h : ¬ content.Mismatch)
    (opcode : UInt16) : ∃ written, content.fields opcode = .ok written := by
  rw [fields, countWord_of_fits hlength, boundsFields_of_not_mismatch h]
  exact ⟨_, rfl⟩

/-- A text with a written form is read back up to advances without a character. -/
theorem decode_encode_trimmed (htext : Latin1.Storable content.text)
    (hadvances : content.advances = [] ∨ content.text.length ≤ content.advances.length)
    (h : content.fields RecordType.extTextOut.opcode = .ok written) :
    ∃ record, (Action.extendedText content).encode = .ok record ∧
      record.opcode = RecordType.extTextOut.opcode ∧
      record.decode = .ok (.ofAction (.extendedText content.trimmed)) := by
  have hencode : (Action.extendedText content).encode =
      .ok (.compose RecordType.extTextOut.opcode written) := by
    change (content.fields RecordType.extTextOut.opcode).map _ = _
    rw [h]
    rfl
  obtain ⟨last, hread⟩ :=
    Reader.extendedText_written htext hadvances h RecordType.extTextOut.opcode
  have hrun : ∃ last, RecordType.extTextOut.reader ⟨RecordType.extTextOut.opcode,
      (writtenWords written).length, writtenWords written⟩ =
        .ok (.extendedText content.trimmed, last) :=
    ⟨last, Reader.bind_of_ok hread⟩
  exact ⟨_, hencode, rfl, Record.decode_compose hrun⟩

theorem trimmed_eq_iff :
    content.trimmed = content ↔ content.advances.length ≤ content.text.length := by
  rw [← List.take_eq_self_iff, trimmed]
  constructor
  · intro h
    exact congrArg advances h
  · intro h
    rw [h]

end ExtendedText

/-- A text with options has a written form unless it is too long or its rectangle does not go with
the rest. When all its characters have bytes and there is an advance for each of them, or none, then
it is read back as it was. -/
theorem Action.encode_extendedText (content : ExtendedText)
    (htext : ∀ c ∈ content.text.toList, Latin1.Representable c)
    (hadvances : content.advances.length = 0 ∨ content.advances.length = content.text.length) :
    (65535 < content.text.length ∨ content.Mismatch → ∃ defect,
      (extendedText content).encode =
        .error (.malformed RecordType.extTextOut.opcode defect)) ∧
    (¬ (65535 < content.text.length ∨ content.Mismatch) → ∃ record,
      (extendedText content).encode = .ok record ∧
        record.opcode = RecordType.extTextOut.opcode ∧
        record.decode = .ok (.ofAction (.extendedText content))) := by
  refine ⟨fun hrefused => ?_, fun hwritten => ?_⟩
  · obtain ⟨defect, hfields⟩ := content.fields_of_refused hrefused RecordType.extTextOut.opcode
    refine ⟨defect, ?_⟩
    change (content.fields RecordType.extTextOut.opcode).map _ = _
    rw [hfields]
    rfl
  · obtain ⟨hlength, hmatch⟩ := not_or.mp hwritten
    have hstorable : Latin1.Storable content.text :=
      ⟨Nat.lt_succ_of_le (Nat.le_of_not_lt hlength), htext⟩
    have hlong : content.advances = [] ∨ content.text.length ≤ content.advances.length :=
      hadvances.imp List.eq_nil_of_length_eq_zero fun h => Nat.le_of_eq h.symm
    obtain ⟨written, hfields⟩ := ExtendedText.fields_of_not_mismatch
      (Nat.le_of_not_lt hlength) hmatch RecordType.extTextOut.opcode
    have hkept : content.trimmed = content :=
      ExtendedText.trimmed_eq_iff.mpr (by omega)
    have h := ExtendedText.decode_encode_trimmed hstorable hlong hfields
    rwa [hkept] at h

/-- With three advances, a text of three characters on a filled background needs no rectangle. -/
theorem Action.encode_extendedText_three_advances :
    let content : ExtendedText := ⟨⟨7, 5⟩, 2, none, "abc", [4, 5, 6]⟩
    ∃ record, (extendedText content).encode = .ok record ∧ record.opcode = 0x0A32 ∧
      record.decode = .ok (.ofAction (.extendedText content)) := by
  intro content
  have htext : ∀ c ∈ content.text.toList, Latin1.Representable c := by
    simp [content, Latin1.Representable]
  have hmatch : ¬ content.Mismatch := by
    intro h
    cases h with
    | missing hclips hbounds => exact absurd hclips (by decide)
    | unused bounds hbounds hclips hfills => cases hbounds
    | ambiguous hfills hclips hbounds hmany => exact absurd hmany (by decide)
  have hwritten : ¬ (65535 < content.text.length ∨ content.Mismatch) :=
    not_or.mpr ⟨by decide, hmatch⟩
  exact (encode_extendedText content htext (.inr (by decide))).2 hwritten

/-! ### Texts that were read -/

namespace Record

variable {record : Record} {command : Command}

/-- A text with options that was read can be written. What is written is read as the same text but
for the advances behind its last character, so as the same command just when there are none. -/
theorem encode_of_decode_extendedText
    (htype : RecordType.ofOpcode? record.opcode = some .extTextOut)
    (h : record.decode = .ok command) :
    ∃ content again, command = .ofAction (.extendedText content) ∧ command.encode = .ok again ∧
      again.opcode = record.opcode ∧
      again.decode = .ok (.ofAction (.extendedText content.trimmed)) ∧
      (again.decode = .ok command ↔ content.advances.length ≤ content.text.length) := by
  obtain ⟨action, hread, rfl⟩ := (decode_eq_ok htype).mp h
  obtain ⟨content, last, hcontent, rfl⟩ := Reader.of_run_bind_pure hread
  obtain ⟨htext, hadvances, written, hfields⟩ :=
    Reader.fields_of_extendedText hcontent RecordType.extTextOut.opcode
  obtain ⟨again, hencode, hopcode, hagain⟩ :=
    ExtendedText.decode_encode_trimmed htext hadvances hfields
  refine ⟨content, again, rfl, hencode, ?_, hagain, ?_⟩
  · rw [hopcode, RecordType.ofOpcode?_eq_some_iff.mp htype]
  · rw [hagain, ← ExtendedText.trimmed_eq_iff]
    simp

/-- A text that no zero byte cuts is read back with its rectangle and all advances. -/
theorem encode_of_decode_extendedText_whole :
    let record : Record := ⟨0x0A32, [5, 7, 2, 2, 0, 0, 20, 10, 0x6948, 3, 4]⟩
    let content : ExtendedText := ⟨⟨7, 5⟩, 2, some ⟨0, 0, 20, 10⟩, "Hi", [3, 4]⟩
    let command := Command.ofAction (.extendedText content)
    record.decode = .ok command ∧ ∃ again, command.encode = .ok again ∧ again.opcode = 0x0A32 ∧
      again.decode = .ok command := by
  intro record content command
  have hread : record.decode = .ok command := rfl
  have htype : RecordType.ofOpcode? record.opcode = some .extTextOut := rfl
  obtain ⟨content', again, hcommand, hencode, hopcode, -, hkept⟩ :=
    encode_of_decode_extendedText htype hread
  obtain rfl : content = content' := by simpa [command] using hcommand
  exact ⟨hread, again, hencode, hopcode, hkept.mpr (by decide)⟩

/-- A zero byte cuts the text and leaves the advances, which are lost when it is written. -/
theorem encode_of_decode_extendedText_cut :
    let record : Record := ⟨0x0A32, [0, 0, 3, 0, 0x0041, 0x0042, 1, 2, 3]⟩
    let command := Command.ofAction (.extendedText ⟨⟨0, 0⟩, 0, none, "A", [1, 2, 3]⟩)
    record.decode = .ok command ∧ ∃ again, command.encode = .ok again ∧
      again.decode = .ok (.ofAction (.extendedText ⟨⟨0, 0⟩, 0, none, "A", [1]⟩)) ∧
      again.decode ≠ .ok command := by
  intro record command
  let again : Record := ⟨0x0A32, [0, 0, 1, 0, 0x0041, 1, 2, 3]⟩
  have hagain : again.decode = .ok (.ofAction (.extendedText ⟨⟨0, 0⟩, 0, none, "A", [1]⟩)) := rfl
  refine ⟨rfl, again, rfl, hagain, ?_⟩
  rw [hagain]
  simp [command]

end Record

end WindowsMetafile
