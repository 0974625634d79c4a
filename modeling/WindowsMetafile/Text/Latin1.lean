import WindowsMetafile.Bytes

/-!
# Single-byte text

Records carry text with one byte for each character, and a zero byte ends it. A byte is the
character of the same number; a character that has no byte is written as a question mark.

## Main definitions

* `Latin1.decode` — the text before the first zero byte
* `Latin1.encode` — the bytes of a text

## Main results

* `Latin1.decode_encode` — text of the characters `U+0001` to `U+00FF` is read back unchanged
* `Latin1.representable_of_mem_decode` — there are no other characters in a text that was read
-/

namespace WindowsMetafile.Latin1

/-- The character with the number of a byte. -/
def charOfByte (byte : UInt8) : Char :=
  Char.ofNat byte.toNat

/-- The byte of a character, and the question mark for one above `U+00FF`. -/
def byteOfChar (char : Char) : UInt8 :=
  if char.toNat < 256 then UInt8.ofNat char.toNat else 0x3F

/-- The text that a run of bytes holds, up to its first zero byte. -/
def decode (bytes : Bytes) : String :=
  String.ofList ((bytes.takeWhile (· != 0)).map charOfByte)

/-- The bytes of a text, one for each character and without a closing zero. -/
def encode (text : String) : Bytes :=
  text.toList.map byteOfChar

/-- A character that a record can carry: not zero, and with a byte of its own. -/
def Representable (char : Char) : Prop :=
  0 < char.toNat ∧ char.toNat < 256

theorem toNat_charOfByte (byte : UInt8) : (charOfByte byte).toNat = byte.toNat := by
  have := byte.toNat_lt
  rw [charOfByte, Char.ofNat, dif_pos (Or.inl (by omega))]
  rfl

@[simp] theorem length_encode (text : String) : (encode text).length = text.length := by
  simp [encode, String.length]

theorem charOfByte_byteOfChar {char : Char} (small : char.toNat < 256) :
    charOfByte (byteOfChar char) = char := by
  simp [charOfByte, byteOfChar, small, Nat.mod_eq_of_lt small]

private theorem byteOfChar_ne_zero {char : Char} (representable : Representable char) :
    (byteOfChar char != 0) = true := by
  obtain ⟨positive, small⟩ := representable
  simp only [byteOfChar, small, if_true, bne_iff_ne, ne_eq]
  intro zero
  have := congrArg UInt8.toNat zero
  simp [Nat.mod_eq_of_lt small] at this
  omega

/-- Text of representable characters is read back unchanged. -/
theorem decode_encode {text : String} (representable : ∀ c ∈ text.toList, Representable c) :
    decode (encode text) = text := by
  have kept : (encode text).takeWhile (· != 0) = encode text := by
    have all : ∀ byte ∈ encode text, (byte != 0) = true := by
      intro byte member
      obtain ⟨char, inText, rfl⟩ := List.mem_map.1 member
      exact byteOfChar_ne_zero (representable char inText)
    rw [← List.append_nil (encode text), List.takeWhile_append_of_pos all]
    rfl
  have same : (encode text).map charOfByte = text.toList := by
    rw [encode, List.map_map]
    conv => rhs; rw [← List.map_id text.toList]
    exact List.map_congr_left fun char inText =>
      charOfByte_byteOfChar (representable char inText).2
  rw [decode, kept, same, String.ofList_toList]

/-- Zeros behind a text are not part of it. -/
theorem decode_append_zeros (bytes : Bytes) (zeros : Nat) :
    decode (bytes ++ List.replicate zeros 0) = decode bytes := by
  rw [decode, decode, List.takeWhile_append, List.takeWhile_replicate]
  split
  · rename_i whole
    rw [(List.takeWhile_prefix _).eq_of_length whole]
    simp
  · rfl

/-- A text that was read has characters that can be written. -/
theorem representable_of_mem_decode {bytes : Bytes} {char : Char}
    (member : char ∈ (decode bytes).toList) : Representable char := by
  rw [decode, String.toList_ofList] at member
  obtain ⟨byte, taken, rfl⟩ := List.mem_map.1 member
  have nonzero : byte ≠ 0 := by
    simpa using List.all_eq_true.1 List.all_takeWhile byte taken
  have positive : byte.toNat ≠ 0 := fun zero => nonzero (UInt8.toNat_inj.1 zero)
  rw [Representable, toNat_charOfByte]
  exact ⟨Nat.pos_of_ne_zero positive, byte.toNat_lt⟩

/-- A text has at most one character for each byte that it was read from. -/
theorem length_decode_le (bytes : Bytes) : (decode bytes).length ≤ bytes.length := by
  rw [decode, String.length_ofList, List.length_map]
  exact (List.takeWhile_prefix _).length_le

end WindowsMetafile.Latin1
