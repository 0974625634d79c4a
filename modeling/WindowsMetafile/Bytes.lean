/-!
# Bytes and words

A metafile is a run of bytes that is read as 16-bit words, low byte first; a 32-bit value takes two
words, low word first.

## Main definitions

* `Word.ofBytes`, `Word.low`, `Word.high` — a word and its two bytes
* `Long.ofWords`, `Long.low`, `Long.high` — a 32-bit value and its two words
* `wordAt?`, `longAt?` — the values at a place in a run of bytes
* `chunks` — a run of bytes cut into runs of one length
* `unpackWords`, `packWords` — the bytes held in a run of words, and the words that hold a run of
  bytes, an odd end filled up with a zero byte

## Main results

* `packWords_unpackWords` — unpacked words pack again to themselves
* `take_unpackWords_packWords` — packed bytes are read back
-/

namespace WindowsMetafile

/-- A run of bytes. -/
abbrev Bytes := List UInt8

namespace Word

/-- The word with the given low and high byte. -/
def ofBytes (low high : UInt8) : UInt16 :=
  UInt16.ofNat (low.toNat + 256 * high.toNat)

/-- The low byte of a word. -/
def low (word : UInt16) : UInt8 :=
  UInt8.ofNat (word.toNat % 256)

/-- The high byte of a word. -/
def high (word : UInt16) : UInt8 :=
  UInt8.ofNat (word.toNat / 256)

/-- The two bytes of a word, low byte first. -/
def toBytes (word : UInt16) : Bytes :=
  [low word, high word]

@[simp] theorem length_toBytes (word : UInt16) : (toBytes word).length = 2 := rfl

theorem toNat_ofBytes (a b : UInt8) : (ofBytes a b).toNat = a.toNat + 256 * b.toNat := by
  have := a.toNat_lt
  have := b.toNat_lt
  simp only [ofBytes, UInt16.toNat_ofNat']
  omega

@[simp] theorem low_ofBytes (a b : UInt8) : low (ofBytes a b) = a := by
  apply UInt8.toNat_inj.1
  have := a.toNat_lt
  simp only [low, UInt8.toNat_ofNat', toNat_ofBytes]
  omega

@[simp] theorem high_ofBytes (a b : UInt8) : high (ofBytes a b) = b := by
  apply UInt8.toNat_inj.1
  have := a.toNat_lt
  have := b.toNat_lt
  simp only [high, UInt8.toNat_ofNat', toNat_ofBytes]
  omega

@[simp] theorem ofBytes_low_high (word : UInt16) : ofBytes (low word) (high word) = word := by
  apply UInt16.toNat_inj.1
  have := word.toNat_lt
  simp only [toNat_ofBytes, low, high, UInt8.toNat_ofNat']
  omega

end Word

namespace Long

/-- The 32-bit value with the given low and high word. -/
def ofWords (low high : UInt16) : UInt32 :=
  UInt32.ofNat (low.toNat + 65536 * high.toNat)

/-- The low word of a 32-bit value. -/
def low (long : UInt32) : UInt16 :=
  UInt16.ofNat (long.toNat % 65536)

/-- The high word of a 32-bit value. -/
def high (long : UInt32) : UInt16 :=
  UInt16.ofNat (long.toNat / 65536)

/-- The four bytes of a 32-bit value, lowest byte first. -/
def toBytes (long : UInt32) : Bytes :=
  Word.toBytes (low long) ++ Word.toBytes (high long)

@[simp] theorem length_toBytes (long : UInt32) : (toBytes long).length = 4 := rfl

theorem toNat_ofWords (a b : UInt16) : (ofWords a b).toNat = a.toNat + 65536 * b.toNat := by
  have := a.toNat_lt
  have := b.toNat_lt
  simp only [ofWords, UInt32.toNat_ofNat']
  omega

@[simp] theorem low_ofWords (a b : UInt16) : low (ofWords a b) = a := by
  apply UInt16.toNat_inj.1
  have := a.toNat_lt
  simp only [low, UInt16.toNat_ofNat', toNat_ofWords]
  omega

@[simp] theorem high_ofWords (a b : UInt16) : high (ofWords a b) = b := by
  apply UInt16.toNat_inj.1
  have := a.toNat_lt
  have := b.toNat_lt
  simp only [high, UInt16.toNat_ofNat', toNat_ofWords]
  omega

@[simp] theorem ofWords_low_high (long : UInt32) : ofWords (low long) (high long) = long := by
  apply UInt32.toNat_inj.1
  have := long.toNat_lt
  simp only [toNat_ofWords, low, high, UInt16.toNat_ofNat']
  omega

end Long

/-- The word at a place in a run of bytes. -/
def wordAt? (bytes : Bytes) (offset : Nat) : Option UInt16 :=
  match bytes.drop offset with
  | low :: high :: _ => some (Word.ofBytes low high)
  | _ => none

/-- The 32-bit value at a place in a run of bytes. -/
def longAt? (bytes : Bytes) (offset : Nat) : Option UInt32 :=
  match bytes.drop offset with
  | a :: b :: c :: d :: _ => some (Long.ofWords (Word.ofBytes a b) (Word.ofBytes c d))
  | _ => none

/-- The first `count` runs of `size` bytes, the last one perhaps shorter. -/
def chunks (size : Nat) : Nat → Bytes → List Bytes
  | 0, _ => []
  | _ + 1, [] => []
  | count + 1, bytes => bytes.take size :: chunks size count (bytes.drop size)

/-! ### Runs of bytes in words -/

/-- The words needed to hold a number of bytes. -/
def wordsFor (byteCount : Nat) : Nat :=
  (byteCount + 1) / 2

/-- The bytes held in a run of words. -/
def unpackWords (words : List UInt16) : Bytes :=
  words.flatMap Word.toBytes

def packOnto (done : List UInt16) : Bytes → List UInt16
  | [] => done.reverse
  | [last] => (Word.ofBytes last 0 :: done).reverse
  | low :: high :: rest => packOnto (Word.ofBytes low high :: done) rest

/-- The words that hold a run of bytes; an odd end is filled up with a zero byte. -/
def packWords (bytes : Bytes) : List UInt16 :=
  packOnto [] bytes

/-- The words of a run of bytes come in pairs of bytes; every induction on packing uses this. -/
theorem pairInduction {motive : Bytes → Prop} (nil : motive []) (last : ∀ byte, motive [byte])
    (pair : ∀ low high rest, motive rest → motive (low :: high :: rest)) :
    ∀ bytes, motive bytes
  | [] => nil
  | [byte] => last byte
  | low :: high :: rest => pair low high rest (pairInduction nil last pair rest)

private theorem packOnto_eq (done : List UInt16) (bytes : Bytes) :
    packOnto done bytes = done.reverse ++ packOnto [] bytes := by
  induction bytes using pairInduction generalizing done with
  | nil => simp [packOnto]
  | last => simp [packOnto]
  | pair low high rest step =>
    rw [packOnto, packOnto, step, step [_]]
    simp

@[simp] theorem packWords_nil : packWords [] = [] := rfl

@[simp] theorem packWords_singleton (last : UInt8) : packWords [last] = [Word.ofBytes last 0] := rfl

@[simp] theorem packWords_cons_cons (low high : UInt8) (rest : Bytes) :
    packWords (low :: high :: rest) = Word.ofBytes low high :: packWords rest := by
  rw [packWords, packOnto, packOnto_eq]
  rfl

@[simp] theorem unpackWords_nil : unpackWords [] = [] := rfl

@[simp] theorem unpackWords_cons (word : UInt16) (words : List UInt16) :
    unpackWords (word :: words) = Word.low word :: Word.high word :: unpackWords words := rfl

@[simp] theorem length_unpackWords (words : List UInt16) :
    (unpackWords words).length = 2 * words.length := by
  induction words with
  | nil => rfl
  | cons word words step => simp [step]; omega

@[simp] theorem length_packWords (bytes : Bytes) :
    (packWords bytes).length = wordsFor bytes.length := by
  induction bytes using pairInduction with
  | nil => rfl
  | last => simp [wordsFor]
  | pair low high rest step => simp [step, wordsFor]; omega

/-- Unpacked words pack again to themselves. -/
@[simp] theorem packWords_unpackWords (words : List UInt16) :
    packWords (unpackWords words) = words := by
  induction words with
  | nil => rfl
  | cons word words step => simp [step]

/-- Packed bytes are read back; an odd run gains one zero byte, which the count leaves out. -/
@[simp] theorem take_unpackWords_packWords (bytes : Bytes) :
    (unpackWords (packWords bytes)).take bytes.length = bytes := by
  induction bytes using pairInduction with
  | nil => rfl
  | last byte => simp
  | pair low high rest step => simp [step]

end WindowsMetafile
