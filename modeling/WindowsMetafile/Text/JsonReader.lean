import WindowsMetafile.Text.Decimal
import WindowsMetafile.Text.Latin1
import WindowsMetafile.Text.Quoted

/-!
# Reading JSON text

A reader moves over the octets of a text and takes the parts that its caller expects. All that JSON
itself asks for is ASCII, so an octet is kept as the character of the same number; a string gets its
own characters back at its end. A fault keeps the number of octets behind it, from which its line
and column follow.

## Main definitions

* `JsonFault`, `JsonFault.message` — a defect with its place in the text
* `JsonReader` — a computation that moves over a text and can fail
* `JsonReader.string`, `JsonReader.number`, `JsonReader.null` — single values
* `JsonReader.list`, `JsonReader.fields` — the parts of arrays and objects, read by a given reader
-/

namespace WindowsMetafile

/-- What is wrong with a JSON text, or with a value for its purpose. -/
inductive JsonDefect
  /-- The text ends inside of something. -/
  | endOfText (inside : String)
  /-- Something else stands where one thing has to stand. -/
  | missing (what : String)
  /-- A number or an escape has no meaning. -/
  | invalid (what : String)
  | numberOutOfRange
  | controlCharacter
  | keyNotString
  | trailingComma
  | trailingCharacters
  | loneSurrogate
  | endOfEscape
  | unknownField (name expected : String)
  | duplicateField (name : String)
  | unknownVariant (name expected : String)
  | invalidType (found expected : String)
  | invalidValue (found expected : String)
  | invalidLength (length : Nat) (expected : String)
  deriving DecidableEq, Repr

/-- The wording of a defect. -/
def JsonDefect.message : JsonDefect → String
  | .endOfText inside => s!"EOF while parsing {inside}"
  | .missing what => s!"expected {what}"
  | .invalid what => s!"invalid {what}"
  | .numberOutOfRange => "number out of range"
  | .controlCharacter =>
    "control character (\\u0000-\\u001F) found while parsing a string"
  | .keyNotString => "key must be a string"
  | .trailingComma => "trailing comma"
  | .trailingCharacters => "trailing characters"
  | .loneSurrogate => "lone leading surrogate in hex escape"
  | .endOfEscape => "unexpected end of hex escape"
  | .unknownField name expected => s!"unknown field `{name}`, expected one of {expected}"
  | .duplicateField name => s!"duplicate field `{name}`"
  | .unknownVariant name expected => s!"unknown variant `{name}`, expected {expected}"
  | .invalidType found expected => s!"invalid type: {found}, expected {expected}"
  | .invalidValue found expected => s!"invalid value: {found}, expected {expected}"
  | .invalidLength length expected => s!"invalid length {length}, expected {expected}"

/-- A defect with its place in a text. -/
structure JsonFault where
  defect : JsonDefect
  /-- The number of octets behind the place. -/
  left : Nat
  deriving DecidableEq, Repr

/-- The octets of a text, each as the character of the same number. -/
def octetsOf (text : String) : List Char :=
  text.toUTF8.data.toList.map Latin1.charOfByte

/-- The text that some octets make up. -/
def ofOctets (octets : List Char) : String :=
  (String.fromUTF8? ⟨(octets.map Latin1.byteOfChar).toArray⟩).getD ""

/-- The line of a place and its column, both of the last octet before it. -/
def lineAndColumn (before : List Char) : Nat × Nat :=
  before.foldl
    (fun (line, column) octet => if octet = '\n' then (line + 1, 0) else (line, column + 1))
    (1, 0)

/-- The wording of a fault in a text. -/
def JsonFault.message (text : String) (fault : JsonFault) : String :=
  let octets := octetsOf text
  let (line, column) := lineAndColumn (octets.take (octets.length - fault.left))
  s!"{fault.defect.message} at line {line} column {column}"

/-- A computation that moves over a text and can fail. -/
abbrev JsonReader := StateT (List Char) (Except JsonFault)

/-- A number; those with a fraction or an exponent are kept apart. -/
inductive JsonNumber
  | whole (value : Int)
  | real (value : Float)
  deriving Repr

/-- What a number is called in a fault. -/
def JsonNumber.describe : JsonNumber → String
  | .whole value => s!"integer `{value}`"
  | .real value => "floating point `" ++ (decimalText value).getD "" ++ "`"

namespace JsonReader

/-- A fault behind the octets taken so far. -/
def refuse {α : Type} (defect : JsonDefect) : JsonReader α := fun rest =>
  .error ⟨defect, rest.length⟩

/-- A fault behind the next octet, if there is one. -/
def refuseNext {α : Type} (defect : JsonDefect) : JsonReader α := fun rest =>
  .error ⟨defect, rest.length - 1⟩

/-- Whether an octet may stand between the parts of a text. -/
def isBlank (char : Char) : Bool :=
  char = ' ' || char = '\n' || char = '\t' || char = '\r'

/-- Passes over blanks and looks at the next octet. -/
def peek : JsonReader (Option Char) := fun rest =>
  let rest := rest.dropWhile isBlank
  .ok (rest.head?, rest)

/-- Passes over one octet. -/
def advance : JsonReader Unit := fun rest =>
  .ok ((), rest.drop 1)

/-- The number that a hexadecimal digit stands for. -/
def hexDigit? (char : Char) : Option Nat :=
  if '0' ≤ char ∧ char ≤ '9' then some (char.toNat - '0'.toNat)
  else if 'a' ≤ char ∧ char ≤ 'f' then some (char.toNat - 'a'.toNat + 10)
  else if 'A' ≤ char ∧ char ≤ 'F' then some (char.toNat - 'A'.toNat + 10)
  else none

/-- The number of four hexadecimal digits. -/
def codeUnit? (a b c d : Char) : Option Nat := do
  return 4096 * (← hexDigit? a) + 256 * (← hexDigit? b) + 16 * (← hexDigit? c) + (← hexDigit? d)

/-- The character that a letter behind a backslash stands for. -/
def escaped? : Char → Option Char
  | '"' => some '"'
  | '\\' => some '\\'
  | '/' => some '/'
  | 'b' => some '\x08'
  | 'f' => some '\x0c'
  | 'n' => some '\n'
  | 'r' => some '\r'
  | 't' => some '\t'
  | _ => none

/-- Puts the octets of a character before others that are in reverse order. -/
def pushChar (char : Char) (done : List Char) : List Char :=
  (octetsOf char.toString).reverse ++ done

/-- The text up to the closing quote, behind octets that are in reverse order. Two escapes that
follow each other can stand for one character. -/
def stringFrom (done : List Char) : List Char → Except JsonFault (String × List Char)
  | [] | ['\\'] => .error ⟨.endOfText "a string", 0⟩
  | '"' :: rest => .ok (ofOctets done.reverse, rest)
  | '\\' :: 'u' :: a :: b :: c :: d :: rest =>
    match codeUnit? a b c d with
    | none => .error ⟨.invalid "escape", rest.length⟩
    | some first =>
      if 0xD800 ≤ first ∧ first < 0xDC00 then
        match rest with
        | '\\' :: 'u' :: e :: f :: g :: h :: rest =>
          match codeUnit? e f g h with
          | none => .error ⟨.invalid "escape", rest.length⟩
          | some second =>
            if 0xDC00 ≤ second ∧ second < 0xE000 then
              let code := 0x10000 + 1024 * (first - 0xD800) + (second - 0xDC00)
              stringFrom (pushChar (Char.ofNat code) done) rest
            else .error ⟨.loneSurrogate, rest.length⟩
        | [] | ['\\'] | '\\' :: 'u' :: _ => .error ⟨.endOfText "a string", 0⟩
        | '\\' :: _ :: rest | _ :: rest => .error ⟨.endOfEscape, rest.length⟩
      else if 0xDC00 ≤ first ∧ first < 0xE000 then .error ⟨.loneSurrogate, rest.length⟩
      else stringFrom (pushChar (Char.ofNat first) done) rest
  | '\\' :: 'u' :: _ => .error ⟨.endOfText "a string", 0⟩
  | '\\' :: letter :: rest =>
    match escaped? letter with
    | some char => stringFrom (char :: done) rest
    | none => .error ⟨.invalid "escape", rest.length⟩
  | octet :: rest =>
    if octet.toNat < 0x20 then .error ⟨.controlCharacter, rest.length⟩
    else stringFrom (octet :: done) rest

/-- A string, from behind its opening quote on. -/
def stringBody : JsonReader String := fun rest =>
  stringFrom [] rest

/-! ### Numbers -/

/-- The greatest whole number that is kept exactly. -/
def greatestWhole : Nat := 18446744073709551615

/-- The greatest exponent that is taken as it is. -/
def greatestExponent : Nat := 2147483647

/-- Appends digits to a number while the result is at most `greatest`; also gives how many were
appended. -/
def appendDigits (greatest : Nat) : Nat → List Nat → Nat × Nat
  | number, [] => (number, 0)
  | number, digit :: digits =>
    let longer := 10 * number + digit
    if longer ≤ greatest then
      let (result, appended) := appendDigits greatest longer digits
      (result, appended + 1)
    else (number, 0)

/-- A number times a power of ten, by one multiplication or division with the power; far below the
least number, the exponent is first raised by 308. There is no result beyond the greatest number. -/
def timesPowerOfTen? (number : Nat) (exponent : Int) : Option Float :=
  let factor := Float.ofNat number
  let power (exponent : Int) : Float := Float.ofScientific 1 false exponent.toNat
  if 308 < exponent then
    if number = 0 then some 0.0 else none
  else if 0 ≤ exponent then
    let product := factor * power exponent
    if product.isInf then none else some product
  else if -308 ≤ exponent then some (factor / power (-exponent))
  else if -616 ≤ exponent then some (factor / power 308 / power (-exponent - 308))
  else some 0.0

/-- The digits at the start of a text, and the text behind them. -/
def digitsOf (text : List Char) : List Nat × List Char :=
  ((text.takeWhile Char.isDigit).map fun char => char.toNat - '0'.toNat,
    text.dropWhile Char.isDigit)

/-- The number that some digits stand for. -/
def numberOf (digits : List Nat) : Nat :=
  digits.foldl (fun number digit => 10 * number + digit) 0

/-- The exponent of a number. -/
structure Exponent where
  value : Int
  /-- How many of its digits stand behind the one that takes it beyond the greatest exponent. -/
  excess : Nat

/-- The digits of a number, from the part before the point on. -/
structure NumberParts where
  digits : List Nat
  /-- The digits behind the point; missing when there is no point. -/
  fraction : Option (List Nat)
  exponent : Option Exponent

/-- The fault of a text that goes on with something else than a digit. -/
def notDigit (text : List Char) : JsonFault :=
  if text.isEmpty then ⟨.endOfText "a value", 0⟩ else ⟨.invalid "number", text.length - 1⟩

/-- The digits behind a point, of which there has to be one. -/
def fractionOf (text : List Char) : Except JsonFault (Option (List Nat) × List Char) :=
  match text with
  | '.' :: text =>
    match digitsOf text with
    | ([], rest) => .error (notDigit rest)
    | (digits, rest) => .ok (some digits, rest)
  | text => .ok (none, text)

/-- The exponent behind its sign. -/
def signedExponentOf (negative : Bool) (text : List Char) :
    Except JsonFault (Option Exponent × List Char) :=
  match digitsOf text with
  | ([], rest) => .error (notDigit rest)
  | (digits, rest) =>
    let size : Int := numberOf digits
    let (_, fitting) := appendDigits greatestExponent 0 digits
    .ok (some ⟨if negative then -size else size, digits.length - (fitting + 1)⟩, rest)

/-- The exponent, with or without a sign. -/
def exponentOf (text : List Char) : Except JsonFault (Option Exponent × List Char) :=
  match text with
  | 'e' :: '-' :: text | 'E' :: '-' :: text => signedExponentOf true text
  | 'e' :: '+' :: text | 'E' :: '+' :: text => signedExponentOf false text
  | 'e' :: text | 'E' :: text => signedExponentOf false text
  | text => .ok (none, text)

/-- The parts of a number without its sign. A zero in front stands alone. -/
def partsOf (text : List Char) : Except JsonFault (NumberParts × List Char) := do
  let (digits, rest) ←
    match digitsOf text with
    | ([], rest) => .error (notDigit rest)
    | (0 :: _ :: _, _) => .error ⟨.invalid "number", text.length - 2⟩
    | found => .ok found
  let (fraction, rest) ← fractionOf rest
  let (exponent, rest) ← exponentOf rest
  return (⟨digits, fraction, exponent⟩, rest)

/-- The value of the parts of a number. Digits that do not fit into a whole number of 64 bits are
dropped. -/
def NumberParts.value? (parts : NumberParts) (negative : Bool) : Option JsonNumber :=
  let (whole, kept) := appendDigits greatestWhole 0 parts.digits
  let dropped := parts.digits.length - kept
  let real (value : Float) : JsonNumber := .real (if negative then -value else value)
  if parts.fraction.isNone ∧ parts.exponent.isNone ∧ dropped = 0 then
    if ¬negative then some (.whole whole)
    else if 0 < whole ∧ whole ≤ 9223372036854775808 then some (.whole (-whole))
    else some (real (Float.ofNat whole))
  else
    let (significand, appended) := appendDigits greatestWhole whole (parts.fraction.getD [])
    let exponent : Int := dropped - appended + parts.exponent.elim 0 Exponent.value
    (timesPowerOfTen? significand exponent).map real

/-- A number, from its first octet on. One that is out of range because of its exponent is given up
at the digit that shows it. -/
def number : JsonReader JsonNumber := fun text => do
  let (negative, text) :=
    match text with
    | '-' :: rest => (true, rest)
    | _ => (false, text)
  let (parts, rest) ← partsOf text
  match parts.value? negative with
  | some value => .ok (value, rest)
  | none => .error ⟨.numberOutOfRange, rest.length + parts.exponent.elim 0 Exponent.excess⟩

/-! ### Other values -/

/-- A word, from its second letter on. -/
def word (letters : List Char) : JsonReader Unit := fun text =>
  if letters.isPrefixOf text then .ok ((), text.drop letters.length)
  else if text.isPrefixOf letters then .error ⟨.endOfText "a value", 0⟩
  else
    let same := (letters.zip text).takeWhile fun (a, b) => a == b
    .error ⟨.missing "ident", text.length - same.length - 1⟩

/-- What kind of value stands next, for a fault. -/
def describe : JsonReader String := do
  match ← peek with
  | some 'n' =>
    advance
    word ['u', 'l', 'l']
    return "null"
  | some 't' =>
    advance
    word ['r', 'u', 'e']
    return "boolean `true`"
  | some 'f' =>
    advance
    word ['a', 'l', 's', 'e']
    return "boolean `false`"
  | some '"' =>
    advance
    return "string " ++ Quoted.encode (← stringBody)
  | some '[' => return "sequence"
  | some '{' => return "map"
  | some char =>
    if char = '-' ∨ char.isDigit then
      return (← number).describe
    else refuseNext (.missing "value")
  | none => refuse (.endOfText "a value")

/-- Refuses the next value, which has another type than expected. -/
def refuseType {α : Type} (expected : String) : JsonReader α := do
  let found ← describe
  refuse (.invalidType found expected)

/-- A string, where one is expected. -/
def string (expected : String) : JsonReader String := do
  match ← peek with
  | some '"' =>
    advance
    stringBody
  | _ => refuseType expected

/-- A value that may be null. -/
def nullable {α : Type} (read : JsonReader α) : JsonReader (Option α) := do
  match ← peek with
  | some 'n' =>
    advance
    word ['u', 'l', 'l']
    return none
  | _ => return some (← read)

/-- A whole number in a range that starts at zero. -/
def natural (greatest : Nat) (expected : String) : JsonReader Nat := do
  match ← peek with
  | some char =>
    if char = '-' ∨ char.isDigit then
      match ← number with
      | .whole value =>
        if 0 ≤ value ∧ value ≤ greatest then return value.toNat
        else refuse (.invalidValue (JsonNumber.whole value).describe expected)
      | real => refuse (.invalidType real.describe expected)
    else refuseType expected
  | none => refuse (.endOfText "a value")

/-- Any number. -/
def float (expected : String) : JsonReader Float := do
  match ← peek with
  | some char =>
    if char = '-' ∨ char.isDigit then
      match ← number with
      | .whole value => return Float.ofInt value
      | .real value => return value
    else refuseType expected
  | none => refuse (.endOfText "a value")

/-! ### Arrays and objects -/

/-- Moves on to the next item of an array, from behind its opening bracket on; tells whether there
is one. -/
def nextItem (first : Bool) : JsonReader Bool := do
  match ← peek with
  | some ']' => return false
  | some ',' =>
    if first then return true
    else
      advance
      match ← peek with
      | some ']' => refuseNext .trailingComma
      | some _ => return true
      | none => refuse (.endOfText "a value")
  | some _ => if first then return true else refuseNext (.missing "`,` or `]`")
  | none => refuse (.endOfText "a list")

/-- The end of an array. -/
def endList : JsonReader Unit := do
  match ← peek with
  | some ']' => advance
  | some ',' =>
    advance
    match ← peek with
    | some ']' => refuseNext .trailingComma
    | _ => refuseNext .trailingCharacters
  | some _ => refuseNext .trailingCharacters
  | none => refuse (.endOfText "a list")

/-- The items of an array that has a given number of them. The fault of a short array stands behind
its closing bracket. -/
def itemsFrom {α : Type} (expected : String) (read : JsonReader α) :
    Nat → List α → JsonReader (List α)
  | 0, done => return done.reverse
  | more + 1, done => do
    if ← nextItem done.isEmpty then
      itemsFrom expected read more ((← read) :: done)
    else
      advance
      refuse (.invalidLength done.length expected)

/-- An array of a given number of items. -/
def list {α : Type} (length : Nat) (expected : String) (read : JsonReader α) :
    JsonReader (List α) := do
  match ← peek with
  | some '[' =>
    advance
    let items ← itemsFrom expected read length []
    endList
    return items
  | _ => refuseType expected

/-- The key of the next field of an object, from behind its opening brace on, if there is one. -/
def nextKey (first : Bool) : JsonReader (Option String) := do
  let keyAt : Option Char → JsonReader (Option String)
    | some '"' => do
      advance
      return some (← stringBody)
    | some '}' => refuseNext .trailingComma
    | some _ => refuseNext .keyNotString
    | none => refuse (.endOfText "a value")
  match ← peek with
  | some '}' => return none
  | some ',' =>
    if first then refuseNext .keyNotString
    else
      advance
      keyAt (← peek)
  | some char => if first then keyAt (some char) else refuseNext (.missing "`,` or `\x7d`")
  | none => refuse (.endOfText "an object")

/-- The colon behind a key. -/
def colon : JsonReader Unit := do
  match ← peek with
  | some ':' => advance
  | some _ => refuseNext (.missing "`:`")
  | none => refuse (.endOfText "an object")

/-- A fault of a key as such. It stands behind the blanks that follow the key, or behind the closing
brace when that comes next. -/
def refuseKey {α : Type} (defect : JsonDefect) : JsonReader α := do
  if (← peek) = some '}' then advance
  refuse defect

/-- The fields of an object, each of which changes a value. The fuel is the number of octets. -/
def fieldsFrom {α : Type} (field : String → α → JsonReader α) :
    Nat → Bool → α → JsonReader α
  | 0, _, value => return value
  | fuel + 1, first, value => do
    match ← nextKey first with
    | none => return value
    | some key => fieldsFrom field fuel false (← field key value)

/-- The fields of an object, from behind its opening brace up to its closing one. The field reader
also takes the colon. -/
def fields {α : Type} (field : String → α → JsonReader α) (value : α) : JsonReader α := do
  let fuel := (← get).length + 1
  let value ← fieldsFrom field fuel true value
  advance
  return value

/-- Reads a text that holds one value. -/
def run {α : Type} (read : JsonReader α) (text : String) : Except JsonFault α := do
  let (value, rest) ← read (octetsOf text)
  match rest.dropWhile isBlank with
  | [] => .ok value
  | _ :: left => .error ⟨.trailingCharacters, left.length⟩

end JsonReader

end WindowsMetafile
