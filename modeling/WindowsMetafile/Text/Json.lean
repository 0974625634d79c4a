import WindowsMetafile.Text.Decimal
import WindowsMetafile.Text.Hex

/-!
# JSON values

Values with the fields of objects in a fixed order, and their compact text.
-/

namespace WindowsMetafile

/-- A JSON value; whole numbers and floating point numbers are kept apart. -/
inductive Json
  | null
  | bool (value : Bool)
  | int (value : Int)
  | float (value : Float)
  | string (value : String)
  | array (items : List Json)
  | object (fields : List (String × Json))

namespace Json

def nat (value : Nat) : Json :=
  .int value

/-- A value that may be missing. -/
def ofOption {α : Type} (encode : α → Json) : Option α → Json
  | some value => encode value
  | none => .null

/-- A character inside a quoted text. -/
def escapeChar (char : Char) : String :=
  match char with
  | '"' => "\\\""
  | '\\' => "\\\\"
  | '\n' => "\\n"
  | '\r' => "\\r"
  | '\t' => "\\t"
  | '\x08' => "\\b"
  | '\x0c' => "\\f"
  | _ => if char.toNat < 0x20 then "\\u" ++ hexText 4 char.toNat else char.toString

/-- A text in quotes. Only quotes, backslashes and control characters are escaped. -/
def quote (text : String) : String :=
  (text.foldl (fun out char => out ++ escapeChar char) "\"").push '"'

mutual

/-- The text of a value, put behind the text so far. -/
def onto (floatText : Float → String) (out : String) : Json → String
  | .null => out ++ "null"
  | .bool true => out ++ "true"
  | .bool false => out ++ "false"
  | .int value => out ++ toString value
  | .float value => out ++ floatText value
  | .string value => out ++ quote value
  | .array items => (itemsOnto floatText (out ++ "[") "" items) ++ "]"
  | .object fields => (fieldsOnto floatText (out ++ "\x7b") "" fields) ++ "\x7d"

/-- The texts of some values with commas between them; `before` stands before the next one. -/
def itemsOnto (floatText : Float → String) (out before : String) : List Json → String
  | [] => out
  | item :: items => itemsOnto floatText (onto floatText (out ++ before) item) "," items

/-- The texts of some fields with commas between them; `before` stands before the next one. -/
def fieldsOnto (floatText : Float → String) (out before : String) :
    List (String × Json) → String
  | [] => out
  | (key, value) :: fields =>
    fieldsOnto floatText (onto floatText (out ++ before ++ quote key ++ ":") value) "," fields

end

/-- The compact text of a value, with a given form for floating point numbers. -/
def renderWith (floatText : Float → String) (value : Json) : String :=
  onto floatText "" value

/-- The compact text of a value. Floating point numbers have a decimal point or an exponent, and
those that are not finite are written as missing. -/
def render (value : Json) : String :=
  renderWith (fun number => (decimalText number).getD "null") value

end Json

end WindowsMetafile
