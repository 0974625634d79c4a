import WindowsMetafile.Text.Hex
import WindowsMetafile.Text.Visible

/-!
# Quoted text

A text in a message stands in quotes, and whatever does not show in it is written as an escape.

## Main definitions

* `Quoted.escape` — a character inside of the quotes
* `Quoted.encode` — a text in quotes
-/

namespace WindowsMetafile.Quoted

/-- A character inside of the quotes. Those without a letter of their own are escaped by their
number in braces. -/
def escape (char : Char) : String :=
  match char with
  | '\x00' => "\\0"
  | '\t' => "\\t"
  | '\r' => "\\r"
  | '\n' => "\\n"
  | '\\' => "\\\\"
  | '"' => "\\\""
  | _ =>
    if isVisible char then char.toString
    else "\\u\x7b" ++ hexText 1 char.toNat ++ "\x7d"

/-- A text in quotes. -/
def encode (text : String) : String :=
  (text.foldl (fun out char => out ++ escape char) "\"").push '"'

end WindowsMetafile.Quoted
