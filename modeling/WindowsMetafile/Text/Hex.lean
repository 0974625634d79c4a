/-!
# Hexadecimal text

Function codes and checksums are shown as lowercase hexadecimal digits, padded with zeros to a
fixed width.
-/

namespace WindowsMetafile

/-- The lowercase hexadecimal digits of a number, padded on the left with zeros to `width`. -/
def hexText (width number : Nat) : String :=
  let digits := Nat.toDigits 16 number
  String.ofList (List.replicate (width - digits.length) '0' ++ digits)

end WindowsMetafile
