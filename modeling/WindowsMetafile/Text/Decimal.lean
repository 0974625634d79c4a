/-!
# Decimal text of floating point numbers

A finite number is written with the fewest digits that read back to it, and with the nearest of
those. Numbers from a hundred-thousandth up to sixteen places are written in full, all others with
an exponent; a number in full always has a decimal point.

## Main definitions

* `Binary`, `Decimal` — a number as a multiple of a power of two, and of a power of ten
* `Binary.shortest` — the shortest decimal that reads back to a binary number
* `decimalText` — the text of a floating point number
-/

namespace WindowsMetafile

/-- The number `significand * 2 ^ exponent` as floating point numbers hold it. -/
structure Binary where
  significand : Nat
  exponent : Int
  deriving DecidableEq, Repr

/-- The number `digits * 10 ^ exponent`. -/
structure Decimal where
  digits : Nat
  exponent : Int
  deriving DecidableEq, Repr

/-- The least significand of a number in full precision. -/
def Binary.leastNormal : Nat :=
  0x10000000000000

/-- The size of a finite number. -/
def Binary.ofFloat (number : Float) : Binary :=
  let bits := number.toBits.toNat
  let fraction := bits % leastNormal
  let biased := bits / leastNormal % 0x800
  if biased = 0 then ⟨fraction, -1074⟩ else ⟨leastNormal + fraction, Int.ofNat biased - 1075⟩

namespace Binary

/-- A multiple of `2 ^ exponent` compared with a multiple of `10 ^ grid`, both brought to whole
numbers: the factors of the two sides. -/
def commonFactors (exponent grid : Int) : Nat × Nat :=
  (Nat.pow 10 (-grid).toNat <<< exponent.toNat, Nat.pow 10 grid.toNat <<< (-exponent).toNat)

/-- The multiple of `10 ^ grid` nearest to a number, if one reads back to it. Numbers up to half the
distance to the next number read back; the halves themselves do so for an even significand. Below a
power of two the next number is half as far. -/
def nearestOnGrid? (number : Binary) (grid : Int) : Option Nat :=
  let (binaryFactor, decimalFactor) := commonFactors (number.exponent - 2) grid
  let center := 4 * number.significand * binaryFactor
  let atPower := number.significand = leastNormal ∧ -1074 < number.exponent
  let low := center - (if atPower then 1 else 2) * binaryFactor
  let high := center + 2 * binaryFactor
  let even := number.significand % 2 = 0
  let readsBack (digits : Nat) : Bool :=
    let value := digits * decimalFactor
    (low < value && value < high) || (even && (value = low || value = high))
  let below := center / decimalFactor
  let above := below + 1
  match readsBack below, readsBack above with
  | true, true =>
    let down := center - below * decimalFactor
    let up := above * decimalFactor - center
    some (if down < up then below else if up < down then above
      else if below % 2 = 0 then below else above)
  | true, false => some below
  | false, true => some above
  | false, false => none

/-- Tries finer and finer grids; seventeen digits always suffice. -/
def shortestFrom (number : Binary) : Nat → Int → Decimal
  | 0, grid => ⟨0, grid⟩
  | fuel + 1, grid =>
    match number.nearestOnGrid? grid with
    | some digits => if digits = 0 then number.shortestFrom fuel (grid - 1) else ⟨digits, grid⟩
    | none => number.shortestFrom fuel (grid - 1)

/-- The shortest decimal that reads back to a number that is not zero. -/
def shortest (number : Binary) : Decimal :=
  let magnitude := Int.ofNat (number.significand.log2 + 1) + number.exponent
  number.shortestFrom 24 (Int.fdiv (magnitude * 30103) 100000 + 1)

end Binary

namespace Decimal

/-- The text of a decimal: in full when its point falls behind at most sixteen places and at most
five places before the first digit, else with one digit before the point and an exponent, which
always has a sign. -/
def text (decimal : Decimal) : String :=
  let digits := Nat.toDigits 10 decimal.digits
  let count : Int := digits.length
  let point := count + decimal.exponent
  if 0 ≤ decimal.exponent ∧ point ≤ 16 then
    String.ofList (digits ++ List.replicate decimal.exponent.toNat '0') ++ ".0"
  else if 0 < point ∧ point ≤ 16 then
    String.ofList (digits.take point.toNat ++ '.' :: digits.drop point.toNat)
  else if -5 < point ∧ point ≤ 0 then
    "0." ++ String.ofList (List.replicate (-point).toNat '0' ++ digits)
  else
    let tail := digits.drop 1
    let mantissa := digits.take 1 ++ (if tail.isEmpty then [] else '.' :: tail)
    let sign := if 0 < point then "+" else "-"
    String.ofList mantissa ++ "e" ++ sign ++ toString (point - 1).natAbs

end Decimal

/-- The text of a floating point number; there is none for infinities and undefined values. -/
def decimalText (number : Float) : Option String :=
  if number.isFinite then
    let sign := if number.toBits >>> 63 = 1 then "-" else ""
    if number == 0.0 then some (sign ++ "0.0")
    else some (sign ++ (Binary.ofFloat number).shortest.text)
  else none

end WindowsMetafile
