import VeiledPool.Number.Shortest

/-! # Reading binary fractions

A decimal text is taken apart into sign, digits and a power of ten, and the
number it denotes is rounded once to the nearest binary64 value.
-/

namespace VeiledPool

def asciiValue (digits : List Char) : Nat :=
  digits.foldl (fun value c => 10 * value + (c.toNat - '0'.toNat)) 0

/-- Splits a sign off a numeral. The answer is whether it was a minus. -/
def splitSign : List Char → Bool × List Char
  | '-' :: rest => (true, rest)
  | '+' :: rest => (false, rest)
  | rest => (false, rest)

def signedValue? (chars : List Char) : Option Int :=
  let (negative, digits) := splitSign chars
  if digits.isEmpty || !digits.all Char.isDigit then none
  else if negative then some (-(asciiValue digits : Int))
  else some (asciiValue digits)

namespace Decimal10

/-- A decimal numeral without its sign: digits with at most one point among or
    around them, then possibly an exponent. -/
def ofChars? (chars : List Char) : Option Decimal10 := do
  let whole := chars.takeWhile Char.isDigit
  let rest := chars.dropWhile Char.isDigit
  let (fraction, rest) := match rest with
    | '.' :: rest => (rest.takeWhile Char.isDigit, rest.dropWhile Char.isDigit)
    | rest => ([], rest)
  if whole.isEmpty && fraction.isEmpty then none
  let exponent ← match rest with
    | [] => some 0
    | mark :: rest => if mark = 'e' ∨ mark = 'E' then signedValue? rest else none
  pure ⟨asciiValue (whole ++ fraction), exponent - fraction.length⟩

/-- Nearest binary64 value, infinite where the number is too large. The powers
    of ten beyond the range of the format are never computed. -/
def toFloat (negative : Bool) (d : Decimal10) : Float :=
  let leading := d.exponent + (Nat.toDigits 10 d.digits).length
  let magnitude :=
    if d.digits = 0 ∨ leading < -400 then 0.0
    else if 400 < leading then 1.0 / 0.0
    else Float.ofScientific d.digits (d.exponent < 0) d.exponent.natAbs
  if negative then -magnitude else magnitude

end Decimal10

def readFloat? (text : String) : Option Float :=
  let (negative, chars) := splitSign text.toList
  (Decimal10.ofChars? chars).map (Decimal10.toFloat negative)

end VeiledPool
