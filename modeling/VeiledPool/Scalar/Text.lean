import VeiledPool.Number.Shortest
import VeiledPool.Scalar.Basic
import VeiledPool.Text.Written
import VeiledPool.Timestamp.Text

/-! # Written form of scalars

A binary fraction is written with the fewest digits that identify it, by
position from 10^-4 up to 10^16 and with a signed exponent of at least two
digits outside that range. It always shows a point or an exponent.
-/

namespace VeiledPool

namespace Decimal10

/-- An exponent with its sign and at least two digits. -/
def exponentText (exponent : Int) : List Char :=
  let digits := Nat.toDigits 10 exponent.natAbs
  (if exponent < 0 then '-' else '+') :: (if digits.length < 2 then '0' :: digits else digits)

/-- Text of a positive decimal number. -/
def chars (d : Decimal10) : List Char :=
  let digits := Nat.toDigits 10 d.digits
  /- Power of ten of the leading digit. -/
  let leading := d.exponent + digits.length - 1
  if leading < -4 ∨ 16 ≤ leading then
    let point := if digits.length = 1 then [] else '.' :: digits.drop 1
    digits.take 1 ++ point ++ 'e' :: exponentText leading
  else if leading < 0 then
    '0' :: '.' :: List.replicate (-leading - 1).toNat '0' ++ digits
  else
    let whole := (leading + 1).toNat
    if digits.length ≤ whole then
      digits ++ List.replicate (whole - digits.length) '0' ++ ['.', '0']
    else digits.take whole ++ '.' :: digits.drop whole

end Decimal10

/-- Text of a binary64 number. -/
def floatText (x : Float) : String :=
  if x.isNaN then "nan"
  else
    let sign := if x.toBits >>> 63 = 1 then "-" else ""
    let magnitude := x.toBits &&& 0x7fffffffffffffff
    if magnitude = 0 then sign ++ "0.0"
    else if x.isInf then sign ++ "inf"
    else
      match (Binary64.ofBits magnitude).shortest? with
      | some d => sign ++ String.ofList d.chars
      | none => sign ++ "0.0"

namespace Scalar

/-- Form of a scalar inside a message or a collection; text stands in quotes. -/
def shown : Scalar → String
  | .null => "None"
  | .bool true => "True"
  | .bool false => "False"
  | .int value => toString value
  | .float value => floatText value
  | .text value => value.quoted
  | .time value => value.shown

/-- Form of a scalar on its own; a text stands for itself. -/
def plain : Scalar → Spelling
  | .text value => value
  | .time value => value.plain
  | other => other.shown

end Scalar

end VeiledPool
