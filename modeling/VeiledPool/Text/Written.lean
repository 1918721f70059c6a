import VeiledPool.Text.Printable

/-! # Numerals and quotations

`paddedDigits base width n` writes the last `width` digits of `n`, the first one
most significant and missing ones as zero. Fractions and character codes are
written this way; whole numbers use `Nat.toDigits`, which has no width. Bytes and
character codes are read digit by digit, in either case. A message that repeats a
caller's text shows it in quotes, so that blanks and invisible characters can be
seen.
-/

namespace VeiledPool.Text

/-- The last `width` digits of `n` in a base up to sixteen, zeros in front. -/
def paddedDigits (base : Nat) : Nat → Nat → List Char
  | 0, _ => []
  | width + 1, n => paddedDigits base width (n / base) ++ [Nat.digitChar (n % base)]

@[simp]
theorem length_paddedDigits (base width n : Nat) : (paddedDigits base width n).length = width := by
  induction width generalizing n with
  | zero => rfl
  | succ width ih => simp [paddedDigits, ih]

def hexDigit? (c : Char) : Option Nat :=
  "0123456789abcdef".toList.idxOf? c.toLower

def trimEnd (c : Char) (text : List Char) : List Char :=
  (text.reverse.dropWhile (· == c)).reverse

/-! ## Quotations -/

/-- The quotation mark that needs the fewest escapes, a single one by preference. -/
def quoteMark (text : List Char) : Char :=
  if '\'' ∈ text ∧ '"' ∉ text then '"' else '\''

/-- Written form of one character between the given quotation marks. Line ends
    and tabs have letters; other invisible characters are written by code, in
    the shortest of the three widths. -/
def escaped (mark c : Char) : List Char :=
  if c = mark ∨ c = '\\' then ['\\', c]
  else if c = '\n' then ['\\', 'n']
  else if c = '\r' then ['\\', 'r']
  else if c = '\t' then ['\\', 't']
  else if isPrintable c then [c]
  else if c.toNat < 0x100 then '\\' :: 'x' :: paddedDigits 16 2 c.toNat
  else if c.toNat < 0x10000 then '\\' :: 'u' :: paddedDigits 16 4 c.toNat
  else '\\' :: 'U' :: paddedDigits 16 8 c.toNat

def quoted (text : String) : String :=
  let mark := quoteMark text.toList
  String.ofList (mark :: text.toList.flatMap (escaped mark) ++ [mark])

end VeiledPool.Text
