import VeiledPool.Fault.Basic
import VeiledPool.Text.Class

/-! # Texts of ratios

A ratio is written as its numeral, as far as the whole part can be written out. A
literal is a row of digits, or two rows with a point between them, where the
first row may be missing and the second has at most eighteen digits. Blanks
around it do not count, and the digits may be of any script. What is read is
exact: nothing is rounded or cut off.
-/

namespace VeiledPool.Fixed

/-- Shortest decimal text of the ratio. -/
def text (d : Fixed) : Except Fault String :=
  written [d.whole] d.numeral

/-- Atoms denoted by the two digit rows of a literal. -/
def atomicsOf? (whole fraction : List Char) : Option Nat := do
  let w ← Text.positionalValue? whole
  let f ← Text.positionalValue? (fraction ++ List.replicate (places - fraction.length) '0')
  pure (w * unit + f)

def ofText (text : String) : Except Fault Fixed :=
  let body := Text.trimBlanks text.toList
  let whole := body.takeWhile (· != '.')
  let fraction := (body.dropWhile (· != '.')).drop 1
  if body = [] ∨ body = ['.'] then .error (.badValue (.literal (Text.points text)))
  else if !(whole ++ fraction).all Text.isAnyDigit then
    .error (.badValue (.literal (Text.points text)))
  else if places < fraction.length then .error (.badValue (.literalTooLong text))
  else
    match atomicsOf? whole fraction with
    | some atomics => .ok ⟨atomics⟩
    | none => .error (.badValue .loneDigit)

end VeiledPool.Fixed
