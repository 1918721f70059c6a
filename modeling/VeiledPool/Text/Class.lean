/-! # Character classes

A character class beyond ASCII is carried as a list of closed ranges of code
points. Blank are the characters that may stand around a number without being
part of it. Digits come in two sorts: a decimal digit of any script has a value
from zero to nine, and others, such as superscripts and circled figures, take no
part in positional notation. The tables are those of Unicode 14.
-/

namespace VeiledPool.Text

/-- Whether a code point lies in one of the closed ranges. -/
def inRanges (ranges : List (Nat × Nat)) (code : Nat) : Bool :=
  ranges.any fun (low, high) => low ≤ code && code ≤ high

/-! ## Blanks -/

/-- Blank code points, ascending and apart. -/
def blankRanges : List (Nat × Nat) :=
  [(0x9, 0xd), (0x1c, 0x20), (0x85, 0x85), (0xa0, 0xa0), (0x1680, 0x1680), (0x2000, 0x200a),
   (0x2028, 0x2029), (0x202f, 0x202f), (0x205f, 0x205f), (0x3000, 0x3000)]

/-- A blank character. -/
def isBlank (c : Char) : Bool :=
  inRanges blankRanges c.toNat

/-- A text without the blanks at its ends. -/
def trimBlanks (text : List Char) : List Char :=
  ((text.dropWhile isBlank).reverse.dropWhile isBlank).reverse

/-! ## Digits -/

/-- First code point of every run of decimal digits, ascending. -/
def decimalZeros : List Nat :=
  [0x30, 0x660, 0x6f0, 0x7c0, 0x966, 0x9e6, 0xa66, 0xae6, 0xb66, 0xbe6, 0xc66, 0xce6, 0xd66, 0xde6,
   0xe50, 0xed0, 0xf20, 0x1040, 0x1090, 0x17e0, 0x1810, 0x1946, 0x19d0, 0x1a80, 0x1a90, 0x1b50,
   0x1bb0, 0x1c40, 0x1c50, 0xa620, 0xa8d0, 0xa900, 0xa9d0, 0xa9f0, 0xaa50, 0xabf0, 0xff10,
   0x104a0, 0x10d30, 0x11066, 0x110f0, 0x11136, 0x111d0, 0x112f0, 0x11450, 0x114d0, 0x11650,
   0x116c0, 0x11730, 0x118e0, 0x11950, 0x11c50, 0x11d50, 0x11da0, 0x16a60, 0x16ac0, 0x16b50,
   0x1d7ce, 0x1d7d8, 0x1d7e2, 0x1d7ec, 0x1d7f6, 0x1e140, 0x1e2f0, 0x1e950, 0x1fbf0]

/-- Value of a decimal digit of any script. -/
def decimalValue? (c : Char) : Option Nat :=
  (decimalZeros.find? fun start => start ≤ c.toNat && c.toNat < start + 10).map (c.toNat - ·)

/-- A character that may stand in positional notation. -/
def isDecimalDigit (c : Char) : Bool :=
  (decimalValue? c).isSome

/-- Digits outside positional notation, ascending and apart. -/
def loneDigitRanges : List (Nat × Nat) :=
  [(0xb2, 0xb3), (0xb9, 0xb9), (0x1369, 0x1371), (0x19da, 0x19da), (0x2070, 0x2070),
   (0x2074, 0x2079), (0x2080, 0x2089), (0x2460, 0x2468), (0x2474, 0x247c), (0x2488, 0x2490),
   (0x24ea, 0x24ea), (0x24f5, 0x24fd), (0x24ff, 0x24ff), (0x2776, 0x277e), (0x2780, 0x2788),
   (0x278a, 0x2792), (0x10a40, 0x10a43), (0x10e60, 0x10e68), (0x11052, 0x1105a),
   (0x1f100, 0x1f10a)]

/-- A digit of either sort. -/
def isAnyDigit (c : Char) : Bool :=
  isDecimalDigit c || inRanges loneDigitRanges c.toNat

/-- Positional value of a row of digits, the first one most significant. A row
    that holds a lone digit has none. -/
def positionalValue? (digits : List Char) : Option Nat :=
  digits.foldlM (fun value c => (decimalValue? c).map (10 * value + ·)) 0

/-- The value of a decimal digit is below ten. -/
theorem decimalValue?_lt_ten {c : Char} {value : Nat} (h : decimalValue? c = some value) :
    value < 10 := by
  obtain ⟨start, found, rfl⟩ := Option.map_eq_some_iff.1 h
  have bounds := List.find?_some found
  simp only [Bool.and_eq_true, decide_eq_true_eq] at bounds
  omega

end VeiledPool.Text
