import VeiledPool.Text.Class

/-! # Characters of YAML texts

Blanks, line ends, the punctuation that cannot begin or continue a plain
scalar, and the marks that stand around a document on lines of their own.
-/

namespace VeiledPool.Yaml

/-- Code points that may occur at all, ascending and apart. -/
def allowedRanges : List (Nat × Nat) :=
  [(0x9, 0xa), (0xd, 0xd), (0x20, 0x7e), (0x85, 0x85), (0xa0, 0xd7ff), (0xe000, 0xfffd),
   (0x10000, 0x10ffff)]

/-- A character that may occur. -/
def isAllowed (c : Char) : Bool :=
  Text.inRanges allowedRanges c.toNat

/-- A space or a tab. -/
def isBlank (c : Char) : Bool :=
  c = ' ' || c = '\t'

/-- A line end. Carriage returns are no longer there when this is asked. -/
def isBreak (c : Char) : Bool :=
  c = '\n' || c = '\u0085' || c = '\u2028' || c = '\u2029'

/-- The line end that a text keeps of one that it was written with. -/
def keptBreak (c : Char) : Char :=
  if c = '\u0085' then '\n' else c

/-- The mark that a text may begin with to show its byte order. -/
def byteOrderMark : Char :=
  '\ufeff'

/-- Punctuation that belongs to flow collections. -/
def isFlowMark (c : Char) : Bool :=
  c ∈ ",[]\x7b\x7d".toList

/-- Punctuation that no plain scalar begins with. -/
def isIndicator (c : Char) : Bool :=
  isFlowMark c || c ∈ "-?:#&*!|>'\"%@`".toList

/-- Whether nothing or white space comes next. -/
def breaksOff : List Char → Bool
  | [] => true
  | c :: _ => isBlank c || isBreak c

/-- A line that begins or ends a document. -/
def isDocumentMark : List Char → Bool
  | '-' :: '-' :: '-' :: rest => breaksOff rest
  | '.' :: '.' :: '.' :: rest => breaksOff rest
  | _ => false

/-- A text with every carriage return, alone or before a line feed, as a line
    feed. -/
def uniformBreaks : List Char → List Char
  | [] => []
  | '\r' :: '\n' :: rest => '\n' :: uniformBreaks rest
  | '\r' :: rest => '\n' :: uniformBreaks rest
  | c :: rest => c :: uniformBreaks rest

end VeiledPool.Yaml
