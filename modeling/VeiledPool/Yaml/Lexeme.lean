import VeiledPool.Fault.Basic
import VeiledPool.Text.Written
import VeiledPool.Yaml.Folding

/-! # Texts of scalars

Each function reads one scalar from the front of a text and answers what it
says together with the text after it. A double-quoted scalar is read as code
points, since its escapes may name some that are no characters.
-/

namespace VeiledPool.Yaml

/-- What was read; a text is malformed where nothing could be read. -/
def readOrMalformed {α : Type} : Option α → Except Fault α
  | some value => .ok value
  | none => .error .malformed

/-- A piece of a scalar in front of what was read after it. -/
def prepend {α : Type} (piece : List α) (read : List α × List Char) : List α × List Char :=
  (piece ++ read.1, read.2)

/-- Whether a plain scalar cannot go on with `c` before `rest`. -/
def stopsPlain (flow : Bool) (c : Char) (rest : List Char) : Bool :=
  c = '\t'
    || c = ':' && (breaksOff rest || flow && (rest.head?.any isFlowMark))
    || flow && (isFlowMark c || c = '?')

/-- Reads on in a plain scalar; `none` if it goes no further than before the
    gap. The lines of a plain scalar begin at or after `indent`, except inside
    flow collections. -/
def plain? (flow : Bool) (indent : Nat) : Gap → List Char → Option (List Char × List Char)
  | _, [] => none
  | gap, c :: rest =>
    if c = ' ' || isBreak c then
      let gap := gap.add c
      if gap.atLineStart && isDocumentMark rest then none else plain? flow indent gap rest
    else if stopsPlain flow c rest || gap.isOpen && c = '#' || !flow && gap.shortOf indent then none
    else
      some (prepend (gap.text ++ [c]) ((plain? flow indent .none rest).getD ([], rest)))

def startsPlain (flow : Bool) : List Char → Bool
  | [] => false
  | c :: rest =>
    !isBlank c && !isBreak c && !isIndicator c
      || !breaksOff rest && (c = '-' || !flow && (c = '?' || c = ':'))

/-- Reads a single-quoted scalar after its opening quote. A doubled quote stands
    for one. -/
def singleQuoted? : Gap → List Char → Option (List Char × List Char)
  | _, [] => none
  | gap, '\'' :: '\'' :: rest => (singleQuoted? .none rest).map (prepend (gap.text ++ ['\'']))
  | gap, '\'' :: rest => some (gap.text, rest)
  | gap, c :: rest =>
    if isBlank c || isBreak c then
      let gap := gap.add c
      if gap.atLineStart && isDocumentMark rest then none else singleQuoted? gap rest
    else (singleQuoted? .none rest).map (prepend (gap.text ++ [c]))

/-- Characters that are written as a backslash and one more character. -/
def escapes : List (Char × Nat) :=
  [('0', 0x0), ('a', 0x7), ('b', 0x8), ('t', 0x9), ('\t', 0x9), ('n', 0xa), ('v', 0xb),
   ('f', 0xc), ('r', 0xd), ('e', 0x1b), (' ', 0x20), ('"', 0x22), ('\\', 0x5c), ('/', 0x2f),
   ('N', 0x85), ('_', 0xa0), ('L', 0x2028), ('P', 0x2029)]

/-- Number of hexadecimal digits after the letter of a numeric escape. -/
def codeWidth? (c : Char) : Option Nat :=
  [('x', 2), ('u', 4), ('U', 8)].lookup c

/-- Where the reading of a double-quoted scalar stands. -/
inductive Escaping where
  /-- In the text, after a gap. -/
  | outside (gap : Gap)
  /-- After a backslash. -/
  | started
  /-- In the digits of a numeric escape. -/
  | code (left value : Nat)

/-- The code point of an escape. One beyond the last is refused, and one that
    does not even fit 31 bits in another way. -/
def escapedCode (value : Nat) : Except Fault Nat :=
  if value < 0x110000 then .ok value
  else if value < 0x80000000 then .error (.badValue .codePoint)
  else .error (.oversize .codePoint)

/-- Reads a double-quoted scalar after its opening quote. -/
def doubleQuoted : Escaping → List Char → Except Fault (List Nat × List Char)
  | _, [] => .error .malformed
  | .outside gap, c :: rest =>
    let before := gap.text.map Char.toNat
    if c = '"' then .ok (before, rest)
    else if c = '\\' then (doubleQuoted .started rest).map (prepend before)
    else if isBlank c || isBreak c then
      let gap := gap.add c
      if gap.atLineStart && isDocumentMark rest then .error .malformed
      else doubleQuoted (.outside gap) rest
    else (doubleQuoted (.outside .none) rest).map (prepend (before ++ [c.toNat]))
  | .started, c :: rest =>
    if isBreak c then
      if isDocumentMark rest then .error .malformed
      else doubleQuoted (.outside (.lines none [] 0)) rest
    else
      match codeWidth? c, escapes.lookup c with
      | some width, _ => doubleQuoted (.code width 0) rest
      | none, some code => (doubleQuoted (.outside .none) rest).map (prepend [code])
      | none, none => .error .malformed
  | .code left value, c :: rest =>
    match Text.hexDigit? c with
    | none => .error .malformed
    | some digit =>
      let value := 16 * value + digit
      if 1 < left then doubleQuoted (.code (left - 1) value) rest
      else do
        let code ← escapedCode value
        let read ← doubleQuoted (.outside .none) rest
        pure (prepend [code] read)

end VeiledPool.Yaml
