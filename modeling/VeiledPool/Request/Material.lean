import VeiledPool.Entropy.Source
import VeiledPool.Text.Written

/-! # Material for sources of draws

A source is grown from bytes and fed with bytes. They may be written as pairs of
hexadecimal digits, with white space before, between and after the pairs. A text
in their place is refused where it is used.
-/

namespace VeiledPool

/-- Bytes, or a text in their place. -/
inductive Material where
  | bytes (data : List UInt8)
  | text (value : String)
  deriving DecidableEq, Repr

namespace Material

def data (subject : String) : Material → Except Fault (List UInt8)
  | bytes data => .ok data
  | text _ => .error (.wrongType (.unmet subject .bytes))

/-- White space that may stand around the digits of a byte. -/
def isSpace (c : Char) : Bool :=
  c ∈ [' ', '\t', '\n', '\x0b', '\x0c', '\r']

/-- Reads pairs of digits, the first of them at the given position. -/
def hexBytes (position : Nat) : List Char → Except Fault (List UInt8)
  | [] => .ok []
  | c :: rest =>
    if isSpace c then hexBytes (position + 1) rest
    else
      match Text.hexDigit? c, rest with
      | none, _ => .error (.badValue (.hexDigit position))
      | some _, [] => .error (.badValue (.hexDigit (position + 1)))
      | some high, d :: rest =>
        match Text.hexDigit? d with
        | none => .error (.badValue (.hexDigit (position + 1)))
        | some low => (UInt8.ofNat (16 * high + low) :: ·) <$> hexBytes (position + 2) rest

/-- Material from hexadecimal digits. A character beyond ASCII is the first that
    is noticed, wherever it stands. -/
def ofHex (digits : String) : Except Fault Material :=
  match digits.toList.findIdx? (0x80 ≤ ·.toNat) with
  | some position => .error (.badValue (.hexDigit position))
  | none => bytes <$> hexBytes 0 digits.toList

end Material

/-- Feeds material to a source. What the material is matters only to a source
    that takes any. -/
def Entropy.feed (source : Entropy) (material : Material) : Except Fault Entropy := do
  let _ ← source.absorb []
  let data ← material.data "data"
  source.absorb data

end VeiledPool
