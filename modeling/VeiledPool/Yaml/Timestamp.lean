import VeiledPool.Number.Binary
import VeiledPool.Timestamp.Basic

/-! # Timestamps in YAML texts

A day is written as year, month and day with dashes; alone it takes two digits
for month and day. A time follows after a `T` or spaces, possibly with a
fraction of a second, of which six digits count, and a zone.
-/

namespace VeiledPool.Yaml

/-- Reads a number of `least` to `most` digits from the front of a text. -/
def number? (least most : Nat) (text : List Char) : Option (Nat × List Char) :=
  let digits := (text.take most).takeWhile Char.isDigit
  if digits.length < least then none else some (asciiValue digits, text.drop digits.length)

def pass? (mark : Char) : List Char → Option (List Char)
  | [] => none
  | c :: rest => if c = mark then some rest else none

/-- Text after the mark between a day and its time. -/
def passDayMark? : List Char → Option (List Char)
  | ' ' :: rest => some (rest.dropWhile (· = ' '))
  | c :: rest => if c = 'T' || c = 't' then some rest else none
  | [] => none

/-- Reads a fraction of a second in microseconds; without a point it is zero. -/
def fraction : List Char → Nat × List Char
  | '.' :: rest =>
    let digits := rest.takeWhile Char.isDigit
    (asciiValue ((digits ++ List.replicate 6 '0').take 6), rest.dropWhile Char.isDigit)
  | rest => (0, rest)

/-- Minutes ahead of universal time; `none` if this is no zone. -/
def zone? : List Char → Option (Option Int)
  | [] => some none
  | ['Z'] => some (some 0)
  | sign :: rest => do
    if sign ≠ '+' && sign ≠ '-' then none
    let (hours, rest) ← number? 1 2 rest
    let minutes ← match rest with
      | [] => some 0
      | rest => do
        let (minutes, rest) ← number? 2 2 (← pass? ':' rest)
        if rest.isEmpty then some minutes else none
    let distance : Int := 60 * hours + minutes
    pure (some (if sign = '-' then -distance else distance))

/-- Reads a time of a day that takes up the whole text. -/
def clock? (text : List Char) : Option Clock := do
  let (hour, rest) ← number? 1 2 text
  let (minute, rest) ← number? 2 2 (← pass? ':' rest)
  let (second, rest) ← number? 2 2 (← pass? ':' rest)
  let (microsecond, rest) := fraction rest
  let zone ← zone? (rest.dropWhile (· = ' '))
  pure { hour, minute, second, microsecond, zone }

/-- Reads a timestamp, real or not. -/
def timestamp? (text : List Char) : Option Timestamp := do
  let (year, rest) ← number? 4 4 text
  let (month, rest) ← number? 1 2 (← pass? '-' rest)
  let (day, rest) ← number? 1 2 (← pass? '-' rest)
  if rest.isEmpty then
    if text.length = 10 then some ⟨⟨year, month, day⟩, none⟩ else none
  else
    let clock ← clock? (← passDayMark? rest)
    pure ⟨⟨year, month, day⟩, some clock⟩

end VeiledPool.Yaml
