import VeiledPool.Number.Binary
import VeiledPool.Yaml.Lexeme
import VeiledPool.Yaml.Node
import VeiledPool.Yaml.Timestamp

/-! # Types of plain scalars

A plain scalar is a null, a truth value, a number or a time if it is written
like one, and text otherwise. Underscores between digits do not count, a leading
zero makes a number octal, and parts between colons count in sixties.
-/

namespace VeiledPool.Yaml

/-- The three spellings of a word: small, capitalized and in capitals. -/
def spellings (word : String) : List String :=
  [word, word.capitalize, word.toUpper]

/-- Truth value of a word. -/
def truthValue? (text : String) : Option Bool :=
  if text ∈ ["yes", "true", "on"].flatMap spellings then some true
  else if text ∈ ["no", "false", "off"].flatMap spellings then some false
  else none

/-- A character of a row of digits. -/
def isRowChar (c : Char) : Bool :=
  c.isDigit || c = '_'

/-- A row of digits that does not begin with an underscore. -/
def isRow : List Char → Bool
  | [] => false
  | c :: rest => c.isDigit && rest.all isRowChar

/-- The digits of a row. -/
def digitsOf (row : List Char) : List Char :=
  row.filter (· ≠ '_')

def rowValue? (base : Nat) (row : List Char) : Option Nat :=
  (digitsOf row).foldlM
    (fun value c => (Text.hexDigit? c).bind fun digit =>
      if digit < base then some (base * value + digit) else none)
    0

/-- Parts of a text between the given character. -/
def partsAt (mark : Char) : List Char → List (List Char)
  | [] => [[]]
  | c :: rest =>
    if c = mark then [] :: partsAt mark rest
    else
      match partsAt mark rest with
      | [] => [[c]]
      | part :: parts => (c :: part) :: parts

/-- One or two digits below sixty. -/
def isSixtieth : List Char → Bool
  | [c] => c.isDigit
  | [c, d] => c ∈ "012345".toList && d.isDigit
  | _ => false

/-- An integer without its sign. -/
def magnitude? (chars : List Char) : Option Nat :=
  match chars with
  | ['0'] => some 0
  | '0' :: 'b' :: row => if (digitsOf row).isEmpty then none else rowValue? 2 row
  | '0' :: 'x' :: row => if (digitsOf row).isEmpty then none else rowValue? 16 row
  | '0' :: row => rowValue? 8 row
  | _ =>
    match partsAt ':' chars with
    | [] => none
    | first :: parts =>
      if isRow first && parts.all isSixtieth then
        some (parts.foldl (fun value part => 60 * value + asciiValue part)
          (asciiValue (digitsOf first)))
      else none

def integer? (chars : List Char) : Option Int :=
  let (negative, chars) := splitSign chars
  (magnitude? chars).map fun value => if negative then -(value : Int) else value

/-- Whether an exponent has a sign and digits; it may be missing. -/
def isExponent : List Char → Bool
  | [] => true
  | mark :: sign :: digits =>
    (mark = 'e' || mark = 'E') && (sign = '-' || sign = '+') && !digits.isEmpty
      && digits.all Char.isDigit
  | _ => false

/-- The number that a decimal numeral denotes, underscores left out. -/
def plainFloat? (chars : List Char) : Option Float :=
  (Decimal10.ofChars? (digitsOf chars)).map (Decimal10.toFloat false)

/-- Sum of parts of which each counts sixty times the one after it. The parts
    come last one first. -/
def sixtiethSum : Float → Nat → List Float → Float
  | sum, _, [] => sum
  | sum, weight, part :: parts =>
    sixtiethSum (sum + part * Float.ofNat weight) (60 * weight) parts

/-- A binary fraction without its sign. A fraction without digits before its
    point takes no sign. -/
def fraction? (signed : Bool) (chars : List Char) : Option Float :=
  let whole := chars.takeWhile (· ≠ '.')
  match chars.dropWhile (· ≠ '.') with
  | [] => none
  | _ :: rest =>
    let row := rest.takeWhile isRowChar
    let exponent := rest.dropWhile isRowChar
    if whole.isEmpty then
      if String.ofList rest ∈ spellings "inf" then some (1.0 / 0.0)
      else if signed then none
      else if String.ofList rest ∈ ["nan", "NaN", "NAN"] then some (0.0 / 0.0)
      else if isRow row && isExponent exponent then plainFloat? chars
      else none
    else
      match partsAt ':' whole with
      | [_] => if isRow whole && isExponent exponent then plainFloat? chars else none
      | first :: parts =>
        if isRow first && parts.all isSixtieth && exponent.isEmpty then do
          let last ← plainFloat? (parts.getLast?.getD [] ++ '.' :: row)
          let earlier ← (first :: parts.dropLast).mapM plainFloat?
          pure (sixtiethSum 0.0 1 (last :: earlier.reverse))
        else none
      | [] => none

def float? (chars : List Char) : Option Float :=
  let (negative, body) := splitSign chars
  (fraction? (body.length < chars.length) body).map fun value => if negative then -value else value

/-- Whether a text is a base without any digit after it. -/
def isBareBase (chars : List Char) : Bool :=
  match (splitSign chars).2 with
  | '0' :: mark :: row => (mark = 'b' || mark = 'x') && !row.isEmpty && row.all (· = '_')
  | _ => false

/-- What a text means that is written like a timestamp. -/
def Meaning.ofTimestamp (stamp : Timestamp) : Meaning :=
  match stamp.flaw? with
  | none => .scalar (.time stamp)
  | some flaw => .unreal (.badValue (.timestamp flaw))

/-- Whether parts in sixties are so many that no binary fraction is as large as
    the weight of the first one. -/
def isOverweight (chars : List Char) : Bool :=
  (Float.ofNat (Nat.pow 60 (chars.count ':'))).isInf

def Meaning.ofPlain (chars : List Char) : Meaning :=
  let text := String.ofList chars
  if text = "=" then .equals
  else if text = "<<" then .merge
  else if isBareBase chars then .unreal (.badValue .bareBase)
  else if text ∈ ["", "~"] ++ spellings "null" then .scalar .null
  else
    match truthValue? text, integer? chars, float? chars, timestamp? chars with
    | some value, _, _, _ => .scalar (.bool value)
    | none, some value, _, _ => .scalar (.int value)
    | none, none, some value, _ =>
      if isOverweight chars then .unreal (.oversize .fraction) else .scalar (.float value)
    | none, none, none, some stamp => .ofTimestamp stamp
    | none, none, none, none => .scalar (.text text)

end VeiledPool.Yaml
