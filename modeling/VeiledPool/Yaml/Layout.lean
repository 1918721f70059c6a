import VeiledPool.Yaml.Lexeme
import VeiledPool.Yaml.Resolution
import VeiledPool.Yaml.Token

/-! # Layout

Turns a text into tokens. A scalar or a flow collection may prove to be a key
only when the colon after it is reached; until then it is remembered as a
candidate, and the colon puts the key token, and if need be the token of a new
mapping, in front of it. A candidate lapses at the end of its line and after
1024 characters. A question mark makes what comes after it a key at once. Tabs
are no indentation, and anchors, tags, directives and block scalars are not
read.
-/

namespace VeiledPool.Yaml

structure Place where
  index : Nat := 0
  line : Nat := 0
  column : Nat := 0
  deriving DecidableEq, Repr

namespace Place

def past (place : Place) (c : Char) : Place :=
  if isBreak c then ⟨place.index + 1, place.line + 1, 0⟩
  else ⟨place.index + 1, place.line, if c = byteOrderMark then place.column else place.column + 1⟩

end Place

/-- A token that may yet prove to be the first one of a key. -/
structure Candidate where
  /-- Number of tokens before it. -/
  before : Nat
  place : Place
  /-- Whether nothing but a key can stand there. -/
  required : Bool
  deriving DecidableEq, Repr

namespace Candidate

/-- Longest distance from the beginning of a key to its colon. -/
def reach : Nat :=
  1024

/-- Whether a colon at the given place still makes it a key. -/
def holdsAt (candidate : Candidate) (place : Place) : Bool :=
  candidate.place.line = place.line && place.index ≤ candidate.place.index + reach

/-- What is left of a candidate at a place; `none` if a key was required. -/
def keep? (place : Place) : Option Candidate → Option (Option Candidate)
  | none => some none
  | some candidate =>
    if candidate.holdsAt place then some (some candidate)
    else if candidate.required then none
    else some none

end Candidate

/-- How far a text has been turned into tokens. -/
structure Layout where
  rest : List Char
  place : Place := {}
  /-- Tokens so far, newest first. -/
  tokens : List Token := []
  /-- Columns of the open block collections, innermost first. -/
  indents : List Nat := []
  /-- Whether a key or an item may begin here. -/
  keyAllowed : Bool := true
  candidate : Option Candidate := none
  /-- Candidates outside each open flow collection, innermost first. -/
  outer : List (Option Candidate) := []

namespace Layout

/-- Whether the place is inside a flow collection. -/
def inFlow (layout : Layout) : Bool :=
  !layout.outer.isEmpty

/-- Goes on to a later part of the text. -/
def goTo (layout : Layout) (rest : List Char) : Layout :=
  let passed := layout.rest.take (layout.rest.length - rest.length)
  { layout with rest, place := passed.foldl Place.past layout.place }

def push (layout : Layout) (token : Token) : Layout :=
  { layout with tokens := token :: layout.tokens }

/-- Passes spaces, line ends and comments; answers also whether a line ended. -/
def passSpace (inComment : Bool) : List Char → Bool × List Char
  | [] => (false, [])
  | c :: rest =>
    if isBreak c then (true, (passSpace false rest).2)
    else if inComment || c = ' ' then passSpace inComment rest
    else if c = '#' then passSpace true rest
    else (false, c :: rest)

/-- Allows keys if a line ended. -/
def allowKeys (layout : Layout) (lineEnded : Bool) : Layout :=
  { layout with keyAllowed := layout.keyAllowed || lineEnded }

/-- Goes on to the next token. Keys may begin on a new line, except inside flow
    collections. -/
def toToken (layout : Layout) : Layout :=
  let (lineEnded, rest) := passSpace false layout.rest
  (layout.goTo rest).allowKeys (lineEnded && !layout.inFlow)

/-- Goes past a gap after which a plain scalar might have gone on. Keys may begin
    on a new line. -/
def passGap (layout : Layout) : Layout :=
  let gap := layout.rest.takeWhile fun c => c = ' ' || isBreak c
  (layout.goTo (layout.rest.drop gap.length)).allowKeys (gap.any isBreak)

/-- Lets candidates lapse. -/
def lapse? (layout : Layout) : Option Layout := do
  let candidate ← Candidate.keep? layout.place layout.candidate
  let outer ← layout.outer.mapM (Candidate.keep? layout.place)
  pure { layout with candidate, outer }

def drop? (layout : Layout) : Option Layout :=
  if layout.candidate.any (·.required) then none else some { layout with candidate := none }

/-- Remembers the next token as a candidate where keys are allowed. -/
def remember? (layout : Layout) : Option Layout := do
  if !layout.keyAllowed then return layout
  let layout ← layout.drop?
  let required := !layout.inFlow && layout.indents.head? = some layout.place.column
  pure { layout with candidate := some ⟨layout.tokens.length, layout.place, required⟩ }

/-- Closes the block collections that begin beyond the given column. -/
def closeBeyond (layout : Layout) (beyond : Nat → Bool) : Layout :=
  if layout.inFlow then layout
  else
    let closed := layout.indents.takeWhile beyond
    { layout with
      indents := layout.indents.dropWhile beyond
      tokens := List.replicate closed.length Token.blockEnd ++ layout.tokens }

/-- Whether a column is a new level of indentation. -/
def deeper (layout : Layout) (column : Nat) : Bool :=
  !layout.inFlow && layout.indents.head?.all (· < column)

/-- Opens a block collection if a column is a new level of indentation. -/
def openAt (layout : Layout) (column : Nat) (token : Token) : Layout :=
  if layout.deeper column then
    { layout with indents := column :: layout.indents }.push token
  else layout

/-- The line before or after a document. -/
def documentMark? (layout : Layout) (token : Token) : Option Layout := do
  let layout ← (layout.closeBeyond fun _ => true).drop?
  pure (({ layout with keyAllowed := false }.push token).goTo (layout.rest.drop 3))

def openFlow? (layout : Layout) (token : Token) (rest : List Char) : Option Layout := do
  let layout ← layout.remember?
  let layout := { layout with
    candidate := none
    outer := layout.candidate :: layout.outer
    keyAllowed := true }
  pure ((layout.push token).goTo rest)

/-- A closing bracket or brace; whether it closes anything is not asked here. -/
def closeFlow? (layout : Layout) (token : Token) (rest : List Char) : Option Layout := do
  let layout ← match layout.outer with
    | [] => layout.drop?
    | candidate :: outer => some { layout with candidate, outer }
  pure (({ layout with keyAllowed := false }.push token).goTo rest)

def comma? (layout : Layout) (rest : List Char) : Option Layout := do
  let layout ← layout.drop?
  pure (({ layout with keyAllowed := true }.push .comma).goTo rest)

def item? (layout : Layout) (rest : List Char) : Option Layout := do
  if !layout.inFlow && !layout.keyAllowed then none
  let layout := (← layout.drop?).openAt layout.place.column .listStart
  pure (({ layout with keyAllowed := true }.push .item).goTo rest)

def key? (layout : Layout) (rest : List Char) : Option Layout := do
  if !layout.inFlow && !layout.keyAllowed then none
  let layout := (← layout.drop?).openAt layout.place.column .mappingStart
  pure (({ layout with keyAllowed := !layout.inFlow }.push .key).goTo rest)

/-- The colon after a candidate, which makes it a key. -/
def valueOf (layout : Layout) (candidate : Candidate) (rest : List Char) : Layout :=
  let since := layout.tokens.length - candidate.before
  let column := candidate.place.column
  let (opened, indents) :=
    if layout.deeper column then ([Token.mappingStart], column :: layout.indents)
    else ([], layout.indents)
  let tokens := layout.tokens.take since ++ Token.key :: opened ++ layout.tokens.drop since
  ({ layout with tokens, indents, candidate := none, keyAllowed := false }.push .value).goTo rest

def value? (layout : Layout) (rest : List Char) : Option Layout :=
  match layout.candidate with
  | some candidate => some (layout.valueOf candidate rest)
  | none =>
    if !layout.inFlow && !layout.keyAllowed then none
    else
      let opened := layout.openAt layout.place.column .mappingStart
      some (({ opened with keyAllowed := !layout.inFlow }.push .value).goTo rest)

def addScalar (layout : Layout) (meaning : Meaning) (rest : List Char) : Layout :=
  ({ layout with keyAllowed := false }.push (.scalar meaning)).goTo rest

def singleQuotedScalar? (layout : Layout) (text : List Char) : Option Layout := do
  let layout ← layout.remember?
  let (chars, rest) ← singleQuoted? .none text
  pure (layout.addScalar (.scalar (.text (String.ofList chars))) rest)

/-- A double-quoted scalar; it is text unless its escapes spell none. -/
def doubleQuotedScalar (layout : Layout) (text : List Char) : Except Fault Layout := do
  let layout ← readOrMalformed layout.remember?
  let (points, rest) ← doubleQuoted (.outside .none) text
  pure (layout.addScalar (.scalar (.text (.ofPoints points))) rest)

def plainScalar? (layout : Layout) : Option Layout := do
  let indent := layout.indents.head?.elim 0 (· + 1)
  let layout ← layout.remember?
  let (chars, rest) ← plain? layout.inFlow indent .none layout.rest
  pure (layout.addScalar (.ofPlain chars) rest).passGap

/-- Takes the next token of the text, unless it is a double-quoted scalar. -/
def step? (layout : Layout) : Option Layout :=
  if layout.place.column = 0 && isDocumentMark layout.rest then
    layout.documentMark? (if layout.rest.head? = some '-' then .documentStart else .documentEnd)
  else
    match layout.rest with
    | [] => none
    | c :: rest =>
      if c = '[' then layout.openFlow? .flowListStart rest
      else if c = '\x7b' then layout.openFlow? .flowMappingStart rest
      else if c = ']' then layout.closeFlow? .flowListEnd rest
      else if c = '\x7d' then layout.closeFlow? .flowMappingEnd rest
      else if c = ',' then layout.comma? rest
      else if c = '-' && breaksOff rest then layout.item? rest
      else if c = '?' && (layout.inFlow || breaksOff rest) then layout.key? rest
      else if c = ':' && (layout.inFlow || breaksOff rest) then layout.value? rest
      else if c = '\'' then layout.singleQuotedScalar? rest
      else if startsPlain layout.inFlow layout.rest then layout.plainScalar?
      else none

def step (layout : Layout) : Except Fault Layout :=
  match layout.rest with
  | '"' :: rest => layout.doubleQuotedScalar rest
  | _ => readOrMalformed layout.step?

/-- Goes on to the next token and closes the block collections that end before
    it. -/
def advance? (layout : Layout) : Option Layout := do
  let layout ← layout.toToken.lapse?
  pure (layout.closeBeyond (layout.place.column < ·))

/-- The tokens of a text that ends here. -/
def finish? (layout : Layout) : Option (List Token) := do
  let layout ← (layout.closeBeyond fun _ => true).drop?
  pure layout.tokens.reverse

/-- Tokens whose place is settled: no candidate among them or before them may
    yet prove to be a key. -/
def settled (layout : Layout) : List Token :=
  let pending := (layout.candidate :: layout.outer).filterMap id
  let awaited := pending.filter (·.holdsAt layout.place)
  layout.tokens.reverse.take
    (awaited.foldl (fun least candidate => min least candidate.before) layout.tokens.length)

/-- Either all tokens of the text or, if this is not its end, what comes after
    one more token. -/
def next (layout : Layout) : Except Fault (List Token ⊕ Layout) := do
  let ready ← readOrMalformed layout.advance?
  if ready.rest.isEmpty then
    let tokens ← readOrMalformed ready.finish?
    pure (.inl tokens)
  else
    let layout ← ready.step
    pure (.inr layout)

/-- Turns the rest of a text into tokens. Every step takes at least one
    character, so that the length of the text is enough fuel. A text that cannot
    be read on has a fault, before which its settled tokens count. -/
def run : Nat → Layout → Except (List Token × Fault) (List Token)
  | 0, layout => .error (layout.settled, .malformed)
  | fuel + 1, layout =>
    match layout.next with
    | .ok (.inl tokens) => .ok tokens
    | .ok (.inr layout) => run fuel layout
    | .error fault => .error (layout.settled, fault)

end Layout

/-- The tokens of a text, or those in front of its first fault. -/
def tokens (text : List Char) : Except (List Token × Fault) (List Token) :=
  let layout : Layout := { rest := text }
  let layout := if text.head? = some byteOrderMark then layout.goTo (text.drop 1) else layout
  layout.run (text.length + 1)

end VeiledPool.Yaml
