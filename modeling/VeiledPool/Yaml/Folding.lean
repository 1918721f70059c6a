import VeiledPool.Yaml.Character

/-! # Line folding

A scalar may go on over several lines. Blanks around a line end are dropped, a
single line end counts as a space, and of several in a row all but the first
are kept.
-/

namespace VeiledPool.Yaml

/-- White space between two pieces of a scalar. -/
inductive Gap where
  /-- Blanks on one line. -/
  | blanks (text : List Char)
  /-- Line ends, the first one apart, and the column reached after the last one.
      The first is missing where it was escaped. -/
  | lines (first : Option Char) (more : List Char) (column : Nat)

namespace Gap

/-- No white space. -/
def none : Gap :=
  blanks []

/-- The gap after one more character of it. -/
def add (c : Char) : Gap → Gap
  | blanks text => if isBreak c then lines (some (keptBreak c)) [] 0 else blanks (text ++ [c])
  | lines first more column =>
    if isBreak c then lines first (more ++ [keptBreak c]) 0 else lines first more (column + 1)

/-- What the gap puts between the two pieces. -/
def text : Gap → List Char
  | blanks text => text
  | lines (some '\n') [] _ => [' ']
  | lines (some '\n') more _ => more
  | lines (some first) more _ => first :: more
  | lines .none more _ => more

/-- Whether there is any white space. -/
def isOpen : Gap → Bool
  | blanks text => !text.isEmpty
  | lines .. => true

/-- Whether the gap ends where a line begins. -/
def atLineStart : Gap → Bool
  | lines _ _ column => column = 0
  | blanks _ => false

/-- Whether the gap ends on a new line before the given column. -/
def shortOf (indent : Nat) : Gap → Bool
  | lines _ _ column => column < indent
  | blanks _ => false

end Gap

end VeiledPool.Yaml
