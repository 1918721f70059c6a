import VeiledPool.Fault.Basic
import VeiledPool.Scalar.Equality
import VeiledPool.Scalar.Text

/-! # Documents

A document is a tree of scalars, lists and mappings. Entries of a mapping keep
the order in which their keys first came up; the value of a later entry of the
same key takes the place of the earlier one.
-/

namespace VeiledPool

inductive Document where
  | scalar (value : Scalar)
  | list (items : List Document)
  | mapping (entries : List (Scalar × Document))
  deriving Inhabited

namespace Document

/-- Enters a value under a key. -/
def enter (entries : List (Scalar × Document)) (key : Scalar) (value : Document) :
    List (Scalar × Document) :=
  if entries.any (·.1.sameKey key) then
    entries.map fun entry => if entry.1.sameKey key then (entry.1, value) else entry
  else entries ++ [(key, value)]

/-- A mapping from entries in reading order. -/
def ofEntries (entries : List (Scalar × Document)) : Document :=
  mapping (entries.foldl (fun known entry => enter known entry.1 entry.2) [])

def field? (entries : List (Scalar × Document)) (key : String) : Option Document :=
  entries.lookup (.text key)

mutual

/-- Form of a tree inside another one. -/
def shown : Document → String
  | scalar value => value.shown
  | list items => "[" ++ String.intercalate ", " (shownItems items) ++ "]"
  | mapping entries => "\x7b" ++ String.intercalate ", " (shownEntries entries) ++ "\x7d"

def shownItems : List Document → List String
  | [] => []
  | item :: rest => item.shown :: shownItems rest

def shownEntries : List (Scalar × Document) → List String
  | [] => []
  | (key, value) :: rest => (key.shown ++ ": " ++ value.shown) :: shownEntries rest

end

/-- Form of a tree on its own: a text stands for itself. -/
def plain : Document → Spelling
  | scalar value => value.plain
  | other => other.shown

mutual

/-- The integers that a tree shows. -/
def figures : Document → List Int
  | scalar value => value.figures
  | list items => itemFigures items
  | mapping entries => entryFigures entries

def itemFigures : List Document → List Int
  | [] => []
  | item :: rest => item.figures ++ itemFigures rest

def entryFigures : List (Scalar × Document) → List Int
  | [] => []
  | (key, value) :: rest => key.figures ++ value.figures ++ entryFigures rest

end

end Document

end VeiledPool
