import VeiledPool.Document.Basic
import VeiledPool.Fault.Basic

/-! # Nodes

A node is a document as it is written. What a plain scalar means can hang on its
place: an equals sign is a text as a key and nothing elsewhere, and two
less-than signs as a key merge other mappings into their own. Entries that are
merged come before a mapping's own ones, which take the place of those with an
equal key.

A node is turned into a document level by level. Of several faults the one on
the uppermost level counts, and of those on one level the first.
-/

namespace VeiledPool.Yaml

/-- What a scalar stands for. -/
inductive Meaning where
  | scalar (value : Scalar)
  /-- Two less-than signs. -/
  | merge
  /-- An equals sign. -/
  | equals
  /-- Written like a number or a time, but there is none like it. -/
  | unreal (fault : Fault)
  deriving DecidableEq, Repr

namespace Meaning

/-- The value of a scalar where values stand. -/
def value : Meaning → Except Fault Scalar
  | scalar value => .ok value
  | unreal fault => .error fault
  | merge | equals => .error .malformed

/-- The value of a scalar as a key. -/
def key : Meaning → Except Fault Scalar
  | equals => .ok (.text "=")
  | other => other.value

end Meaning

/-- A tree of written scalars. -/
inductive Node where
  | scalar (meaning : Meaning)
  | list (items : List Node)
  | mapping (entries : List (Node × Node))
  deriving Inhabited

/-- What is read on some level or below it; a fault knows its level. -/
abbrev Reading (α : Type) := Except (Nat × Fault) α

namespace Reading

/-- A reading on the given level. -/
def onLevel {α : Type} (level : Nat) (result : Except Fault α) : Reading α :=
  result.mapError (level, ·)

/-- Two readings together; the second one's fault counts if it lies higher. -/
def both {α β γ : Type} (combine : α → β → γ) : Reading α → Reading β → Reading γ
  | .ok a, .ok b => .ok (combine a b)
  | .error first, .error second => .error (if second.1 < first.1 then second else first)
  | .error first, _ => .error first
  | _, .error second => .error second

end Reading

/-- Entries of a mapping in reading order. -/
abbrev Entries := List (Scalar × Document)

namespace Node

/-- A scalar that is left out. -/
def missing : Node :=
  scalar (.scalar .null)

/-- A node as a key; a collection cannot be one. -/
def key : Node → Except Fault Scalar
  | scalar meaning => meaning.key
  | _ => .error .malformed

mutual

/-- Reads a node that stands on the given level; what it holds is on the next. -/
def read (level : Nat) : Node → Reading Document
  | scalar meaning => .onLevel level (Document.scalar <$> meaning.value)
  | list items => (readItems (level + 1) items).map Document.list
  | mapping entries =>
    match readEntries (level + 1) entries with
    | some (merged, own) => (Reading.both (· ++ ·) merged own).map Document.ofEntries
    | none => .error (level + 1, .malformed)

def readItems (level : Nat) : List Node → Reading (List Document)
  | [] => .ok []
  | item :: rest => .both List.cons (item.read level) (readItems level rest)

/-- Entries that are merged into a mapping, and its own ones; `none` if there is
    something that cannot be merged. -/
def readEntries (level : Nat) : List (Node × Node) → Option (Reading Entries × Reading Entries)
  | [] => some (.ok [], .ok [])
  | (scalar .merge, source) :: rest => do
    let first ← source.readMerged level
    let (merged, own) ← readEntries level rest
    pure (.both (· ++ ·) first merged, own)
  | (key, value) :: rest => do
    let entry := Reading.both Prod.mk (.onLevel level key.key) (value.read level)
    let (merged, own) ← readEntries level rest
    pure (merged, .both List.cons entry own)

/-- What a mapping, or a list of them, gives to the mapping that it is merged
    into. -/
def readMerged (level : Nat) : Node → Option (Reading Entries)
  | scalar _ => none
  | list items => readMergedItems level items
  | mapping entries => do
    let (merged, own) ← readEntries level entries
    pure (.both (· ++ ·) merged own)

/-- Entries of mappings in a list, of the last one first. -/
def readMergedItems (level : Nat) : List Node → Option (Reading Entries)
  | [] => some (.ok [])
  | mapping entries :: rest => do
    let (merged, own) ← readEntries level entries
    let later ← readMergedItems level rest
    pure (.both (· ++ ·) later (.both (· ++ ·) merged own))
  | _ :: _ => none

end

/-- The document that a node stands for. -/
def document (node : Node) : Except Fault Document :=
  (node.read 0).mapError Prod.snd

end Node

end VeiledPool.Yaml
