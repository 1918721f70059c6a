import VeiledPool.Yaml.Node

/-! # Tokens

What a text says once its indentation has been turned into opening and closing
tokens.
-/

namespace VeiledPool.Yaml

inductive Token where
  /-- The line that begins a document. -/
  | documentStart
  /-- The line that ends a document. -/
  | documentEnd
  /-- A list or a mapping on a new level of indentation. -/
  | listStart
  | mappingStart
  /-- The end of a level of indentation. -/
  | blockEnd
  /-- The dash before an item. -/
  | item
  /-- Stands before a key. -/
  | key
  /-- The colon between a key and its value. -/
  | value
  /-- Brackets, braces and commas of flow collections. -/
  | flowListStart
  | flowListEnd
  | flowMappingStart
  | flowMappingEnd
  | comma
  | scalar (meaning : Meaning)
  deriving DecidableEq, Repr

namespace Token

def isDocumentMark : Token → Bool
  | documentStart | documentEnd => true
  | _ => false

end Token

end VeiledPool.Yaml
