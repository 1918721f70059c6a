import VeiledPool.Yaml.Layout
import VeiledPool.Yaml.Token

/-! # Reading YAML

The part of YAML 1.1 that configurations are written in: block and flow
collections, plain and quoted scalars, and comments. Everything that is not of
this form is malformed in one and the same way. These modules stand at the edge of
the library, where others have a YAML package: nothing rests on them, and
`Config.ofYaml` takes whatever reader it is given.

A node is put together from its tokens. The collections that are still open lie
on a stack; what is complete goes into the innermost of them. A missing item,
key or value is a null.
-/

namespace VeiledPool.Yaml

/-- Where an entry of a mapping stands. -/
inductive Slot where
  /-- A key may begin. -/
  | fresh
  /-- The key has to come, unless it is missing. -/
  | key
  /-- A colon has to come, unless there is no value. -/
  | keyed (key : Node)
  /-- The value has to come, unless it is missing. -/
  | value (key : Node)
  /-- A comma has to come. -/
  | full

namespace Slot

/-- The entry of a slot whose value does not come; none where no entry began. -/
def entry? : Slot → Option (Node × Node)
  | fresh | full => none
  | key => some (.missing, .missing)
  | keyed name | value name => some (name, .missing)

/-- Whether a key or a value has to come. -/
def isOpen : Slot → Bool
  | key | value _ => true
  | _ => false

/-- Whether no entry has begun. -/
def isFresh : Slot → Bool
  | fresh => true
  | _ => false

/-- The slot after a colon. -/
def afterColon? : Slot → Option Slot
  | key => some (value .missing)
  | keyed name => some (value name)
  | _ => none

end Slot

/-- An open collection, newest contents first. -/
inductive Frame where
  /-- A list by dashes, on its own level of indentation or on that of the
      mapping around it. `waiting` is set after a dash. -/
  | list (own : Bool) (items : List Node) (waiting : Bool)
  | mapping (entries : List (Node × Node)) (slot : Slot)
  /-- A list in brackets. `waiting` is set after the bracket and after commas. -/
  | flowList (items : List Node) (waiting : Bool)
  | flowMapping (entries : List (Node × Node)) (slot : Slot)
  /-- A mapping of one entry inside brackets. -/
  | flowEntry (slot : Slot)

/-- A node in the making. -/
structure Assembly where
  frames : List Frame := []
  node : Option Node := none

namespace Assembly

/-- A mapping from its entries, newest first. -/
def mappingOf (entries : List (Node × Node)) : Node :=
  .mapping entries.reverse

def enter (assembly : Assembly) (frame : Frame) : Assembly :=
  { assembly with frames := frame :: assembly.frames }

/-- Whether a node may come next. -/
def awaitsNode (assembly : Assembly) : Bool :=
  match assembly.frames with
  | [] => assembly.node.isNone
  | .list _ _ waiting :: _ | .flowList _ waiting :: _ => waiting
  | .mapping _ slot :: _ | .flowEntry slot :: _ => slot.isOpen
  | .flowMapping _ slot :: _ => slot.isFresh || slot.isOpen

/-- Opens a collection that is written where a node may come. -/
def open? (assembly : Assembly) (frame : Frame) : Option Assembly :=
  if assembly.awaitsNode then some (assembly.enter frame) else none

/-- Puts a complete node where it belongs. -/
def offer? (assembly : Assembly) (node : Node) : Option Assembly :=
  match assembly.frames with
  | [] => if assembly.node.isSome then none else some { assembly with node }
  | .list own items true :: outer =>
    some { assembly with frames := .list own (node :: items) false :: outer }
  | .mapping entries .key :: outer =>
    some { assembly with frames := .mapping entries (.keyed node) :: outer }
  | .mapping entries (.value key) :: outer =>
    some { assembly with frames := .mapping ((key, node) :: entries) .fresh :: outer }
  | .flowList items true :: outer =>
    some { assembly with frames := .flowList (node :: items) false :: outer }
  | .flowMapping entries .fresh :: outer =>
    some { assembly with frames := .flowMapping ((node, .missing) :: entries) .full :: outer }
  | .flowMapping entries .key :: outer =>
    some { assembly with frames := .flowMapping entries (.keyed node) :: outer }
  | .flowMapping entries (.value key) :: outer =>
    some { assembly with frames := .flowMapping ((key, node) :: entries) .full :: outer }
  | .flowEntry .key :: outer =>
    some { assembly with frames := .flowEntry (.keyed node) :: outer }
  | .flowEntry (.value key) :: .flowList items true :: outer =>
    some { assembly with frames := .flowList (.mapping [(key, node)] :: items) false :: outer }
  | _ => none

/-- Takes the innermost collection off the stack and puts what it became where
    that belongs. -/
def leave? (assembly : Assembly) (node : Node) : Option Assembly :=
  { assembly with frames := assembly.frames.drop 1 }.offer? node

/-- Items of a list, with a null for one that is still waited for. -/
def completeItems (items : List Node) (waiting : Bool) : List Node :=
  if waiting then .missing :: items else items

/-- Entries of a mapping, with the one that stands in its slot. -/
def completeEntries (entries : List (Node × Node)) (slot : Slot) : List (Node × Node) :=
  slot.entry?.toList ++ entries

/-- Ends a list that shares its level of indentation with a mapping. -/
def endSharedList? (assembly : Assembly) : Option Assembly :=
  match assembly.frames with
  | .list false items waiting :: _ =>
    assembly.leave? (.list (completeItems items waiting).reverse)
  | _ => some assembly

/-- Ends a mapping of one entry inside brackets. -/
def endFlowEntry? (assembly : Assembly) : Option Assembly :=
  match assembly.frames with
  | .flowEntry slot :: _ => assembly.leave? (mappingOf (completeEntries [] slot))
  | _ => some assembly

def item? (assembly : Assembly) : Option Assembly :=
  match assembly.frames with
  | .list own items waiting :: outer =>
    some { assembly with frames := .list own (completeItems items waiting) true :: outer }
  | .mapping _ .key :: _ | .mapping _ (.value _) :: _ =>
    some (assembly.enter (.list false [] true))
  | _ => none

/-- The end of a level of indentation. -/
def blockEnd? (assembly : Assembly) : Option Assembly := do
  let assembly ← assembly.endSharedList?
  match assembly.frames with
  | .list true items waiting :: _ =>
    assembly.leave? (.list (completeItems items waiting).reverse)
  | .mapping entries slot :: _ => assembly.leave? (mappingOf (completeEntries entries slot))
  | _ => none

/-- Begins a key. -/
def beginKey? (assembly : Assembly) : Option Assembly := do
  let assembly ← assembly.endSharedList?
  match assembly.frames with
  | .mapping entries slot :: outer =>
    some { assembly with frames := .mapping (completeEntries entries slot) .key :: outer }
  | .flowMapping entries .fresh :: outer =>
    some { assembly with frames := .flowMapping entries .key :: outer }
  | .flowList _ true :: _ => some (assembly.enter (.flowEntry .key))
  | _ => none

/-- Begins a value. -/
def beginValue? (assembly : Assembly) : Option Assembly := do
  let assembly ← assembly.endSharedList?
  match assembly.frames with
  | .mapping entries slot :: outer => do
    let slot ← slot.afterColon?
    pure { assembly with frames := .mapping entries slot :: outer }
  | .flowMapping entries slot :: outer => do
    let slot ← slot.afterColon?
    pure { assembly with frames := .flowMapping entries slot :: outer }
  | .flowEntry slot :: outer => do
    let slot ← slot.afterColon?
    pure { assembly with frames := .flowEntry slot :: outer }
  | _ => none

def comma? (assembly : Assembly) : Option Assembly := do
  let assembly ← assembly.endFlowEntry?
  match assembly.frames with
  | .flowList items false :: outer =>
    some { assembly with frames := .flowList items true :: outer }
  | .flowMapping _ .fresh :: _ => none
  | .flowMapping entries slot :: outer =>
    some { assembly with frames := .flowMapping (completeEntries entries slot) .fresh :: outer }
  | _ => none

def flowListEnd? (assembly : Assembly) : Option Assembly := do
  let assembly ← assembly.endFlowEntry?
  match assembly.frames with
  | .flowList items _ :: _ => assembly.leave? (.list items.reverse)
  | _ => none

def flowMappingEnd? (assembly : Assembly) : Option Assembly :=
  match assembly.frames with
  | .flowMapping entries slot :: _ => assembly.leave? (mappingOf (completeEntries entries slot))
  | _ => none

def step? (assembly : Assembly) : Token → Option Assembly
  | .documentStart | .documentEnd => none
  | .listStart => assembly.open? (.list true [] false)
  | .mappingStart => assembly.open? (.mapping [] .fresh)
  | .blockEnd => assembly.blockEnd?
  | .item => assembly.item?
  | .key => assembly.beginKey?
  | .value => assembly.beginValue?
  | .flowListStart => assembly.open? (.flowList [] true)
  | .flowListEnd => assembly.flowListEnd?
  | .flowMappingStart => assembly.open? (.flowMapping [] .fresh)
  | .flowMappingEnd => assembly.flowMappingEnd?
  | .comma => assembly.comma?
  | .scalar meaning => assembly.offer? (.scalar meaning)

/-- An assembly from some tokens that need not be all of it. -/
def begin? (tokens : List Token) : Option Assembly :=
  tokens.foldlM step? {}

/-- The node that some tokens make up. Without any it is a null. -/
def ofTokens? (tokens : List Token) : Option Node := do
  if tokens.isEmpty then return .missing
  let assembly ← begin? tokens
  if assembly.frames.isEmpty then assembly.node else none

end Assembly

/-- Tokens of a document and those after it. Nothing stands before the line that
    begins it nor after the lines that end it. -/
def documentTokens? (tokens : List Token) : Option (List Token × List Token) :=
  let body := if tokens.head? = some .documentStart then tokens.drop 1 else tokens
  let after := body.dropWhile (!·.isDocumentMark)
  if tokens.head? = some .documentEnd || after.any (· ≠ .documentEnd) then none
  else some (body.takeWhile (!·.isDocumentMark), after)

/-- The one node of a text. -/
def assemble? (tokens : List Token) : Option Node := do
  let (inner, _) ← documentTokens? tokens
  Assembly.ofTokens? inner

/-- Whether a text may begin with some tokens. -/
def isBeginning (tokens : List Token) : Bool :=
  match documentTokens? tokens with
  | some (inner, []) => (Assembly.begin? inner).isSome
  | some (inner, _) => (Assembly.ofTokens? inner).isSome
  | none => false

/-- The node of a text. A fault in the middle counts only if what stands before it is
    of the right form. -/
def Node.ofText (text : List Char) : Except Fault Node :=
  if !text.all isAllowed then .error .malformed
  else
    match tokens (uniformBreaks text) with
    | .ok tokens => readOrMalformed (assemble? tokens)
    | .error (before, fault) => .error (if isBeginning before then fault else .malformed)

/-- Reads one document. -/
def read (text : String) : Except Fault Document := do
  let node ← Node.ofText text.toList
  node.document

end VeiledPool.Yaml
