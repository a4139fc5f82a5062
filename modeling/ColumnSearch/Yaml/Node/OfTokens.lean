import ColumnSearch.Yaml.Node

/-!
# Reading YAML nodes out of tokens

In blocks, what follows an entry is left out if the block goes on or ends right after it; a sequence
that is the value or the key of a mapping needs no block of its own. In flow collections commas
divide entries, and a pair in a sequence is a mapping.
-/

namespace ColumnSearch.Yaml

/-- What handles stand for. -/
abbrev Handles := List (String × Tag)

/-- What handles stand for unless a directive says otherwise. -/
def Handles.standard : Handles :=
  [("!", Tag.ofString "!"), ("!!", Tag.ofString "tag:yaml.org,2002:")]

/-- The whole tag of a handle and a suffix. Without a handle the suffix is the tag. -/
def Handles.resolve? (handles : Handles) (handle : String) (suffix : Tag) : Option Tag :=
  if handle = "" then some suffix else (handles.lookup handle).map (· ++ suffix)

/-- The anchor and the tag before a node, in either order. -/
structure Properties where
  anchor : Option String := none
  tag : Option (String × Tag) := none
  deriving DecidableEq, Repr

/-- The properties before a node, and the tokens after them. -/
def Properties.take : List Token → Properties × List Token
  | .anchor name :: .tag handle suffix :: rest => (⟨some name, some (handle, suffix)⟩, rest)
  | .anchor name :: rest => (⟨some name, none⟩, rest)
  | .tag handle suffix :: .anchor name :: rest => (⟨some name, some (handle, suffix)⟩, rest)
  | .tag handle suffix :: rest => (⟨none, some (handle, suffix)⟩, rest)
  | tokens => ({}, tokens)

/-- The whole tag among the properties of a node. A handle that stands for nothing is refused. -/
def Properties.wholeTag? (handles : Handles) (properties : Properties) : Option (Option Tag) :=
  match properties.tag with
  | none => some none
  | some (handle, suffix) => (handles.resolve? handle suffix).map some

/-- The first of the tokens is one of the given ones. -/
def startsWith (expected tokens : List Token) : Bool :=
  tokens.head?.any expected.contains

namespace Node

mutual

/-- A node, and the tokens after it. Blocks are allowed in blocks only, and a sequence without a
block of its own where the flag says so. The fuel bounds the number of steps. -/
def ofTokens? (handles : Handles) (inBlock bare : Bool) :
    Nat → List Token → Option (Node String × List Token)
  | 0, _ => none
  | fuel + 1, tokens =>
    match tokens with
    | .reference name :: rest => some (link name, rest)
    | tokens => do
      let (properties, rest) := Properties.take tokens
      let tag ← properties.wholeTag? handles
      let (node, rest) ← content? handles inBlock bare (properties != {}) tag fuel rest
      return (withAnchor properties.anchor node, rest)

/-- The node after its properties. With properties it may be left out. -/
def content? (handles : Handles) (inBlock bare mayBeAbsent : Bool) (tag : Option Tag) :
    Nat → List Token → Option (Node String × List Token)
  | 0, _ => none
  | fuel + 1, tokens =>
    match tokens, inBlock, bare with
    | .blockEntry :: _, _, true =>
      (bareItems? handles fuel tokens).map fun (items, rest) => (sequence items, rest)
    | .scalar style text :: rest, _, _ => some (scalar style tag text, rest)
    | .flowSequence :: rest, _, _ =>
      (flowItems? handles true fuel rest).map fun (items, rest) => (sequence items, rest)
    | .flowMapping :: rest, _, _ =>
      (flowFields? handles true fuel rest).map fun (fields, rest) => (mapping fields, rest)
    | .blockSequence :: rest, true, _ =>
      (blockItems? handles fuel rest).map fun (items, rest) => (sequence items, rest)
    | .blockMapping :: rest, true, _ =>
      (blockFields? handles fuel rest).map fun (fields, rest) => (mapping fields, rest)
    | tokens, _, _ => if mayBeAbsent then some (scalar .plain tag "", tokens) else none

/-- The node after a mark, left out if one of the given tokens follows. -/
def optional? (handles : Handles) (inBlock bare : Bool) (ends : List Token) :
    Nat → List Token → Option (Node String × List Token)
  | 0, _ => none
  | fuel + 1, tokens =>
    if startsWith ends tokens then some (absent, tokens)
    else ofTokens? handles inBlock bare fuel tokens

/-- The node after the colon of a value, left out if there is none. -/
def value? (handles : Handles) (inBlock : Bool) (ends : List Token) :
    Nat → List Token → Option (Node String × List Token)
  | 0, _ => none
  | fuel + 1, tokens =>
    match tokens with
    | .value :: rest => optional? handles inBlock inBlock ends fuel rest
    | tokens => some (absent, tokens)

/-- The items of a block sequence up to its end. -/
def blockItems? (handles : Handles) : Nat → List Token → Option (List (Node String) × List Token)
  | 0, _ => none
  | fuel + 1, tokens =>
    match tokens with
    | .blockEntry :: rest => do
      let (item, rest) ← optional? handles true false [.blockEntry, .blockEnd] fuel rest
      let (items, rest) ← blockItems? handles fuel rest
      return (item :: items, rest)
    | .blockEnd :: rest => some ([], rest)
    | _ => none

/-- The items of a sequence without a block of its own. -/
def bareItems? (handles : Handles) : Nat → List Token → Option (List (Node String) × List Token)
  | 0, _ => none
  | fuel + 1, tokens =>
    match tokens with
    | .blockEntry :: rest => do
      let ends := [.blockEntry, .key, .value, .blockEnd]
      let (item, rest) ← optional? handles true false ends fuel rest
      let (items, rest) ← bareItems? handles fuel rest
      return (item :: items, rest)
    | tokens => some ([], tokens)

/-- The fields of a block mapping up to its end. -/
def blockFields? (handles : Handles) :
    Nat → List Token → Option (List (Node String × Node String) × List Token)
  | 0, _ => none
  | fuel + 1, tokens =>
    match tokens with
    | .key :: rest => do
      let ends := [.key, .value, .blockEnd]
      let (key, rest) ← optional? handles true true ends fuel rest
      let (value, rest) ← value? handles true ends fuel rest
      let (fields, rest) ← blockFields? handles fuel rest
      return ((key, value) :: fields, rest)
    | .blockEnd :: rest => some ([], rest)
    | _ => none

/-- The items of a flow sequence up to its end. Every one but the first follows a comma. -/
def flowItems? (handles : Handles) (first : Bool) :
    Nat → List Token → Option (List (Node String) × List Token)
  | 0, _ => none
  | fuel + 1, tokens =>
    match first, tokens with
    | _, .flowSequenceEnd :: rest => some ([], rest)
    | true, tokens => flowItem? handles fuel tokens
    | false, .flowEntry :: .flowSequenceEnd :: rest => some ([], rest)
    | false, .flowEntry :: rest => flowItem? handles fuel rest
    | false, _ => none

/-- An item of a flow sequence and those after it. In a pair without a key, the token that shows
this is passed over. -/
def flowItem? (handles : Handles) : Nat → List Token → Option (List (Node String) × List Token)
  | 0, _ => none
  | fuel + 1, tokens => do
    let (item, rest) ← match tokens with
      | .key :: rest => do
        let ends := [.flowEntry, .flowSequenceEnd]
        let (key, rest) ← optional? handles false false (.value :: ends) fuel rest
        let rest := if startsWith (.value :: ends) (tokens.drop 1) then rest.drop 1 else rest
        let (value, rest) ← value? handles false ends fuel rest
        some (mapping [(key, value)], rest)
      | tokens => ofTokens? handles false false fuel tokens
    let (items, rest) ← flowItems? handles false fuel rest
    return (item :: items, rest)

/-- The fields of a flow mapping up to its end. Every one but the first follows a comma. -/
def flowFields? (handles : Handles) (first : Bool) :
    Nat → List Token → Option (List (Node String × Node String) × List Token)
  | 0, _ => none
  | fuel + 1, tokens =>
    match first, tokens with
    | _, .flowMappingEnd :: rest => some ([], rest)
    | true, tokens => flowField? handles fuel tokens
    | false, .flowEntry :: .flowMappingEnd :: rest => some ([], rest)
    | false, .flowEntry :: rest => flowField? handles fuel rest
    | false, _ => none

/-- A field of a flow mapping and those after it. -/
def flowField? (handles : Handles) :
    Nat → List Token → Option (List (Node String × Node String) × List Token)
  | 0, _ => none
  | fuel + 1, tokens => do
    let ends := [.flowEntry, .flowMappingEnd]
    let (field, rest) ← match tokens with
      | .key :: rest => do
        let (key, rest) ← optional? handles false false (.value :: ends) fuel rest
        let (value, rest) ← value? handles false ends fuel rest
        some ((key, value), rest)
      | tokens => (ofTokens? handles false false fuel tokens).map fun (key, rest) =>
          ((key, absent), rest)
    let (fields, rest) ← flowFields? handles false fuel rest
    return (field :: fields, rest)

end

end Node

end ColumnSearch.Yaml
