import ColumnSearch.Yaml.Lexer
import ColumnSearch.Yaml.Node.OfTokens

/-!
# YAML documents

A text holds one document of one node, or none. Directives precede the mark that starts it, and
further marks may end it.

Anchors are numbered. An anchor gets the number of different names before it, and a reference means
the anchor of its name that stands last before it; a number means the last node anchored under it in
the whole document.
-/

namespace ColumnSearch.Yaml

/-- A document: its node, and the anchored nodes by their numbers in the order they start. -/
structure Document where
  root : Node Nat
  anchors : List (Nat × Node Nat) := []
  deriving Repr

/-- The numbers of the names of anchors, each name once. -/
abbrev Numbering := List (String × Nat)

/-- Gives a name the next number. -/
def Numbering.assign (numbering : Numbering) (name : String) : Numbering :=
  (name, numbering.length) :: numbering.filter (·.1 ≠ name)

/-- A part of a document with numbered references, the anchored nodes in it, and the numbering after
it. -/
structure Numbered (α : Type) where
  part : α
  anchors : List (Nat × Node Nat)
  numbering : Numbering

namespace Node

mutual

/-- Replaces the names of references by numbers. References to unknown names are refused. -/
def number? (numbering : Numbering) : Node String → Option (Numbered (Node Nat))
  | scalar style tag text => some ⟨scalar style tag text, [], numbering⟩
  | sequence items => do
    let ⟨items, anchors, numbering⟩ ← numberItems? numbering items
    return ⟨sequence items, anchors, numbering⟩
  | mapping fields => do
    let ⟨fields, anchors, numbering⟩ ← numberFields? numbering fields
    return ⟨mapping fields, anchors, numbering⟩
  | anchored name node => do
    let ⟨inner, anchors, after⟩ ← number? (numbering.assign name) node
    return ⟨inner, (numbering.length, inner) :: anchors, after⟩
  | link name => do
    return ⟨link (← numbering.lookup name), [], numbering⟩

/-- Numbers the references in the items of a sequence. -/
def numberItems? (numbering : Numbering) :
    List (Node String) → Option (Numbered (List (Node Nat)))
  | [] => some ⟨[], [], numbering⟩
  | item :: rest => do
    let ⟨item, first, numbering⟩ ← number? numbering item
    let ⟨rest, more, numbering⟩ ← numberItems? numbering rest
    return ⟨item :: rest, first ++ more, numbering⟩

/-- Numbers the references in the fields of a mapping. -/
def numberFields? (numbering : Numbering) :
    List (Node String × Node String) → Option (Numbered (List (Node Nat × Node Nat)))
  | [] => some ⟨[], [], numbering⟩
  | (key, value) :: rest => do
    let ⟨key, first, numbering⟩ ← number? numbering key
    let ⟨value, second, numbering⟩ ← number? numbering value
    let ⟨rest, more, numbering⟩ ← numberFields? numbering rest
    return ⟨(key, value) :: rest, first ++ second ++ more, numbering⟩

end

end Node

/-- The document of a node. -/
def Document.ofNode? (node : Node String) : Option Document :=
  (node.number? []).map fun numbered => ⟨numbered.part, numbered.anchors⟩

/-- What a node means: itself, or the node it refers to. -/
def Document.follow (document : Document) : Node Nat → Node Nat
  | .link number => (document.anchors.reverse.lookup number).getD (.link number)
  | node => node

/-- The directives at the start of tokens, and the tokens after them. -/
def takeDirectives : List Token → List Directive × List Token
  | .directive directive :: rest =>
    let (directives, rest) := takeDirectives rest
    (directive :: directives, rest)
  | tokens => ([], tokens)

/-- The version is one that can be read. -/
def isSupported (major minor : Nat) : Bool :=
  major == 1 && (minor == 1 || minor == 2)

/-- What handles stand for after directives. A version and the meaning of a handle are given at most
once. -/
def Handles.ofDirectives? (directives : List Directive) : Option Handles := do
  let versions := directives.filterMap fun
    | .version major minor => some (major, minor)
    | .handle _ _ => none
  let handles := directives.filterMap fun
    | .version _ _ => none
    | .handle name start => some (name, start)
  guard (versions.length ≤ 1 ∧ versions.all fun (major, minor) => isSupported major minor)
  guard (handles.map (·.1)).Nodup
  return handles ++ standard

/-- The tokens end the document and start no other. -/
def endsDocument (tokens : List Token) : Bool :=
  tokens.all (· == .documentEnd)

/-- The node of a document from its start mark on. -/
def contentNode? (handles : Handles) (tokens : List Token) :
    Option (Node String × List Token) :=
  match tokens with
  | .documentStart :: rest =>
    match rest with
    | [] => some (.absent, [])
    | .directive _ :: _ => some (.absent, rest)
    | .documentStart :: _ => some (.absent, rest)
    | .documentEnd :: _ => some (.absent, rest)
    | _ => Node.ofTokens? handles true false (4 * rest.length + 4) rest
  | _ => none

/-- The node of the document that tokens spell, absent if there are none. -/
def documentNode? (tokens : List Token) : Option (Node String) := do
  let (node, rest) ← match tokens with
    | [] => some (.absent, [])
    | .directive _ :: _ => do
      let (directives, rest) := takeDirectives tokens
      contentNode? (← Handles.ofDirectives? directives) rest
    | .documentStart :: _ => contentNode? .standard tokens
    | _ => Node.ofTokens? .standard true false (4 * tokens.length + 4) tokens
  guard (endsDocument rest)
  return node

/-- The document of a text. -/
def Document.parse? (s : String) : Option Document := do
  Document.ofNode? (← documentNode? (← tokens? s))

end ColumnSearch.Yaml
