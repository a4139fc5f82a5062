import ColumnSearch.Yaml.Plain
import ColumnSearch.Yaml.Quoted
import ColumnSearch.Yaml.Token

/-!
# Reading the tokens of YAML

A key is known as one only by the colon after it, on the same line and within a certain distance. So
the place where a key may have started is remembered as a candidate, one for each open flow
collection and one for the block around them, and the token of the key is put there when its colon
comes. At the column of a block nothing but a key can start, so a candidate there must turn out to
be one.
-/

namespace ColumnSearch.Yaml

/-- A place where a key may have started. -/
structure Candidate where
  /-- Nothing but a key can stand there. -/
  required : Bool
  /-- The number of tokens before it. -/
  number : Nat
  position : Position
  deriving DecidableEq, Repr

/-- The greatest distance in bytes from the start of a key to its colon. -/
def Candidate.reach : Nat := 1024

/-- The candidate cannot become a key at the given position. -/
def Candidate.isStale (candidate : Candidate) (position : Position) : Bool :=
  candidate.position.line < position.line ||
    candidate.position.offset + reach < position.offset

/-- The candidate as far as it is not stale. -/
def Candidate.refresh? (position : Position) : Option Candidate → Option (Option Candidate)
  | none => some none
  | some candidate =>
    if candidate.isStale position then if candidate.required then none else some none
    else some (some candidate)

/-- What is known after some tokens. -/
structure Lexer where
  cursor : Cursor
  tokens : List Token := []
  /-- The columns after those of the open blocks, innermost first. -/
  margins : List Nat := []
  candidate : Option Candidate := none
  /-- The candidates around the open flow collections, innermost first. -/
  flows : List (Option Candidate) := []
  keyAllowed : Bool := true
  deriving DecidableEq, Repr

namespace Lexer

/-- A flow collection is open. -/
def inFlow (lexer : Lexer) : Bool :=
  !lexer.flows.isEmpty

/-- The least column of content within the innermost block. -/
def margin (lexer : Lexer) : Nat :=
  lexer.margins.headD 0

/-- The current column. -/
def column (lexer : Lexer) : Nat :=
  lexer.cursor.position.column

/-- Adds a token. -/
def emit (lexer : Lexer) (token : Token) : Lexer :=
  { lexer with tokens := lexer.tokens ++ [token] }

/-- Moves to the given rest of the line. -/
def moveTo (lexer : Lexer) (rest : List Char) : Lexer :=
  { lexer with cursor := lexer.cursor.moveTo rest }

/-- Drops the candidate, which must not be required. -/
def forget? (lexer : Lexer) : Option Lexer :=
  if lexer.candidate.any (·.required) then none else some { lexer with candidate := none }

/-- Remembers the current place if a key may start here. -/
def remember? (lexer : Lexer) : Option Lexer := do
  if lexer.keyAllowed then
    let required := !lexer.inFlow && lexer.margin == lexer.column + 1
    return { ← lexer.forget? with
      candidate := some ⟨required, lexer.tokens.length, lexer.cursor.position⟩ }
  else return lexer

/-- Drops all candidates that are stale. -/
def dropStale? (lexer : Lexer) : Option Lexer := do
  return { lexer with
    candidate := ← Candidate.refresh? lexer.cursor.position lexer.candidate
    flows := ← lexer.flows.mapM (Candidate.refresh? lexer.cursor.position) }

/-- The margins that are left, and the tokens that end the blocks of the others, when blocks with a
margin beyond the given one end. -/
def endBlocks (limit : Nat) : List Nat → List Nat × List Token
  | [] => ([], [])
  | margin :: rest =>
    if limit < margin then
      let (margins, tokens) := endBlocks limit rest
      (margins, .blockEnd :: tokens)
    else (margin :: rest, [])

/-- Ends the blocks with a margin beyond the given one. Flow collections hold no blocks. -/
def closeBlocks (lexer : Lexer) (limit : Nat) : Lexer :=
  if lexer.inFlow then lexer
  else
    let (margins, tokens) := endBlocks limit lexer.margins
    { lexer with margins, tokens := lexer.tokens ++ tokens }

/-- Inserts tokens after the given number of tokens; before them a block in the given column starts
if it lies within the innermost one. -/
def openBlock (lexer : Lexer) (column number : Nat) (block : Token) (tokens : List Token) : Lexer :=
  let insert (tokens : List Token) : List Token :=
    lexer.tokens.take number ++ tokens ++ lexer.tokens.drop number
  if !lexer.inFlow ∧ lexer.margin ≤ column then
    { lexer with margins := (column + 1) :: lexer.margins, tokens := insert (block :: tokens) }
  else { lexer with tokens := insert tokens }

/-- Starts a block here if that is needed. In blocks this is only possible where a key may start. -/
def startBlock? (lexer : Lexer) (block : Token) : Option Lexer :=
  if lexer.inFlow then some lexer
  else if lexer.keyAllowed then some (lexer.openBlock lexer.column lexer.tokens.length block [])
  else none

/-- Reads a token of the document, which ends all blocks. -/
def readMark? (lexer : Lexer) (token : Token) (rest : List Char) : Option Lexer := do
  let lexer ← (lexer.closeBlocks 0).forget?
  return ({ lexer with keyAllowed := false }.emit token).moveTo rest

/-- Reads a directive with its line. -/
def readDirective? (lexer : Lexer) (rest : List Char) : Option Lexer := do
  let (directive, after) ← directive? rest
  let lexer ← lexer.readMark? (.directive directive) after
  match lexer.cursor.rest with
  | [] => return lexer
  | _ :: rest => return { lexer with cursor := ⟨lexer.cursor.position.nextLine, rest⟩ }

/-- Reads the opening bracket of a flow collection. -/
def readFlowStart? (lexer : Lexer) (token : Token) (rest : List Char) : Option Lexer := do
  let lexer ← lexer.remember?
  let lexer := { lexer with
    flows := lexer.candidate :: lexer.flows
    candidate := none
    keyAllowed := true }
  return (lexer.emit token).moveTo rest

/-- Reads the closing bracket of a flow collection. -/
def readFlowEnd? (lexer : Lexer) (token : Token) (rest : List Char) : Option Lexer := do
  let lexer ← lexer.forget?
  let lexer := match lexer.flows with
    | [] => lexer
    | candidate :: flows => { lexer with candidate, flows }
  return ({ lexer with keyAllowed := false }.emit token).moveTo rest

/-- Reads the comma of a flow collection. -/
def readFlowEntry? (lexer : Lexer) (rest : List Char) : Option Lexer := do
  let lexer ← lexer.forget?
  return ({ lexer with keyAllowed := true }.emit .flowEntry).moveTo rest

/-- Reads the dash of a sequence. -/
def readBlockEntry? (lexer : Lexer) (rest : List Char) : Option Lexer := do
  let lexer ← (← lexer.startBlock? .blockSequence).forget?
  return ({ lexer with keyAllowed := true }.emit .blockEntry).moveTo rest

/-- Reads the mark of a key. -/
def readKey? (lexer : Lexer) (rest : List Char) : Option Lexer := do
  let lexer ← (← lexer.startBlock? .blockMapping).forget?
  return ({ lexer with keyAllowed := !lexer.inFlow }.emit .key).moveTo rest

/-- Reads the colon before a value. -/
def readValue? (lexer : Lexer) (rest : List Char) : Option Lexer := do
  let lexer ← match lexer.candidate with
    | some candidate =>
      let lexer := lexer.openBlock candidate.position.column candidate.number .blockMapping [.key]
      some { lexer with candidate := none, keyAllowed := false }
    | none => do
      let lexer ← lexer.startBlock? .blockMapping
      some { lexer with keyAllowed := !lexer.inFlow }
  return (lexer.emit .value).moveTo rest

/-- Reads a token that may belong to a key, given the token and the place after it. -/
def readKeyPart? (lexer : Lexer) (token : Token) (after : Cursor) (keyAllowed : Bool) :
    Option Lexer := do
  let lexer ← lexer.remember?
  return { lexer with cursor := after, keyAllowed }.emit token

/-- Reads a block scalar. -/
def readBlockScalar? (lexer : Lexer) (style : Style) (rest : List Char) : Option Lexer := do
  let lexer ← lexer.forget?
  let (text, after) ← blockScalar? (style == .folded) lexer.margin (lexer.cursor.moveTo rest)
  let token := .scalar style (String.ofList text)
  return { lexer with cursor := after, keyAllowed := true }.emit token

/-- Reads a quoted scalar. -/
def readQuoted? (lexer : Lexer) (quote : Char) (rest : List Char) : Option Lexer := do
  let start := lexer.cursor.position.next quote
  let (text, after) ← takeQuoted quote (.text .empty) start rest
  lexer.readKeyPart? (.scalar .quoted (String.ofList text)) after false

/-- Reads a plain scalar. On a new line after it a key may start. -/
def readPlain? (lexer : Lexer) : Option Lexer := do
  let cursor := lexer.cursor
  let (text, gap, after) ←
    takePlain lexer.inFlow lexer.margin .empty cursor.position cursor.rest
  lexer.readKeyPart? (.scalar .plain (String.ofList text)) after gap.isFolded

/-- Reads the token that starts with the given character. -/
def readToken? (lexer : Lexer) (c : Char) (rest : List Char) : Option Lexer :=
  let inFlow := lexer.inFlow
  let ends := endsWord rest.head?
  if c = '[' then lexer.readFlowStart? .flowSequence rest
  else if c = '{' then lexer.readFlowStart? .flowMapping rest
  else if c = ']' then lexer.readFlowEnd? .flowSequenceEnd rest
  else if c = '}' then lexer.readFlowEnd? .flowMappingEnd rest
  else if c = ',' then lexer.readFlowEntry? rest
  else if c = '-' ∧ ends then lexer.readBlockEntry? rest
  else if c = '?' ∧ (inFlow ∨ ends) then lexer.readKey? rest
  else if c = ':' ∧ (inFlow ∨ ends) then lexer.readValue? rest
  else if c = '*' then do
    let (name, after) ← anchorName? rest
    lexer.readKeyPart? (.reference name) (lexer.cursor.moveTo after) false
  else if c = '&' then do
    let (name, after) ← anchorName? rest
    lexer.readKeyPart? (.anchor name) (lexer.cursor.moveTo after) false
  else if c = '!' then do
    let ((handle, suffix), after) ← tag? inFlow rest
    lexer.readKeyPart? (.tag handle suffix) (lexer.cursor.moveTo after) false
  else if c = '|' ∧ !inFlow then lexer.readBlockScalar? .literal rest
  else if c = '>' ∧ !inFlow then lexer.readBlockScalar? .folded rest
  else if c = '\x27' ∨ c = '"' then lexer.readQuoted? c rest
  else if startsPlain inFlow c rest then lexer.readPlain?
  else none

/-- Reads one token. Directives and the marks of documents stand at the start of a line. -/
def read? (lexer : Lexer) : Option Lexer :=
  match lexer.cursor.rest with
  | [] => none
  | c :: rest =>
    if lexer.column = 0 ∧ c = '%' then lexer.readDirective? rest
    else if lexer.column = 0 ∧ startsMark '-' (c :: rest) then
      lexer.readMark? .documentStart (rest.drop 2)
    else if lexer.column = 0 ∧ startsMark '.' (c :: rest) then
      lexer.readMark? .documentEnd (rest.drop 2)
    else lexer.readToken? c rest

/-- Moves to the next token, which ends the blocks that are indented further. -/
def advance? (lexer : Lexer) : Option Lexer := do
  let (keyAllowed, cursor) :=
    toToken lexer.inFlow false lexer.keyAllowed lexer.cursor.position lexer.cursor.rest
  let lexer ← { lexer with keyAllowed, cursor }.dropStale?
  return lexer.closeBlocks (lexer.column + 1)

/-- The tokens of the text. The fuel bounds the number of tokens. -/
def run? : Nat → Lexer → Option (List Token)
  | 0, _ => none
  | fuel + 1, lexer => do
    let lexer ← lexer.advance?
    if lexer.cursor.rest.isEmpty then
      let lexer ← (lexer.closeBlocks 0).forget?
      return lexer.tokens
    else run? fuel (← lexer.read?)

end Lexer

/-- A character that may occur in a text. -/
def isPrintable (c : Char) : Bool :=
  let code := c.toNat
  code = 0x09 || code = 0x0A || code = 0x0D || (0x20 ≤ code && code ≤ 0x7E) || code = 0x85 ||
    (0xA0 ≤ code && code ≤ 0xFFFD) || 0x10000 ≤ code

/-- The tokens of a text. -/
def tokens? (s : String) : Option (List Token) := do
  guard (s.toList.all isPrintable)
  let rest := unifyBreaks s.toList
  Lexer.run? (rest.length + 1) { cursor := { rest } }

end ColumnSearch.Yaml
