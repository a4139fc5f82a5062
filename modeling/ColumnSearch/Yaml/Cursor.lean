/-!
# Positions in YAML text

Lines end at line feeds, carriage returns, both together, and the other line breaks of Unicode.
Lines matter for the extent of keys, and columns for the extent of blocks.
-/

namespace ColumnSearch.Yaml

/-- A place in a text: its line, its column in characters, and its distance from the start in
bytes. -/
structure Position where
  line : Nat := 0
  column : Nat := 0
  offset : Nat := 0
  deriving DecidableEq, Repr

namespace Position

/-- The position after a character that breaks no line. -/
def next (position : Position) (c : Char) : Position :=
  { position with column := position.column + 1, offset := position.offset + c.utf8Size }

/-- The position after a line break. -/
def nextLine (position : Position) : Position :=
  ⟨position.line + 1, 0, position.offset + 1⟩

/-- The position after characters that break no line. -/
def advance (position : Position) (cs : List Char) : Position :=
  cs.foldl next position

end Position

/-- A position and the text that follows it. -/
structure Cursor where
  position : Position := {}
  rest : List Char
  deriving DecidableEq, Repr

/-- Moves to the given rest of the text, which starts on the same line. -/
def Cursor.moveTo (cursor : Cursor) (rest : List Char) : Cursor :=
  ⟨cursor.position.advance (cursor.rest.take (cursor.rest.length - rest.length)), rest⟩

/-- Writes carriage returns, alone or before a line feed, and next-line characters as line feeds. -/
def unifyBreaks : List Char → List Char
  | [] => []
  | '\r' :: '\n' :: rest => '\n' :: unifyBreaks rest
  | c :: rest => (if c = '\r' ∨ c.toNat = 0x85 then '\n' else c) :: unifyBreaks rest

/-- A line break. -/
def isBreak (c : Char) : Bool :=
  c == '\n' || c.toNat == 0x2028 || c.toNat == 0x2029

/-- A blank within a line. -/
def isBlank (c : Char) : Bool :=
  c == ' ' || c == '\t'

/-- A blank, a line break, or the end of the text. -/
def endsWord : Option Char → Bool
  | none => true
  | some c => isBlank c || isBreak c

/-- The text starts with three marks in a row that stand alone. -/
def startsMark (mark : Char) : List Char → Bool
  | a :: b :: c :: rest => a == mark && b == mark && c == mark && endsWord rest.head?
  | _ => false

/-- The text starts with the mark that starts or ends a document. -/
def startsDocumentMark (cs : List Char) : Bool :=
  startsMark '-' cs || startsMark '.' cs

/-- A byte order mark. -/
def isOrderMark (c : Char) : Bool :=
  c.toNat == 0xFEFF

/-- Skips blanks, comments and line breaks. Outside flow collections a tab cannot be skipped where a
key may start, and a key may start on every new line. Tells whether a key may start after them. -/
def toToken (inFlow inComment keyAllowed : Bool) (position : Position) :
    List Char → Bool × Cursor
  | [] => (keyAllowed, ⟨position, []⟩)
  | c :: rest =>
    if isBreak c then toToken inFlow false (keyAllowed || !inFlow) position.nextLine rest
    else if inComment ∨ c = ' ' ∨ (c = '\t' ∧ (inFlow ∨ !keyAllowed)) ∨
        (isOrderMark c ∧ position.column = 0) then
      toToken inFlow inComment keyAllowed (position.next c) rest
    else if c = '#' then toToken inFlow true keyAllowed (position.next c) rest
    else (keyAllowed, ⟨position, c :: rest⟩)

end ColumnSearch.Yaml
