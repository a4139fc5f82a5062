import ColumnSearch.Yaml.Cursor

/-!
# Block scalars of YAML

The lines of a block scalar are indented as far as its first line with content, or as its header
says. Literal scalars keep their line breaks; folded ones join lines that start with no blank. The
header also says how much of the line breaks at the end is kept.
-/

namespace ColumnSearch.Yaml

/-- What is kept of the line breaks that end a block scalar. -/
inductive Chomping where
  | strip
  | clip
  | keep
  deriving DecidableEq, Repr

/-- The header of a block scalar. -/
structure BlockHeader where
  chomping : Chomping := .clip
  /-- How far the lines are indented beyond the block that holds the scalar; zero leaves it open. -/
  indent : Nat := 0
  deriving DecidableEq, Repr

/-- The chomping that a sign stands for. -/
def Chomping.ofSign? (c : Char) : Option Chomping :=
  match c with
  | '+' => some .keep
  | '-' => some .strip
  | _ => none

/-- The indentation that a digit stands for. It is not zero. -/
def indentDigit? (c : Char) : Option Nat :=
  if c.isDigit ∧ c ≠ '0' then some (c.toNat - '0'.toNat) else none

/-- What follows blanks and a comment, up to the end of the line. -/
def restOfLine? (cs : List Char) : Option (List Char) :=
  match cs.dropWhile isBlank with
  | [] => some []
  | c :: rest =>
    if c = '#' then some (rest.dropWhile (!isBreak ·))
    else if isBreak c then some (c :: rest)
    else none

/-- The header after the mark of a block scalar: a sign and a digit in either order, each of which
may be left out. -/
def blockHeader (cs : List Char) : BlockHeader × List Char :=
  match cs with
  | [] => ({}, [])
  | a :: rest =>
    match Chomping.ofSign? a, indentDigit? a with
    | some chomping, _ =>
      match rest.head?.bind indentDigit? with
      | some indent => ({ chomping, indent }, rest.drop 1)
      | none => ({ chomping }, rest)
    | none, some indent =>
      match rest.head?.bind Chomping.ofSign? with
      | some chomping => ({ chomping, indent }, rest.drop 1)
      | none => ({ indent }, rest)
    | none, none => ({}, cs)

/-- What is known within a block scalar. -/
structure BlockText where
  /-- The column in which lines start, zero while it is not known. -/
  indent : Nat
  /-- The greatest column reached by blank lines. -/
  deepest : Nat := 0
  /-- The line break of the last line with content. -/
  ending : List Char := []
  /-- The line breaks of the blank lines after it. -/
  blankLines : List Char := []
  /-- The last line with content starts with a blank. -/
  startsBlank : Bool := false
  /-- A line with content is being read. -/
  inLine : Bool := false
  deriving DecidableEq, Repr

namespace BlockText

/-- A blank here belongs to the indentation of a line. -/
def isIndenting (state : BlockText) (position : Position) : Bool :=
  state.indent == 0 || position.column < state.indent

/-- What the line breaks before a line that starts with the given character amount to. -/
def joint (folded : Bool) (state : BlockText) (c : Char) : List Char :=
  if folded ∧ state.ending = ['\n'] ∧ !state.startsBlank ∧ !isBlank c then
    if state.blankLines = [] then [' '] else state.blankLines
  else state.ending ++ state.blankLines

/-- The line breaks that are kept at the end. -/
def tail (state : BlockText) : Chomping → List Char
  | .strip => []
  | .clip => state.ending
  | .keep => state.ending ++ state.blankLines

end BlockText

/-- The text of a block scalar from the start of a line, and the place after it. The lines start no
earlier than the margin of the block that holds the scalar. Tabs cannot indent. -/
def takeBlock (folded : Bool) (chomping : Chomping) (margin : Nat) (state : BlockText)
    (position : Position) : List Char → Option (List Char × Cursor)
  | [] => some (state.tail chomping, ⟨position, []⟩)
  | c :: rest =>
    if state.inLine then
      if isBreak c then
        takeBlock folded chomping margin { state with inLine := false, ending := [c] }
          position.nextLine rest
      else
        (takeBlock folded chomping margin state (position.next c) rest).map
          fun (text, after) => (c :: text, after)
    else if state.isIndenting position ∧ c = ' ' then
      let state := { state with deepest := max state.deepest (position.column + 1) }
      takeBlock folded chomping margin state (position.next c) rest
    else if state.isIndenting position ∧ c = '\t' then none
    else if isBreak c then
      takeBlock folded chomping margin { state with blankLines := state.blankLines ++ [c] }
        position.nextLine rest
    else
      let indent := if state.indent = 0 then max (max state.deepest margin) 1 else state.indent
      if position.column = indent then
        let line : BlockText := { indent, startsBlank := isBlank c, inLine := true }
        (takeBlock folded chomping margin line (position.next c) rest).map
          fun (text, after) => (state.joint folded c ++ c :: text, after)
      else some (state.tail chomping, ⟨position, c :: rest⟩)

/-- The text of a block scalar after its mark, and the place after it. -/
def blockScalar? (folded : Bool) (margin : Nat) (cursor : Cursor) :
    Option (List Char × Cursor) := do
  let (header, afterHeader) := blockHeader cursor.rest
  let cursor := cursor.moveTo (← restOfLine? afterHeader)
  let indent := if header.indent = 0 then 0 else margin - 1 + header.indent
  match cursor.rest with
  | [] => takeBlock folded header.chomping margin { indent } cursor.position []
  | _ :: rest => takeBlock folded header.chomping margin { indent } cursor.position.nextLine rest

end ColumnSearch.Yaml
