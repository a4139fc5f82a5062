import ColumnSearch.Yaml.Cursor

/-!
# Gaps in scalars

Blanks between the words of a scalar are kept within a line. Around line breaks they are dropped, a
single line break is folded into a blank, and of several line breaks the first is dropped.
-/

namespace ColumnSearch.Yaml

/-- What stands between two words of a scalar. -/
inductive Gap where
  /-- Blanks within a line. -/
  | blanks (cs : List Char)
  /-- Line breaks: the first one, unless it is escaped, and those after it. -/
  | breaks (first : Option Char) (more : List Char)
  deriving DecidableEq, Repr

namespace Gap

/-- No gap. -/
def empty : Gap :=
  blanks []

/-- The gap holds a line break. -/
def isFolded : Gap → Bool
  | blanks _ => false
  | breaks _ _ => true

/-- The gap with one more blank or line break. -/
def push (c : Char) : Gap → Gap
  | blanks cs => if isBreak c then breaks (some c) [] else blanks (cs ++ [c])
  | breaks first more => breaks first (if isBreak c then more ++ [c] else more)

/-- The text a gap amounts to. -/
def text : Gap → List Char
  | blanks cs => cs
  | breaks (some '\n') [] => [' ']
  | breaks (some '\n') more => more
  | breaks first more => first.toList ++ more

end Gap

/-- The position after a blank or a line break. -/
def Position.nextSpace (position : Position) (c : Char) : Position :=
  if isBreak c then position.nextLine else position.next c

end ColumnSearch.Yaml
