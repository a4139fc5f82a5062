import ColumnSearch.Yaml.Gap
import ColumnSearch.Yaml.Scalar

/-!
# Plain YAML scalars

A plain scalar ends before a colon that ends a word, before a comment, and in a flow collection
before its marks. It continues on the lines that are indented far enough.
-/

namespace ColumnSearch.Yaml

/-- A mark that ends a plain scalar in a flow collection. -/
def isFlowMark (c : Char) : Bool :=
  [',', '[', ']', '{', '}'].contains c

/-- A plain scalar may start with this character before the given rest. -/
def startsPlain (inFlow : Bool) (c : Char) (rest : List Char) : Bool :=
  if c == '-' then !endsWord rest.head?
  else if c == '?' || c == ':' then !inFlow && !endsWord rest.head?
  else !leadingIndicators.contains c && !endsWord (some c)

/-- A plain scalar cannot go on at the start of a word after a gap. -/
def stopsPlain (inFlow : Bool) (margin : Nat) (position : Position) (cs : List Char) : Bool :=
  (!inFlow && position.column < margin) || (position.column == 0 && startsDocumentMark cs) ||
    cs.head? == some '#'

/-- The text of a plain scalar after a gap, the gap that follows it, and the place after that. Lines
start no earlier than the margin, and tabs before it are refused. -/
def takePlain (inFlow : Bool) (margin : Nat) (gap : Gap) (position : Position) :
    List Char → Option (List Char × Gap × Cursor)
  | [] => some ([], gap, ⟨position, []⟩)
  | c :: rest =>
    if endsWord (some c) then
      if c = '\t' ∧ gap.isFolded ∧ position.column < margin then none
      else takePlain inFlow margin (gap.push c) (position.nextSpace c) rest
    else if gap ≠ .empty ∧ stopsPlain inFlow margin position (c :: rest) then
      some ([], gap, ⟨position, c :: rest⟩)
    else if inFlow ∧ c = ':' ∧ rest.head?.any (fun d => isFlowMark d || d == '?') then none
    else if (c = ':' ∧ endsWord rest.head?) ∨ (inFlow ∧ isFlowMark c) then
      some ([], gap, ⟨position, c :: rest⟩)
    else
      (takePlain inFlow margin .empty (position.next c) rest).map fun (text, after) =>
        (gap.text ++ c :: text, after)

end ColumnSearch.Yaml
