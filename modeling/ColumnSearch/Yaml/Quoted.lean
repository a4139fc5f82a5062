import ColumnSearch.Yaml.Gap
import ColumnSearch.Yaml.Scalar

/-!
# Quoted YAML scalars

Between single quotes a quote is written twice. Between double quotes a backslash names a character,
or takes a line break away. No line may look like the mark of a document.
-/

namespace ColumnSearch.Yaml

/-- The character that a letter names after a backslash. -/
def unescape? (c : Char) : Option Char :=
  match c with
  | '0' => some '\x00'
  | 'a' => some '\x07'
  | 'b' => some '\x08'
  | 't' => some '\t'
  | '\t' => some '\t'
  | 'n' => some '\n'
  | 'v' => some '\x0b'
  | 'f' => some '\x0c'
  | 'r' => some '\r'
  | 'e' => some '\x1b'
  | ' ' => some ' '
  | '"' => some '"'
  | '/' => some '/'
  | '\\' => some '\\'
  | 'N' => some (Char.ofNat 0x85)
  | '_' => some (Char.ofNat 0xA0)
  | 'L' => some (Char.ofNat 0x2028)
  | 'P' => some (Char.ofNat 0x2029)
  | _ => none

/-- The number of hexadecimal digits after a letter that names a character by its code. -/
def codeLength? (c : Char) : Option Nat :=
  match c with
  | 'x' => some 2
  | 'u' => some 4
  | 'U' => some 8
  | _ => none

/-- The character of a code. -/
def ofCode? (code : Nat) : Option Char :=
  if code.isValidChar then some (Char.ofNat code) else none

/-- What a character of a quoted scalar belongs to. -/
inductive QuotedPart where
  /-- The text itself, after a gap. -/
  | text (gap : Gap)
  /-- What follows a backslash. -/
  | escape
  /-- A code of which this many digits are due, and the value of those before. -/
  | code (due value : Nat)
  deriving DecidableEq, Repr

/-- The text of a scalar after its opening quote, and the place after the closing one. -/
def takeQuoted (quote : Char) (part : QuotedPart) (position : Position) :
    List Char → Option (List Char × Cursor)
  | [] => none
  | c :: rest =>
    let continue? (part : QuotedPart) (written : List Char) : Option (List Char × Cursor) :=
      (takeQuoted quote part (position.nextSpace c) rest).map fun (text, after) =>
        (written ++ text, after)
    match part with
    | .code due value => do
      let value := 16 * value + (← digit? 16 c)
      if due = 1 then continue? (.text .empty) [← ofCode? value]
      else continue? (.code (due - 1) value) []
    | .escape =>
      if isBreak c then continue? (.text (.breaks none [])) []
      else
        match codeLength? c with
        | some due => continue? (.code due 0) []
        | none => do continue? (.text .empty) [← unescape? c]
    | .text gap =>
      if endsWord (some c) then continue? (.text (gap.push c)) []
      else if position.column = 0 ∧ startsDocumentMark (c :: rest) then none
      else if c = quote then
        match rest with
        | d :: more =>
          if quote = '\x27' ∧ d = quote then
            (takeQuoted quote (.text .empty) ((position.next c).next d) more).map
              fun (text, after) => (gap.text ++ d :: text, after)
          else some (gap.text, ⟨position.next c, d :: more⟩)
        | [] => some (gap.text, ⟨position.next c, []⟩)
      else if c = '\\' ∧ quote = '"' then continue? .escape gap.text
      else continue? (.text .empty) (gap.text ++ [c])

end ColumnSearch.Yaml
