import ColumnSearch.Json.Printer
import ColumnSearch.Yaml.Scalar

/-!
# Writing YAML

Values are written in block style. A list inside a mapping stands at the mapping's own indentation,
a list inside a list starts on its line, and the first key of a mapping in a list stands on the line
of its dash. Texts are plain where that cannot be misread.
-/

namespace ColumnSearch.Yaml

/-- Doubles are written as in JSON, but a positive exponent has no sign. -/
def realLayout : Binary64.Layout := ⟨-5, 15, []⟩

/-- A blank, or the end of the text. -/
def isBlankOrEnd : Option Char → Bool
  | none => true
  | some c => c == ' ' || c == '\t'

/-- The text starts with a mark of the block structure. -/
def startsLikeMark (cs : List Char) : Bool :=
  match cs with
  | '-' :: '-' :: '-' :: _ => true
  | '.' :: '.' :: '.' :: _ => true
  | ' ' :: _ => true
  | c :: rest =>
    leadingIndicators.contains c ||
      ((c == '-' || c == '?' || c == ':') && isBlankOrEnd rest.head?)
  | [] => false

/-- The text holds a colon before a blank or the end, or a number sign after a blank. -/
def holdsMark : List Char → Bool
  | [] => false
  | c :: rest =>
    (c == ':' && isBlankOrEnd rest.head?) ||
      (isBlankOrEnd (some c) && rest.head? == some '#') || holdsMark rest

/-- The character must be escaped. -/
def isSpecial (c : Char) : Bool :=
  c.toNat < 0x20 || (0x7F ≤ c.toNat && c.toNat < 0xA0) ||
    [0x2028, 0x2029, 0xFEFF, 0xFFFE, 0xFFFF].contains c.toNat

/-- The text can be written as it is. -/
def isPlain (s : String) : Bool :=
  let cs := s.toList
  !isAmbiguous s && !startsLikeMark cs && !holdsMark cs && cs.getLast? != some ' '

/-- The last digits of a number in upper-case hexadecimal. -/
def hexDigits (count n : Nat) : List Char :=
  (List.range count).reverse.map fun i => (Nat.digitChar ((n >>> (4 * i)) % 16)).toUpper

/-- A character as it stands between double quotes. -/
def escape (c : Char) : List Char :=
  if c = '"' ∨ c = '\\' then ['\\', c]
  else if isSpecial c then
    match c.toNat with
    | 0x00 => ['\\', '0']
    | 0x07 => ['\\', 'a']
    | 0x08 => ['\\', 'b']
    | 0x09 => ['\\', 't']
    | 0x0A => ['\\', 'n']
    | 0x0B => ['\\', 'v']
    | 0x0C => ['\\', 'f']
    | 0x0D => ['\\', 'r']
    | 0x1B => ['\\', 'e']
    | 0x85 => ['\\', 'N']
    | 0x2028 => ['\\', 'L']
    | 0x2029 => ['\\', 'P']
    | code => if code < 0x100 then '\\' :: 'x' :: hexDigits 2 code
      else '\\' :: 'u' :: hexDigits 4 code
  else [c]

/-- A text: plain if it can be, between single quotes if nothing in it needs an escape, and between
double quotes otherwise. -/
def textChars (s : String) : List Char :=
  if s.toList.any isSpecial then '"' :: s.toList.flatMap escape ++ ['"']
  else if isPlain s then s.toList
  else '\x27' :: s.toList.flatMap (fun c => if c = '\x27' then [c, c] else [c]) ++ ['\x27']

/-- Puts one text before the first line and another before the lines after it. -/
def hang (first rest : List Char) : List (List Char) → List (List Char)
  | [] => []
  | line :: lines => (first ++ line) :: lines.map (rest ++ ·)

/-- The greatest size in bytes of a key that stands on one line with its value. -/
def maxKeySize : Nat := 128

mutual

/-- The lines of a value. -/
def lines : Json → List (List Char)
  | .null => [['n', 'u', 'l', 'l']]
  | .bool true => [['t', 'r', 'u', 'e']]
  | .bool false => [['f', 'a', 'l', 's', 'e']]
  | .number value => [Json.numberChars realLayout value]
  | .text value => [textChars value]
  | .array items => if items.isEmpty then [['[', ']']] else itemLines items
  | .object fields => if fields.isEmpty then [['{', '}']] else fieldLines fields

/-- The lines of the items of a list. -/
def itemLines : List Json → List (List Char)
  | [] => []
  | item :: rest => hang ['-', ' '] [' ', ' '] (lines item) ++ itemLines rest

/-- The lines of the fields of a mapping. A long key and its value are marked on lines of their
own. -/
def fieldLines : List (String × Json) → List (List Char)
  | [] => []
  | (name, value) :: rest =>
    let key := textChars name
    let inner := lines value
    let field :=
      if maxKeySize < name.utf8ByteSize then
        (['?', ' '] ++ key) :: hang [':', ' '] [' ', ' '] inner
      else
        match value with
        | .array (_ :: _) => (key ++ [':']) :: inner
        | .object (_ :: _) => (key ++ [':']) :: inner.map ([' ', ' '] ++ ·)
        | _ => hang (key ++ [':', ' ']) [] inner
    field ++ fieldLines rest

end

/-- The YAML text of a value. It ends with a line feed. -/
def render (json : Json) : String :=
  String.ofList ((lines json).flatMap (· ++ ['\n']))

end ColumnSearch.Yaml
