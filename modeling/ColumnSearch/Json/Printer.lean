import ColumnSearch.Json

/-!
# Writing JSON

`Json.compact` writes a value on one line without blanks, `Json.pretty` writes it with one item a
line. In texts, quotes, backslashes and control characters are escaped and nothing else is.
-/

namespace ColumnSearch.Json

/-- Doubles are written in place from `0.00001` to below `10 ^ 16`, and a positive exponent carries
its sign. -/
def realLayout : Binary64.Layout := ⟨-5, 15, ['+']⟩

/-- The text of a number, with doubles in the given layout. -/
def numberChars (layout : Binary64.Layout) (number : Number) : List Char :=
  (number.numeral layout).chars layout.positiveExponent

/-- A character as it stands between quotes. -/
def escape (c : Char) : List Char :=
  if c = '"' then ['\\', '"']
  else if c = '\\' then ['\\', '\\']
  else if c = '\x08' then ['\\', 'b']
  else if c = '\x0c' then ['\\', 'f']
  else if c = '\n' then ['\\', 'n']
  else if c = '\r' then ['\\', 'r']
  else if c = '\t' then ['\\', 't']
  else if c.toNat < 0x20 then
    ['\\', 'u', '0', '0', Nat.digitChar (c.toNat / 16), Nat.digitChar (c.toNat % 16)]
  else [c]

/-- A text between quotes. -/
def textChars (s : String) : List Char :=
  '"' :: s.toList.flatMap escape ++ ['"']

mutual

/-- The characters of the compact form. -/
def chars : Json → List Char
  | .null => ['n', 'u', 'l', 'l']
  | .bool true => ['t', 'r', 'u', 'e']
  | .bool false => ['f', 'a', 'l', 's', 'e']
  | .number value => numberChars realLayout value
  | .text value => textChars value
  | .array items => '[' :: itemsChars items ++ [']']
  | .object fields => '{' :: fieldsChars fields ++ ['}']

/-- The items of an array, divided by commas. -/
def itemsChars : List Json → List Char
  | [] => []
  | item :: rest => chars item ++ moreItemsChars rest

/-- Further items of an array, each after a comma. -/
def moreItemsChars : List Json → List Char
  | [] => []
  | item :: rest => ',' :: chars item ++ moreItemsChars rest

/-- The fields of an object, divided by commas. -/
def fieldsChars : List (String × Json) → List Char
  | [] => []
  | (name, value) :: rest => textChars name ++ ':' :: chars value ++ moreFieldsChars rest

/-- Further fields of an object, each after a comma. -/
def moreFieldsChars : List (String × Json) → List Char
  | [] => []
  | (name, value) :: rest => ',' :: textChars name ++ ':' :: chars value ++ moreFieldsChars rest

end

/-- The value on one line, without blanks. -/
def compact (json : Json) : String :=
  String.ofList (chars json)

/-- The start of a line with the given indentation. -/
def newLine (indent : Nat) : List Char :=
  '\n' :: List.replicate indent ' '

mutual

/-- The characters of the form with one item a line, inside the given indentation. -/
def prettyChars (indent : Nat) : Json → List Char
  | .array items =>
    if items.isEmpty then ['[', ']']
    else '[' :: prettyItems (indent + 2) items ++ newLine indent ++ [']']
  | .object fields =>
    if fields.isEmpty then ['{', '}']
    else '{' :: prettyFields (indent + 2) fields ++ newLine indent ++ ['}']
  | .null => ['n', 'u', 'l', 'l']
  | .bool true => ['t', 'r', 'u', 'e']
  | .bool false => ['f', 'a', 'l', 's', 'e']
  | .number value => numberChars realLayout value
  | .text value => textChars value

/-- The items of an array, one a line. -/
def prettyItems (indent : Nat) : List Json → List Char
  | [] => []
  | item :: rest => newLine indent ++ prettyChars indent item ++ morePrettyItems indent rest

/-- Further items of an array, each after a comma. -/
def morePrettyItems (indent : Nat) : List Json → List Char
  | [] => []
  | item :: rest =>
    ',' :: newLine indent ++ prettyChars indent item ++ morePrettyItems indent rest

/-- The fields of an object, one a line. -/
def prettyFields (indent : Nat) : List (String × Json) → List Char
  | [] => []
  | (name, value) :: rest =>
    newLine indent ++ textChars name ++ ':' :: ' ' :: prettyChars indent value ++
      morePrettyFields indent rest

/-- Further fields of an object, each after a comma. -/
def morePrettyFields (indent : Nat) : List (String × Json) → List Char
  | [] => []
  | (name, value) :: rest =>
    ',' :: newLine indent ++ textChars name ++ ':' :: ' ' :: prettyChars indent value ++
      morePrettyFields indent rest

end

/-- The value with one item a line, indented by two blanks a level. -/
def pretty (json : Json) : String :=
  String.ofList (prettyChars 0 json)

end ColumnSearch.Json
