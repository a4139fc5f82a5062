import ColumnSearch.Yaml.BlockScalar
import ColumnSearch.Yaml.Scalar

/-!
# Anchors, tags and directives of YAML

Tags are lists of bytes, since a percent sign and two hexadecimal digits stand for one. A tag is
given in full between angle brackets, or by a handle that stands for its start and a suffix.
-/

namespace ColumnSearch.Yaml

/-- The bytes of a tag. -/
abbrev Tag := List UInt8

/-- The bytes of a text. -/
def Tag.ofString (s : String) : Tag :=
  s.toUTF8.toList

/-- The characters of names. -/
def isNameChar (c : Char) : Bool :=
  c.isAlphanum || c == '-' || c == '_'

/-- The name of an anchor or a reference, and what follows it. -/
def anchorName? (cs : List Char) : Option (String × List Char) :=
  let name := cs.takeWhile isNameChar
  let rest := cs.dropWhile isNameChar
  let ends := ['?', ':', ',', ']', '}', '%', '@', '\x60']
  if name ≠ [] ∧ (endsWord rest.head? ∨ rest.head?.any ends.contains) then
    some (String.ofList name, rest)
  else none

/-- The characters of tags. In tags that are given in full some marks are allowed too. -/
def isTagChar (full : Bool) (c : Char) : Bool :=
  isNameChar c ||
    [';', '/', '?', ':', '@', '&', '=', '+', '$', '.', '%', '!', '~', '*', '\x27'].contains c ||
    c = '(' || c = ')' || (full && [',', '[', ']'].contains c)

/-- The number of bytes after the first byte of a character. -/
def trailingCount? (byte : Nat) : Option Nat :=
  if byte < 0x80 then some 0
  else if byte < 0xC0 then none
  else if byte < 0xE0 then some 1
  else if byte < 0xF0 then some 2
  else if byte < 0xF8 then some 3
  else none

/-- The bytes that the characters of a tag stand for, and what follows them. The escaped bytes of a
character stand together, of which this many are still due. -/
def tagBytes? (full : Bool) (due : Nat) : List Char → Option (Tag × List Char)
  | '%' :: a :: b :: rest => do
    let byte := 16 * (← digit? 16 a) + (← digit? 16 b)
    let due ← if due = 0 then trailingCount? byte
      else if 0x80 ≤ byte ∧ byte < 0xC0 then some (due - 1)
      else none
    let (bytes, after) ← tagBytes? full due rest
    return (byte.toUInt8 :: bytes, after)
  | [] => if due = 0 then some ([], []) else none
  | c :: rest =>
    if due ≠ 0 ∨ c = '%' then none
    else if isTagChar full c then do
      let (bytes, after) ← tagBytes? full 0 rest
      return (Tag.ofString (String.singleton c) ++ bytes, after)
    else some ([], c :: rest)

/-- The bytes up to a zero byte, which ends a tag. -/
def Tag.ended (tag : Tag) : Tag :=
  tag.takeWhile (· ≠ 0)

/-- A handle: names between exclamation marks, the second of which may be missing. -/
def takeHandle (cs : List Char) : List Char × List Char :=
  let name := cs.takeWhile isNameChar
  match cs.dropWhile isNameChar with
  | '!' :: rest => ('!' :: name ++ ['!'], rest)
  | rest => ('!' :: name, rest)

/-- The handle and the suffix of a tag after its exclamation mark. -/
def tagParts? (cs : List Char) : Option ((String × Tag) × List Char) :=
  match cs with
  | '<' :: rest => do
    let (bytes, after) ← tagBytes? true 0 rest
    guard (bytes ≠ [])
    match after with
    | '>' :: after => return (("", bytes.ended), after)
    | _ => none
  | _ => do
    let (handle, rest) := takeHandle cs
    let (bytes, after) ← tagBytes? false 0 rest
    if 1 < handle.length ∧ handle.getLast? = some '!' then
      guard (bytes ≠ [])
      return ((String.ofList handle, bytes.ended), after)
    else
      let suffix := (Tag.ofString (String.ofList (handle.drop 1)) ++ bytes).ended
      return (if suffix = [] then ("", Tag.ofString "!") else ("!", suffix), after)

/-- A tag after its exclamation mark, and what follows it. -/
def tag? (inFlow : Bool) (cs : List Char) : Option ((String × Tag) × List Char) := do
  let (tag, after) ← tagParts? cs
  guard (endsWord after.head? ∨ (inFlow ∧ after.head? = some ','))
  return (tag, after)

/-- What is said about a document before it starts. -/
inductive Directive where
  /-- The version of the language. -/
  | version (major minor : Nat)
  /-- What a handle stands for. -/
  | handle (name : String) (start : Tag)
  deriving DecidableEq, Repr

/-- A number of a version: at most nine digits. -/
def versionNumber? (cs : List Char) : Option (Nat × List Char) := do
  let digits := cs.takeWhile Char.isDigit
  guard (digits.length ≤ 9)
  return (← natural? 10 digits, cs.dropWhile Char.isDigit)

/-- The two numbers of a version, and what follows them. -/
def version? (cs : List Char) : Option (Directive × List Char) := do
  let (major, after) ← versionNumber? cs
  match after with
  | '.' :: rest =>
    let (minor, after) ← versionNumber? rest
    return (.version major minor, after)
  | _ => none

/-- A handle and what it stands for, and what follows them. -/
def handle? : List Char → Option (Directive × List Char)
  | '!' :: rest => do
    let (name, after) := takeHandle rest
    guard (name = ['!'] ∨ (1 < name.length ∧ name.getLast? = some '!'))
    guard (after.head?.any isBlank)
    let (bytes, after) ← tagBytes? true 0 (after.dropWhile isBlank)
    guard (bytes ≠ [] ∧ endsWord after.head?)
    return (.handle (String.ofList name) bytes.ended, after)
  | _ => none

/-- A directive after its percent sign, and the rest of the text from the end of the line on. -/
def directive? (cs : List Char) : Option (Directive × List Char) := do
  let name := cs.takeWhile isNameChar
  let rest := cs.dropWhile isNameChar
  guard (endsWord rest.head?)
  let (directive, after) ← match String.ofList name with
    | "YAML" => version? (rest.dropWhile isBlank)
    | "TAG" => handle? (rest.dropWhile isBlank)
    | _ => none
  return (directive, ← restOfLine? after)

end ColumnSearch.Yaml
