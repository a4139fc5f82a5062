import ColumnSearch.Number

/-!
# Plain YAML scalars

What an unquoted scalar denotes: null, a flag, a number or a text. Whole numbers are decimal, or
hexadecimal, octal or binary after `0x`, `0o` or `0b`; digits with a needless leading zero are text.
-/

namespace ColumnSearch.Yaml

/-- The characters that cannot begin a plain scalar. -/
def leadingIndicators : List Char :=
  ['#', ',', '[', ']', '{', '}', '&', '*', '!', '|', '>', '\x27', '"', '%', '@', '\x60']

/-- The spellings of null, apart from the empty scalar. -/
def nullSpellings : List String :=
  ["null", "Null", "NULL", "~"]

/-- The flag a scalar spells. -/
def flag? (s : String) : Option Bool :=
  if s ∈ ["true", "True", "TRUE"] then some true
  else if s ∈ ["false", "False", "FALSE"] then some false
  else none

/-- The value of a digit in a base. -/
def digit? (base : Nat) (c : Char) : Option Nat :=
  let value :=
    if c.isDigit then c.toNat - '0'.toNat
    else if 'a' ≤ c ∧ c ≤ 'f' then c.toNat - 'a'.toNat + 10
    else if 'A' ≤ c ∧ c ≤ 'F' then c.toNat - 'A'.toNat + 10
    else base
  if value < base then some value else none

/-- The whole number that digits of a base spell, at least one. -/
def natural? (base : Nat) : List Char → Option Nat
  | [] => none
  | cs => cs.foldlM (fun value c => (digit? base c).map (base * value + ·)) 0

/-- Digits with a needless leading zero, after an optional sign. -/
def hasLeadingZero (cs : List Char) : Bool :=
  match (Number.splitSign cs).2 with
  | '0' :: c :: rest => (c :: rest).all Char.isDigit
  | _ => false

/-- The magnitude of a whole number without its sign. -/
def magnitude? : List Char → Option Nat
  | '0' :: 'x' :: digits => natural? 16 digits
  | '0' :: 'o' :: digits => natural? 8 digits
  | '0' :: 'b' :: digits => natural? 2 digits
  | cs => if hasLeadingZero cs then none else natural? 10 cs

/-- The whole number a scalar spells, if it is not negative. -/
def unsigned? (cs : List Char) : Option Nat :=
  match cs with
  | '+' :: rest => magnitude? rest
  | _ => magnitude? cs

/-- The magnitude of the negative whole number a scalar spells. -/
def negative? : List Char → Option Nat
  | '-' :: rest => magnitude? rest
  | _ => none

/-- The scalar is a whole number of at most 128 bits. -/
def isInteger (cs : List Char) : Bool :=
  (unsigned? cs).any (decide <| · < 1 <<< 128) || (negative? cs).any (decide <| · ≤ 1 <<< 127)

/-- The exponent that ends a number, if it has one: its mark, an optional sign and digits. -/
def exponentTail? : List Char → Option Int
  | [] => some 0
  | c :: rest =>
    if c = 'e' ∨ c = 'E' then
      let (negative, digits) := Number.splitSign rest
      (natural? 10 digits).map fun value => if negative then -value else value
    else none

/-- The decimal that a mantissa with an optional exponent spells. -/
def decimal? (cs : List Char) : Option Decimal := do
  let (negative, body) := Number.splitSign cs
  let isMantissa (c : Char) : Bool := c.isDigit || c == '.'
  let (whole, fraction) ← Number.splitPoint? (body.takeWhile isMantissa)
  let exponent ← exponentTail? (body.dropWhile isMantissa)
  return (Decimal.ofParts negative whole (fraction.getD [])).scale exponent

/-- The spellings of the numbers that are not finite. -/
def nonFiniteSpellings : List String :=
  [".inf", ".Inf", ".INF", "+.inf", "+.Inf", "+.INF", "-.inf", "-.Inf", "-.INF",
    ".nan", ".NaN", ".NAN"]

/-- The scalar is a number with a point or an exponent, or one that is not finite. -/
def isReal (s : String) : Bool :=
  s ∈ nonFiniteSpellings || ((decimal? s.toList).bind Binary64.ofDecimal?).isSome

/-- The scalar would be read as something other than the text it spells, or could be mistaken for a
number. -/
def isAmbiguous (s : String) : Bool :=
  s.isEmpty || s ∈ nullSpellings || (flag? s).isSome || isInteger s.toList ||
    hasLeadingZero s.toList || isReal s

/-- The count a plain scalar spells. -/
def count? (s : String) : Option UInt64 := do
  let value ← unsigned? s.toList
  guard (value < UInt64.size)
  return UInt64.ofNat value

end ColumnSearch.Yaml
