import ColumnSearch.Binary64

/-!
# Numbers

A number is a signed word, an unsigned word or a double. A numeric literal is an optional sign and
digits with at most one point among them. Whole literals become the narrowest word that holds them;
all others become doubles.
-/

namespace ColumnSearch

/-- A number in one of three machine representations. -/
inductive Number where
  | signed (value : Int64)
  | unsigned (value : UInt64)
  | real (value : Binary64)
  deriving DecidableEq, Repr

namespace Number

/-- Splits a leading sign off, and tells whether it is a minus. -/
def splitSign : List Char → Bool × List Char
  | '-' :: cs => (true, cs)
  | '+' :: cs => (false, cs)
  | cs => (false, cs)

/-- The digits of an unsigned literal before and after its point, and whether it has one. -/
def splitPoint? (cs : List Char) : Option (List Char × Option (List Char)) :=
  let whole := cs.takeWhile Char.isDigit
  match cs.dropWhile Char.isDigit with
  | [] => if whole = [] then none else some (whole, none)
  | '.' :: fraction =>
    if fraction.all Char.isDigit ∧ ¬(whole = [] ∧ fraction = []) then some (whole, some fraction)
    else none
  | _ => none

/-- The text is a numeric literal. -/
def isLiteral (s : String) : Bool :=
  (splitPoint? (splitSign s.toList).2).isSome

/-- The signed or unsigned word that holds a whole number. -/
def ofInt? (n : Int) : Option Number :=
  if -0x8000000000000000 ≤ n ∧ n < 0x8000000000000000 then some (signed (Int64.ofInt n))
  else if 0 ≤ n ∧ n < 0x10000000000000000 then some (unsigned (UInt64.ofNat n.toNat))
  else none

/-- The number a literal spells. A double beyond the finite ones has no representation. -/
def parse? (s : String) : Option Number := do
  let (negative, body) := splitSign s.toList
  match ← splitPoint? body with
  | (whole, some fraction) => real <$> Binary64.ofDecimal? (.ofParts negative whole fraction)
  | (whole, none) =>
    let decimal := Decimal.ofParts negative whole []
    let magnitude : Int := decimal.digits
    ofInt? (if negative then -magnitude else magnitude) <|> real <$> Binary64.ofDecimal? decimal

end Number

end ColumnSearch
