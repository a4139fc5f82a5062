import ColumnSearch.Token

/-!
# Conditions

A condition is one term of a search: the text to look for, whether it was quoted, and whether the
term is demanded, barred or neither.
-/

namespace ColumnSearch

/-- What a search asks of a term. -/
inductive Polarity where
  /-- The term carries no sign. -/
  | neutral
  /-- The term is signed with `+`. -/
  | required
  /-- The term is signed with `-` or negated. -/
  | excluded
  deriving DecidableEq, Repr

/-- The sign that writes a polarity. -/
def Polarity.sign : Polarity → String
  | neutral => ""
  | required => "+"
  | excluded => "-"

/-- A term of a search. -/
structure Condition where
  value : String
  quoted : Bool
  polarity : Polarity
  deriving DecidableEq, Repr

namespace Condition

/-- A neutral bare word. -/
def word (value : String) : Condition :=
  ⟨value, false, .neutral⟩

/-- A neutral quoted phrase. -/
def phrase (value : String) : Condition :=
  ⟨value, true, .neutral⟩

/-- The same term with another polarity. -/
def withPolarity (condition : Condition) (polarity : Polarity) : Condition :=
  { condition with polarity }

/-- The condition is demanded. -/
def isRequired (condition : Condition) : Bool :=
  condition.polarity == .required

/-- The condition is barred. -/
def isExcluded (condition : Condition) : Bool :=
  condition.polarity == .excluded

/-- The condition of a term token. Phrases are literal; a word gives up its leading sign, unless
the sign is all there is of it. -/
def ofTerm (token : Token) : Condition :=
  if token.kind = .quoted then
    phrase token.text
  else
    match token.text.toList with
    | '+' :: c :: rest => (word (String.ofList (c :: rest))).withPolarity .required
    | '-' :: c :: rest => (word (String.ofList (c :: rest))).withPolarity .excluded
    | _ => word token.text

/-- The condition as it would be typed. -/
def render (condition : Condition) : String :=
  condition.polarity.sign ++
    if condition.quoted then "\"" ++ condition.value ++ "\"" else condition.value

end Condition

end ColumnSearch
