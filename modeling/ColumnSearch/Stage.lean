import ColumnSearch.Clause
import ColumnSearch.Json

/-!
# Intermediate results as JSON

Tokens, expressions and clauses as they are shown to a user who inspects a search.
-/

namespace ColumnSearch

/-- The name of a kind of tokens. -/
def Token.Kind.name : Token.Kind → String
  | word => "word"
  | quoted => "quoted"
  | operator => "operator"
  | paren => "paren"
  | modifier => "modifier"

/-- A token as JSON. -/
def Token.toJson (token : Token) : Json :=
  .object [("kind", .text token.kind.name), ("text", .text token.text)]

/-- A list of tokens as JSON. -/
def Token.listToJson (tokens : List Token) : Json :=
  .array (tokens.map Token.toJson)

/-- The fields that show a condition. -/
def Condition.jsonFields (condition : Condition) : List (String × Json) :=
  [("value", .text condition.value), ("isQuoted", .bool condition.quoted),
    ("isRequired", .bool condition.isRequired), ("isExcluded", .bool condition.isExcluded)]

/-- A condition as JSON. -/
def Condition.toJson (condition : Condition) : Json :=
  .object condition.jsonFields

namespace Expr

mutual

/-- An expression as JSON. -/
def toJson : Expr → Json
  | leaf condition => .object (("kind", .text "condition") :: condition.jsonFields)
  | group op children =>
    .object [("kind", .text "group"), ("op", .text op.name),
      ("children", .array (toJsons children))]

/-- Several expressions as JSON. -/
def toJsons : List Expr → List Json
  | [] => []
  | expr :: rest => expr.toJson :: toJsons rest

end

end Expr

/-- A list of clauses as JSON. -/
def Clause.listToJson (clauses : List Clause) : Json :=
  .array (clauses.map fun clause => .array (clause.map Condition.toJson))

end ColumnSearch
