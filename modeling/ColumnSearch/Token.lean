/-!
# Tokens of a search

A token is a piece of search text together with the role it plays. The lexer produces only some
combinations of role and text, but every combination is a token, and the parser reads them all.
-/

namespace ColumnSearch

/-- The role of a token in a search. -/
inductive Token.Kind where
  /-- A bare word, possibly signed with `+` or `-`. -/
  | word
  /-- The body of a quoted phrase. -/
  | quoted
  /-- One of the keywords `AND`, `OR` and `NOT`. -/
  | operator
  /-- An opening or closing parenthesis. -/
  | paren
  /-- A sign `+` or `-` that stands alone. -/
  | modifier
  deriving DecidableEq, Repr

/-- A role and the text that plays it. -/
structure Token where
  kind : Token.Kind
  text : String
  deriving DecidableEq, Repr

namespace Token

/-- Words and phrases are the terms of a search. -/
def isTerm (token : Token) : Bool :=
  token.kind == .word || token.kind == .quoted

/-- The token is the operator of exactly this name. -/
def isOperator (token : Token) (name : String) : Bool :=
  token.kind == .operator && token.text == name

/-- The token opens a group. -/
def isOpenParen (token : Token) : Bool :=
  token.kind == .paren && token.text == "("

/-- The token closes a group. -/
def isCloseParen (token : Token) : Bool :=
  token.kind == .paren && token.text == ")"

end Token

end ColumnSearch
