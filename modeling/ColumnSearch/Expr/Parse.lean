import ColumnSearch.Expr

/-!
# Reading an expression out of tokens

Tokens are read one by one, from left to right. `AND` binds tighter than `OR`, adjacency means
`AND`, and `NOT` applies to the term that follows it. Reading is lenient: groups still open at the
end are closed there, a closing parenthesis that closes nothing ends a part of the search (the
parts are joined by `AND`), and a sign that stands alone after an operand is skipped.

`Reading` is what is known after some tokens, `Reading.step` reads one more, and `parse` reads them
all. An error names the position of the token at which reading cannot go on.
-/

namespace ColumnSearch

/-- Why tokens spell no expression. -/
inductive ParseError.Cause where
  /-- The tokens end where an operand is due. -/
  | endOfExpression
  /-- A group opens inside as many groups as are allowed. -/
  | deepNesting
  /-- `NOT` is not followed by a term. -/
  | missingTerm
  /-- A token other than an operand stands where an operand is due. -/
  | unexpectedToken (text : String)
  deriving DecidableEq, Repr

/-- A cause and the position of the token it concerns. -/
structure ParseError where
  position : Nat
  cause : ParseError.Cause
  deriving DecidableEq, Repr

namespace Expr

/-- The number of groups that may be open at once. -/
def maxNesting : Nat := 128

end Expr

/-- The wording of a cause. -/
def ParseError.Cause.message : ParseError.Cause → String
  | endOfExpression => "unexpected end of expression"
  | deepNesting => s!"groups nested deeper than {Expr.maxNesting}"
  | missingTerm => "expected term after NOT"
  | unexpectedToken text => "unexpected token '" ++ text ++ "'"

/-- The wording of an error. -/
def ParseError.message (error : ParseError) : String :=
  s!"syntax error at token {error.position}: " ++ error.cause.message

namespace Expr

/-- A group that is being read: its finished alternatives, and the factors read so far of the
alternative after them. -/
structure Frame where
  alternatives : List Expr := []
  factors : List Expr := []

namespace Frame

/-- Adds a factor to the current alternative. -/
def addFactor (frame : Frame) (factor : Expr) : Frame :=
  { frame with factors := frame.factors ++ [factor] }

/-- All alternatives, the current one included. -/
def allAlternatives (frame : Frame) : List Expr :=
  frame.alternatives ++ [join .and frame.factors]

/-- Finishes the current alternative. -/
def nextAlternative (frame : Frame) : Frame :=
  { alternatives := frame.allAlternatives }

/-- The expression of a finished group. -/
def toExpr (frame : Frame) : Expr :=
  join .or frame.allAlternatives

/-- The expression of a group inside the given open groups, innermost first, when all of them end
together. -/
def closeAll (frame : Frame) : List Frame → Expr
  | [] => frame.toExpr
  | outer :: rest => (outer.addFactor frame.toExpr).closeAll rest

end Frame

/-- What may come next. -/
inductive Expectation where
  /-- An operand must come. -/
  | operand
  /-- A term must come, to be negated. -/
  | negated
  /-- An operand was read: a connective, a closing parenthesis, a lone sign, another operand or the
  end may come. -/
  | connector
  /-- A part was ended by a closing parenthesis: another one, a new part or the end may come. -/
  | part
  deriving DecidableEq

/-- What is known after reading some tokens. -/
structure Reading where
  /-- The finished parts of the search. -/
  parts : List Expr := []
  /-- The groups around the current one, innermost first. -/
  outer : List Frame := []
  /-- The current group. -/
  frame : Frame := {}
  expects : Expectation := .operand

namespace Reading

/-- Takes a condition as the next operand. -/
def addCondition (reading : Reading) (condition : Condition) : Reading :=
  { reading with frame := reading.frame.addFactor (.leaf condition), expects := .connector }

/-- Reads a token where an operand is due. -/
def operand (reading : Reading) (token : Token) : Except ParseError.Cause Reading :=
  if token.isOpenParen then
    if maxNesting ≤ reading.outer.length then
      .error .deepNesting
    else
      .ok { reading with outer := reading.frame :: reading.outer, frame := {}, expects := .operand }
  else if token.isOperator "NOT" then
    .ok { reading with expects := .negated }
  else if token.isTerm then
    .ok (reading.addCondition (.ofTerm token))
  else
    .error (.unexpectedToken token.text)

/-- Reads a token right after `NOT`. -/
def negated (reading : Reading) (token : Token) : Except ParseError.Cause Reading :=
  if token.isTerm then
    .ok (reading.addCondition ((Condition.ofTerm token).withPolarity .excluded))
  else
    .error .missingTerm

/-- Reads a closing parenthesis after an operand: it ends the current group, or the current part
when no group is open. -/
def close (reading : Reading) : Reading :=
  match reading.outer with
  | [] => { parts := reading.parts ++ [reading.frame.toExpr], expects := .part }
  | outer :: rest =>
    { reading with outer := rest, frame := outer.addFactor reading.frame.toExpr }

/-- Reads a token after an operand. -/
def connector (reading : Reading) (token : Token) : Except ParseError.Cause Reading :=
  if token.isCloseParen then
    .ok reading.close
  else if token.kind = .modifier then
    .ok reading
  else
    match if token.kind = .operator then Connective.ofKeyword? token.text else none with
    | some .and => .ok { reading with expects := .operand }
    | some .or => .ok { reading with frame := reading.frame.nextAlternative, expects := .operand }
    | none => reading.operand token

/-- Reads one token. -/
def step (reading : Reading) (token : Token) : Except ParseError.Cause Reading :=
  match reading.expects with
  | .operand => reading.operand token
  | .negated => reading.negated token
  | .connector => reading.connector token
  | .part => if token.isCloseParen then .ok reading else reading.operand token

/-- The expression read when the tokens end. -/
def finish (reading : Reading) : Except ParseError.Cause Expr :=
  match reading.expects with
  | .operand => .error .endOfExpression
  | .negated => .error .missingTerm
  | .connector => .ok (join .and (reading.parts ++ [reading.frame.closeAll reading.outer]))
  | .part => .ok (join .and reading.parts)

/-- Reads the remaining tokens, the first of which stands at the given position. -/
def run (reading : Reading) (position : Nat) : List Token → Except ParseError Expr
  | [] => reading.finish.mapError (⟨position, ·⟩)
  | token :: rest =>
    match reading.step token with
    | .error cause => .error ⟨position, cause⟩
    | .ok next => next.run (position + 1) rest

end Reading

/-- Reads an expression out of a list of tokens. -/
def parse (tokens : List Token) : Except ParseError Expr :=
  Reading.run {} 0 tokens

end Expr

end ColumnSearch
