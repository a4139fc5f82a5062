/-!
# Targets

A target is the table and column that filters apply to. Column bindings name it as
`Table[Column]`, or by the last two segments of a dotted path.
-/

namespace ColumnSearch

/-- A column of a table. -/
structure Target where
  table : String
  column : String
  deriving DecidableEq, Repr

namespace Target

/-- The binding `Table[Column]` of a target. -/
def render (target : Target) : String :=
  target.table ++ "[" ++ target.column ++ "]"

/-- The parts of a bracketed binding: what stands before the first opening bracket, and what stands
between it and a closing bracket at the very end. Bindings of several lines are not bracketed. -/
def splitBrackets? (cs : List Char) : Option (List Char × List Char) :=
  if '\n' ∈ cs then
    none
  else
    match cs.dropWhile (· ≠ '[') with
    | [] => none
    | _ :: inner =>
      if inner.getLast? = some ']' then some (cs.takeWhile (· ≠ '['), inner.dropLast) else none

/-- The last two members of a list. -/
def lastTwo? {α : Type} : List α → Option (α × α)
  | [] => none
  | [_] => none
  | [first, second] => some (first, second)
  | _ :: rest => lastTwo? rest

/-- The target a column binding names. -/
def ofBinding? (binding : String) : Option Target :=
  let cs := binding.toList
  (splitBrackets? cs <|> lastTwo? (cs.splitOn '.')).map fun (table, column) =>
    ⟨String.ofList table, String.ofList column⟩

/-- The complaint about a binding that names no target. -/
def invalidBinding (binding : String) : String :=
  "cannot derive table/column from binding '" ++ binding ++ "'"

end Target

end ColumnSearch
