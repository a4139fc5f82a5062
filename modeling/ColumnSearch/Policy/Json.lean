import ColumnSearch.Json.Reader
import ColumnSearch.Json.Record
import ColumnSearch.Policy

/-!
# Reading policies from JSON

A policy is a record all of whose fields have defaults. Fields of other names are skipped without
regard to their values, so even numerals beyond the finite doubles may stand there.
-/

namespace ColumnSearch.Policy

/-- The names of the fields in order, each with its other names. -/
def fieldNames : List (String × List String) :=
  [("maxQueryLength", []), ("maxTokenCount", ["maxTokens"]), ("maxClauseLeafCount", ["maxClauses"]),
    ("maxCnfClauses", []), ("measureChipEnabled", [])]

/-- Reads the field of the given name. A field that is absent takes its default, and one that occurs
twice, under whichever names, is refused. -/
def readField {α β : Type} (read : α → Option β) (fields : List (String × α)) (name : String)
    (fallback : β) : Option β :=
  let names := name :: (fieldNames.lookup name).getD []
  match fields.filter (·.1 ∈ names) with
  | [] => some fallback
  | [(_, value)] => read value
  | _ => none

/-- Reads a policy from named values, given how counts and flags are read. -/
def ofFields? {α : Type} (count? : α → Option UInt64) (flag? : α → Option Bool)
    (fields : List (String × α)) : Option Policy := do
  let fallback : Policy := {}
  return {
    maxQueryLength := ← readField count? fields "maxQueryLength" fallback.maxQueryLength
    maxTokenCount := ← readField count? fields "maxTokenCount" fallback.maxTokenCount
    maxLeafCount := ← readField count? fields "maxClauseLeafCount" fallback.maxLeafCount
    maxClauseCount := ← readField count? fields "maxCnfClauses" fallback.maxClauseCount
    measured := ← readField flag? fields "measureChipEnabled" fallback.measured }

/-- The count a JSON literal denotes. -/
def documentCount? (document : JsonDocument) : Option UInt64 :=
  (document.toJson? Numeral.number?).bind Json.word?

/-- The flag a JSON literal denotes. -/
def documentFlag? : JsonDocument → Option Bool
  | .bool value => some value
  | _ => none

/-- Reads a policy from a JSON document: an object, or an array of the leading fields in order. -/
def ofDocument? : JsonDocument → Option Policy
  | .object fields => do
    ofFields? documentCount? documentFlag? (← fields.mapM fun (name, value) => name.map (·, value))
  | .array items =>
    if items.length ≤ fieldNames.length then
      ofFields? documentCount? documentFlag? ((fieldNames.map (·.1)).zip items)
    else none
  | _ => none

/-- Reads a policy from JSON text. -/
def parseJson? (s : String) : Option Policy :=
  (JsonDocument.parse? s).bind ofDocument?

end ColumnSearch.Policy
