import ColumnSearch.Yaml.Printer

/-!
# Output formats
-/

namespace ColumnSearch

/-- The formats results are written in. -/
inductive Format where
  | json
  | yaml
  deriving DecidableEq, Repr

namespace Format

/-- The text of a value in a format. -/
def render : Format → Json → String
  | json, value => value.pretty
  | yaml, value => Yaml.render value

/-- The name that selects a format. -/
def name : Format → String
  | json => "json"
  | yaml => "yaml"

/-- The format of the given name. -/
def ofName? (word : String) : Option Format :=
  if word = json.name then some json
  else if word = yaml.name then some yaml
  else none

end Format

end ColumnSearch
