import ColumnSearch.Decimal
import ColumnSearch.Format
import ColumnSearch.Policy
import ColumnSearch.Target

/-!
# Commands and their settings

Every command takes the switches and the settings of the policy, which may also precede it. The
others belong to some commands only. A setting is read from text into a typed assignment.
-/

namespace ColumnSearch.CommandLine

/-- Why a command line is not carried out. -/
inductive Refusal where
  | helpRequested
  | versionRequested
  /-- There is neither a command nor a setting. -/
  | nothingGiven
  | missingCommand
  | unknownCommand
  | unknownOption
  /-- A value is missing, empty, or not one of those allowed. -/
  | invalidValue
  /-- A value cannot be read. -/
  | malformedValue
  /-- Options are given together, or repeated, that must not be. -/
  | conflict
  /-- A switch is given a value. -/
  | unexpectedValue
  deriving DecidableEq, Repr

/-- The commands. -/
inductive Command where
  | compile
  | tokens
  | parse
  | clauses
  | batch
  deriving DecidableEq, Repr

namespace Command

/-- All commands. -/
def all : List Command :=
  [compile, tokens, parse, clauses, batch]

/-- The word that selects a command. -/
def name : Command → String
  | compile => "compile"
  | tokens => "tokens"
  | parse => "parse"
  | clauses => "cnf"
  | batch => "batch"

/-- The command a word selects. -/
def ofName? (word : String) : Option Command :=
  all.find? (·.name = word)

/-- The word that asks for help on a command. -/
def helpName : String :=
  "help"

end Command

/-- Options without a value. -/
inductive Switch where
  | verbose
  | quiet
  | help
  | version
  deriving DecidableEq, Repr

namespace Switch

/-- The name of a switch. -/
def name : Switch → String
  | verbose => "verbose"
  | quiet => "quiet"
  | help => "help"
  | version => "version"

/-- The letter of a switch. -/
def letter : Switch → Char
  | verbose => 'v'
  | quiet => 'q'
  | help => 'h'
  | version => 'V'

/-- The switches after the given command, or before any. -/
def available : Option Command → List Switch
  | none => [verbose, quiet, help, version]
  | some _ => [verbose, quiet, help]

end Switch

/-- The limits of a policy. -/
inductive Limit where
  | queryLength
  | tokenCount
  | leafCount
  | clauseCount
  deriving DecidableEq, Repr

/-- Sets a limit of a policy. -/
def Limit.set (policy : Policy) (value : UInt64) : Limit → Policy
  | queryLength => { policy with maxQueryLength := value }
  | tokenCount => { policy with maxTokenCount := value }
  | leafCount => { policy with maxLeafCount := value }
  | clauseCount => { policy with maxClauseCount := value }

/-- What takes a value: options, and the free words of commands. -/
inductive Setting where
  /-- The policy file. -/
  | config
  | limit (limit : Limit)
  /-- Whether sizes are reported. -/
  | measured
  /-- The file of the search. -/
  | file
  | table
  | column
  | binding
  | format
  /-- The search itself. -/
  | query
  /-- The file of a batch. -/
  | path
  deriving DecidableEq, Repr

namespace Setting

/-- The name of an option; free words have none. -/
def name? : Setting → Option String
  | config => some "config"
  | limit .queryLength => some "max-query-length"
  | limit .tokenCount => some "max-tokens"
  | limit .leafCount => some "max-clauses"
  | limit .clauseCount => some "max-cnf-clauses"
  | measured => some "measure"
  | file => some "file"
  | table => some "table"
  | column => some "column"
  | binding => some "binding"
  | format => some "format"
  | query => none
  | path => none

/-- The settings of the policy. -/
def shared : List Setting :=
  [config, limit .queryLength, limit .tokenCount, limit .leafCount, limit .clauseCount, measured]

/-- The options after the given command, or before any. -/
def available : Option Command → List Setting
  | none => shared
  | some .compile => [file, table, column, binding, format] ++ shared
  | some .batch => [table, column, binding] ++ shared
  | some _ => [file, format] ++ shared

/-- The setting that the free word of a command is for. -/
def freeWord : Command → Setting
  | .batch => path
  | _ => query

/-- The variables of the environment that stand in for options, in the order they are consulted. -/
def fallbacks : List (Setting × String) :=
  [(limit .queryLength, "SIFT_MAX_QUERY_LENGTH"), (limit .tokenCount, "SIFT_MAX_TOKENS"),
    (limit .leafCount, "SIFT_MAX_CLAUSES"), (limit .clauseCount, "SIFT_MAX_CNF_CLAUSES"),
    (measured, "SIFT_MEASURE")]

/-- The value of an option that is named without one. -/
def implied? : Setting → Option String
  | measured => some "true"
  | _ => none

end Setting

/-- A setting with its value. -/
inductive Assignment where
  | config (path : String)
  | limit (limit : Limit) (value : UInt64)
  | measured (value : Bool)
  | file (path : String)
  | table (name : String)
  | column (name : String)
  | binding (target : Target)
  | format (format : Format)
  | query (text : String)
  | path (path : String)
  deriving DecidableEq, Repr

/-- The setting that is assigned. -/
def Assignment.setting : Assignment → Setting
  | config _ => .config
  | limit bound _ => .limit bound
  | measured _ => .measured
  | file _ => .file
  | table _ => .table
  | column _ => .column
  | binding _ => .binding
  | format _ => .format
  | query _ => .query
  | path _ => .path

/-- The count that digits spell, after an optional plus sign. -/
def count? (s : String) : Option UInt64 :=
  let digits := match s.toList with
    | '+' :: rest => rest
    | cs => cs
  let value := Decimal.digitsValue 0 digits
  if digits ≠ [] ∧ digits.all Char.isDigit ∧ value < UInt64.size then some (UInt64.ofNat value)
  else none

/-- The flag a word spells. -/
def flag? (s : String) : Option Bool :=
  if s = "true" then some true
  else if s = "false" then some false
  else none

/-- A path that is not empty. -/
def path? (s : String) : Option String :=
  if s.isEmpty then none else some s

/-- Reads the value of a setting. -/
def Setting.assign (setting : Setting) (value : String) : Except Refusal Assignment :=
  let orElse {α : Type} (refusal : Refusal) (result : Option α) : Except Refusal α :=
    result.elim (.error refusal) .ok
  match setting with
  | config => .config <$> orElse .invalidValue (path? value)
  | limit bound => .limit bound <$> orElse .malformedValue (count? value)
  | measured => .measured <$> orElse .invalidValue (flag? value)
  | file => .file <$> orElse .invalidValue (path? value)
  | table => .ok (.table value)
  | column => .ok (.column value)
  | binding => .binding <$> orElse .malformedValue (Target.ofBinding? value)
  | format => .format <$> orElse .invalidValue (Format.ofName? value)
  | query => .ok (.query value)
  | path => .path <$> orElse .invalidValue (path? value)

end ColumnSearch.CommandLine
