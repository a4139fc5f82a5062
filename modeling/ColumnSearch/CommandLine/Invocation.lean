import ColumnSearch.CommandLine.Level
import ColumnSearch.Policy.File

/-!
# Invocations

What a command line asks for. A setting after the command wins over the same one before it, and both
win over the environment; the policy file is the last resort.
-/

namespace ColumnSearch.CommandLine

/-- Where a search is taken from. -/
structure Source where
  argument : Option String
  file : Option String
  deriving DecidableEq, Repr

/-- The intermediate results that can be shown. -/
inductive Stage where
  | tokens
  | parse
  | clauses
  deriving DecidableEq, Repr

/-- What is to be done. -/
inductive Action where
  /-- Compile a search. -/
  | compile (source : Source) (target : Target) (format : Format)
  /-- Show an intermediate result of a search. -/
  | inspect (stage : Stage) (source : Source) (format : Format)
  /-- Submit searches to a host, one a line. -/
  | batch (path : Option String) (target : Target)
  deriving DecidableEq, Repr

/-- How the policy is determined. -/
structure PolicyChoice where
  /-- The file of the policy. -/
  file : Option String := none
  /-- The limits that are set apart from it. -/
  limits : List (Limit × UInt64) := []
  /-- Whether sizes are reported, if that is set apart from it. -/
  measured : Option Bool := none
  deriving DecidableEq, Repr

/-- The chosen policy. -/
def PolicyChoice.resolve (choice : PolicyChoice) (storage : Storage) :
    Except PolicyFileError Policy := do
  let base ← match choice.file with
    | some path => Policy.load storage path
    | none => .ok {}
  let limited := choice.limits.foldr (fun (limit, value) policy => limit.set policy value) base
  return { limited with measured := choice.measured.getD limited.measured }

/-- What a command line asks for. -/
structure Invocation where
  action : Action
  policy : PolicyChoice
  verbose : Bool
  quiet : Bool
  deriving DecidableEq, Repr

/-- The paths of files that may be read. -/
def Invocation.paths (invocation : Invocation) : List String :=
  let named := match invocation.action with
    | .compile source _ _ => [source.argument, source.file]
    | .inspect _ source _ => [source.argument, source.file]
    | .batch path _ => [path]
  (invocation.policy.file :: named).filterMap id

/-- Standard input may be read. -/
def Invocation.readsStdin (invocation : Invocation) : Bool :=
  match invocation.action with
  | .compile source _ _ => source.argument.isNone && source.file.isNone
  | .inspect _ source _ => source.argument.isNone && source.file.isNone
  | .batch path _ => path.isNone

/-- The first assignment that a selection accepts. -/
def select {α : Type} (given : List Assignment) (accept : Assignment → Option α) : Option α :=
  given.findSome? accept

/-- The policy that assignments choose, earlier ones first. -/
def policyChoice (given : List Assignment) : PolicyChoice where
  file := select given fun
    | .config path => some path
    | _ => none
  limits := given.filterMap fun
    | .limit limit value => some (limit, value)
    | _ => none
  measured := select given fun
    | .measured value => some value
    | _ => none

/-- The target that assignments choose. -/
def targetChoice (given : List Assignment) : Target :=
  let binding := select given fun
    | .binding target => some target
    | _ => none
  let table := select given fun
    | .table name => some name
    | _ => none
  let column := select given fun
    | .column name => some name
    | _ => none
  binding.getD ⟨table.getD "Employees", column.getD "JobTitle"⟩

/-- The source that assignments choose. -/
def sourceChoice (given : List Assignment) : Source where
  argument := select given fun
    | .query text => some text
    | _ => none
  file := select given fun
    | .file path => some path
    | _ => none

/-- The format that assignments choose. -/
def formatChoice (given : List Assignment) : Format :=
  (select given fun
    | .format format => some format
    | _ => none).getD .json

/-- The action of a command with the given assignments. -/
def Action.ofCommand (given : List Assignment) : Command → Action
  | .compile => compile (sourceChoice given) (targetChoice given) (formatChoice given)
  | .tokens => inspect .tokens (sourceChoice given) (formatChoice given)
  | .parse => inspect .parse (sourceChoice given) (formatChoice given)
  | .clauses => inspect .clauses (sourceChoice given) (formatChoice given)
  | .batch =>
    let path := select given fun
      | .path path => some path
      | _ => none
    batch path (targetChoice given)

/-- Settles a level, consults the environment, and refuses conflicts. -/
def Level.close (level : Level) (environment : String → Option String) :
    Except Refusal (Level × List Assignment) := do
  let level ← level.settle
  let more ← level.fromEnvironment environment
  if level.hasConflict then throw .conflict
  return (level, more)

/-- The refusal of a command line without a command. -/
def Level.withoutCommand (level : Level) (environment : String → Option String) : Refusal :=
  let closed := do
    let level ← level.settle
    return (level, ← level.fromEnvironment environment)
  match closed with
  | .error refusal => refusal
  | .ok (level, more) =>
    if level.verbose ∨ level.quiet ∨ level.given ≠ [] ∨ more ≠ [] then .missingCommand
    else .nothingGiven

/-- Reads a command line. The words after the command are settled before those that precede it. -/
def Invocation.parse (environment : String → Option String) (words : List String) :
    Except Refusal Invocation := do
  let (leading, command) ← Level.readLeading {} words
  match command with
  | none => throw (leading.withoutCommand environment)
  | some (command, rest) =>
    let (inner, innerMore) ← (← Level.readCommand command rest).close environment
    let (outer, outerMore) ← leading.close environment
    let given := inner.given ++ outer.given ++ innerMore ++ outerMore
    return {
      action := .ofCommand given command
      policy := policyChoice given
      verbose := inner.verbose || outer.verbose
      quiet := inner.quiet || outer.quiet }

end ColumnSearch.CommandLine
