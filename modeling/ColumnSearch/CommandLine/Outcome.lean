import ColumnSearch.Batch
import ColumnSearch.CommandLine.Invocation
import ColumnSearch.Input
import ColumnSearch.Stage
import ColumnSearch.Text.Lines

/-!
# Outcomes of command lines

A carried out command prints its result. A failure is reported as its message followed by what
caused it. A blank search is no failure: there is nothing to filter by.
-/

namespace ColumnSearch.CommandLine

/-- Why a command fails. -/
inductive Failure where
  | policyFile (error : PolicyFileError)
  | input (error : InputError)
  | inspect (error : SearchError)
  | compile (target : Target) (error : SearchError)
  deriving DecidableEq, Repr

/-- The messages of an error of a search, the outermost first. -/
def searchMessages (error : SearchError) : List String :=
  match error with
  | .rejected rejection => [error.message, rejection.message]
  | _ => [error.message]

/-- The messages of a failure, the outermost first. -/
def Failure.messages : Failure → List String
  | policyFile error => [error.message]
  | input error => [error.message]
  | inspect error => searchMessages error
  | compile target error => ("cannot compile query for " ++ target.render) :: searchMessages error

/-- The lines on the causes of a failure, numbered if there are several. -/
def causeLines : List String → List String
  | [] => []
  | [cause] => ["", "Caused by:", "    " ++ cause]
  | causes => "" :: "Caused by:" ::
      causes.zipIdx.map fun (cause, index) =>
        "    " ++ String.ofList (Nat.toDigits 10 index) ++ ": " ++ cause

/-- The report of a failure. -/
def Failure.report (failure : Failure) : String :=
  let message := failure.messages.headD ""
  "\n".intercalate (("Error: " ++ message) :: causeLines (failure.messages.drop 1))

/-- The compiled search as it is shown. -/
def shown (compiled : Compiled) : Json :=
  if compiled.metrics.isSome then compiled.toJson else compiled.filters.toJson

/-- Compiles a search. -/
def compileQuery (policy : Policy) (target : Target) (query : String) : Except Failure Json :=
  if Text.isBlankText query then .ok .null
  else (shown <$> Search.compile policy target query).mapError (.compile target)

/-- The intermediate result of a search. -/
def Stage.result (policy : Policy) (query : String) : Stage → Except SearchError Json
  | tokens => Token.listToJson <$> Search.tokens policy query
  | parse => Expr.toJson <$> Search.parse policy query
  | clauses => Clause.listToJson <$> Search.clauses policy query

/-- Inspects a search. Fields are shown in the order of their names. -/
def inspectQuery (policy : Policy) (stage : Stage) (query : String) : Except Failure Json :=
  match stage.result policy query with
  | .ok json => .ok json.sorted
  | .error (.parse error) =>
    if Text.isBlankText query then .ok .null else .error (.inspect (.parse error))
  | .error error => .error (.inspect error)

/-- The printed records of a batch, one a line. -/
def batchText (policy : Policy) (target : Target) (text : String) : String :=
  let host : Host := { policy, target }
  String.join ((host.submitAll (Text.lines text)).map fun (record, _) =>
    record.toJson.compact ++ "\n")

/-- The printed result of an action. -/
def Action.run (policy : Policy) (storage : Storage) (stdin : Stdin) :
    Action → Except Failure String
  | compile source target format => do
    let query ← (Input.search storage stdin source.argument source.file).mapError .input
    return format.render (← compileQuery policy target query) ++ "\n"
  | inspect stage source format => do
    let query ← (Input.search storage stdin source.argument source.file).mapError .input
    return format.render (← inspectQuery policy stage query) ++ "\n"
  | batch path target => do
    return batchText policy target (← (Input.batch storage stdin path).mapError .input)

/-- Carries out an invocation. The policy is determined before any input is read. -/
def Invocation.run (invocation : Invocation) (storage : Storage) (stdin : Stdin) :
    Except Failure String := do
  let policy ← (invocation.policy.resolve storage).mapError .policyFile
  invocation.action.run policy storage stdin

/-- What a command line leads to. -/
structure Outcome where
  exitCode : UInt8
  output : String := ""
  report : String := ""
  deriving DecidableEq, Repr

/-- The version that is shown on request. -/
def versionText : String :=
  "sift 0.4.0"

/-- The outcome of a command line that is not carried out. -/
def Refusal.outcome : Refusal → Outcome
  | versionRequested => { exitCode := 0, output := versionText ++ "\n" }
  | helpRequested => { exitCode := 0 }
  | _ => { exitCode := 2 }

/-- The outcome of a command line. -/
def outcome (environment : String → Option String) (storage : Storage) (stdin : Stdin)
    (words : List String) : Outcome :=
  match Invocation.parse environment words with
  | .error refusal => refusal.outcome
  | .ok invocation =>
    match invocation.run storage stdin with
    | .ok output => { exitCode := 0, output }
    | .error failure => { exitCode := 1, report := failure.report }

end ColumnSearch.CommandLine
