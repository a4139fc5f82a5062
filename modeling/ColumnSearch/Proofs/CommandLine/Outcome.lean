import ColumnSearch.CommandLine.Outcome
import ColumnSearch.Proofs.Except

/-!
# What command lines lead to

The outcome of a command line is that of the action it asks for under the policy it asks for. A word
that looks like neither an option nor a mark is taken for the search by the commands that take one.
-/

namespace ColumnSearch.CommandLine

section Outcome

variable {environment : String → Option String} {storage : Storage} {stdin : Stdin}
  {words : List String} {invocation : Invocation} {policy : Policy}

/-- A run that succeeds prints its output and exits with 0. -/
theorem outcome_of_run_eq_ok {output : String}
    (parsed : Invocation.parse environment words = .ok invocation)
    (resolved : invocation.policy.resolve storage = .ok policy)
    (success : invocation.action.run policy storage stdin = .ok output) :
    outcome environment storage stdin words = { exitCode := 0, output } := by
  rw [outcome, parsed]
  simp only [Invocation.run, resolved, Except.mapError_ok, Except.ok_bind, success]

/-- A run that fails prints nothing but its report and exits with 1. -/
theorem outcome_of_run_eq_error {failure : Failure}
    (parsed : Invocation.parse environment words = .ok invocation)
    (resolved : invocation.policy.resolve storage = .ok policy)
    (failed : invocation.action.run policy storage stdin = .error failure) :
    outcome environment storage stdin words = { exitCode := 1, report := failure.report } := by
  rw [outcome, parsed]
  simp only [Invocation.run, resolved, Except.mapError_ok, Except.ok_bind, failed]

end Outcome

section Accepted

variable {command : Command} {query path : String}

private theorem readCommand_of_plain (single : command ≠ .batch)
    (plain : Word.ofString query = .plain) (plainPath : Word.ofString path = .plain)
    (format : Format) :
    Level.readCommand command [query, "--format", format.name, "--config", path] =
      .ok { given := [.query query, .format format], pending := some (.config, some path) } := by
  have first : Level.readWord (some command) {} query =
      .ok { pending := some (Setting.freeWord command, some query) } := by
    simp only [Level.readWord, plain]
    rfl
  have options : ["--format", format.name, "--config"].foldlM (Level.readWord (some command))
        { pending := some (Setting.freeWord command, some query) } =
      .ok { given := [.query query, .format format], pending := some (.config, none) } := by
    cases command with
    | batch => exact absurd rfl single
    | compile => cases format <;> rfl
    | tokens => cases format <;> rfl
    | parse => cases format <;> rfl
    | clauses => cases format <;> rfl
  have last : Level.readWord (some command)
        { given := [.query query, .format format], pending := some (.config, none) } path =
      .ok { given := [.query query, .format format], pending := some (.config, some path) } := by
    simp only [Level.readWord, plainPath]
    rfl
  have split : [query, "--format", format.name, "--config", path] =
      query :: (["--format", format.name, "--config"] ++ [path]) := rfl
  rw [Level.readCommand, split, List.foldlM_cons, first, Except.ok_bind, List.foldlM_append,
    options, Except.ok_bind, List.foldlM_cons, last]
  rfl

/-- A word that looks like nothing else is taken for the search by the commands that take one. -/
theorem parse_of_plain (single : command ≠ .batch) (plain : Word.ofString query = .plain)
    (plainPath : Word.ofString path = .plain) (nonempty : path.isEmpty = false) (format : Format) :
    Invocation.parse (fun _ => none)
        [command.name, query, "--format", format.name, "--config", path] =
      .ok ⟨.ofCommand [.query query, .format format, .config path] command,
        { file := some path }, false, false⟩ := by
  have leading : Level.readLeading {}
      [command.name, query, "--format", format.name, "--config", path] =
      .ok ({}, some (command, [query, "--format", format.name, "--config", path])) := by
    cases command <;> cases format <;> rfl
  have assigned : Setting.config.assign path = .ok (.config path) := by
    rw [Setting.assign, path?, nonempty]
    rfl
  have settled : Level.settle
        { given := [.query query, .format format], pending := some (.config, some path) } =
      .ok { given := [.query query, .format format, .config path] } := by
    change Except.map _ (Setting.config.assign path) = _
    rw [assigned]
    rfl
  rw [Invocation.parse, leading, Except.ok_bind]
  dsimp only
  rw [readCommand_of_plain single plain plainPath, Except.ok_bind, Level.close, settled]
  rfl

end Accepted

end ColumnSearch.CommandLine
