import ColumnSearch.Proofs.CommandLine.Outcome
import ColumnSearch.Proofs.Search.Blank
import ColumnSearch.Proofs.Search.Spacing

/-!
# Blank searches on the command line

Compiling looks whether a search is blank before it looks at the policy, so a blank search compiles
to nothing whatever the policy is. The other commands ask the policy first. The only limit that a
blank search can exceed is the one on characters, so they show nothing for a blank search within
this limit, and fail for any other.
-/

namespace ColumnSearch

namespace Search

variable {policy : Policy} {query : String}

private theorem tokenize_of_isBlankText (blank : Text.isBlankText query = true) :
    tokenize query = [] :=
  Token.lex_of_separators fun c member =>
    Token.isSeparator_of_isBlank (List.all_eq_true.mp blank c member)

/-- A blank search has no tokens, if it is not too long. -/
theorem tokens_of_isBlankText (blank : Text.isBlankText query = true) :
    tokens policy query =
      if query.length ≤ policy.maxQueryLength.toNat then .ok []
      else .error (.rejected (.queryTooLong query.length policy.maxQueryLength.toNat)) := by
  by_cases short : query.length ≤ policy.maxQueryLength.toNat
  · rw [if_pos short, tokens_of_length_le short, tokenize_of_isBlankText blank,
      Policy.checkTokens_eq_ok_iff.mpr (Nat.zero_le _)]
    rfl
  · rw [if_neg short, tokens, Policy.checkLength, if_pos (Nat.lt_of_not_le short),
      Except.mapError_error, Except.error_bind]

end Search

namespace CommandLine

variable {storage : Storage} {stdin : Stdin} {policy : Policy} {query : String}

private theorem not_mem_of_isBlankText (blank : Text.isBlankText query = true) {c : Char}
    (visible : Text.isBlank c = false) : c ∉ query.toList := by
  intro member
  exact Text.ne_of_isBlank (List.all_eq_true.mp blank c member) visible rfl

/-- A blank text has neither separators nor points, so it has no extension. -/
theorem extension?_of_isBlankText (blank : Text.isBlankText query = true) :
    Path.extension? query = none := by
  have alone : Path.components query = [query] := by
    rw [Path.components, List.splitOn_eq_singleton (not_mem_of_isBlankText blank rfl),
      List.map_singleton, String.ofList_toList]
  cases found : Path.fileName? query with
  | none => rw [Path.extension?, found]; rfl
  | some name =>
      have same : name = query := by
        unfold Path.fileName? at found
        split at found
        · cases found
        · have member := List.mem_of_getLast? found
          rw [Path.movingComponents, alone] at member
          exact List.mem_singleton.mp (List.mem_filter.mp member).1
      have pointless : query.toList.reverse.dropWhile (· ≠ '.') = [] := by
        refine List.dropWhile_eq_nil_iff.mpr fun c member => ?_
        rw [decide_eq_true_eq]
        rintro rfl
        exact not_mem_of_isBlankText blank rfl (List.mem_reverse.mp member)
      rw [Path.extension?, found, same]
      simp only [Option.bind_eq_bind, Option.bind_some, pointless]

/-- A blank argument names no file, so it is the search itself. -/
theorem search_of_isBlankText (blank : Text.isBlankText query = true) :
    Input.search storage stdin (some query) none = .ok query := by
  have literal : Input.looksLikeSearchFile query = false := by
    rw [Input.looksLikeSearchFile, extension?_of_isBlankText blank, Option.any_none]
  rw [Input.search, if_neg (by simp [literal])]

private theorem ofString_of_isBlankText (blank : Text.isBlankText query = true) :
    Word.ofString query = .plain := by
  have dashless := not_mem_of_isBlankText blank (c := '-') rfl
  unfold Word.ofString
  split
  · rename_i marks
    rw [marks] at dashless
    exact absurd List.mem_cons_self dashless
  · rename_i marks
    rw [marks] at dashless
    exact absurd List.mem_cons_self dashless
  · rename_i marks
    rw [marks] at dashless
    exact absurd List.mem_cons_self dashless
  · rfl

/-- What a stage shows of a search that asks for nothing. -/
def Stage.blank : Stage → Json
  | tokens => .array []
  | parse => .null
  | clauses => .null

/-- The intermediate result of a blank search is nothing, if the search is not too long. -/
theorem inspectQuery_of_isBlankText (blank : Text.isBlankText query = true) (stage : Stage) :
    inspectQuery policy stage query =
      if query.length ≤ policy.maxQueryLength.toNat then .ok stage.blank
      else .error (.inspect
        (.rejected (.queryTooLong query.length policy.maxQueryLength.toNat))) := by
  have tokens : Search.tokens policy query = _ := Search.tokens_of_isBlankText blank
  by_cases short : query.length ≤ policy.maxQueryLength.toNat
  · rw [if_pos short] at tokens ⊢
    have unparsed : Search.parse policy query = .error (.parse ⟨0, .endOfExpression⟩) := by
      rw [Search.parse, tokens, Except.ok_bind]
      rfl
    cases stage with
    | tokens =>
        rw [inspectQuery, Stage.result, tokens]
        rfl
    | parse =>
        rw [inspectQuery, Stage.result, unparsed]
        exact if_pos blank
    | clauses =>
        rw [inspectQuery, Stage.result, Search.clauses, unparsed]
        exact if_pos blank
  · rw [if_neg short] at tokens ⊢
    have refused : Search.parse policy query = .error (.rejected
        (.queryTooLong query.length policy.maxQueryLength.toNat)) := by
      rw [Search.parse, tokens, Except.error_bind]
    cases stage with
    | tokens =>
        rw [inspectQuery, Stage.result, tokens]
        rfl
    | parse =>
        rw [inspectQuery, Stage.result, refused]
        rfl
    | clauses =>
        rw [inspectQuery, Stage.result, Search.clauses, refused]
        rfl

/-- The text of what a stage shows of a search that asks for nothing. -/
def Stage.blankText : Stage → String
  | tokens => "[]"
  | parse => "null"
  | clauses => "null"

/-- The end of what is printed. Every YAML text ends with a line feed of its own. -/
def printedEnd : Format → String
  | .json => "\n"
  | .yaml => "\n\n"

private theorem render_null (format : Format) :
    format.render .null ++ "\n" = "null" ++ printedEnd format := by
  cases format <;> decide

private theorem render_blank (stage : Stage) (format : Format) :
    format.render stage.blank ++ "\n" = stage.blankText ++ printedEnd format := by
  cases stage <;> cases format <;> decide

private theorem run_compile_of_isBlankText (blank : Text.isBlankText query = true) (target : Target)
    (format : Format) :
    (Action.compile ⟨some query, none⟩ target format).run policy storage stdin =
      .ok ("null" ++ printedEnd format) := by
  rw [Action.run, search_of_isBlankText blank, Except.mapError_ok, Except.ok_bind, compileQuery,
    if_pos blank, Except.ok_bind, render_null]
  rfl

private theorem run_inspect_of_isBlankText (blank : Text.isBlankText query = true) (stage : Stage)
    (format : Format) :
    (Action.inspect stage ⟨some query, none⟩ format).run policy storage stdin =
      if query.length ≤ policy.maxQueryLength.toNat then
        .ok (stage.blankText ++ printedEnd format)
      else .error (.inspect
        (.rejected (.queryTooLong query.length policy.maxQueryLength.toNat))) := by
  rw [Action.run, search_of_isBlankText blank, Except.mapError_ok, Except.ok_bind,
    inspectQuery_of_isBlankText blank]
  by_cases short : query.length ≤ policy.maxQueryLength.toNat
  · rw [if_pos short, if_pos short, Except.ok_bind, render_blank]
    rfl
  · rw [if_neg short, if_neg short, Except.error_bind]

/-- A blank argument is accepted as a search in either format and under any policy. Compiling it
prints null. The intermediate results print an empty list of tokens, and null otherwise, exactly if
the argument is within the limit on characters; beyond it they fail. -/
theorem blank_searches_clear_within_length (query : String)
    (blank : Text.isBlankText query = true) :
    (∀ command format path, command ≠ .batch → Word.ofString path = .plain →
      path.isEmpty = false →
      Invocation.parse (fun _ => none)
          [command.name, query, "--format", format.name, "--config", path] =
        .ok ⟨.ofCommand [.query query, .format format, .config path] command,
          { file := some path }, false, false⟩) ∧
    ∀ environment storage stdin words invocation policy,
      Invocation.parse environment words = .ok invocation →
      invocation.policy.resolve storage = .ok policy →
      (∀ target format, invocation.action = .compile ⟨some query, none⟩ target format →
        outcome environment storage stdin words =
          { exitCode := 0, output := "null" ++ printedEnd format }) ∧
      ∀ stage format, invocation.action = .inspect stage ⟨some query, none⟩ format →
        outcome environment storage stdin words =
          if query.length ≤ policy.maxQueryLength.toNat then
            { exitCode := 0, output := stage.blankText ++ printedEnd format }
          else
            { exitCode := 1
              report := (Failure.inspect (.rejected
                (.queryTooLong query.length policy.maxQueryLength.toNat))).report } := by
  refine ⟨?_, ?_⟩
  · intro command format path single plainPath nonempty
    exact parse_of_plain single (ofString_of_isBlankText blank) plainPath nonempty format
  · intro environment storage stdin words invocation policy parsed resolved
    refine ⟨?_, ?_⟩
    · intro target format asked
      refine outcome_of_run_eq_ok parsed resolved ?_
      rw [asked, run_compile_of_isBlankText blank]
    · intro stage format asked
      have run : (Action.inspect stage ⟨some query, none⟩ format).run policy storage stdin = _ :=
        run_inspect_of_isBlankText blank stage format
      rw [← asked] at run
      by_cases short : query.length ≤ policy.maxQueryLength.toNat
      · rw [if_pos short] at run ⊢
        exact outcome_of_run_eq_ok parsed resolved run
      · rw [if_neg short] at run ⊢
        exact outcome_of_run_eq_error parsed resolved run

/-- Three blanks are too many for the tokens under a limit of two characters, and compile to nothing
under the same limit. -/
theorem blank_searches_clear_within_length_three_blanks :
    let nowhere : Storage := ⟨fun _ => none, fun _ => false⟩
    Text.isBlankText " \t\u3000" = true ∧
    outcome (fun _ => none) nowhere .terminal
        ["compile", " \t\u3000", "--max-query-length", "2", "--format", "yaml"] =
      { exitCode := 0, output := "null\n\n" } ∧
    outcome (fun _ => none) nowhere .terminal ["tokens", " \t\u3000", "--max-query-length", "2"] =
      { exitCode := 1
        report := "Error: query rejected: query is 3 characters long; the limit is 2\n\n" ++
          "Caused by:\n    query is 3 characters long; the limit is 2" } := by
  intro nowhere
  have blank : Text.isBlankText " \t\u3000" = true := by decide
  have compiles : Invocation.parse (fun _ => none)
      ["compile", " \t\u3000", "--max-query-length", "2", "--format", "yaml"] =
      .ok ⟨.compile ⟨some " \t\u3000", none⟩ ⟨"Employees", "JobTitle"⟩ .yaml,
        { limits := [(.queryLength, 2)] }, false, false⟩ := by
    decide +kernel
  have inspects : Invocation.parse (fun _ => none)
      ["tokens", " \t\u3000", "--max-query-length", "2"] =
      .ok ⟨.inspect .tokens ⟨some " \t\u3000", none⟩ .json,
        { limits := [(.queryLength, 2)] }, false, false⟩ := by
    decide +kernel
  have outcomes := (blank_searches_clear_within_length _ blank).2 (fun _ => none) nowhere .terminal
  refine ⟨blank, ?_, ?_⟩
  · exact (outcomes _ _ { maxQueryLength := 2 } compiles rfl).1 _ _ rfl
  · rw [(outcomes _ _ { maxQueryLength := 2 } inspects rfl).2 _ _ rfl]
    decide

end CommandLine

end ColumnSearch
