import ColumnSearch.Proofs.Batch
import ColumnSearch.Proofs.Search.Spacing

/-!
# The text that a record shows

A host compiles a line as it stands, and its record shows the line without the blanks around it.
These blanks are separators, so the text that is shown compiles to the same filters, unless the line
ends inside double quotes.
-/

namespace ColumnSearch

namespace Text

variable {s : String}

private theorem exists_blanks_behind_trimEnd (cs : List Char) :
    ∃ behind, cs = trimEnd cs ++ behind ∧ ∀ c ∈ behind, isBlank c = true := by
  refine ⟨(cs.reverse.takeWhile isBlank).reverse, ?_, fun c member => ?_⟩
  · rw [trimEnd, ← List.reverse_append, List.takeWhile_append_dropWhile, List.reverse_reverse]
  · exact List.mem_takeWhile_imp (List.mem_reverse.mp member)

/-- A text is what trimming leaves of it, with blanks around. -/
theorem exists_blanks_around_trim (s : String) :
    ∃ before behind, s.toList = before ++ ((trim s).toList ++ behind) ∧
      (∀ c ∈ before, isBlank c = true) ∧ ∀ c ∈ behind, isBlank c = true := by
  obtain ⟨behind, split, blank⟩ := exists_blanks_behind_trimEnd (s.toList.dropWhile isBlank)
  refine ⟨s.toList.takeWhile isBlank, behind, ?_, fun _ => List.mem_takeWhile_imp, blank⟩
  rw [trim, String.toList_ofList, ← split, List.takeWhile_append_dropWhile]

private theorem count_quote_of_blank {cs : List Char} (blank : ∀ c ∈ cs, isBlank c = true) :
    cs.count '"' = 0 :=
  List.count_eq_zero.mpr fun member => ne_of_isBlank (blank '"' member) rfl rfl

private theorem count_quote_trim (s : String) : (trim s).toList.count '"' = s.toList.count '"' := by
  obtain ⟨before, behind, split, blank, trailing⟩ := exists_blanks_around_trim s
  rw [split, List.count_append, List.count_append, count_quote_of_blank blank,
    count_quote_of_blank trailing, Nat.zero_add, Nat.add_zero]

private theorem length_trim_le (s : String) : (trim s).length ≤ s.length := by
  obtain ⟨before, behind, split, _, _⟩ := exists_blanks_around_trim s
  rw [← String.length_toList, ← String.length_toList, split, List.length_append,
    List.length_append]
  omega

/-- The blanks around a text are no part of its tokens, if its double quotes come in pairs. -/
theorem tokenize_trim (paired : Even (s.toList.count '"')) : tokenize (trim s) = tokenize s := by
  obtain ⟨before, behind, split, blank, trailing⟩ := exists_blanks_around_trim s
  rw [← count_quote_trim] at paired
  rw [tokenize, tokenize, split,
    Token.lex_separators_append fun c member => Token.isSeparator_of_isBlank (blank c member),
    Token.lex_append_separators paired fun c member =>
      Token.isSeparator_of_isBlank (trailing c member)]

-- Behind a double quote that nothing closes, a blank is part of a word.
example : tokenize (trim "\"a ") ≠ tokenize "\"a " := by decide +kernel

end Text

private theorem Search.compile_trim {policy : Policy} {target : Target} {query : String}
    {compiled : Compiled} (paired : Even (query.toList.count '"'))
    (success : compile policy target query = .ok compiled) :
    compile policy target (Text.trim query) =
      .ok (compiled.withLength (Text.trim query).length) := by
  have passed := validate_eq_ok_iff_compile.mpr (.inl ⟨compiled, success⟩)
  have short := (Policy.length_le_of_validate passed).1
  have fits := Nat.le_trans (Text.length_trim_le query) short
  rw [compile_of_tokenize_eq (Text.tokenize_trim paired).symm short fits, success]
  rfl

namespace Host

variable {host : Host} {line fingerprint : String}

private theorem query_submit (host : Host) (line : String) :
    (host.submit line).2.query = Text.trim line := by
  have step := submits_submit host line
  generalize host.submit line = outcome at step ⊢
  cases step <;> rfl

/-- A record with a fingerprint is that of a line that compiles, and if it shows filters, they are
those of the line. -/
theorem exists_compiled_of_fingerprint?
    (shown : (host.submit line).2.submission.fingerprint? = some fingerprint) :
    ∃ compiled, Search.compile host.policy host.target line = .ok compiled ∧
      compiled.filters.fingerprint = fingerprint ∧
      ∀ filters ∈ (host.submit line).2.submission.filters?, compiled.filters = filters := by
  have step := submits_submit host line
  generalize host.submit line = outcome at step shown ⊢
  cases step with
  | cleared _ => cases shown
  | failed _ => cases shown
  | unchanged success _ => exact ⟨_, success, Option.some.inj shown, nofun⟩
  | applied success _ =>
      exact ⟨_, success, Option.some.inj shown, fun filters => Option.some.inj⟩

/-- Whatever the host applies, the text that it shows for an applied or unchanged search is the line
without the blanks around it, and compiles to the filters of the line if the double quotes of the
line come in pairs. -/
theorem echoed_query_reproduces_filters (host : Host) (line : String)
    (paired : Even (line.toList.count '"')) (fingerprint : String)
    (kept : (∃ filters metrics,
        (host.submit line).2.submission = .applied fingerprint filters metrics) ∨
      ∃ metrics, (host.submit line).2.submission = .unchanged fingerprint metrics) :
    (host.submit line).2.query = Text.trim line ∧
    ∃ compiled,
      Search.compile host.policy host.target (host.submit line).2.query = .ok compiled ∧
      compiled.filters.fingerprint = fingerprint ∧
      ∀ filters ∈ (host.submit line).2.submission.filters?, compiled.filters = filters := by
  have shown : (host.submit line).2.submission.fingerprint? = some fingerprint := by
    rcases kept with ⟨filters, metrics, applied⟩ | ⟨metrics, unchanged⟩
    · rw [applied]
      rfl
    · rw [unchanged]
      rfl
  obtain ⟨compiled, success, same, filters⟩ := exists_compiled_of_fingerprint? shown
  have again := Search.compile_trim paired success
  rw [← query_submit host line] at again
  exact ⟨query_submit host line, _, again, same, filters⟩

/-- The blanks around a phrase are not shown, and the phrase alone has the filters that the host
applies already. -/
theorem echoed_query_reproduces_filters_phrase :
    let fingerprint := (wordFilters "a b").fingerprint
    let host : Host := ⟨{}, ⟨"Tickets", "Status"⟩, some fingerprint⟩
    let line := "\t\"a b\"\u00a0 "
    Even (line.toList.count '"') ∧
    (host.submit line).2 = ⟨"\"a b\"", .unchanged fingerprint none⟩ ∧
    ∃ compiled, Search.compile {} ⟨"Tickets", "Status"⟩ "\"a b\"" = .ok compiled ∧
      compiled.filters.fingerprint = fingerprint := by
  intro fingerprint host line
  have facts : Search.compile host.policy host.target line = .ok ⟨wordFilters "a b", none⟩ ∧
      Text.trim line = "\"a b\"" := by
    decide +kernel
  obtain ⟨success, trimmed⟩ := facts
  have paired : Even (line.toList.count '"') := by decide
  have record : (host.submit line).2 = ⟨"\"a b\"", .unchanged fingerprint none⟩ := by
    rw [submit_of_ok success, if_pos rfl, trimmed]
  obtain ⟨_, compiled, again, same, _⟩ := echoed_query_reproduces_filters host line paired
    fingerprint (.inr ⟨none, by rw [record]⟩)
  rw [record] at again
  exact ⟨paired, record, compiled, again, same⟩

end Host

end ColumnSearch
