import ColumnSearch.Proofs.Expr.Typed
import ColumnSearch.Proofs.Predicate.Values
import ColumnSearch.Proofs.Search.Limits
import ColumnSearch.Proofs.Search.Terms

/-!
# The values that searches list

In the equality lists of a search, phrases are texts. Bare literals are numbers, but for those that
are too large for doubles. If the double quotes of the search text come in pairs, the bare literals
are runs of digits, since signs and points never become part of a word.
-/

namespace ColumnSearch

open Numeral

/-- How a condition of a typed text stands in an equality list: a phrase as its text, and a run of
digits as a number that denotes it, if as a number. -/
structure Condition.ListsTyped (condition : Condition) (value : Value) : Prop where
  neutral : condition.polarity = .neutral
  phrase : condition.quoted = true → value = .text condition.value
  run : condition.quoted = false → AreDigits condition.value.toList ∧
    ∀ number, value = .number number →
      number.DenotesRun (Nat.ofDigitChars 10 condition.value.toList 0)

namespace Search

variable {policy : Policy} {target : Target} {query : String} {filters : FilterSet}

private theorem exists_expr_of_filters
    (success : Search.filters policy target query = .ok filters) :
    ∃ expr, Expr.parse (tokenize query) = .ok expr ∧
      FilterSet.ofClauses target expr.clauses = .ok filters := by
  obtain ⟨compiled, compiles, same⟩ := Except.bind_eq_ok_iff.mp success
  obtain rfl := Except.pure_eq_ok_iff.mp same
  obtain ⟨expr, parsed, _, built⟩ := exists_expr_of_compile compiles
  exact ⟨expr, parsed, built⟩

/-- A text within the limits has filters if its expression has few enough clauses. -/
theorem exists_filters_of_parse {expr : Expr} (passed : policy.validate query = .ok ())
    (parsed : Expr.parse (tokenize query) = .ok expr)
    (fits : expr.clauses.length ≤ policy.maxClauseCount.toNat) (target : Target) :
    ∃ filters, Search.filters policy target query = .ok filters := by
  obtain ⟨compiled, compiles, _⟩ :=
    compile_of_clauses_le (parse_eq_ok_iff.mpr ⟨passed, parsed⟩) fits
  exact ⟨compiled.filters, Except.bind_eq_ok_iff.mpr ⟨compiled, compiles, rfl⟩⟩

/-- Phrases are listed as texts and bare literals as the numbers that they denote, except that a
literal whose magnitude is too large for doubles is listed as a text. So exactly the phrases are
listed as texts just if there is no such literal. This holds for the filters of any clauses, and so
for those of any search. -/
theorem listed_texts_are_phrases_or_too_large {clauses : List Clause}
    (source : FilterSet.ofClauses target clauses = .ok filters ∨
      ∃ policy query expr, Search.filters policy target query = .ok filters ∧
        Expr.parse (tokenize query) = .ok expr ∧ expr.clauses = clauses) :
    filters.ListsAs Condition.Lists clauses ∧
    (filters.ListsAs
        (fun condition value => (∃ text, value = .text text) ↔ condition.quoted = true) clauses ↔
      ∀ clause ∈ clauses, clause.NamesValues →
        ∀ condition ∈ clause, condition.quoted = false →
          Number.spelledMagnitude condition.value < 2 ^ 1024 - 2 ^ 970) := by
  have built : FilterSet.ofClauses target clauses = .ok filters := by
    rcases source with built | ⟨policy, query, expr, success, parsed, rfl⟩
    · exact built
    · obtain ⟨other, same, built⟩ := exists_expr_of_filters success
      cases parsed.symm.trans same
      exact built
  rw [FilterSet.listsAs_iff built, FilterSet.listsAs_iff built]
  constructor
  · intro clause _ named condition inside
    exact Condition.lists_exactValue (named.2 condition inside)
  · refine forall₂_congr fun clause _ => forall_congr' fun named => ?_
    refine forall₂_congr fun condition inside => ?_
    have lists := Condition.lists_exactValue (named.2 condition inside)
    rw [lists.exists_text_iff, or_iff_left_iff_imp, ← not_imp_not, Bool.not_eq_true, not_le]

/-- The power `2 ^ 1024` has 309 digits, and in a search for these it is listed as a text. -/
theorem listed_texts_are_phrases_or_too_large_power_of_two :
    ∃ digits filters expr, digits.toList = Nat.toDigits 10 (2 ^ 1024) ∧
      Search.filters {} ⟨"Tickets", "Priority"⟩ (digits ++ " OR " ++ "1") = .ok filters ∧
      Expr.parse (tokenize (digits ++ " OR " ++ "1")) = .ok expr ∧
      expr.clauses = [[.word digits, .word "1"]] ∧
      filters.ListsAs Condition.Lists expr.clauses ∧
      ¬filters.ListsAs
        (fun condition value => (∃ text, value = .text text) ↔ condition.quoted = true)
        expr.clauses := by
  obtain ⟨digits, same⟩ : ∃ digits : String, digits.toList = Nat.toDigits 10 (2 ^ 1024) :=
    ⟨_, String.toList_ofList⟩
  have run : AreDigits digits.toList := by
    rw [same]
    exact areDigits_toDigits _
  have size : digits.toList.length ≤ 309 := by
    rw [same, Nat.length_toDigits_le_iff (by decide) (by decide)]
    decide +kernel
  have large : 2 ^ 1024 ≤ Nat.ofDigitChars 10 digits.toList 0 + 2 ^ 970 := by
    rw [same, Nat.ofDigitChars_ten_toDigits]
    exact Nat.le_add_right _ _
  have one : AreDigits "1".toList := areDigits_toDigits 1
  have parsed := Expr.parse_alternatives run one
  have passed : Policy.validate {} (digits ++ " OR " ++ "1") = .ok () := by
    refine Except.bind_eq_ok_iff.mpr ⟨(), Policy.checkLength_eq_ok_iff.mpr ?_, ?_⟩
    · rw [String.length_append, String.length_append, ← String.length_toList]
      exact Nat.le_trans (Nat.add_le_add_right (Nat.add_le_add_right size _) _) (by decide)
    · dsimp only
      rw [parsed, tokenize_alternatives run one]
      rfl
  obtain ⟨filters, success⟩ :=
    exists_filters_of_parse passed parsed (Nat.le_of_ble_eq_true rfl) ⟨"Tickets", "Priority"⟩
  obtain ⟨listed, texts⟩ :=
    listed_texts_are_phrases_or_too_large (.inr ⟨{}, _, _, success, parsed, rfl⟩)
  refine ⟨digits, filters, _, same, success, parsed, rfl, listed, fun only => ?_⟩
  have named : Clause.NamesValues [.word digits, .word "1"] :=
    ⟨Nat.le_refl 2, List.forall_mem_cons.mpr ⟨Number.isLiteral_of_areDigits run,
      List.forall_mem_singleton.mpr (Number.isLiteral_of_areDigits one)⟩⟩
  have within :=
    texts.mp only [.word digits, .word "1"] List.mem_cons_self named (.word digits)
      List.mem_cons_self rfl
  have beyond := Number.le_spelledMagnitude_of_areDigits run large
  exact not_lt.mpr beyond within

/-- If the double quotes of a search text come in pairs, its phrases have none in them and are never
required, and its words are identifiers. So the literals in equality lists are runs of digits, and
the numbers there are the words that hold the values of such runs, or doubles for runs that no word
holds. -/
theorem listed_numbers_are_runs_of_digits {expr : Expr}
    (paired : Even (query.toList.count '"')) (parsed : Expr.parse (tokenize query) = .ok expr) :
    (∀ condition ∈ expr.conditions, condition.Typed) ∧
    ∀ policy target filters, Search.filters policy target query = .ok filters →
      filters.ListsAs Condition.ListsTyped expr.clauses := by
  have typed := Expr.typed_of_parse paired parsed
  refine ⟨typed, fun policy target filters success => ?_⟩
  obtain ⟨other, same, built⟩ := exists_expr_of_filters success
  cases parsed.symm.trans same
  rw [FilterSet.listsAs_iff built]
  intro clause member named condition inside
  have exact := named.2 condition inside
  have present := (Expr.sublist_conditions_of_mem_clauses member).subset inside
  refine ⟨Condition.polarity_of_isExact exact, fun quoted => ?_, fun bare => ?_⟩
  · rw [Condition.exactValue, if_pos quoted]
  · have letters := ((typed condition present).bare bare).2
    have digits :=
      Number.areDigits_of_isLiteral letters (Condition.isLiteral_of_isExact exact bare)
    refine ⟨digits, fun number listed => ?_⟩
    have lists := Condition.lists_exactValue exact
    rw [listed] at lists
    cases lists with
    | number _ _ found => exact Number.denotesRun_of_parse? digits found

/-- A sign inside a phrase stays part of its text, and the value of a run that no signed word holds
is held by an unsigned one. -/
theorem listed_numbers_are_runs_of_digits_beyond_signed :
    let query := "(\"-5\" OR 9223372036854775808) +7"
    Even (query.toList.count '"') ∧ ∃ expr filters,
      Expr.parse (tokenize query) = .ok expr ∧
      Search.filters {} ⟨"Tickets", "Priority"⟩ query = .ok filters ∧
      (∀ condition ∈ expr.conditions, condition.Typed) ∧
      filters.ListsAs Condition.ListsTyped expr.clauses ∧
      filters.toList.flatMap Predicate.values =
        [.text "-5", .number (.unsigned 9223372036854775808)] := by
  intro query
  obtain ⟨paired, success⟩ : Even (query.toList.count '"') ∧
      Search.filters {} ⟨"Tickets", "Priority"⟩ query =
        .ok (.many [.ofTests ⟨"Tickets", "Priority"⟩ .and [⟨.contains, "7"⟩],
          .ofValues ⟨"Tickets", "Priority"⟩
            [.text "-5", .number (.unsigned 9223372036854775808)]]) := by
    decide +kernel
  obtain ⟨expr, parsed, _⟩ := exists_expr_of_filters success
  obtain ⟨typed, listed⟩ := listed_numbers_are_runs_of_digits paired parsed
  exact ⟨paired, expr, _, parsed, success, typed, listed _ _ _ success, rfl⟩

end Search

end ColumnSearch
