import ColumnSearch.Proofs.Predicate.Canonical
import ColumnSearch.Proofs.Search.Meaning

/-!
# The text of filters

The compact text of filters tells them apart from all others: the filters of a search, and any that
were read from a text, are read back from it.
-/

namespace ColumnSearch.Search

/-- The filters of a search are canonical. -/
theorem canonical_of_compile {policy : Policy} {target : Target} {query : String}
    {compiled : Compiled} (success : compile policy target query = .ok compiled) :
    compiled.filters.Canonical := by
  obtain ⟨expr, _, _, built⟩ := exists_expr_of_compile success
  exact FilterSet.canonical_of_ofClauses built

/-- Canonical filters are read back from their compact text if the doubles in them are read back
from theirs, and doubles with short numerals are. Filters of clauses, of searches and of texts in
any accepted spelling are canonical. -/
theorem filters_read_back_from_compact :
    (∀ filters : FilterSet, filters.Canonical → filters.RealsReadBack →
      FilterSet.parse? filters.toJson.compact = some filters) ∧
    (∀ x : Binary64, (x.numeral Json.realLayout).decimal.IsShort → x.ReadsBack) ∧
    (∀ target clauses filters,
      FilterSet.ofClauses target clauses = .ok filters → filters.Canonical) ∧
    (∀ policy target query compiled,
      compile policy target query = .ok compiled → compiled.filters.Canonical) ∧
    (∀ text filters, FilterSet.parse? text = some filters →
      filters.Canonical ∧
        (filters.RealsReadBack → FilterSet.parse? filters.toJson.compact = some filters)) := by
  refine ⟨?_, ?_, ?_, ?_, ?_⟩
  · intro filters canonical reals
    exact FilterSet.parse?_compact canonical reals
  · intro x short
    exact Binary64.readsBack_of_isShort short
  · intro target clauses filters success
    exact FilterSet.canonical_of_ofClauses success
  · intro policy target query compiled success
    exact canonical_of_compile success
  · intro text filters read
    have canonical := FilterSet.canonical_of_parse? read
    exact ⟨canonical, FilterSet.parse?_compact canonical⟩

/-- A list of a text, a signed word, the least unsigned word that no signed one holds, and the
double `2.5` is read back. -/
theorem filters_read_back_from_compact_mixed :
    let real : Binary64 := ⟨false, 0x14000000000000, 1023, by decide, by decide, by decide⟩
    let filters : FilterSet := .many [.equality Predicate.basicSchema ⟨"T", "C"⟩ .basic
      [.text "2.5", .number (.signed (-1)), .number (.unsigned 0x8000000000000000),
        .number (.real real)]]
    (real.numeral Json.realLayout).decimal.IsShort ∧
      FilterSet.parse? filters.toJson.compact = some filters := by
  intro real filters
  have short : (real.numeral Json.realLayout).decimal.IsShort := by decide +kernel
  obtain ⟨reads, shortReads, _⟩ := filters_read_back_from_compact
  refine ⟨short, reads filters ?_ ?_⟩
  · intro predicate member value among
    rw [List.mem_singleton.mp member] at among
    rintro number rfl
    simp only [Predicate.values, List.mem_cons, Value.number.injEq, reduceCtorEq, false_or,
      List.not_mem_nil, or_false] at among
    rcases among with rfl | rfl | rfl
    · trivial
    · exact Nat.le_refl 0x8000000000000000
    · trivial
  · intro predicate member x among
    rw [List.mem_singleton.mp member] at among
    simp only [Predicate.values, List.mem_cons, Value.number.injEq, Number.real.injEq,
      reduceCtorEq, false_or, List.not_mem_nil, or_false] at among
    subst among
    exact shortReads real short

end ColumnSearch.Search
