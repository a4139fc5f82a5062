import ColumnSearch.Proofs.Search.Meaning
import ColumnSearch.Proofs.Token.Pieces
import ColumnSearch.Text.Blank

/-!
# Blank searches

A text is blank exactly if nothing is left when it is trimmed. A blank text has no tokens, so it is
no search.
-/

namespace ColumnSearch

namespace Text

private theorem trimEnd_eq_nil_iff {cs : List Char} :
    trimEnd cs = [] ↔ ∀ c ∈ cs, isBlank c = true := by
  rw [trimEnd, List.reverse_eq_nil_iff, List.dropWhile_eq_nil_iff]
  simp only [List.mem_reverse]

private theorem forall_mem_dropWhile_iff {cs : List Char} :
    (∀ c ∈ cs.dropWhile isBlank, isBlank c = true) ↔ ∀ c ∈ cs, isBlank c = true := by
  constructor
  · intro rest c member
    rw [← List.takeWhile_append_dropWhile (p := isBlank) (l := cs)] at member
    rcases List.mem_append.mp member with member | member
    · exact List.mem_takeWhile_imp member
    · exact rest c member
  · intro all c member
    exact all c (List.dropWhile_subset _ member)

/-- Trimming leaves nothing exactly of blank texts. -/
theorem isEmpty_trim (s : String) : (trim s).isEmpty = isBlankText s := by
  rw [Bool.eq_iff_iff, String.isEmpty_iff, trim, isBlankText, List.all_eq_true,
    ← forall_mem_dropWhile_iff, ← trimEnd_eq_nil_iff]
  exact String.ofList_eq_empty_iff

private theorem blankRanges_disjoint : ∀ blank ∈ blankRanges, ∀ range ∈ alphanumericRanges,
    blank.2 < range.1 ∨ range.2 < blank.1 := by
  decide +kernel

private theorem isAlphanumeric_of_isBlank {c : Char} (blank : isBlank c = true) :
    isAlphanumeric c = false := by
  obtain ⟨around, listed, within⟩ := List.any_eq_true.mp blank
  rw [Bool.eq_false_iff]
  intro alphanumeric
  obtain ⟨range, member, inside⟩ := List.any_eq_true.mp alphanumeric
  have apart := blankRanges_disjoint around listed range member
  rw [Bool.and_eq_true, decide_eq_true_eq, decide_eq_true_eq] at within inside
  omega

/-- A blank character differs from every visible one. -/
theorem ne_of_isBlank {c d : Char} (blank : isBlank c = true) (visible : isBlank d = false) :
    c ≠ d := by
  rintro rfl
  rw [blank] at visible
  cases visible

private theorem isIdentifier_of_isBlank {c : Char} (blank : isBlank c = true) :
    isIdentifier c = false := by
  rw [isIdentifier, isAlphanumeric_of_isBlank blank, Bool.false_or, beq_eq_false_iff_ne]
  exact ne_of_isBlank blank rfl

end Text

/-- Blank characters separate tokens. -/
theorem Token.isSeparator_of_isBlank {c : Char} (blank : Text.isBlank c = true) :
    IsSeparator c := by
  refine ⟨not_mem_marks_iff.mpr ⟨?_, not_or.mpr ⟨?_, ?_⟩, not_or.mpr ⟨?_, ?_⟩⟩,
    Text.isIdentifier_of_isBlank blank⟩
  all_goals exact Text.ne_of_isBlank blank rfl

/-- A blank text does not compile. -/
theorem Search.compile_ne_ok_of_isBlankText {policy : Policy} {target : Target} {query : String}
    (blank : Text.isBlankText query = true) (compiled : Compiled) :
    compile policy target query ≠ .ok compiled := by
  intro success
  obtain ⟨expr, parsed, _⟩ := exists_expr_of_compile success
  have separate : ∀ c ∈ query.toList, Token.IsSeparator c := fun c member =>
    Token.isSeparator_of_isBlank (List.all_eq_true.mp blank c member)
  rw [tokenize, Token.lex_of_separators separate] at parsed
  cases parsed

end ColumnSearch
