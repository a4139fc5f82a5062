import ColumnSearch.Target
import Mathlib.Data.List.TakeWhile

/-!
# Bindings and the targets they name

A bracketed binding is divided at its first opening bracket, whatever else it contains, and every
other binding at its last two dots. So a target is read back from its own binding exactly if that
binding has one line and its first opening bracket stands right behind the table.
-/

namespace ColumnSearch

namespace Target

/-- The binding has one line, contains an opening bracket and ends with a closing one, which
therefore stands behind the first opening bracket. -/
def Bracketed (binding : String) : Prop :=
  '\n' ∉ binding.toList ∧ '[' ∈ binding.toList ∧ binding.toList.getLast? = some ']'

/-- The binding is a path with dots between its segments, and these are the last two of them. -/
def LastSegments (binding table column : String) : Prop :=
  '.' ∉ table.toList ∧ '.' ∉ column.toList ∧
    (binding = table ++ "." ++ column ∨ ∃ front, binding = front ++ "." ++ table ++ "." ++ column)

instance : DecidablePred Bracketed :=
  fun _ => inferInstanceAs (Decidable (_ ∧ _))

variable {binding : String} {cs table column : List Char}

private theorem toList_render (target : Target) :
    target.render.toList = target.table.toList ++ '[' :: (target.column.toList ++ [']']) := by
  simp [render]

private theorem eq_render_of_toList_eq
    (split : binding.toList = table ++ '[' :: (column ++ [']'])) :
    binding = render ⟨String.ofList table, String.ofList column⟩ := by
  rw [← String.toList_inj, toList_render, split, String.toList_ofList, String.toList_ofList]

private theorem splitBrackets?_eq_some_iff :
    splitBrackets? cs = some (table, column) ↔
      '\n' ∉ cs ∧ '[' ∉ table ∧ cs = table ++ '[' :: (column ++ [']']) := by
  constructor
  · intro divided
    unfold splitBrackets? at divided
    split at divided
    · cases divided
    rename_i oneLine
    split at divided
    · cases divided
    rename_i mark inner opened
    split at divided
    · rename_i closed
      obtain ⟨column, rfl⟩ := List.getLast?_eq_some_iff.mp closed
      rw [List.dropLast_concat] at divided
      cases divided
      have whole := List.takeWhile_append_dropWhile (p := (· ≠ '[')) (l := cs)
      have stopped := List.head?_dropWhile_not (· ≠ '[') cs
      rw [opened] at whole stopped
      obtain rfl : mark = '[' := by simpa using stopped
      refine ⟨oneLine, fun member => ?_, whole.symm⟩
      simpa using List.mem_takeWhile_imp member
    · cases divided
  · rintro ⟨oneLine, plain, rfl⟩
    have before : ∀ c ∈ table, decide (c ≠ '[') = true := fun c member =>
      decide_eq_true (ne_of_mem_of_not_mem member plain)
    rw [splitBrackets?, if_neg oneLine, List.dropWhile_append_of_pos before,
      List.dropWhile_cons_of_neg (by simp), List.takeWhile_append_of_pos before,
      List.takeWhile_cons_of_neg (by simp), List.append_nil]
    simp

/-- Bracketed bindings are those that can be divided at a first opening bracket and a closing
bracket at the end. -/
theorem bracketed_iff_exists_render :
    Bracketed binding ↔ '\n' ∉ binding.toList ∧
      ∃ target : Target, '[' ∉ target.table.toList ∧ binding = target.render := by
  refine and_congr_right fun _ => ⟨fun ⟨opened, closed⟩ => ?_, fun ⟨target, _, same⟩ => ?_⟩
  · obtain ⟨table, inner, split, plain⟩ := List.eq_append_cons_of_mem opened
    rw [split, List.getLast?_append, List.getLast?_cons, Option.some_or, Option.some.injEq]
      at closed
    cases last : inner.getLast? with
    | none => simp [last] at closed
    | some mark =>
        obtain ⟨column, rfl⟩ := List.getLast?_eq_some_iff.mp last
        obtain rfl : mark = ']' := by simpa using closed
        exact ⟨_, by simpa using plain, eq_render_of_toList_eq split⟩
  · rw [same, toList_render]
    simp [List.getLast?_cons]

private theorem ofBinding?_render {target : Target} (oneLine : '\n' ∉ target.render.toList)
    (plain : '[' ∉ target.table.toList) : ofBinding? target.render = some target := by
  have divided := splitBrackets?_eq_some_iff.mpr ⟨oneLine, plain, toList_render target⟩
  simp [ofBinding?, divided]

private theorem ofBinding?_of_not_bracketed (other : ¬Bracketed binding) :
    ofBinding? binding = (lastTwo? (binding.toList.splitOn '.')).map fun (table, column) =>
      ⟨String.ofList table, String.ofList column⟩ := by
  have undivided : splitBrackets? binding.toList = none := by
    rw [Option.eq_none_iff_forall_ne_some]
    rintro ⟨table, column⟩ divided
    obtain ⟨oneLine, plain, split⟩ := splitBrackets?_eq_some_iff.mp divided
    apply other
    rw [bracketed_iff_exists_render]
    exact ⟨oneLine, _, by simpa using plain, eq_render_of_toList_eq split⟩
  simp [ofBinding?, undivided]

private theorem lastTwo?_append {α : Type} (front : List α) (first second : α) :
    lastTwo? (front ++ [first, second]) = some (first, second) := by
  induction front with
  | nil => rfl
  | cons item front ih =>
      rw [List.cons_append, lastTwo?, ih]
      · simp
      · intro only single
        have lengths := congrArg List.length single
        simp at lengths

private theorem exists_last_dot (dotted : '.' ∈ cs) :
    ∃ front segment, cs = front ++ '.' :: segment ∧ '.' ∉ segment := by
  obtain ⟨segment, front, split, plain⟩ :=
    List.eq_append_cons_of_mem (List.mem_reverse.mpr dotted)
  refine ⟨front.reverse, segment.reverse, ?_, by simpa using plain⟩
  rw [← List.reverse_reverse cs, split]
  simp

/-- Every binding with a dot has two last segments. -/
theorem exists_lastSegments (dotted : '.' ∈ binding.toList) :
    ∃ table column, LastSegments binding table column := by
  obtain ⟨left, column, split, plain⟩ := exists_last_dot dotted
  by_cases more : '.' ∈ left
  · obtain ⟨front, table, resplit, segment⟩ := exists_last_dot more
    refine ⟨.ofList table, .ofList column, by simpa using segment, by simpa using plain,
      .inr ⟨.ofList front, ?_⟩⟩
    rw [← String.toList_inj, split, resplit]
    simp
  · refine ⟨.ofList left, .ofList column, by simpa using more, by simpa using plain, .inl ?_⟩
    rw [← String.toList_inj, split]
    simp

private theorem ofBinding?_of_lastSegments {table column : String} (other : ¬Bracketed binding)
    (segments : LastSegments binding table column) :
    ofBinding? binding = some ⟨table, column⟩ := by
  obtain ⟨first, second, path⟩ := segments
  have tail : (table.toList ++ '.' :: column.toList).splitOn '.' =
      [table.toList, column.toList] := by
    rw [List.splitOn_append_cons_self, List.splitOn_eq_singleton first,
      List.splitOn_eq_singleton second, List.singleton_append]
  have parts : ∃ front, binding.toList.splitOn '.' = front ++ [table.toList, column.toList] := by
    rcases path with rfl | ⟨front, rfl⟩
    · refine ⟨[], ?_⟩
      rw [List.nil_append, ← tail]
      simp
    · refine ⟨front.toList.splitOn '.', ?_⟩
      rw [← tail, ← List.splitOn_append_cons_self]
      simp
  obtain ⟨front, split⟩ := parts
  rw [ofBinding?_of_not_bracketed other, split, lastTwo?_append]
  simp

private theorem ofBinding?_of_not_dotted (other : ¬Bracketed binding)
    (plain : '.' ∉ binding.toList) :
    ofBinding? binding = none := by
  rw [ofBinding?_of_not_bracketed other, List.splitOn_eq_singleton plain]
  rfl

private theorem ofBinding?_eq_some_iff_lastSegments (other : ¬Bracketed binding)
    {table column : String} :
    ofBinding? binding = some ⟨table, column⟩ ↔ LastSegments binding table column := by
  refine ⟨fun named => ?_, ofBinding?_of_lastSegments other⟩
  by_cases dotted : '.' ∈ binding.toList
  · obtain ⟨_, _, segments⟩ := exists_lastSegments dotted
    cases (ofBinding?_of_lastSegments other segments).symm.trans named
    exact segments
  · cases (ofBinding?_of_not_dotted other dotted).symm.trans named

private theorem ofBinding?_eq_none_iff (other : ¬Bracketed binding) :
    ofBinding? binding = none ↔ '.' ∉ binding.toList := by
  refine ⟨fun unnamed dotted => ?_, ofBinding?_of_not_dotted other⟩
  obtain ⟨_, _, segments⟩ := exists_lastSegments dotted
  cases (ofBinding?_of_lastSegments other segments).symm.trans unnamed

/-- The dots in a rendered target never divide it into its table and column: one character would be
left before them, which is the first of the table or the bracket, and would have to be a dot. -/
theorem not_lastSegments_render (target : Target) :
    ¬LastSegments target.render target.table target.column := by
  rintro ⟨plain, _, short | ⟨front, long⟩⟩
  · have same := congrArg String.toList short
    rw [toList_render] at same
    simp at same
  · have same := congrArg String.toList long
    have path : (front ++ "." ++ target.table ++ "." ++ target.column).toList =
        front.toList ++ '.' :: (target.table.toList ++ '.' :: target.column.toList) := by
      simp
    rw [toList_render, path] at same
    have empty : front.toList = [] := by
      have lengths := congrArg List.length same
      simp only [List.length_append, List.length_cons, List.length_nil] at lengths
      rw [← List.length_eq_zero_iff]
      omega
    rw [empty, List.nil_append] at same
    cases first : target.table.toList with
    | nil => simp [first] at same
    | cons c cs =>
        rw [first] at same plain
        obtain ⟨rfl, _⟩ := List.cons.inj same
        exact plain List.mem_cons_self

private theorem ofBinding?_render_eq_some_iff (target : Target) :
    ofBinding? target.render = some target ↔
      '[' ∉ target.table.toList ∧ '\n' ∉ target.render.toList := by
  refine ⟨fun named => ?_, fun ⟨plain, oneLine⟩ => ofBinding?_render oneLine plain⟩
  by_cases bracketed : Bracketed target.render
  · obtain ⟨oneLine, other, plain, same⟩ := bracketed_iff_exists_render.mp bracketed
    have again := ofBinding?_render (same ▸ oneLine) plain
    rw [← same, named] at again
    cases again
    exact ⟨plain, oneLine⟩
  · exact absurd ((ofBinding?_eq_some_iff_lastSegments bracketed).mp named)
      (not_lastSegments_render target)

private theorem newline_not_mem_render_iff (target : Target) :
    '\n' ∉ target.render.toList ↔
      '\n' ∉ target.table.toList ∧ '\n' ∉ target.column.toList := by
  rw [toList_render]
  simp

/-- A target is read back from its own binding exactly if its table contains neither an opening
bracket nor a line feed and its column contains no line feed. A bracketed binding names what stands
before its first opening bracket and what stands between that and the closing bracket at its end.
It is the binding of this target, so it is read back as well. Any other binding names its last two
segments, and nothing if it has no dot. -/
theorem bindings_read_back :
    (∀ target : Target, ofBinding? target.render = some target ↔
      ('[' ∉ target.table.toList ∧ '\n' ∉ target.table.toList) ∧ '\n' ∉ target.column.toList) ∧
    (∀ binding, Bracketed binding → ∃ table column : String,
      '[' ∉ table.toList ∧ binding = table ++ "[" ++ column ++ "]" ∧
      ofBinding? binding = some ⟨table, column⟩ ∧
      ofBinding? (render ⟨table, column⟩) = some ⟨table, column⟩) ∧
    ∀ binding, ¬Bracketed binding →
      (∀ table column, ofBinding? binding = some ⟨table, column⟩ ↔
        LastSegments binding table column) ∧
      (ofBinding? binding = none ↔ '.' ∉ binding.toList) := by
  refine ⟨fun target => ?_, fun binding bracketed => ?_, fun binding other => ?_⟩
  · rw [ofBinding?_render_eq_some_iff, newline_not_mem_render_iff, and_assoc]
  · obtain ⟨oneLine, target, plain, rfl⟩ := bracketed_iff_exists_render.mp bracketed
    have named := ofBinding?_render oneLine plain
    exact ⟨target.table, target.column, plain, rfl, named, named⟩
  · exact ⟨fun _ _ => ofBinding?_eq_some_iff_lastSegments other, ofBinding?_eq_none_iff other⟩

/-- Brackets in a column and dots in a table do not matter, but a line feed leaves only the dots. -/
theorem bindings_read_back_brackets_and_dots :
    let target : Target := ⟨"Sales.2024", "Net [EUR]"⟩
    (('[' ∉ target.table.toList ∧ '\n' ∉ target.table.toList) ∧ '\n' ∉ target.column.toList) ∧
    ofBinding? "Sales.2024[Net [EUR]]" = some target ∧
    Bracketed "Sales.2024[Net [EUR]]" ∧ ¬Bracketed "Sales.2024[Net\n[EUR]]" ∧
    ofBinding? "Sales.2024[Net\n[EUR]]" = some ⟨"Sales", "2024[Net\n[EUR]]"⟩ := by
  intro target
  have proper : ('[' ∉ target.table.toList ∧ '\n' ∉ target.table.toList) ∧
      '\n' ∉ target.column.toList := by
    decide
  have divided : ¬Bracketed "Sales.2024[Net\n[EUR]]" := by decide
  have segments : LastSegments "Sales.2024[Net\n[EUR]]" "Sales" "2024[Net\n[EUR]]" :=
    ⟨by decide, by decide, .inl (by decide)⟩
  obtain ⟨reads, _, dotted⟩ := bindings_read_back
  exact ⟨proper, (reads target).mpr proper, by decide, divided,
    ((dotted _ divided).1 _ _).mpr segments⟩

end Target

end ColumnSearch
