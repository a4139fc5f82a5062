import ColumnSearch.Proofs.Json.Canonical
import ColumnSearch.Proofs.Predicate.Fault
import ColumnSearch.Proofs.Predicate.RoundTrip

/-!
# Filters are canonical

The numbers of filters are canonical, whether the filters are read from a text or compiled from
clauses.
-/

namespace ColumnSearch

private theorem exists_of_mem_mapM {α β : Type} {decode? : α → Option β} {items : List α}
    {decoded : List β} (read : items.mapM decode? = some decoded) {result : β}
    (member : result ∈ decoded) : ∃ item ∈ items, decode? item = some result := by
  induction items generalizing decoded with
  | nil =>
      cases read
      cases member
  | cons item items ih =>
      rw [List.mapM_cons] at read
      obtain ⟨first, readFirst, read⟩ := Option.bind_eq_some_iff.mp read
      obtain ⟨others, readOthers, same⟩ := Option.bind_eq_some_iff.mp read
      cases same
      rcases List.mem_cons.mp member with rfl | member
      · exact ⟨item, List.mem_cons_self, readFirst⟩
      · obtain ⟨found, among, readFound⟩ := ih readOthers member
        exact ⟨found, List.mem_cons_of_mem _ among, readFound⟩

variable {property : Number → Prop} {json : Json}

private theorem Json.everyNumber_of_field? {names : List String} {fields : List (String × Json)}
    (every : ∀ field ∈ fields, field.2.EveryNumber property)
    (read : field? names fields = some json) : json.EveryNumber property := by
  unfold field? at read
  split at read
  · rename_i name _ only
    cases read
    have found : (name, json) ∈ fields.filter (·.1 ∈ names) := only ▸ List.mem_singleton_self _
    exact every _ (List.mem_filter.mp found).1
  · cases read

private theorem Json.everyNumber_of_record? {names : List String} {found : List Json}
    (every : json.EveryNumber property) (read : record? names json = some found) :
    ∀ item ∈ found, item.EveryNumber property := by
  cases every with
  | object below =>
      intro item member
      obtain ⟨name, _, readField⟩ := exists_of_mem_mapM read member
      exact everyNumber_of_field? below readField
  | array below =>
      rw [record?] at read
      split_ifs at read
      cases read
      exact below
  | null => cases read
  | bool => cases read
  | number => cases read
  | text => cases read

private theorem Json.everyNumber_of_items? {items : List Json} (every : json.EveryNumber property)
    (read : items? json = some items) : ∀ item ∈ items, item.EveryNumber property := by
  cases every with
  | array below =>
      cases read
      exact below
  | object => cases read
  | null => cases read
  | bool => cases read
  | number => cases read
  | text => cases read

private theorem Value.canonical_of_ofJson? {value : Value}
    (every : json.EveryNumber Number.Canonical)
    (read : ofJson? json = some value) : value.Canonical := by
  cases every with
  | number canonical =>
      cases read
      rintro _ ⟨⟩
      exact canonical
  | text text =>
      cases read
      exact nofun
  | null => cases read
  | bool => cases read
  | array => cases read
  | object => cases read

private theorem Predicate.canonical_of_equalityOfJson? {predicate : Predicate}
    (every : json.EveryNumber Number.Canonical) (read : equalityOfJson? json = some predicate) :
    ∀ value ∈ predicate.values, value.Canonical := by
  unfold equalityOfJson? at read
  split at read
  · rename_i schema target kind operator values record
    obtain ⟨_, _, read⟩ := Option.bind_eq_some_iff.mp read
    obtain ⟨_, _, read⟩ := Option.bind_eq_some_iff.mp read
    obtain ⟨_, _, read⟩ := Option.bind_eq_some_iff.mp read
    obtain ⟨_, _, read⟩ := Option.bind_eq_some_iff.mp read
    obtain ⟨_, _, read⟩ := Option.bind_eq_some_iff.mp read
    obtain ⟨items, readItems, read⟩ := Option.bind_eq_some_iff.mp read
    obtain ⟨decoded, readValues, same⟩ := Option.bind_eq_some_iff.mp read
    cases same
    have everyItem := Json.everyNumber_of_items?
      (Json.everyNumber_of_record? every record values (by simp)) readItems
    intro value member
    obtain ⟨item, among, readValue⟩ := exists_of_mem_mapM readValues member
    exact Value.canonical_of_ofJson? (everyItem item among) readValue
  · cases read

private theorem Predicate.values_of_booleanOfJson? {predicate : Predicate}
    (read : booleanOfJson? json = some predicate) : predicate.values = [] := by
  unfold booleanOfJson? at read
  split at read
  · simp only [Option.bind_eq_bind, Option.bind_eq_some_iff] at read
    obtain ⟨_, _, _, _, _, _, _, _, _, _, _, _, _, _, same⟩ := read
    cases same
    rfl
  · cases read

private theorem Predicate.canonical_of_ofJson? {predicate : Predicate}
    (every : json.EveryNumber Number.Canonical) (read : ofJson? json = some predicate) :
    ∀ value ∈ predicate.values, value.Canonical := by
  rcases (Option.orElse_eq_some _ _ _).mp read with equality | ⟨_, boolean⟩
  · exact canonical_of_equalityOfJson? every equality
  · rw [values_of_booleanOfJson? boolean]
    exact nofun

private theorem FilterSet.canonical_of_ofJson? {filters : FilterSet}
    (every : json.EveryNumber Number.Canonical) (read : ofJson? json = some filters) :
    filters.Canonical := by
  rcases (Option.orElse_eq_some _ _ _).mp read with single | ⟨_, many⟩
  · obtain ⟨predicate, readOne, rfl⟩ := Option.map_eq_some_iff.mp single
    intro _ member
    rw [List.mem_singleton.mp member]
    exact Predicate.canonical_of_ofJson? every readOne
  · obtain ⟨items, readItems, many⟩ := Option.bind_eq_some_iff.mp many
    obtain ⟨predicates, readAll, same⟩ := Option.bind_eq_some_iff.mp many
    cases same
    intro predicate member
    obtain ⟨item, among, readOne⟩ := exists_of_mem_mapM readAll member
    exact Predicate.canonical_of_ofJson? (Json.everyNumber_of_items? every readItems item among)
      readOne

/-- Filters that are read from a text are canonical. -/
theorem FilterSet.canonical_of_parse? {s : String} {filters : FilterSet}
    (read : parse? s = some filters) : filters.Canonical := by
  obtain ⟨json, parsed, read⟩ := Option.bind_eq_some_iff.mp read
  obtain ⟨value, parsed, guarded⟩ := Option.bind_eq_some_iff.mp parsed
  obtain ⟨_, _, same⟩ := Option.bind_eq_some_iff.mp guarded
  cases same
  exact canonical_of_ofJson? (Json.canonical_of_parse? parsed) read

/-- The number that a literal is read as is canonical. -/
theorem Number.canonical_of_parse? {s : String} {number : Number} (read : parse? s = some number) :
    number.Canonical := by
  unfold parse? at read
  obtain ⟨⟨whole, fraction⟩, _, read⟩ := Option.bind_eq_some_iff.mp read
  cases fraction with
  | some fraction => exact canonical_real read
  | none => exact canonical_ofInt?_or_real read

private theorem Condition.canonical_exactValue (condition : Condition) :
    condition.exactValue.Canonical := by
  unfold exactValue
  split
  · exact nofun
  · split
    · rename_i number read
      rintro _ ⟨⟩
      exact Number.canonical_of_parse? read
    · exact nofun

/-- Filters of clauses are canonical. -/
theorem FilterSet.canonical_of_ofClauses {target : Target} {clauses : List Clause}
    {filters : FilterSet} (success : ofClauses target clauses = .ok filters) :
    filters.Canonical := by
  obtain ⟨_, _, rfl⟩ := ofClauses_eq_ok_iff.mp success
  intro predicate member value inside
  rw [toList_ofList] at member
  obtain ⟨_, _, condition, _, _, rfl⟩ := Predicate.exists_condition_of_mem_values member inside
  exact condition.canonical_exactValue

end ColumnSearch
