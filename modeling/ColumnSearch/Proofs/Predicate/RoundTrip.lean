import ColumnSearch.Predicate.Reader
import ColumnSearch.Proofs.Json.ReadBack
import ColumnSearch.Proofs.Predicate.Entries

/-!
# Filters read back

Filters are read from the JSON they are written as, and from its compact text if the numbers in them
are canonical and the doubles are read back. Canonical filters are told apart by their texts.
-/

namespace ColumnSearch

/-- The value is canonical if it is a number. -/
def Value.Canonical (value : Value) : Prop :=
  ∀ number, value = .number number → number.Canonical

/-- Every number in the filters is canonical. -/
def FilterSet.Canonical (filters : FilterSet) : Prop :=
  ∀ predicate ∈ filters.toList, ∀ value ∈ predicate.values, value.Canonical

/-- Every double in the filters is read back from its JSON text. -/
def FilterSet.RealsReadBack (filters : FilterSet) : Prop :=
  ∀ predicate ∈ filters.toList, ∀ x, .number (.real x) ∈ predicate.values → x.ReadsBack

@[simp]
private theorem Target.ofJson?_toJson (target : Target) : ofJson? target.toJson = some target := by
  simp [ofJson?, toJson, Json.record?, Json.field?, Json.text?]

@[simp]
private theorem Value.ofJson?_toJson (value : Value) : ofJson? value.toJson = some value := by
  cases value <;> rfl

@[simp]
private theorem Containment.ofName?_name (operator : Containment) :
    ofName? operator.name = some operator := by
  cases operator <;> decide

@[simp]
private theorem TextTest.ofJson?_toJson (test : TextTest) : ofJson? test.toJson = some test := by
  simp [ofJson?, toJson, Json.record?, Json.field?, Json.text?, Json.name?]

@[simp]
private theorem FilterKind.ofJson?_count (kind : FilterKind) :
    ofJson? (Json.count kind.code) = some kind := by
  cases kind <;> decide

@[simp]
private theorem Connective.ofName?_name (op : Connective) : ofName? op.name = some op := by
  cases op <;> decide

private theorem mapM_decode_encode {α : Type} {encode : α → Json} {decode? : Json → Option α}
    (inverse : ∀ item, decode? (encode item) = some item) (items : List α) :
    (items.map encode).mapM decode? = some items := by
  have decoded : decode? ∘ encode = fun item => pure item := funext inverse
  rw [List.mapM_map, decoded, List.mapM_pure, List.map_id']
  rfl

namespace Predicate

private theorem equalityOfJson?_equality (schema : String) (target : Target) (kind : FilterKind)
    (values : List Value) :
    equalityOfJson? (equality schema target kind values).toJson =
      some (equality schema target kind values) := by
  have read := mapM_decode_encode Value.ofJson?_toJson values
  rw [List.mapM_map] at read
  simp [equalityOfJson?, toJson, Json.record?, Json.field?, Json.text?, Json.name?, Json.items?,
    read]

/-- Text tests lack the operator of equality lists. -/
theorem equalityOfJson?_boolean (schema : String) (target : Target) (kind : FilterKind)
    (op : Connective) (tests : List TextTest) :
    equalityOfJson? (boolean schema target kind op tests).toJson = none := by
  simp [equalityOfJson?, toJson, Json.record?, Json.field?]

private theorem booleanOfJson?_boolean (schema : String) (target : Target) (kind : FilterKind)
    (op : Connective) (tests : List TextTest) :
    booleanOfJson? (boolean schema target kind op tests).toJson =
      some (boolean schema target kind op tests) := by
  have read := mapM_decode_encode TextTest.ofJson?_toJson tests
  rw [List.mapM_map] at read
  simp [booleanOfJson?, toJson, Json.record?, Json.field?, Json.text?, Json.name?, Json.items?,
    read]

@[simp]
private theorem ofJson?_toJson (predicate : Predicate) :
    ofJson? predicate.toJson = some predicate := by
  cases predicate with
  | equality schema target kind values =>
      rw [ofJson?, equalityOfJson?_equality]
      rfl
  | boolean schema target kind op tests =>
      rw [ofJson?, equalityOfJson?_boolean, booleanOfJson?_boolean]
      rfl

/-- A list of predicates is not read as one predicate, not even if it has as many members as a
predicate has fields: its members are no texts. -/
theorem ofJson?_array (predicates : List Predicate) :
    ofJson? (.array (predicates.map toJson)) = none := by
  have nontextual {names : List String} {found : List Json}
      (read : Json.record? names (.array (predicates.map toJson)) = some found) (item : Json)
      (member : item ∈ found) : Json.text? item = none ∧ Json.name? item = none := by
    rw [Json.record?] at read
    split_ifs at read
    cases read
    obtain ⟨predicate, _, rfl⟩ := List.mem_map.mp member
    cases predicate <;> exact ⟨rfl, rfl⟩
  have equality : equalityOfJson? (.array (predicates.map toJson)) = none := by
    unfold equalityOfJson?
    split
    · rename_i operator _ read
      rw [(nontextual read operator (by simp)).2]
      rfl
    · rfl
  have boolean : booleanOfJson? (.array (predicates.map toJson)) = none := by
    unfold booleanOfJson?
    split
    · rename_i schema _ _ _ _ read
      rw [(nontextual read schema (by simp)).1]
      rfl
    · rfl
  rw [ofJson?, equality, boolean]
  rfl

end Predicate

private theorem FilterSet.ofJson?_toJson (filters : FilterSet) :
    ofJson? filters.toJson = some filters := by
  cases filters with
  | single predicate =>
      rw [toJson, ofJson?, Predicate.ofJson?_toJson]
      rfl
  | many predicates =>
      have read := mapM_decode_encode Predicate.ofJson?_toJson predicates
      rw [toJson, ofJson?, Predicate.ofJson?_array, Json.items?, Option.bind_eq_bind,
        Option.bind_some, read]
      rfl

namespace JsonTree

variable {Num Text : Type}

private theorem depthOfItems_le {items : List (JsonTree Num Text)} {bound : Nat}
    (each : ∀ item ∈ items, item.depth ≤ bound) : depthOfItems items ≤ bound := by
  induction items with
  | nil => exact Nat.zero_le bound
  | cons item items ih =>
      obtain ⟨first, others⟩ := List.forall_mem_cons.mp each
      exact Nat.max_le.mpr ⟨first, ih others⟩

end JsonTree

private theorem Predicate.depth_toJson_le (predicate : Predicate) : predicate.toJson.depth ≤ 3 := by
  cases predicate with
  | equality schema target kind values =>
      have shallow : JsonTree.depthOfItems (values.map Value.toJson) ≤ 0 := by
        apply JsonTree.depthOfItems_le
        intro item member
        obtain ⟨value, _, rfl⟩ := List.mem_map.mp member
        cases value <;> exact Nat.le_refl 0
      simp only [toJson, JsonTree.depth, JsonTree.depthOfFields, Target.toJson, Json.count]
      omega
  | boolean schema target kind op tests =>
      have shallow : JsonTree.depthOfItems (tests.map TextTest.toJson) ≤ 1 := by
        apply JsonTree.depthOfItems_le
        intro item member
        obtain ⟨test, _, rfl⟩ := List.mem_map.mp member
        exact Nat.le_refl 1
      simp only [toJson, JsonTree.depth, JsonTree.depthOfFields, Target.toJson, Json.count]
      omega

private theorem FilterSet.depth_toJson_le (filters : FilterSet) : filters.toJson.depth ≤ 4 := by
  cases filters with
  | single predicate => exact Nat.le_succ_of_le predicate.depth_toJson_le
  | many predicates =>
      have shallow : JsonTree.depthOfItems (predicates.map Predicate.toJson) ≤ 3 := by
        apply JsonTree.depthOfItems_le
        intro item member
        obtain ⟨predicate, _, rfl⟩ := List.mem_map.mp member
        exact predicate.depth_toJson_le
      rw [toJson, JsonTree.depth]
      exact Nat.succ_le_succ shallow

section EveryNumber

variable {property : Number → Prop}

private theorem Target.everyNumber_toJson (property : Number → Prop) (target : Target) :
    target.toJson.EveryNumber property := by
  refine .object ?_
  simp only [List.forall_mem_cons, List.not_mem_nil, false_implies, implies_true, and_true]
  exact ⟨.text _, .text _⟩

private theorem TextTest.everyNumber_toJson (property : Number → Prop) (test : TextTest) :
    test.toJson.EveryNumber property := by
  refine .object ?_
  simp only [List.forall_mem_cons, List.not_mem_nil, false_implies, implies_true, and_true]
  exact ⟨.text _, .text _⟩

private theorem FilterKind.everyNumber_count (words : ∀ value, property (.signed value))
    (kind : FilterKind) : (Json.count kind.code).EveryNumber property := by
  cases kind <;> exact .number (words _)

private theorem Predicate.everyNumber_toJson (words : ∀ value, property (.signed value))
    {predicate : Predicate} (each : ∀ number, .number number ∈ predicate.values → property number) :
    predicate.toJson.EveryNumber property := by
  cases predicate with
  | equality schema target kind values =>
      refine .object ?_
      simp only [List.forall_mem_cons, List.not_mem_nil, false_implies, implies_true, and_true]
      refine ⟨.text _, target.everyNumber_toJson _, kind.everyNumber_count words, .text _,
        .array ?_⟩
      intro item member
      obtain ⟨value, among, rfl⟩ := List.mem_map.mp member
      cases value with
      | number number => exact .number (each number among)
      | text text => exact .text text
  | boolean schema target kind op tests =>
      refine .object ?_
      simp only [List.forall_mem_cons, List.not_mem_nil, false_implies, implies_true, and_true]
      refine ⟨.text _, target.everyNumber_toJson _, kind.everyNumber_count words, .text _,
        .array ?_⟩
      intro item member
      obtain ⟨test, _, rfl⟩ := List.mem_map.mp member
      exact test.everyNumber_toJson _

/-- What holds of signed words and of the numbers in the filters holds of every number in their
JSON. -/
theorem FilterSet.everyNumber_toJson (words : ∀ value, property (.signed value))
    {filters : FilterSet}
    (each : ∀ predicate ∈ filters.toList, ∀ number, .number number ∈ predicate.values →
      property number) : filters.toJson.EveryNumber property := by
  cases filters with
  | single predicate =>
      exact Predicate.everyNumber_toJson words (each predicate List.mem_cons_self)
  | many predicates =>
      refine .array ?_
      intro item member
      obtain ⟨predicate, among, rfl⟩ := List.mem_map.mp member
      exact Predicate.everyNumber_toJson words (each predicate among)

end EveryNumber

namespace FilterSet

variable {filters others : FilterSet}

/-- The numbers in the JSON of canonical filters are canonical. -/
theorem canonical_toJson (canonical : filters.Canonical) :
    filters.toJson.EveryNumber Number.Canonical :=
  everyNumber_toJson (fun _ => trivial) fun predicate member number among =>
    canonical predicate member _ among number rfl

/-- Canonical filters are read back from their compact text if their doubles are. -/
theorem parse?_compact (canonical : filters.Canonical) (reals : filters.RealsReadBack) :
    parse? filters.toJson.compact = some filters := by
  have shallow : filters.toJson.depth ≤ Json.maxDepth :=
    Nat.le_trans filters.depth_toJson_le (by decide)
  have kept : filters.toJson.EveryNumber (Json.KeptBy Numeral.number?) := by
    refine everyNumber_toJson ?_ fun predicate member number among => ?_
    · exact fun _ => Number.keptBy_number? trivial fun _ real => by cases real
    · refine Number.keptBy_number? (canonical predicate member _ among number rfl) ?_
      rintro x rfl
      exact reals predicate member x among
  rw [parse?, Json.parseShallow?, Json.parse?_compact kept]
  simp only [Option.bind_eq_bind, Option.bind_some, guard, if_pos shallow]
  exact ofJson?_toJson filters

/-- Different filters have different JSON. -/
theorem eq_of_toJson_eq (same : filters.toJson = others.toJson) : filters = others := by
  have read := ofJson?_toJson filters
  rw [same, ofJson?_toJson] at read
  exact (Option.some.inj read).symm

/-- Different canonical filters have different compact texts. -/
theorem eq_of_compact_eq (canonical : filters.Canonical) (canonicalOthers : others.Canonical)
    (same : filters.toJson.compact = others.toJson.compact) : filters = others :=
  eq_of_toJson_eq (Json.eq_of_compact_eq (canonical_toJson canonical)
    (canonical_toJson canonicalOthers) same)

end FilterSet

end ColumnSearch
