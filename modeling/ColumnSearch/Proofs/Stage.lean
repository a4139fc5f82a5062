import ColumnSearch.Proofs.Expr.Meaning
import ColumnSearch.Proofs.Json.RoundTrip
import ColumnSearch.Stage

/-!
# Intermediate results are told apart by their texts

Tokens, expressions and clauses are shown without numbers, so the compact text of what is shown
reads back. What is shown determines what it shows: the flags of a condition tell its polarity, and
the kind of an expression tells a condition from a group.
-/

namespace ColumnSearch

variable {property : Number → Prop}

private theorem Token.Kind.name_injective : Function.Injective Token.Kind.name := by
  intro kind other same
  revert same
  cases kind <;> cases other <;> decide

private theorem Token.toJson_injective : Function.Injective Token.toJson := by
  intro token other same
  simp only [toJson, JsonTree.object.injEq, List.cons.injEq, Prod.mk.injEq, JsonTree.text.injEq,
    true_and, and_true] at same
  obtain ⟨kind, text⟩ := same
  cases token
  cases other
  rw [Token.mk.injEq]
  exact ⟨Kind.name_injective kind, text⟩

private theorem Token.listToJson_injective : Function.Injective Token.listToJson := by
  intro tokens others same
  exact List.map_injective_iff.mpr toJson_injective (JsonTree.array.inj same)

private theorem Token.everyNumber_toJson (token : Token) : token.toJson.EveryNumber property := by
  refine .object fun field member => ?_
  simp only [List.mem_cons, List.not_mem_nil, or_false] at member
  rcases member with rfl | rfl
  · exact .text _
  · exact .text _

private theorem Token.everyNumber_listToJson (tokens : List Token) :
    (listToJson tokens).EveryNumber property := by
  refine .array fun item member => ?_
  obtain ⟨token, _, rfl⟩ := List.mem_map.mp member
  exact token.everyNumber_toJson

/-- The two flags of a polarity tell it from the other two. -/
theorem Condition.polarity_eq_of_flags {condition other : Condition}
    (required : condition.isRequired = other.isRequired)
    (excluded : condition.isExcluded = other.isExcluded) : condition.polarity = other.polarity := by
  revert required excluded
  rw [isRequired, isRequired, isExcluded, isExcluded]
  cases condition.polarity <;> cases other.polarity <;> decide

private theorem Condition.jsonFields_injective : Function.Injective Condition.jsonFields := by
  intro condition other same
  simp only [jsonFields, List.cons.injEq, Prod.mk.injEq, JsonTree.text.injEq, JsonTree.bool.injEq,
    true_and, and_true] at same
  obtain ⟨value, quoted, required, excluded⟩ := same
  have polarity := polarity_eq_of_flags required excluded
  cases condition
  cases other
  rw [Condition.mk.injEq]
  exact ⟨value, quoted, polarity⟩

private theorem Condition.toJson_injective : Function.Injective Condition.toJson := by
  intro condition other same
  exact jsonFields_injective (JsonTree.object.inj same)

private theorem Condition.everyNumber_of_mem_jsonFields {condition : Condition}
    {field : String × Json}
    (member : field ∈ condition.jsonFields) : field.2.EveryNumber property := by
  simp only [jsonFields, List.mem_cons, List.not_mem_nil, or_false] at member
  rcases member with rfl | rfl | rfl | rfl
  · exact .text _
  · exact .bool _
  · exact .bool _
  · exact .bool _

private theorem Condition.everyNumber_toJson (condition : Condition) :
    condition.toJson.EveryNumber property :=
  .object fun _ => everyNumber_of_mem_jsonFields

private theorem Clause.listToJson_injective : Function.Injective Clause.listToJson := by
  intro clauses others same
  refine List.map_injective_iff.mpr ?_ (JsonTree.array.inj same)
  intro clause other equal
  exact List.map_injective_iff.mpr Condition.toJson_injective (JsonTree.array.inj equal)

private theorem Clause.everyNumber_listToJson (clauses : List Clause) :
    (listToJson clauses).EveryNumber property := by
  refine .array fun item member => ?_
  obtain ⟨clause, _, rfl⟩ := List.mem_map.mp member
  refine .array fun shown listed => ?_
  obtain ⟨condition, _, rfl⟩ := List.mem_map.mp listed
  exact condition.everyNumber_toJson

private theorem Connective.name_injective : Function.Injective Connective.name := by
  intro op other same
  revert same
  cases op <;> cases other <;> decide

namespace Expr

private theorem toJsons_eq_map (exprs : List Expr) : toJsons exprs = exprs.map toJson := by
  induction exprs with
  | nil => rw [toJsons, List.map_nil]
  | cons expr rest ih => rw [toJsons, List.map_cons, ih]

private theorem toJson_group (op : Connective) (children : List Expr) :
    (group op children).toJson = .object [("kind", .text "group"), ("op", .text op.name),
      ("children", .array (children.map toJson))] := by
  rw [toJson, toJsons_eq_map]

/-- A condition is never shown like a group. -/
theorem toJson_leaf_ne_group (condition : Condition) (op : Connective) (children : List Expr) :
    (leaf condition).toJson ≠ (group op children).toJson := by
  intro same
  rw [toJson, toJson_group, JsonTree.object.injEq, List.cons.injEq, Prod.mk.injEq,
    JsonTree.text.injEq] at same
  exact absurd same.1.2 (by decide)

/-- Children that are shown alike are the same, if each is told apart from all others. -/
theorem eq_of_map_toJson_eq {children others : List Expr}
    (each : ∀ child ∈ children, ∀ ⦃other⦄, child.toJson = other.toJson → child = other)
    (same : children.map toJson = others.map toJson) : children = others := by
  induction children generalizing others with
  | nil =>
      rw [List.map_nil, eq_comm, List.map_eq_nil_iff] at same
      exact same.symm
  | cons child children ih =>
      cases others with
      | nil => cases same
      | cons other others =>
          rw [List.map_cons, List.map_cons, List.cons.injEq] at same
          rw [each child List.mem_cons_self same.1,
            ih (fun child member => each child (List.mem_cons_of_mem _ member)) same.2]

private theorem toJson_injective : Function.Injective toJson := by
  intro expr
  induction expr with
  | leaf condition =>
      intro other same
      cases other with
      | leaf shown =>
          rw [toJson, toJson, JsonTree.object.injEq, List.cons.injEq] at same
          rw [Condition.jsonFields_injective same.2]
      | group op children => exact absurd same (toJson_leaf_ne_group condition op children)
  | group op children ih =>
      intro other same
      cases other with
      | leaf shown => exact absurd same.symm (toJson_leaf_ne_group shown op children)
      | group otherOp others =>
          simp only [toJson_group, JsonTree.object.injEq, List.cons.injEq, Prod.mk.injEq,
            JsonTree.text.injEq, JsonTree.array.injEq, true_and, and_true] at same
          obtain ⟨names, shown⟩ := same
          rw [Connective.name_injective names, eq_of_map_toJson_eq ih shown]

private theorem everyNumber_toJson (expr : Expr) : expr.toJson.EveryNumber property := by
  induction expr with
  | leaf condition =>
      rw [toJson]
      refine .object fun field member => ?_
      rcases List.mem_cons.mp member with rfl | member
      · exact .text _
      · exact Condition.everyNumber_of_mem_jsonFields member
  | group op children ih =>
      rw [toJson_group]
      refine .object fun field member => ?_
      simp only [List.mem_cons, List.not_mem_nil, or_false] at member
      rcases member with rfl | rfl | rfl
      · exact .text _
      · exact .text _
      · refine .array fun item listed => ?_
        obtain ⟨child, member, rfl⟩ := List.mem_map.mp listed
        exact ih child member

end Expr

/-- Values that hold no number are told apart by their compact texts, and so are the tokens,
expressions, clauses and conditions that they show: the texts of any two lists of tokens, any two
expressions, any two lists of clauses and any two conditions differ unless these are the same. The
flags alone tell how a condition is quoted and its polarity, and no condition has the text of a
group. -/
theorem stage_texts_are_faithful :
    (Function.Injective fun tokens : List Token => (Token.listToJson tokens).compact) ∧
    (Function.Injective fun expr : Expr => expr.toJson.compact) ∧
    (Function.Injective fun clauses : List Clause => (Clause.listToJson clauses).compact) ∧
    (Function.Injective fun condition : Condition => condition.toJson.compact) ∧
    (∀ condition other : Condition, condition.jsonFields.tail = other.jsonFields.tail →
      condition.quoted = other.quoted ∧ condition.polarity = other.polarity) ∧
    ∀ condition op children,
      (Expr.leaf condition).toJson.compact ≠ (Expr.group op children).toJson.compact := by
  refine ⟨?_, ?_, ?_, ?_, ?_, ?_⟩
  · intro tokens others same
    exact Token.listToJson_injective (Json.eq_of_compact_eq (Token.everyNumber_listToJson _)
      (Token.everyNumber_listToJson _) same)
  · intro expr other same
    exact Expr.toJson_injective (Json.eq_of_compact_eq expr.everyNumber_toJson
      other.everyNumber_toJson same)
  · intro clauses others same
    exact Clause.listToJson_injective (Json.eq_of_compact_eq (Clause.everyNumber_listToJson _)
      (Clause.everyNumber_listToJson _) same)
  · intro condition other same
    exact Condition.toJson_injective (Json.eq_of_compact_eq condition.everyNumber_toJson
      other.everyNumber_toJson same)
  · intro condition other same
    simp only [Condition.jsonFields, List.tail_cons, List.cons.injEq, Prod.mk.injEq,
      JsonTree.bool.injEq, true_and, and_true] at same
    obtain ⟨quoted, required, excluded⟩ := same
    exact ⟨quoted, Condition.polarity_eq_of_flags required excluded⟩
  · intro condition op children same
    exact Expr.toJson_leaf_ne_group condition op children
      (Json.eq_of_compact_eq (Expr.everyNumber_toJson _) (Expr.everyNumber_toJson _) same)

end ColumnSearch
