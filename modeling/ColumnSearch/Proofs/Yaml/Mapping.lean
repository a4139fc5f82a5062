import ColumnSearch.Proofs.Yaml.Lines
import ColumnSearch.Yaml.Document

/-!
# Rendered YAML mappings are read back

The YAML text of an object whose values are scalars is read as the mapping that spells its names and
values, in order and with repetitions. `Document.parse?_render` is the main statement.
-/

namespace ColumnSearch.Yaml

open Lexer

private theorem fieldLines_scalar (name : String) (value : Json.Scalar)
    (fields : List (String × Json)) :
    fieldLines ((name, value.toJson) :: fields) =
      (if maxKeySize < name.utf8ByteSize then
        ['?' :: ' ' :: textChars name, ':' :: ' ' :: scalarChars value]
      else [textChars name ++ ':' :: ' ' :: scalarChars value]) ++ fieldLines fields := by
  have line := lines_toJson value
  cases value <;> simp only [Json.Scalar.toJson] at line ⊢ <;> simp [fieldLines, line, hang]

private theorem flatMap_fieldLines (fields : List (String × Json.Scalar)) :
    (fieldLines (fields.map fun (name, value) => (name, value.toJson))).flatMap (· ++ ['\n']) =
      fields.flatMap fieldChars := by
  induction fields with
  | nil => rfl
  | cons field fields ih =>
      obtain ⟨name, value⟩ := field
      rw [List.map_cons, fieldLines_scalar, List.flatMap_append, ih, List.flatMap_cons, fieldChars]
      split <;> simp

private theorem toList_render_ofScalars {fields : List (String × Json.Scalar)}
    (filled : fields ≠ []) :
    (render (Json.ofScalars fields)).toList = fields.flatMap fieldChars := by
  rw [render, String.toList_ofList, Json.ofScalars, lines, if_neg (by simpa using filled),
    flatMap_fieldLines]

private theorem unifyBreaks_eq_self {cs : List Char} (plain : ∀ c ∈ cs, c ≠ '\r' ∧ c.toNat ≠ 0x85) :
    unifyBreaks cs = cs := by
  induction cs with
  | nil => rfl
  | cons c cs ih =>
      obtain ⟨⟨returns, next⟩, others⟩ := List.forall_mem_cons.mp plain
      simp [unifyBreaks, returns, next, ih others]

/-- Besides line feeds, the lines of a mapping hold no special characters. -/
theorem ordinary_fieldChars (field : String × Json.Scalar) :
    ∀ c ∈ fieldChars field, c = '\n' ∨ isSpecial c = false := by
  obtain ⟨name, value⟩ := field
  have key : ∀ c ∈ textChars name, c = '\n' ∨ isSpecial c = false :=
    fun c member => .inr ((written_textChars name).ordinary c member)
  have scalar : ∀ c ∈ scalarChars value, c = '\n' ∨ isSpecial c = false :=
    fun c member => .inr ((written_scalarChars value).ordinary c member)
  rw [fieldChars]
  split
  · simp only [List.forall_mem_append, List.forall_mem_cons]
    exact ⟨⟨⟨.inr rfl, .inr rfl, key⟩, .inl trivial, .inr rfl, .inr rfl, scalar⟩, .inl trivial,
      List.forall_mem_nil _⟩
  · simp only [List.forall_mem_append, List.forall_mem_cons]
    exact ⟨⟨key, .inr rfl, .inr rfl, scalar⟩, .inl trivial, List.forall_mem_nil _⟩

/-- A mapping that is not empty is read as a block. -/
theorem tokens?_render {fields : List (String × Json.Scalar)} (filled : fields ≠ []) :
    tokens? (render (Json.ofScalars fields)) =
      some (.blockMapping :: fields.flatMap fieldTokens ++ [.blockEnd]) := by
  have text := toList_render_ofScalars filled
  have ordinary : ∀ c ∈ fields.flatMap fieldChars, c = '\n' ∨ isSpecial c = false :=
    List.forall_mem_flatMap.mpr fun field _ => ordinary_fieldChars field
  have printable : (fields.flatMap fieldChars).all isPrintable = true := by
    rw [List.all_eq_true]
    intro c member
    rcases ordinary c member with rfl | ordinary
    · rfl
    · exact isPrintable_of_isSpecial_eq_false ordinary
  have breaks : unifyBreaks (fields.flatMap fieldChars) = fields.flatMap fieldChars := by
    refine unifyBreaks_eq_self fun c member => ?_
    rcases ordinary c member with rfl | ordinary
    · decide
    · refine ⟨ne_of_isSpecial_eq_false ordinary rfl, fun next => ?_⟩
      simp [isSpecial, next] at ordinary
  have start : advance? (atLine [] [] ⟨{}, fields.flatMap fieldChars⟩) =
      some (atLine [] [] ⟨{}, fields.flatMap fieldChars⟩) :=
    advance?_eq (toToken_eq (startsToken_fields fields)) rfl (Nat.zero_le _)
  have yields : (atLine [] [] ⟨{}, fields.flatMap fieldChars⟩).Yields
      (.blockMapping :: fields.flatMap fieldTokens ++ [.blockEnd]) := by
    cases fields with
    | nil => exact absurd rfl filled
    | cons field fields =>
        rw [List.flatMap_cons]
        refine yields_field (.inl rfl) rfl (startsToken_fields fields) fun next first => ?_
        exact yields_fields fields (.blockMapping :: fieldTokens field) first
  rw [tokens?, text, printable, breaks]
  calc run? ((fields.flatMap fieldChars).length + 1) (atLine [] [] ⟨{}, fields.flatMap fieldChars⟩)
      = (atLine [] [] ⟨{}, fields.flatMap fieldChars⟩).resume?
          (fields.flatMap fieldChars).length := by rw [run?_succ, start, Option.bind_some]
    _ = some (.blockMapping :: fields.flatMap fieldTokens ++ [.blockEnd]) :=
        yields (fields.flatMap fieldChars).length (Nat.le_refl _)

/-- The empty mapping is read as a flow collection. -/
theorem tokens?_render_nil :
    tokens? (render (Json.ofScalars [])) = some [.flowMapping, .flowMappingEnd] := by
  rw [tokens?, render, String.toList_ofList]
  decide +kernel

/-- The nodes of a field whose value is a scalar. -/
def fieldNode {Link : Type} : String × Json.Scalar → Node Link × Node Link
  | (name, value) =>
    (.scalar (textStyle name) none name, .scalar (scalarStyle value) none (scalarText value))

namespace Node

variable {handles : Handles} {style : Style} {text : String}

private theorem optional?_scalar (fuel : Nat) (rest : List Token) :
    optional? handles true true [.key, .value, .blockEnd] (fuel + 3) (.scalar style text :: rest) =
      some (.scalar style none text, rest) := by
  rfl

private theorem blockFields?_fields {fields : List (String × Json.Scalar)} {fuel : Nat}
    (enough : fields.length + 5 ≤ fuel) :
    blockFields? handles fuel (fields.flatMap fieldTokens ++ [.blockEnd]) =
      some (fields.map fieldNode, []) := by
  induction fields generalizing fuel with
  | nil =>
      obtain ⟨fuel, rfl⟩ : ∃ less, fuel = less + 1 := ⟨fuel - 1, by omega⟩
      rfl
  | cons field fields ih =>
      obtain ⟨name, value⟩ := field
      rw [List.length_cons] at enough
      obtain ⟨fuel, rfl⟩ : ∃ less, fuel = less + 5 := ⟨fuel - 5, by omega⟩
      have value (rest : List Token) :
          value? handles true [.key, .value, .blockEnd] (fuel + 4)
            (.value :: .scalar (scalarStyle value) (scalarText value) :: rest) =
            some (.scalar (scalarStyle value) none (scalarText value), rest) :=
        optional?_scalar fuel.succ rest
      rw [List.flatMap_cons, fieldTokens, List.append_assoc, List.cons_append, blockFields?]
      rw [List.cons_append, optional?_scalar (fuel + 1)]
      simp only [Option.bind_eq_bind, Option.bind_some, List.cons_append, List.nil_append, value]
      rw [ih (by omega)]
      rfl

private theorem ofTokens?_fields (handles : Handles) {fields : List (String × Json.Scalar)}
    {fuel : Nat} (enough : fields.length + 7 ≤ fuel) :
    ofTokens? handles true false fuel
        (.blockMapping :: (fields.flatMap fieldTokens ++ [.blockEnd])) =
      some (.mapping (fields.map fieldNode), []) := by
  obtain ⟨fuel, rfl⟩ : ∃ less, fuel = less + 2 := ⟨fuel - 2, by omega⟩
  have content : content? handles true false false none (fuel + 1)
      (.blockMapping :: (fields.flatMap fieldTokens ++ [.blockEnd])) =
      some (.mapping (fields.map fieldNode), []) := by
    rw [content?, blockFields?_fields (by omega)]
    rfl
  simp [ofTokens?, Properties.take, Properties.wholeTag?, content, withAnchor]

end Node

private theorem documentNode?_fields (fields : List (String × Json.Scalar)) :
    documentNode? (.blockMapping :: fields.flatMap fieldTokens ++ [.blockEnd]) =
      some (.mapping (fields.map fieldNode)) := by
  have length : (fields.flatMap fieldTokens).length = 4 * fields.length := by
    induction fields with
    | nil => rfl
    | cons field fields ih =>
        rw [List.flatMap_cons, List.length_append, ih, fieldTokens]
        simp only [List.length_cons, List.length_nil]
        omega
  have read := Node.ofTokens?_fields .standard (show fields.length + 7 ≤
    4 * (Token.blockMapping :: (fields.flatMap fieldTokens ++ [.blockEnd])).length + 4 by
      rw [List.length_cons, List.length_append, length, List.length_singleton]
      omega)
  rw [List.cons_append]
  simp only [documentNode?, read]
  rfl

private theorem numberFields?_fields (numbering : Numbering)
    (fields : List (String × Json.Scalar)) :
    Node.numberFields? numbering (fields.map fieldNode) =
      some ⟨fields.map fieldNode, [], numbering⟩ := by
  induction fields with
  | nil => rfl
  | cons field fields ih =>
      obtain ⟨name, value⟩ := field
      rw [List.map_cons, fieldNode, Node.numberFields?]
      simp [Node.number?, ih, fieldNode]

/-- The text of an object of scalars is read as the mapping of its fields. -/
theorem Document.parse?_render (fields : List (String × Json.Scalar)) :
    Document.parse? (render (Json.ofScalars fields)) =
      some ⟨.mapping (fields.map fieldNode), []⟩ := by
  by_cases filled : fields = []
  · subst filled
    rw [Document.parse?, tokens?_render_nil]
    rfl
  · rw [Document.parse?, tokens?_render filled, Option.bind_eq_bind, Option.bind_some,
      documentNode?_fields, Option.bind_eq_bind, Option.bind_some, Document.ofNode?, Node.number?,
      numberFields?_fields]
    rfl

end ColumnSearch.Yaml
