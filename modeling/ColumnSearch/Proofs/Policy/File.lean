import ColumnSearch.Policy.File
import ColumnSearch.Proofs.Json.ReadBack
import ColumnSearch.Proofs.Number.Count
import ColumnSearch.Proofs.Policy.Fields
import ColumnSearch.Proofs.Yaml.Mapping

/-!
# Policy files mean the same in JSON and in YAML

The same fields are the object of a JSON file and the mapping of a YAML file. Either is read as the
policy that the fields give, and either is refused if a field is given twice.
-/

namespace ColumnSearch

namespace Policy

open CommandLine (Setting)

/-- The value a field holds. -/
def Field.scalar : Field → Json.Scalar
  | limit _ _ _ value => .count value
  | flag value => .bool value
  | other _ _ value => value

/-- The fields as an object. -/
def objectOf (fields : List Field) : Json :=
  .ofScalars (fields.map fun field => (field.name, field.scalar))

section Json

/-- In a JSON document, the name and the value of a member spell the field: a limit as a count, and
the flag as such. -/
def Field.Denoted (field : Field) (member : Option String × JsonDocument) : Prop :=
  member.1 = some field.name ∧
    match field with
    | limit _ _ _ value => member.2.toJson? Numeral.number? = some (.number (.ofCount value))
    | flag value => member.2 = .bool value
    | other _ _ _ => True

/-- The text is a JSON object that spells the fields in order. -/
def IsJsonOf (fields : List Field) (text : String) : Prop :=
  ∃ members, JsonDocument.parse? text = some (.object members) ∧
    List.Forall₂ Field.Denoted fields members

variable {fields : List Field}

private theorem Field.Denoted.encoded {field : Field} {member : Option String × JsonDocument}
    (denoted : field.Denoted member) :
    field.Encoded documentCount? documentFlag? (field.name, member.2) := by
  refine ⟨rfl, ?_⟩
  obtain ⟨-, held⟩ := denoted
  cases field with
  | limit which name named value =>
      show (member.2.toJson? Numeral.number?).bind Json.word? = some value
      rw [held]
      exact Json.word?_ofCount value
  | flag value =>
      show documentFlag? member.2 = some value
      rw [held]
      rfl
  | other => trivial

/-- Every JSON text that spells the fields is read as the policy they give. -/
theorem parseJson?_of_isJsonOf {text : String} (spells : IsJsonOf fields text) :
    parseJson? text = if GivenOnce fields then some (ofGiven fields) else none := by
  obtain ⟨members, parse, all⟩ := spells
  rw [parseJson?, parse, Option.bind_some, ofDocument?]
  refine ofFields?_mapM (fun field member denoted => ?_) all
  obtain ⟨name, value⟩ := member
  exact ⟨_, congrArg (Option.map (·, value)) denoted.1, denoted.encoded⟩

/-- The compact text of the object of the fields spells them. -/
theorem isJsonOf_compact (fields : List Field) : IsJsonOf fields (objectOf fields).compact := by
  refine ⟨_, JsonDocument.parse?_compact _, ?_⟩
  rw [Json.fieldDocuments_eq_map, List.map_map, List.map_map, List.forall₂_map_right_iff,
    List.forall₂_same]
  intro field _
  refine ⟨rfl, ?_⟩
  cases field with
  | limit which name named value =>
      refine Json.toJson?_document (.number ?_)
      refine Number.keptBy_number? (Number.canonical_ofCount value) ?_
      exact fun x real => absurd real (Number.ofCount_ne_real value x)
  | flag value => rfl
  | other => trivial

end Json

section Yaml

open Yaml

/-- In a YAML document, the nodes of a key and a value spell the field: a limit in plain decimal
digits, and the flag as a plain word. -/
def Field.Spelled (document : Document) (field : Field) (nodes : Node Nat × Node Nat) : Prop :=
  nodeName? (document.follow nodes.1) = some field.name ∧
    match field with
    | limit _ _ _ value =>
      ∃ tag, document.follow nodes.2 = .scalar .plain tag (Nat.repr value.toNat)
    | flag value =>
      ∃ tag, document.follow nodes.2 = .scalar .plain tag (if value then "true" else "false")
    | other _ _ _ => True

/-- The text is a YAML mapping that spells the fields in order. -/
def IsYamlOf (fields : List Field) (text : String) : Prop :=
  ∃ document nodes, Document.parse? text = some document ∧ document.root = .mapping nodes ∧
    List.Forall₂ (Field.Spelled document) fields nodes

variable {fields : List Field}

private theorem Field.Spelled.encoded {document : Document} {field : Field}
    {nodes : Node Nat × Node Nat} (spelled : field.Spelled document nodes) :
    field.Encoded nodeCount? nodeFlag? (field.name, document.follow nodes.2) := by
  refine ⟨rfl, ?_⟩
  obtain ⟨-, value⟩ := spelled
  cases field with
  | limit which name named value =>
      obtain ⟨tag, text⟩ := value
      show nodeCount? (document.follow nodes.2) = some value
      rw [text]
      exact count?_toDigits value
  | flag value =>
      obtain ⟨tag, text⟩ := value
      show nodeFlag? (document.follow nodes.2) = some value
      rw [text]
      cases value <;> rfl
  | other => trivial

/-- Every YAML text that spells the fields is read as the policy they give. -/
theorem parseYaml?_of_isYamlOf {text : String} (spells : IsYamlOf fields text) :
    parseYaml? text = if GivenOnce fields then some (ofGiven fields) else none := by
  obtain ⟨document, nodes, parse, root, all⟩ := spells
  rw [parseYaml?, parse, Option.bind_some, ofYaml?, root]
  refine ofFields?_mapM (fun field nodes spelled => ?_) all
  obtain ⟨key, value⟩ := nodes
  exact ⟨_, congrArg (Option.map (·, document.follow value)) spelled.1, spelled.encoded⟩

private theorem isYamlOf_render (fields : List Field) :
    IsYamlOf fields (render (objectOf fields)) := by
  refine ⟨_, _, Document.parse?_render _, rfl, ?_⟩
  rw [List.map_map, List.forall₂_map_right_iff, List.forall₂_same]
  intro field _
  refine ⟨rfl, ?_⟩
  cases field with
  | limit which name named value =>
      refine ⟨none, ?_⟩
      show Node.scalar .plain none (scalarText (.count value)) = _
      rw [Json.Scalar.count, scalarText, Json.numberChars_ofCount]
      rfl
  | flag value => exact ⟨none, rfl⟩
  | other => trivial

end Yaml

/-- All fields of a policy, in the order in which it is written. -/
def allFields (policy : Policy) : List Field :=
  [.limit .queryLength "maxQueryLength" (by decide) policy.maxQueryLength,
    .limit .tokenCount "maxTokenCount" (by decide) policy.maxTokenCount,
    .limit .leafCount "maxClauseLeafCount" (by decide) policy.maxLeafCount,
    .limit .clauseCount "maxCnfClauses" (by decide) policy.maxClauseCount,
    .flag policy.measured]

private theorem toJson_eq_objectOf (policy : Policy) :
    policy.toJson = objectOf policy.allFields := by
  rw [toJson, Json.count_toNat, Json.count_toNat, Json.count_toNat, Json.count_toNat]
  rfl

private theorem ofGiven_allFields (policy : Policy) : ofGiven policy.allFields = policy := rfl

private theorem givenOnce_allFields (policy : Policy) : GivenOnce policy.allFields := by
  show List.Nodup [Setting.limit .queryLength, .limit .tokenCount, .limit .leafCount,
    .limit .clauseCount, .measured]
  decide

/-- What a file that gives the fields is loaded as: their values and the defaults, or an error if a
field is given twice. -/
def loaded (fields : List Field) (cause : PolicyFileError.Cause) (path : String) :
    Except PolicyFileError Policy :=
  if GivenOnce fields then .ok (ofGiven fields) else .error ⟨cause, path⟩

private theorem elim_eq_loaded (fields : List Field) (cause : PolicyFileError.Cause)
    (path : String) :
    (if GivenOnce fields then some (ofGiven fields) else none).elim (.error ⟨cause, path⟩) .ok =
      loaded fields cause path := by
  rw [loaded]
  split <;> rfl

/-- Fields mean the same in a JSON file, whose text is an object that spells them, and in every
other file, whose text is a YAML mapping that spells them; such texts are the compact and the YAML
text of their object. The compact text of a policy is read as that policy. -/
theorem policy_files_mean_the_same (fields : List Field) :
    (∀ (storage : Storage) (path text : String), storage.read path = some text →
      (isJsonPath path = true → IsJsonOf fields text →
        load storage path = loaded fields .invalidJson path) ∧
      (isJsonPath path = false → IsYamlOf fields text →
        load storage path = loaded fields .invalidYaml path)) ∧
    IsJsonOf fields (objectOf fields).compact ∧
    IsYamlOf fields (Yaml.render (objectOf fields)) ∧
    ∀ policy : Policy, parseJson? policy.toJson.compact = some policy := by
  refine ⟨fun storage path text held => ⟨fun json spells => ?_, fun other spells => ?_⟩,
    isJsonOf_compact fields, isYamlOf_render fields, fun policy => ?_⟩
  · rw [load, held]
    dsimp only
    rw [if_pos json, parseJson?_of_isJsonOf spells, elim_eq_loaded]
  · rw [load, held]
    dsimp only
    rw [if_neg (by simp [other]), parseYaml?_of_isYamlOf spells, elim_eq_loaded]
  · rw [toJson_eq_objectOf, parseJson?_of_isJsonOf (isJsonOf_compact _),
      if_pos (givenOnce_allFields policy), ofGiven_allFields]

end Policy

end ColumnSearch
