import ColumnSearch.CommandLine.Setting
import ColumnSearch.Policy.Json
import ColumnSearch.Proofs.Yaml.Scalar
import Mathlib.Data.List.Basic

/-!
# The fields of policy files

A policy file gives values to some of the limits and to the flag, each under one of its names, and
may hold other fields. Whichever way values are encoded, reading the fields gives the values that
stand there, with defaults for the others, unless a field is given twice.
-/

namespace ColumnSearch.Policy

open CommandLine (Limit Setting)

/-- The names of a limit in policy files. -/
def limitNames : Limit → List String
  | .queryLength => ["maxQueryLength"]
  | .tokenCount => ["maxTokenCount", "maxTokens"]
  | .leafCount => ["maxClauseLeafCount", "maxClauses"]
  | .clauseCount => ["maxCnfClauses"]

/-- The name of the flag in policy files. -/
def flagName : String :=
  "measureChipEnabled"

/-- The names that mean something in policy files. -/
def knownNames : List String :=
  flagName :: [Limit.queryLength, .tokenCount, .leafCount, .clauseCount].flatMap limitNames

/-- A field of a policy file. -/
inductive Field where
  /-- A limit under one of its names. -/
  | limit (limit : Limit) (name : String) (named : name ∈ limitNames limit) (value : UInt64)
  | flag (value : Bool)
  /-- A field that means nothing. -/
  | other (name : String) (unknown : name ∉ knownNames) (value : Json.Scalar)

namespace Field

/-- The name a field stands under. -/
def name : Field → String
  | limit _ name _ _ => name
  | flag _ => flagName
  | other name _ _ => name

/-- The setting a field gives, if it means something. -/
def setting? : Field → Option Setting
  | limit which _ _ _ => some (.limit which)
  | flag _ => some .measured
  | other _ _ _ => none

/-- The value a field gives to a limit. -/
def count? (wanted : Limit) : Field → Option UInt64
  | limit which _ _ value => if which = wanted then some value else none
  | _ => none

/-- The value a field gives to the flag. -/
def flag? : Field → Option Bool
  | flag value => some value
  | _ => none

end Field

/-- The policy that fields give: their values, and defaults elsewhere. -/
def ofGiven (fields : List Field) : Policy where
  maxQueryLength := (fields.findSome? (Field.count? .queryLength)).getD 500
  maxTokenCount := (fields.findSome? (Field.count? .tokenCount)).getD 100
  maxLeafCount := (fields.findSome? (Field.count? .leafCount)).getD 50
  maxClauseCount := (fields.findSome? (Field.count? .clauseCount)).getD 256
  measured := (fields.findSome? Field.flag?).getD false

/-- No setting is given twice, under whichever names. -/
def GivenOnce (fields : List Field) : Prop :=
  (fields.filterMap Field.setting?).Nodup

instance (fields : List Field) : Decidable (GivenOnce fields) :=
  inferInstanceAs (Decidable (List.Nodup _))

section ReadField

variable {α β : Type} {read : α → Option β} {fields : List (String × α)}

/-- Reading a field by its name gives the only value that stands under its names. -/
theorem readField_eq {name : String} {values : List β} (fallback : β)
    (given : (fields.filter (·.1 ∈ name :: (fieldNames.lookup name).getD [])).map
      (fun field => read field.2) = values.map some) :
    readField read fields name fallback =
      if values.length ≤ 1 then some (values.head?.getD fallback) else none := by
  rw [readField]
  generalize fields.filter (·.1 ∈ name :: (fieldNames.lookup name).getD []) = held at given
  rcases held with _ | ⟨first, _ | ⟨second, held⟩⟩
  · obtain rfl := List.map_eq_nil_iff.mp given.symm
    rfl
  · obtain ⟨value, _, rfl, only, none⟩ := List.map_eq_cons_iff.mp given.symm
    obtain rfl := List.map_eq_nil_iff.mp none
    exact only.symm
  · have length := congrArg List.length given
    simp only [List.length_map, List.length_cons] at length
    exact (if_neg (by omega)).symm

end ReadField

private theorem mem_knownNames {name : String} {limit : Limit} (named : name ∈ limitNames limit) :
    name ∈ knownNames := by
  refine List.mem_cons_of_mem _ (List.mem_flatMap.mpr ⟨limit, ?_, named⟩)
  cases limit <;> decide

/-- Different limits have different names. -/
theorem eq_of_mem_limitNames {name : String} {first second : Limit}
    (named : name ∈ limitNames first) (also : name ∈ limitNames second) : first = second := by
  have apart : ∀ name ∈ limitNames first, name ∈ limitNames second → first = second := by
    cases first <;> cases second <;> decide
  exact apart name named also

private theorem flagName_not_mem_limitNames (limit : Limit) : flagName ∉ limitNames limit := by
  cases limit <;> decide

/-- The names of a limit are those under which it is given. -/
theorem Field.name_mem_limitNames_iff (wanted : Limit) (field : Field) :
    field.name ∈ limitNames wanted ↔ (field.count? wanted).isSome = true := by
  cases field with
  | limit which name named value =>
      by_cases same : which = wanted
      · subst same
        simpa [Field.name, count?] using named
      · have other : name ∉ limitNames wanted := fun also => same (eq_of_mem_limitNames named also)
        simpa [Field.name, count?, same] using other
  | flag value => simpa [Field.name, count?] using flagName_not_mem_limitNames wanted
  | other name unknown value =>
      simpa [Field.name, count?] using mt mem_knownNames unknown

private theorem Field.name_mem_flagName_iff (field : Field) :
    field.name ∈ [flagName] ↔ field.flag?.isSome = true := by
  rw [List.mem_singleton]
  cases field with
  | limit which name named value =>
      have other : name ≠ flagName := by
        rintro rfl
        exact flagName_not_mem_limitNames which named
      simpa [Field.name, flag?] using other
  | flag value => simp [Field.name, flag?]
  | other name unknown value =>
      have other : name ≠ flagName := by
        rintro rfl
        exact unknown List.mem_cons_self
      simpa [Field.name, flag?] using other

section OfFields

variable {α : Type} {readCount : α → Option UInt64} {readFlag : α → Option Bool}

/-- The encoded field bears the name and holds the value of the given one. -/
def Field.Encoded (readCount : α → Option UInt64) (readFlag : α → Option Bool) (field : Field)
    (encoded : String × α) : Prop :=
  encoded.1 = field.name ∧
    match field with
    | .limit _ _ _ value => readCount encoded.2 = some value
    | .flag value => readFlag encoded.2 = some value
    | .other _ _ _ => True

variable {fields : List Field} {encoded : List (String × α)}

/-- Where the names of a field pick out its values, those are what is read under its names. -/
theorem readField_encoded {β : Type} (read : α → Option β) (pick : Field → Option β)
    {name : String} {names : List String} (fallback : β)
    (all : List.Forall₂ (Field.Encoded readCount readFlag) fields encoded)
    (spelled : name :: (fieldNames.lookup name).getD [] = names)
    (named : ∀ field : Field, field.name ∈ names ↔ (pick field).isSome = true)
    (reads : ∀ field encoded value, Field.Encoded readCount readFlag field encoded →
      pick field = some value → read encoded.2 = some value) :
    readField read encoded name fallback =
      if (fields.filterMap pick).length ≤ 1 then some ((fields.findSome? pick).getD fallback)
      else none := by
  subst spelled
  rw [← List.head?_filterMap]
  refine readField_eq fallback ?_
  induction all with
  | nil => rfl
  | @cons field one fields encoded here _ ih =>
      by_cases picked : (pick field).isSome = true
      · obtain ⟨value, picks⟩ := Option.isSome_iff_exists.mp picked
        have member := (named field).mpr picked
        rw [← here.1] at member
        rw [List.filter_cons_of_pos (by simpa using member), List.map_cons, ih,
          List.filterMap_cons_some picks, List.map_cons, reads field one value here picks]
      · have absent := mt (named field).mp picked
        rw [← here.1] at absent
        rw [List.filter_cons_of_neg (by simpa using absent), ih, List.filterMap_cons_none]
        simpa using picked

/-- A setting is given as often as values are picked for it. -/
theorem count_setting {β : Type} (pick : Field → Option β) (setting : Setting)
    (same : ∀ field : Field, (pick field).isSome = true ↔ field.setting? = some setting)
    (fields : List Field) :
    (fields.filterMap Field.setting?).count setting = (fields.filterMap pick).length := by
  induction fields with
  | nil => rfl
  | cons field fields ih =>
      by_cases picked : (pick field).isSome = true
      · obtain ⟨value, picks⟩ := Option.isSome_iff_exists.mp picked
        rw [List.filterMap_cons_some ((same field).mp picked), List.filterMap_cons_some picks,
          List.count_cons_self, List.length_cons, ih]
      · have other := mt (same field).mpr picked
        have unpicked : pick field = none := by
          simpa using picked
        rw [List.filterMap_cons_none unpicked, ← ih]
        cases given : field.setting? with
        | none => rw [List.filterMap_cons_none given]
        | some first =>
            rw [List.filterMap_cons_some given, List.count_cons_of_ne]
            rintro rfl
            exact other given

private theorem givenOnce_iff : GivenOnce fields ↔
    (∀ limit, (fields.filterMap (Field.count? limit)).length ≤ 1) ∧
      (fields.filterMap Field.flag?).length ≤ 1 := by
  have limits (limit : Limit) := count_setting (Field.count? limit) (.limit limit)
    (fun field => by cases field <;> simp [Field.count?, Field.setting?]) fields
  have flags := count_setting Field.flag? .measured
    (fun field => by cases field <;> simp [Field.flag?, Field.setting?]) fields
  rw [GivenOnce, List.nodup_iff_count_le_one]
  constructor
  · intro once
    refine ⟨fun limit => ?_, ?_⟩
    · rw [← limits]
      exact once (.limit limit)
    · rw [← flags]
      exact once .measured
  · rintro ⟨each, flag⟩ setting
    by_cases given : setting ∈ fields.filterMap Field.setting?
    · obtain ⟨field, -, sets⟩ := List.mem_filterMap.mp given
      cases field with
      | limit which =>
          cases sets
          rw [limits]
          exact each which
      | flag =>
          cases sets
          rw [flags]
          exact flag
      | other => cases sets
    · rw [List.count_eq_zero_of_not_mem given]
      exact Nat.zero_le 1

/-- Whichever way they are encoded, fields are read as the policy that they give. -/
theorem ofFields?_encoded (all : List.Forall₂ (Field.Encoded readCount readFlag) fields encoded) :
    ofFields? readCount readFlag encoded =
      if GivenOnce fields then some (ofGiven fields) else none := by
  have count {name : String} (limit : Limit) (fallback : UInt64)
      (spelled : name :: (fieldNames.lookup name).getD [] = limitNames limit) :
      readField readCount encoded name fallback = _ :=
    readField_encoded readCount (Field.count? limit) fallback all spelled
      (Field.name_mem_limitNames_iff limit) fun field one value here picked => by
        cases field with
        | limit which =>
            exact here.2.trans (Option.ite_none_right_eq_some.mp picked).2
        | flag => cases picked
        | other => cases picked
  have flag : readField readFlag encoded "measureChipEnabled" false = _ :=
    readField_encoded readFlag Field.flag? false all rfl Field.name_mem_flagName_iff
      fun field one value here picked => by
        cases field with
        | limit => cases picked
        | flag =>
            cases picked
            exact here.2
        | other => cases picked
  rw [ofFields?, count .queryLength _ rfl, count .tokenCount _ rfl, count .leafCount _ rfl,
    count .clauseCount _ rfl, flag]
  by_cases once : GivenOnce fields
  · obtain ⟨each, few⟩ := givenOnce_iff.mp once
    rw [if_pos once]
    simp only [each, few, if_true]
    rfl
  · rw [if_neg once]
    rw [givenOnce_iff, not_and_or, not_forall] at once
    rcases once with ⟨limit, twice⟩ | twice
    · cases limit <;> simp [twice]
    · simp [twice]

/-- Fields that are encoded one by one are read as the policy that they give. -/
theorem ofFields?_mapM {γ : Type} {encode : γ → Option (String × α)} {Means : Field → γ → Prop}
    (each : ∀ field one, Means field one →
      ∃ encoded, encode one = some encoded ∧ Field.Encoded readCount readFlag field encoded)
    {ones : List γ} (all : List.Forall₂ Means fields ones) :
    (ones.mapM encode).bind (ofFields? readCount readFlag) =
      if GivenOnce fields then some (ofGiven fields) else none := by
  have encoded : ∃ encoded, ones.mapM encode = some encoded ∧
      List.Forall₂ (Field.Encoded readCount readFlag) fields encoded := by
    induction all with
    | nil => exact ⟨[], rfl, .nil⟩
    | cons here _ ih =>
        obtain ⟨first, encodes, holds⟩ := each _ _ here
        obtain ⟨others, read, all⟩ := ih
        refine ⟨first :: others, ?_, .cons holds all⟩
        rw [List.mapM_cons, encodes, read]
        rfl
  obtain ⟨encoded, read, all⟩ := encoded
  rw [read, Option.bind_some, ofFields?_encoded all]

end OfFields

end ColumnSearch.Policy
