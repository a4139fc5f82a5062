import ColumnSearch.Proofs.Json.Numeral
import ColumnSearch.Proofs.Json.TextLiteral

/-!
# Compact text reads back

The compact text of a value is split into the lexemes of the document it is written as, and the
lexemes are read as that document. Hence canonical values are told apart by their compact texts, and
a value is read back from its compact text if each of its numbers is read back from its numeral.
-/

namespace ColumnSearch

namespace JsonTree

variable {Num Text : Type}

/-- Induction over trees, with a hypothesis for every item of an array and every field of an
object. -/
@[elab_as_elim]
theorem induction {motive : JsonTree Num Text → Prop} (null : motive null)
    (bool : ∀ value, motive (bool value)) (number : ∀ value, motive (number value))
    (text : ∀ value, motive (text value))
    (array : ∀ items, (∀ item ∈ items, motive item) → motive (array items))
    (object : ∀ fields, (∀ field ∈ fields, motive field.2) → motive (object fields)) :
    ∀ tree, motive tree
  | .null => null
  | .bool value => bool value
  | .number value => number value
  | .text value => text value
  | .array items =>
      array items fun item _ => induction null bool number text array object item
  | .object fields =>
      object fields fun field _ => induction null bool number text array object field.2
decreasing_by
  all_goals
    have smaller := List.sizeOf_lt_of_mem ‹_ ∈ _›
    grind [JsonTree]

/-- Every number in the tree has the property. -/
inductive EveryNumber (property : Num → Prop) : JsonTree Num Text → Prop where
  | null : EveryNumber property null
  | bool (value : Bool) : EveryNumber property (bool value)
  | number {value : Num} (here : property value) : EveryNumber property (number value)
  | text (value : Text) : EveryNumber property (text value)
  | array {items : List (JsonTree Num Text)}
    (below : ∀ item ∈ items, EveryNumber property item) : EveryNumber property (array items)
  | object {fields : List (Text × JsonTree Num Text)}
    (below : ∀ field ∈ fields, EveryNumber property field.2) : EveryNumber property (object fields)

/-- A property of every number may be replaced by one that follows from it. -/
theorem EveryNumber.imp {property weaker : Num → Prop} {tree : JsonTree Num Text}
    (every : tree.EveryNumber property) (follows : ∀ value, property value → weaker value) :
    tree.EveryNumber weaker := by
  induction every with
  | null => exact .null
  | bool value => exact .bool value
  | number here => exact .number (follows _ here)
  | text value => exact .text value
  | array _ ih => exact .array ih
  | object _ ih => exact .object ih

end JsonTree

namespace Json

mutual

/-- The document that a value is written as. -/
def document : Json → JsonDocument
  | .null => .null
  | .bool value => .bool value
  | .number value => .number (value.numeral realLayout)
  | .text value => .text (some value)
  | .array items => .array (itemDocuments items)
  | .object fields => .object (fieldDocuments fields)

/-- The documents of several values. -/
def itemDocuments : List Json → List JsonDocument
  | [] => []
  | item :: rest => document item :: itemDocuments rest

/-- The documents of several fields. -/
def fieldDocuments : List (String × Json) → List (Option String × JsonDocument)
  | [] => []
  | (name, value) :: rest => (some name, document value) :: fieldDocuments rest

end

/-- The documents of fields, one by one. -/
theorem fieldDocuments_eq_map (fields : List (String × Json)) :
    fieldDocuments fields = fields.map fun field => (some field.1, field.2.document) := by
  induction fields with
  | nil => rfl
  | cons field fields ih => rw [fieldDocuments, ih, List.map_cons]

end Json

namespace JsonDocument

mutual

/-- The lexemes of a document. -/
def lexemes : JsonDocument → List Lexeme
  | .null => [.null]
  | .bool value => [.bool value]
  | .number numeral => [.number numeral]
  | .text value => [.text value]
  | .array items => .beginArray :: itemsLexemes items ++ [.endArray]
  | .object fields => .beginObject :: fieldsLexemes fields ++ [.endObject]

/-- The lexemes of the items of an array. -/
def itemsLexemes : List JsonDocument → List Lexeme
  | [] => []
  | item :: rest => lexemes item ++ moreItemsLexemes rest

/-- The lexemes of further items, each after a comma. -/
def moreItemsLexemes : List JsonDocument → List Lexeme
  | [] => []
  | item :: rest => .comma :: lexemes item ++ moreItemsLexemes rest

/-- The lexemes of the fields of an object. -/
def fieldsLexemes : List (Option String × JsonDocument) → List Lexeme
  | [] => []
  | (name, value) :: rest => .text name :: .colon :: lexemes value ++ moreFieldsLexemes rest

/-- The lexemes of further fields, each after a comma. -/
def moreFieldsLexemes : List (Option String × JsonDocument) → List Lexeme
  | [] => []
  | (name, value) :: rest =>
    .comma :: .text name :: .colon :: lexemes value ++ moreFieldsLexemes rest

end

private theorem lexemes?_of_lexeme? {cs after : List Char} {lexeme : Lexeme} {c : Char}
    (first : cs.head? = some c) (visible : isSpace c = false)
    (read : lexeme? cs = some (lexeme, after)) :
    lexemes? cs = (lexemes? after).map (lexeme :: ·) := by
  cases cs with
  | nil => cases first
  | cons c cs =>
      cases first
      rw [lexemes?, if_neg (by simp [visible])]
      split
      · rename_i none
        rw [read] at none
        cases none
      · rename_i some
        rw [read] at some
        cases some
        rfl

/-- A text is split into the given lexemes wherever it stands before what closes a value. -/
def Splits (cs : List Char) (lexemes : List Lexeme) : Prop :=
  ∀ rest, Closes rest → lexemes? (cs ++ rest) = (lexemes? rest).map (lexemes ++ ·)

private theorem lexemes?_mark {c : Char} {lexeme : Lexeme} (visible : isSpace c = false)
    (mark : ∀ rest, lexeme? (c :: rest) = some (lexeme, rest)) (rest : List Char) :
    lexemes? (c :: rest) = (lexemes? rest).map (lexeme :: ·) :=
  lexemes?_of_lexeme? rfl visible (mark rest)

private theorem lexemes?_text (s : String) (rest : List Char) :
    lexemes? (Json.textChars s ++ rest) = (lexemes? rest).map (.text (some s) :: ·) :=
  lexemes?_of_lexeme? rfl rfl (lexeme?_textChars s rest)

private theorem closes_cons {c : Char} (closing : c = ',' ∨ c = ']' ∨ c = '}') (rest : List Char) :
    Closes (c :: rest) := by
  intro _ first
  cases first
  exact closing

private theorem splits_number (number : Number) :
    Splits (Json.numberChars Json.realLayout number)
      [.number (number.numeral Json.realLayout)] := by
  intro rest closes
  have wellFormed := number.wellFormed_numeral Json.realLayout
  obtain ⟨c, more, starts, first⟩ := exists_head_numeral wellFormed ['+']
  have visible : isSpace c = false := by
    rw [← Bool.not_eq_true]
    intro space
    simp only [isSpace, Bool.or_eq_true, beq_iff_eq] at space
    rcases space with ((rfl | rfl) | rfl) | rfl <;> revert first <;> decide
  have chars : Json.numberChars Json.realLayout number = c :: more := starts
  have head : (Json.numberChars Json.realLayout number ++ rest).head? = some c := by
    rw [chars]
    rfl
  exact lexemes?_of_lexeme? head visible (lexeme?_numeral wellFormed closes)

private theorem closes_moreItems (items : List Json) {rest : List Char} (closes : Closes rest) :
    Closes (Json.moreItemsChars items ++ rest) := by
  cases items with
  | nil =>
      rw [Json.moreItemsChars]
      exact closes
  | cons item items =>
      rw [Json.moreItemsChars]
      exact closes_cons (.inl rfl) _

private theorem closes_moreFields (fields : List (String × Json)) {rest : List Char}
    (closes : Closes rest) : Closes (Json.moreFieldsChars fields ++ rest) := by
  cases fields with
  | nil =>
      rw [Json.moreFieldsChars]
      exact closes
  | cons field fields =>
      rw [Json.moreFieldsChars]
      exact closes_cons (.inl rfl) _

private theorem splits_moreItems {items : List Json}
    (each : ∀ item ∈ items, Splits (Json.chars item) item.document.lexemes) :
    Splits (Json.moreItemsChars items) (moreItemsLexemes (Json.itemDocuments items)) := by
  induction items with
  | nil =>
      intro rest _
      simp [Json.moreItemsChars, Json.itemDocuments, moreItemsLexemes]
  | cons item items ih =>
      intro rest closes
      obtain ⟨head, tail⟩ := List.forall_mem_cons.mp each
      have first := head _ (closes_moreItems items closes)
      have others := ih tail rest closes
      simp only [Json.moreItemsChars, Json.itemDocuments, moreItemsLexemes, List.cons_append,
        List.append_assoc]
      rw [lexemes?_mark rfl (fun _ => rfl), first, others]
      simp [Function.comp_def]

private theorem splits_items {items : List Json}
    (each : ∀ item ∈ items, Splits (Json.chars item) item.document.lexemes) :
    Splits (Json.itemsChars items) (itemsLexemes (Json.itemDocuments items)) := by
  cases items with
  | nil =>
      intro rest _
      simp [Json.itemsChars, Json.itemDocuments, itemsLexemes]
  | cons item items =>
      intro rest closes
      obtain ⟨head, tail⟩ := List.forall_mem_cons.mp each
      have first := head _ (closes_moreItems items closes)
      have others := splits_moreItems tail rest closes
      simp only [Json.itemsChars, Json.itemDocuments, itemsLexemes, List.append_assoc]
      rw [first, others]
      simp [Function.comp_def]

private theorem splits_moreFields {fields : List (String × Json)}
    (each : ∀ field ∈ fields, Splits (Json.chars field.2) field.2.document.lexemes) :
    Splits (Json.moreFieldsChars fields) (moreFieldsLexemes (Json.fieldDocuments fields)) := by
  induction fields with
  | nil =>
      intro rest _
      simp [Json.moreFieldsChars, Json.fieldDocuments, moreFieldsLexemes]
  | cons field fields ih =>
      intro rest closes
      obtain ⟨head, tail⟩ := List.forall_mem_cons.mp each
      have first := head _ (closes_moreFields fields closes)
      have others := ih tail rest closes
      simp only [Json.moreFieldsChars, Json.fieldDocuments, moreFieldsLexemes, List.cons_append,
        List.append_assoc]
      rw [lexemes?_mark rfl (fun _ => rfl), lexemes?_text, lexemes?_mark rfl (fun _ => rfl), first,
        others]
      simp [Function.comp_def]

private theorem splits_fields {fields : List (String × Json)}
    (each : ∀ field ∈ fields, Splits (Json.chars field.2) field.2.document.lexemes) :
    Splits (Json.fieldsChars fields) (fieldsLexemes (Json.fieldDocuments fields)) := by
  cases fields with
  | nil =>
      intro rest _
      simp [Json.fieldsChars, Json.fieldDocuments, fieldsLexemes]
  | cons field fields =>
      intro rest closes
      obtain ⟨head, tail⟩ := List.forall_mem_cons.mp each
      have first := head _ (closes_moreFields fields closes)
      have others := splits_moreFields tail rest closes
      simp only [Json.fieldsChars, Json.fieldDocuments, fieldsLexemes, List.cons_append,
        List.append_assoc]
      rw [lexemes?_text, lexemes?_mark rfl (fun _ => rfl), first, others]
      simp [Function.comp_def]

/-- The text of a value is split into the lexemes of its document. -/
theorem splits_chars (json : Json) : Splits (Json.chars json) json.document.lexemes := by
  induction json using JsonTree.induction with
  | null =>
      intro rest _
      exact lexemes?_of_lexeme? rfl rfl rfl
  | bool value =>
      intro rest _
      cases value <;> exact lexemes?_of_lexeme? rfl rfl rfl
  | number value =>
      rw [Json.chars, Json.document, lexemes]
      exact splits_number value
  | text value =>
      intro rest _
      rw [Json.chars, Json.document, lexemes]
      exact lexemes?_text value rest
  | array items ih =>
      intro rest _
      have split := splits_items ih _ (closes_cons (.inr (.inl rfl)) rest)
      simp only [Json.chars, Json.document, lexemes, List.cons_append, List.append_assoc,
        List.nil_append]
      rw [lexemes?_mark rfl (fun _ => rfl), split, lexemes?_mark rfl (fun _ => rfl)]
      simp [Function.comp_def]
  | object fields ih =>
      intro rest _
      have split := splits_fields ih _ (closes_cons (.inr (.inr rfl)) rest)
      simp only [Json.chars, Json.document, lexemes, List.cons_append, List.append_assoc,
        List.nil_append]
      rw [lexemes?_mark rfl (fun _ => rfl), split, lexemes?_mark rfl (fun _ => rfl)]
      simp [Function.comp_def]

open Reading

/-- Where a value must come, the lexemes of the document are read as the document. -/
def ReadsBack (document : JsonDocument) : Prop :=
  ∀ outer after, (value outer).run (document.lexemes ++ after) = (done document outer).run after

private theorem run_cons {reading next : Reading} {lexeme : Lexeme}
    (step : reading.step lexeme = some next) (rest : List Lexeme) :
    reading.run (lexeme :: rest) = next.run rest := by
  rw [run, step]
  rfl

-- After an array was opened, its first item is read like any other.
private theorem run_arrayStart (document : JsonDocument) (outer : List Frame)
    (rest : List Lexeme) :
    (arrayStart outer).run (document.lexemes ++ rest) =
      (value (.array [] :: outer)).run (document.lexemes ++ rest) := by
  cases document <;> (rw [lexemes]; rfl)

private theorem run_moreItems {items : List JsonDocument} (each : ∀ item ∈ items, item.ReadsBack)
    (read : List JsonDocument) (last : JsonDocument) (outer : List Frame) (after : List Lexeme) :
    (done last (.array read :: outer)).run (moreItemsLexemes items ++ .endArray :: after) =
      (done (.array (read ++ last :: items)) outer).run after := by
  induction items generalizing read last with
  | nil =>
      rw [moreItemsLexemes, List.nil_append]
      exact run_cons rfl after
  | cons item items ih =>
      obtain ⟨first, others⟩ := List.forall_mem_cons.mp each
      rw [moreItemsLexemes, List.cons_append, List.cons_append, List.append_assoc, run_cons rfl,
        first, ih others, List.append_assoc]
      rfl

private theorem run_moreFields {fields : List (Option String × JsonDocument)}
    (each : ∀ field ∈ fields, field.2.ReadsBack) (read : List (Option String × JsonDocument))
    (name : Option String) (last : JsonDocument) (outer : List Frame) (after : List Lexeme) :
    (done last (.object read name :: outer)).run (moreFieldsLexemes fields ++ .endObject :: after) =
      (done (.object (read ++ (name, last) :: fields)) outer).run after := by
  induction fields generalizing read name last with
  | nil =>
      rw [moreFieldsLexemes, List.nil_append]
      exact run_cons rfl after
  | cons field fields ih =>
      obtain ⟨first, others⟩ := List.forall_mem_cons.mp each
      rw [moreFieldsLexemes]
      simp only [List.cons_append, List.append_assoc]
      rw [run_cons rfl, run_cons rfl, run_cons rfl, first, ih others, List.append_assoc]
      rfl

/-- The lexemes of a document are read as the document. -/
theorem readsBack (document : JsonDocument) : document.ReadsBack := by
  induction document using JsonTree.induction with
  | null => exact fun _ _ => rfl
  | bool value => exact fun _ _ => rfl
  | number value => exact fun _ _ => rfl
  | text value => exact fun _ _ => rfl
  | array items ih =>
      intro outer after
      cases items with
      | nil => rfl
      | cons item items =>
          obtain ⟨first, others⟩ := List.forall_mem_cons.mp ih
          rw [lexemes, itemsLexemes]
          simp only [List.cons_append, List.append_assoc, List.nil_append]
          rw [run_cons rfl, run_arrayStart, first, run_moreItems others, List.nil_append]
  | object fields ih =>
      intro outer after
      cases fields with
      | nil => rfl
      | cons field fields =>
          obtain ⟨first, others⟩ := List.forall_mem_cons.mp ih
          rw [lexemes, fieldsLexemes]
          simp only [List.cons_append, List.append_assoc, List.nil_append]
          rw [run_cons rfl, run_cons rfl, run_cons rfl, first, run_moreFields others,
            List.nil_append]

/-- The compact text of a value spells the document of the value. -/
theorem parse?_compact (json : Json) : parse? json.compact = some json.document := by
  have split := splits_chars json [] (by intro c first; cases first)
  have read := json.document.readsBack [] []
  rw [List.append_nil, lexemes?] at split
  rw [List.append_nil] at read
  rw [parse?, Json.compact, String.toList_ofList, split, Option.map_some, List.append_nil,
    Option.bind_some, read]
  rfl

end JsonDocument

namespace Json

/-- The numeral that a number is written as is read as the number. -/
def KeptBy (number? : Numeral → Option Number) (number : Number) : Prop :=
  number? (number.numeral realLayout) = some number

variable {number? : Numeral → Option Number}

private theorem itemsToJson?_documents {items : List Json}
    (each : ∀ item ∈ items, item.document.toJson? number? = some item) :
    JsonDocument.itemsToJson? number? (itemDocuments items) = some items := by
  induction items with
  | nil => rfl
  | cons item items ih =>
      obtain ⟨first, others⟩ := List.forall_mem_cons.mp each
      rw [itemDocuments, JsonDocument.itemsToJson?, first, ih others]
      rfl

private theorem fieldsToJson?_documents {fields : List (String × Json)}
    (each : ∀ field ∈ fields, field.2.document.toJson? number? = some field.2) :
    JsonDocument.fieldsToJson? number? (fieldDocuments fields) = some fields := by
  induction fields with
  | nil => rfl
  | cons field fields ih =>
      obtain ⟨first, others⟩ := List.forall_mem_cons.mp each
      rw [fieldDocuments, JsonDocument.fieldsToJson?, first, ih others]
      rfl

/-- A value is what its document denotes if each of its numbers is kept. -/
theorem toJson?_document {json : Json} (kept : json.EveryNumber (KeptBy number?)) :
    json.document.toJson? number? = some json := by
  induction kept with
  | null => rfl
  | bool value => rfl
  | number kept =>
      rw [document, JsonDocument.toJson?, kept]
      rfl
  | text value => rfl
  | array _ ih =>
      rw [document, JsonDocument.toJson?, itemsToJson?_documents ih]
      rfl
  | object _ ih =>
      rw [document, JsonDocument.toJson?, fieldsToJson?_documents ih]
      rfl

/-- A value each of whose numbers is kept by the reader is read back from its compact text. -/
theorem parse?_compact {json : Json} (kept : json.EveryNumber (KeptBy Numeral.number?)) :
    Json.parse? json.compact = some json := by
  rw [Json.parse?, JsonDocument.parse?_compact, Option.bind_some, toJson?_document kept]

/-- Values whose numbers are canonical are told apart by their documents. -/
theorem eq_of_document_eq {json other : Json} (canonical : json.EveryNumber Number.Canonical)
    (also : other.EveryNumber Number.Canonical) (same : json.document = other.document) :
    json = other := by
  have kept : ∀ number : Number, number.Canonical → KeptBy Numeral.nearest? number :=
    fun _ canonical => Number.nearest?_numeral realLayout canonical
  have read := toJson?_document (canonical.imp kept)
  rw [same, toJson?_document (also.imp kept)] at read
  exact (Option.some.inj read).symm

/-- Values whose numbers are canonical are told apart by their compact texts. -/
theorem eq_of_compact_eq {json other : Json} (canonical : json.EveryNumber Number.Canonical)
    (also : other.EveryNumber Number.Canonical) (same : json.compact = other.compact) :
    json = other := by
  have documents := JsonDocument.parse?_compact json
  rw [same, JsonDocument.parse?_compact] at documents
  exact eq_of_document_eq canonical also (Option.some.inj documents).symm

end Json

end ColumnSearch
