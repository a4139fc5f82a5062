import ColumnSearch.Proofs.Batch
import ColumnSearch.Proofs.Number.Count
import ColumnSearch.Proofs.Search.Sizes

/-!
# What records show

The compact text of a record that a host returns is an object of what the record shows: the search
and the status, and of the fingerprint, the filters, the reason and the sizes those that apply.
Records that show different things have different texts.
-/

namespace ColumnSearch

/-- All sizes are held by words. -/
structure Metrics.Bounded (metrics : Metrics) : Prop where
  length : metrics.length < UInt64.size
  tokens : metrics.tokens < UInt64.size
  leaves : metrics.leaves < UInt64.size
  clauses : metrics.clauses < UInt64.size
  predicates : metrics.predicates < UInt64.size

/-- Sizes as a document. -/
def Metrics.document (metrics : Metrics) : JsonDocument :=
  .object [(some "length", .number (.ofInt metrics.length)),
    (some "tokens", .number (.ofInt metrics.tokens)),
    (some "leaves", .number (.ofInt metrics.leaves)),
    (some "clauses", .number (.ofInt metrics.clauses)),
    (some "predicates", .number (.ofInt metrics.predicates))]

/-- The fields that are present. -/
def presentFields {α : Type} (fields : List (String × Option α)) : List (Option String × α) :=
  fields.filterMap fun (name, value) => value.map (some name, ·)

namespace Record

/-- What a record shows: its search, status, fingerprint, filters, reason and sizes. -/
def shown (record : Record) :
    String × String × Option String × Option FilterSet × Option String × Option Metrics :=
  let submission := record.submission
  (record.query, submission.status, submission.fingerprint?, submission.filters?,
    submission.reason?, submission.metrics?)

/-- The names and documents of what a record shows. -/
def fields (record : Record) : List (String × Option JsonDocument) :=
  let submission := record.submission
  [("query", some (.text (some record.query))),
    ("status", some (.text (some submission.status))),
    ("fingerprint", submission.fingerprint?.map fun value => .text (some value)),
    ("filters", submission.filters?.bind fun filters =>
      JsonDocument.parse? filters.toJson.compact),
    ("reason", submission.reason?.map fun value => .text (some value)),
    ("metrics", submission.metrics?.map Metrics.document)]

/-- The members of the object of what a record shows. -/
def members (record : Record) : List (Option String × JsonDocument) :=
  presentFields record.fields

/-- The filters of the record are canonical, and its sizes are held by words. -/
structure Sound (record : Record) : Prop where
  canonical : ∀ filters, record.submission.filters? = some filters → filters.Canonical
  bounded : ∀ metrics, record.submission.metrics? = some metrics → metrics.Bounded

end Record

/-- The sizes of a search are held by words, since the limits on them are. -/
theorem Search.bounded_of_compile {policy : Policy} {target : Target} {query : String}
    {compiled : Compiled} (success : compile policy target query = .ok compiled) {metrics : Metrics}
    (measured : compiled.metrics = some metrics) : metrics.Bounded := by
  obtain ⟨lexed, expr, found, passed, parsed, normalized, built, sizes⟩ :=
    exists_stages_of_compile success
  obtain ⟨short, _, rfl⟩ := tokens_eq_ok_iff.mp passed
  obtain ⟨_, read⟩ := parse_eq_ok_iff.mp parsed
  rw [sizes] at measured
  split at measured
  · cases measured
    have length := Nat.lt_of_le_of_lt (Policy.checkLength_eq_ok_iff.mp short) (UInt64.toNat_lt _)
    have tokens := Nat.lt_of_le_of_lt (length_tokenize_le query) length
    have clauses := Nat.lt_of_le_of_lt (length_le_of_clauses normalized) (UInt64.toNat_lt _)
    exact {
      length
      tokens
      leaves := Nat.lt_of_le_of_lt (Expr.leafCount_le_of_parse read) tokens
      clauses
      predicates := Nat.lt_of_le_of_lt (length_filters_le built) clauses }
  · cases measured

/-- The records that a host returns are sound. -/
theorem Host.sound_submit (host : Host) (line : String) : (host.submit line).2.Sound := by
  have submits := host.submits_submit line
  generalize host.submit line = result at submits
  cases submits with
  | cleared | failed =>
      constructor
      · intro _ none
        cases none
      · intro _ none
        cases none
  | unchanged success =>
      constructor
      · intro _ none
        cases none
      · exact fun _ held => Search.bounded_of_compile success held
  | applied success =>
      constructor
      · intro _ held
        cases held
        exact Search.canonical_of_compile success
      · exact fun _ held => Search.bounded_of_compile success held

private theorem Json.document_count {n : Nat} (held : n < UInt64.size) :
    (count n).document = .number (.ofInt n) := by
  have word : (UInt64.ofNat n).toNat = n := UInt64.toNat_ofNat_of_lt held
  have written := count_toNat (UInt64.ofNat n)
  rw [word] at written
  rw [written, document, Number.numeral_ofCount, word]

namespace Metrics

variable {metrics other : Metrics}

private theorem document_toJson (bounded : metrics.Bounded) :
    metrics.toJson.document = metrics.document := by
  simp only [toJson, Json.document, Json.fieldDocuments, Json.document_count bounded.length,
    Json.document_count bounded.tokens, Json.document_count bounded.leaves,
    Json.document_count bounded.clauses, Json.document_count bounded.predicates, document]

private theorem eq_of_document_eq (same : metrics.document = other.document) : metrics = other := by
  have injective {m n : Nat} (equal : Numeral.ofInt m = Numeral.ofInt n) : m = n := by
    have digits := congrArg (fun numeral => Decimal.digitsValue 0 numeral.whole) equal
    simpa [Numeral.ofInt] using digits
  simp only [document, JsonTree.object.injEq, List.cons.injEq, Prod.mk.injEq,
    JsonTree.number.injEq, true_and, and_true] at same
  obtain ⟨length, tokens, leaves, clauses, predicates⟩ := same
  cases metrics
  cases other
  rw [Metrics.mk.injEq]
  exact ⟨injective length, injective tokens, injective leaves, injective clauses,
    injective predicates⟩

end Metrics

section Present

variable {α : Type} {fields others : List (String × Option α)} {name : String} {value : α}

private theorem presentFields_none :
    presentFields ((name, none) :: fields) = presentFields fields :=
  rfl

private theorem presentFields_some :
    presentFields ((name, some value) :: fields) = (some name, value) :: presentFields fields :=
  rfl

private theorem not_mem_presentFields (absent : name ∉ fields.map Prod.fst) :
    (some name, value) ∉ presentFields fields := by
  intro member
  obtain ⟨⟨other, held⟩, among, present⟩ := List.mem_filterMap.mp member
  obtain ⟨_, _, pair⟩ := Option.map_eq_some_iff.mp present
  obtain ⟨same, _⟩ := Prod.mk.inj pair
  exact absent (List.mem_map.mpr ⟨_, among, Option.some.inj same⟩)

-- A field that is present on one side only would have to stand among the later ones on the other.
private theorem eq_of_presentFields_eq (names : fields.map Prod.fst = others.map Prod.fst)
    (distinct : (fields.map Prod.fst).Nodup)
    (same : presentFields fields = presentFields others) : fields = others := by
  induction fields generalizing others with
  | nil => exact (List.map_eq_nil_iff.mp names.symm).symm
  | cons field fields ih =>
      obtain ⟨⟨_, held⟩, others, rfl, rfl, rest⟩ := List.map_eq_cons_iff.mp names.symm
      obtain ⟨name, value⟩ := field
      rw [List.map_cons, List.nodup_cons] at distinct
      have fresh : name ∉ others.map Prod.fst := by
        rw [rest]
        exact distinct.1
      rcases value with _ | value <;> rcases held with _ | held
      · rw [ih rest.symm distinct.2 same]
      · rw [presentFields_none, presentFields_some] at same
        exact absurd (same ▸ List.mem_cons_self) (not_mem_presentFields distinct.1)
      · rw [presentFields_none, presentFields_some] at same
        exact absurd (same ▸ List.mem_cons_self) (not_mem_presentFields fresh)
      · rw [presentFields_some, presentFields_some, List.cons.injEq, Prod.mk.injEq] at same
        rw [same.1.2, ih rest.symm distinct.2 same.2]

private theorem fieldDocuments_present (fields : List (String × Option Json)) :
    Json.fieldDocuments (fields.filterMap fun (name, value) => value.map (name, ·)) =
      presentFields (fields.map fun (name, value) => (name, value.map Json.document)) := by
  induction fields with
  | nil => rfl
  | cons field fields ih =>
      obtain ⟨name, _ | value⟩ := field
      · exact ih
      · exact congrArg ((some name, value.document) :: ·) ih

end Present

namespace Record

variable {record other : Record}

/-- The compact text of a sound record spells the object of what it shows. -/
theorem parse?_compact (sound : record.Sound) :
    JsonDocument.parse? record.toJson.compact = some (.object record.members) := by
  have filters : (record.submission.filters?.map FilterSet.toJson).map Json.document =
      record.submission.filters?.bind fun filters =>
        JsonDocument.parse? filters.toJson.compact := by
    simp only [JsonDocument.parse?_compact, Option.map_map]
    exact Option.map_eq_bind
  have metrics : (record.submission.metrics?.map Metrics.toJson).map Json.document =
      record.submission.metrics?.map Metrics.document := by
    rw [Option.map_map]
    exact Option.map_congr fun metrics held => Metrics.document_toJson (sound.bounded metrics held)
  rw [JsonDocument.parse?_compact, toJson, Json.ofPresent, Json.document, fieldDocuments_present,
    members, fields]
  simp only [List.map_cons, List.map_nil, Option.map_some, filters, metrics, Option.map_map]
  rfl

private theorem text_injective :
    Function.Injective fun value : String => (.text (some value) : JsonDocument) := by
  intro first second same
  cases same
  rfl

private theorem filters?_eq (sound : record.Sound) (also : other.Sound)
    (same : (record.submission.filters?.bind fun filters =>
        JsonDocument.parse? filters.toJson.compact) =
      other.submission.filters?.bind fun filters =>
        JsonDocument.parse? filters.toJson.compact) :
    record.submission.filters? = other.submission.filters? := by
  simp only [JsonDocument.parse?_compact] at same
  cases first : record.submission.filters? with
  | none =>
      cases second : other.submission.filters? with
      | none => rfl
      | some others =>
          rw [first, second] at same
          cases same
  | some filters =>
      cases second : other.submission.filters? with
      | none =>
          rw [first, second] at same
          cases same
      | some others =>
          rw [first, second, Option.bind_some, Option.bind_some, Option.some.injEq] at same
          have canonical := FilterSet.canonical_toJson (sound.canonical filters first)
          have equal := Json.eq_of_document_eq canonical
            (FilterSet.canonical_toJson (also.canonical others second)) same
          rw [FilterSet.eq_of_toJson_eq equal]

private theorem shown_eq_of_members_eq (sound : record.Sound) (also : other.Sound)
    (same : record.members = other.members) : record.shown = other.shown := by
  have names : record.fields.map Prod.fst = other.fields.map Prod.fst := rfl
  have distinct : (record.fields.map Prod.fst).Nodup := by
    show List.Nodup ["query", "status", "fingerprint", "filters", "reason", "metrics"]
    decide
  have equal := eq_of_presentFields_eq names distinct same
  simp only [fields, List.cons.injEq, Prod.mk.injEq, true_and, and_true, Option.some.injEq,
    JsonTree.text.injEq] at equal
  obtain ⟨query, status, fingerprint, filters, reason, metrics⟩ := equal
  have injective : Function.Injective Metrics.document := fun _ _ => Metrics.eq_of_document_eq
  simp only [shown, Prod.mk.injEq]
  exact ⟨query, status, Option.map_injective text_injective fingerprint,
    filters?_eq sound also filters, Option.map_injective text_injective reason,
    Option.map_injective injective metrics⟩

/-- Sound records with the same compact text show the same. -/
theorem shown_eq_of_compact_eq (sound : record.Sound) (also : other.Sound)
    (same : record.toJson.compact = other.toJson.compact) : record.shown = other.shown := by
  have read := parse?_compact sound
  rw [same, parse?_compact also, Option.some.injEq, JsonTree.object.injEq] at read
  exact shown_eq_of_members_eq sound also read.symm

end Record

end ColumnSearch
