import ColumnSearch.Proofs.Json.RoundTrip

/-!
# What is read is canonical

Every number that a JSON text is read as is canonical, since a numeral is read as a canonical number
if it is read at all.
-/

namespace ColumnSearch

/-- The word that holds a whole number is canonical. -/
theorem Number.canonical_ofInt? {n : Int} {number : Number} (held : ofInt? n = some number) :
    number.Canonical := by
  unfold ofInt? at held
  split_ifs at held with signed unsigned
  · cases held
    trivial
  · cases held
    rw [Canonical, UInt64.toNat_ofNat', Nat.mod_eq_of_lt (by omega)]
    omega

/-- Doubles are canonical. -/
theorem Number.canonical_real {x : Option Binary64} {number : Number}
    (real : Number.real <$> x = some number) : number.Canonical := by
  obtain ⟨value, _, rfl⟩ := Option.map_eq_some_iff.mp real
  trivial

/-- Whole numbers are canonical, whether a word holds them or only a double. -/
theorem Number.canonical_ofInt?_or_real {n : Int} {x : Option Binary64} {number : Number}
    (read : (ofInt? n <|> Number.real <$> x) = some number) : number.Canonical := by
  rcases (Option.orElse_eq_some _ _ _).mp read with held | ⟨_, real⟩
  · exact canonical_ofInt? held
  · exact canonical_real real

/-- A numeral is read as a canonical number, if it is read at all. -/
theorem Numeral.canonical_of_numberOr {numeral : Numeral} {real : Option Binary64}
    {number : Number} (read : numeral.numberOr real = some number) : number.Canonical := by
  unfold numberOr at read
  dsimp only at read
  split_ifs at read
  · exact Number.canonical_real read
  · exact Number.canonical_ofInt?_or_real read
  · exact Number.canonical_ofInt?_or_real read
  · exact Number.canonical_real read

namespace JsonDocument

variable {number? : Numeral → Option Number}

private theorem exists_of_mem_itemsToJson? {documents : List JsonDocument} {items : List Json}
    (denote : itemsToJson? number? documents = some items) {item : Json} (member : item ∈ items) :
    ∃ document ∈ documents, document.toJson? number? = some item := by
  induction documents generalizing items with
  | nil =>
      cases denote
      cases member
  | cons document documents ih =>
      rw [itemsToJson?] at denote
      obtain ⟨first, denotes, denote⟩ := Option.bind_eq_some_iff.mp denote
      obtain ⟨others, denoteOthers, same⟩ := Option.bind_eq_some_iff.mp denote
      cases same
      rcases List.mem_cons.mp member with rfl | member
      · exact ⟨document, List.mem_cons_self, denotes⟩
      · obtain ⟨found, among, denotes⟩ := ih denoteOthers member
        exact ⟨found, List.mem_cons_of_mem _ among, denotes⟩

private theorem exists_of_mem_fieldsToJson? {documents : List (Option String × JsonDocument)}
    {fields : List (String × Json)} (denote : fieldsToJson? number? documents = some fields)
    {field : String × Json} (member : field ∈ fields) :
    ∃ document ∈ documents, document.2.toJson? number? = some field.2 := by
  induction documents generalizing fields with
  | nil =>
      cases denote
      cases member
  | cons document documents ih =>
      rw [fieldsToJson?] at denote
      obtain ⟨name, _, denote⟩ := Option.bind_eq_some_iff.mp denote
      obtain ⟨first, denotes, denote⟩ := Option.bind_eq_some_iff.mp denote
      obtain ⟨others, denoteOthers, same⟩ := Option.bind_eq_some_iff.mp denote
      cases same
      rcases List.mem_cons.mp member with rfl | member
      · exact ⟨document, List.mem_cons_self, denotes⟩
      · obtain ⟨found, among, denotes⟩ := ih denoteOthers member
        exact ⟨found, List.mem_cons_of_mem _ among, denotes⟩

private theorem everyNumber_of_toJson? {property : Number → Prop}
    (sound : ∀ numeral number, number? numeral = some number → property number)
    (document : JsonDocument) {json : Json} (denotes : document.toJson? number? = some json) :
    json.EveryNumber property := by
  induction document using JsonTree.induction generalizing json with
  | null =>
      cases denotes
      exact .null
  | bool value =>
      cases denotes
      exact .bool value
  | number numeral =>
      rw [toJson?] at denotes
      obtain ⟨number, read, rfl⟩ := Option.map_eq_some_iff.mp denotes
      exact .number (sound numeral number read)
  | text value =>
      rw [toJson?] at denotes
      obtain ⟨text, _, rfl⟩ := Option.map_eq_some_iff.mp denotes
      exact .text text
  | array items ih =>
      rw [toJson?] at denotes
      obtain ⟨values, denote, rfl⟩ := Option.map_eq_some_iff.mp denotes
      refine .array ?_
      intro item member
      obtain ⟨document, among, denotes⟩ := exists_of_mem_itemsToJson? denote member
      exact ih document among denotes
  | object fields ih =>
      rw [toJson?] at denotes
      obtain ⟨values, denote, rfl⟩ := Option.map_eq_some_iff.mp denotes
      refine .object ?_
      intro field member
      obtain ⟨document, among, denotes⟩ := exists_of_mem_fieldsToJson? denote member
      exact ih document among denotes

end JsonDocument

/-- Every number in a value that a text spells is canonical. -/
theorem Json.canonical_of_parse? {s : String} {json : Json} (read : Json.parse? s = some json) :
    json.EveryNumber Number.Canonical := by
  obtain ⟨document, _, denotes⟩ := Option.bind_eq_some_iff.mp read
  exact JsonDocument.everyNumber_of_toJson? (fun _ _ => Numeral.canonical_of_numberOr) document
    denotes

end ColumnSearch
