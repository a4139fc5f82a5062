import ColumnSearch.Proofs.Binary64.Estimate
import ColumnSearch.Proofs.Binary64.Overflow
import ColumnSearch.Proofs.Json.RoundTrip

/-!
# Numbers read back from JSON

Canonical words are read back from their JSON texts. Doubles are estimated when they are read, so a
double may be taken for one beside it (`Binary64.ReadsBack` says that it is not). Those with short
numerals are read back.
-/

namespace ColumnSearch

/-- The double is read back from its JSON text. -/
def Binary64.ReadsBack (x : Binary64) : Prop :=
  Json.parse? (Json.compact (.number (.real x))) = some (.number (.real x))

/-- A double is read back exactly if the reader keeps it. -/
theorem Binary64.readsBack_iff_keptBy {x : Binary64} :
    x.ReadsBack ↔ Json.KeptBy Numeral.number? (.real x) := by
  rw [ReadsBack, Json.parse?, JsonDocument.parse?_compact, Option.bind_some, Json.document,
    JsonDocument.toJson?, Option.map_eq_some_iff, Json.KeptBy]
  constructor
  · rintro ⟨_, read, ⟨⟩⟩
    exact read
  · intro read
    exact ⟨_, read, rfl⟩

instance : DecidablePred Binary64.ReadsBack := fun x =>
  decidable_of_iff (((Number.real x).numeral Json.realLayout).number? = some (.real x))
    Binary64.readsBack_iff_keptBy.symm

-- The double of `3e+23` is taken for the one below it.
example : ¬Binary64.ReadsBack ⟨false, 8940696716308594, 1099, by decide, by decide, by decide⟩ := by
  decide +kernel

/-- The reader keeps canonical words, and the doubles that are read back. -/
theorem Number.keptBy_number? {number : Number} (canonical : number.Canonical)
    (real : ∀ x, number = .real x → x.ReadsBack) : Json.KeptBy Numeral.number? number := by
  cases number with
  | signed value => exact numberOr_numeral _ canonical (fun _ same => by cases same) _
  | unsigned value => exact numberOr_numeral _ canonical (fun _ same => by cases same) _
  | real x => exact Binary64.readsBack_iff_keptBy.mp (real x rfl)

/-- A double with a short numeral is read back. -/
theorem Binary64.readsBack_of_isShort {x : Binary64}
    (short : (x.numeral Json.realLayout).decimal.IsShort) : x.ReadsBack := by
  have spells := x.spellsReal_numeral Json.realLayout
  have fits : (x.numeral Json.realLayout).decimal.digits < UInt64.size :=
    Nat.lt_trans short.1 (by decide)
  have rounded := ofDecimal?_shortest spells.sign spells.magnitude
  have attracts := (attracts_of_ofDecimal? rounded).2
  rw [readsBack_iff_keptBy, Json.KeptBy, Number.numeral, Numeral.number?, Numeral.numberOr,
    spells.notWhole, Numeral.truncated_eq_decimal fits,
    estimate?_of_attracts short spells.sign attracts]
  rfl

end ColumnSearch
