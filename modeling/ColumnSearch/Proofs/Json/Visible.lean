import ColumnSearch.Proofs.Json.RoundTrip
import ColumnSearch.Proofs.Number.Text

/-!
# Compact text stands on one line

Control characters are escaped in texts, and nothing else in compact text is one. So the compact
text of any value holds no control character, whatever texts the value holds.
-/

namespace ColumnSearch

/-- The character is no control character: its code is at least that of the blank. -/
abbrev IsVisible (c : Char) : Prop :=
  0x20 ≤ c.toNat

private theorem isVisible_of_all {cs : List Char} (all : cs.all (fun c => 0x20 ≤ c.toNat) = true) :
    ∀ c ∈ cs, IsVisible c := fun c member =>
  of_decide_eq_true (List.all_eq_true.mp all c member)

private theorem Number.IsTextChar.isVisible {c : Char} (char : IsTextChar c) : IsVisible c := by
  rcases char with digit | mark
  · have least := (Char.isDigit_iff_toNat.mp digit).1
    exact Nat.le_trans (by decide) least
  · have marks : textMarks.all (fun c => 0x20 ≤ c.toNat) = true := rfl
    exact isVisible_of_all marks c mark

namespace Json

private theorem isVisible_ite {condition : Prop} [Decidable condition] {first second : List Char}
    (here : ∀ c ∈ first, IsVisible c) (there : ¬ condition → ∀ c ∈ second, IsVisible c) :
    ∀ c ∈ (if condition then first else second), IsVisible c := by
  split
  · exact here
  · next absent => exact there absent

private theorem isVisible_escape (c : Char) : ∀ d ∈ escape c, IsVisible d := by
  -- The seven characters with a short escape come first.
  refine isVisible_ite (isVisible_of_all rfl) fun _ => ?_
  refine isVisible_ite (isVisible_of_all rfl) fun _ => ?_
  refine isVisible_ite (isVisible_of_all rfl) fun _ => ?_
  refine isVisible_ite (isVisible_of_all rfl) fun _ => ?_
  refine isVisible_ite (isVisible_of_all rfl) fun _ => ?_
  refine isVisible_ite (isVisible_of_all rfl) fun _ => ?_
  refine isVisible_ite (isVisible_of_all rfl) fun _ => ?_
  split
  · next control =>
    have every : ∀ code < 0x20, ['\\', 'u', '0', '0', Nat.digitChar (code / 16),
        Nat.digitChar (code % 16)].all (fun c => 0x20 ≤ c.toNat) = true := by
      decide
    exact isVisible_of_all (every c.toNat control)
  · next control => exact List.forall_mem_singleton.mpr (Nat.not_lt.mp control)

private theorem isVisible_textChars (s : String) : ∀ c ∈ textChars s, IsVisible c := by
  refine List.forall_mem_append.mpr
    ⟨List.forall_mem_cons.mpr ⟨by decide, ?_⟩, isVisible_of_all rfl⟩
  intro d member
  obtain ⟨c, _, escaped⟩ := List.mem_flatMap.mp member
  exact isVisible_escape c d escaped

private theorem isVisible_moreItemsChars {items : List Json}
    (each : ∀ item ∈ items, ∀ c ∈ chars item, IsVisible c) :
    ∀ c ∈ moreItemsChars items, IsVisible c := by
  induction items with
  | nil =>
      rw [moreItemsChars]
      exact List.forall_mem_nil _
  | cons item items ih =>
      obtain ⟨first, others⟩ := List.forall_mem_cons.mp each
      rw [moreItemsChars]
      exact List.forall_mem_append.mpr ⟨List.forall_mem_cons.mpr ⟨by decide, first⟩, ih others⟩

private theorem isVisible_itemsChars {items : List Json}
    (each : ∀ item ∈ items, ∀ c ∈ chars item, IsVisible c) :
    ∀ c ∈ itemsChars items, IsVisible c := by
  cases items with
  | nil =>
      rw [itemsChars]
      exact List.forall_mem_nil _
  | cons item items =>
      obtain ⟨first, others⟩ := List.forall_mem_cons.mp each
      rw [itemsChars]
      exact List.forall_mem_append.mpr ⟨first, isVisible_moreItemsChars others⟩

private theorem isVisible_fieldChars (name : String) {value : Json}
    (visible : ∀ c ∈ chars value, IsVisible c) :
    ∀ c ∈ textChars name ++ ':' :: chars value, IsVisible c :=
  List.forall_mem_append.mpr
    ⟨isVisible_textChars name, List.forall_mem_cons.mpr ⟨by decide, visible⟩⟩

private theorem isVisible_moreFieldsChars {fields : List (String × Json)}
    (each : ∀ field ∈ fields, ∀ c ∈ chars field.2, IsVisible c) :
    ∀ c ∈ moreFieldsChars fields, IsVisible c := by
  induction fields with
  | nil =>
      rw [moreFieldsChars]
      exact List.forall_mem_nil _
  | cons field fields ih =>
      obtain ⟨first, others⟩ := List.forall_mem_cons.mp each
      rw [moreFieldsChars]
      exact List.forall_mem_append.mpr ⟨List.forall_mem_cons.mpr
        ⟨by decide, isVisible_fieldChars field.1 first⟩, ih others⟩

private theorem isVisible_fieldsChars {fields : List (String × Json)}
    (each : ∀ field ∈ fields, ∀ c ∈ chars field.2, IsVisible c) :
    ∀ c ∈ fieldsChars fields, IsVisible c := by
  cases fields with
  | nil =>
      rw [fieldsChars]
      exact List.forall_mem_nil _
  | cons field fields =>
      obtain ⟨first, others⟩ := List.forall_mem_cons.mp each
      rw [fieldsChars]
      exact List.forall_mem_append.mpr
        ⟨isVisible_fieldChars field.1 first, isVisible_moreFieldsChars others⟩

/-- Compact text holds no control characters. -/
theorem isVisible_chars (json : Json) : ∀ c ∈ chars json, IsVisible c := by
  induction json using JsonTree.induction with
  | null => exact isVisible_of_all rfl
  | bool value => cases value <;> exact isVisible_of_all rfl
  | number value =>
      intro c member
      have plus : ∀ c ∈ realLayout.positiveExponent, Number.IsTextChar c :=
        List.forall_mem_singleton.mpr (.inr (by decide))
      exact (isTextChar_of_mem_numberChars plus value c member).isVisible
  | text value =>
      rw [chars]
      exact isVisible_textChars value
  | array items ih =>
      rw [chars]
      exact List.forall_mem_append.mpr
        ⟨List.forall_mem_cons.mpr ⟨by decide, isVisible_itemsChars ih⟩, isVisible_of_all rfl⟩
  | object fields ih =>
      rw [chars]
      exact List.forall_mem_append.mpr
        ⟨List.forall_mem_cons.mpr ⟨by decide, isVisible_fieldsChars ih⟩, isVisible_of_all rfl⟩

end Json

end ColumnSearch
