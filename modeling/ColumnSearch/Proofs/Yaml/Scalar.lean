import ColumnSearch.Proofs.Number.Text
import ColumnSearch.Proofs.Yaml.Quoted

/-!
# Written YAML scalars

A scalar is written on one line, plain or between quotes, and spells its text: a text spells itself,
and null, a flag or a number spells what JSON writes for it, but for the sign of an exponent.
-/

namespace ColumnSearch.Yaml

/-- The characters of a scalar, the style they are in, and the text they spell. -/
inductive Written : List Char → Style → List Char → Prop where
  | plain {cs : List Char} (bare : IsBare cs) : Written cs .plain cs
  | quoted {quote : Char} {body cs : List Char} (mark : quote = '\x27' ∨ quote = '"')
    (ordinary : ∀ c ∈ body, isSpecial c = false)
    (reads : ∀ position rest, 1 ≤ Position.column position → List.head? rest ≠ some '\x27' →
      takeQuoted quote (.text .empty) position (body ++ quote :: rest) =
        some (cs, ⟨position.advance (body ++ [quote]), rest⟩)) :
    Written (quote :: body ++ [quote]) .quoted cs

private theorem written_single {cs : List Char} (ordinary : ∀ c ∈ cs, isSpecial c = false) :
    Written ('\x27' :: cs.flatMap (fun c => if c = '\x27' then [c, c] else [c]) ++ ['\x27'])
      .quoted cs := by
  refine .quoted (.inl rfl) (List.forall_mem_flatMap.mpr fun c member => ?_)
    fun position rest column single => ?_
  · split
    · exact List.forall_mem_cons.mpr
        ⟨ordinary c member, List.forall_mem_singleton.mpr (ordinary c member)⟩
    · exact List.forall_mem_singleton.mpr (ordinary c member)
  · refine takeQuoted_flatMap (.inl rfl) rfl single (fun c member word blanks position rest column
      => ?_) column
    split
    · next quote =>
      subst quote
      exact takeQuoted_twice column rest
    · next inside =>
      exact takeQuoted_char (ordinary c member) word inside (by simp) column rest

private theorem written_double (cs : List Char) :
    Written ('"' :: cs.flatMap escape ++ ['"']) .quoted cs := by
  refine .quoted (.inr rfl)
    (List.forall_mem_flatMap.mpr fun c _ => isSpecial_of_mem_escape c)
    fun position rest column single => ?_
  refine takeQuoted_flatMap (.inr rfl) rfl single (fun c _ word blanks position rest column => ?_)
    column
  by_cases special : c = '"' ∨ c = '\\' ∨ isSpecial c = true
  · exact takeQuoted_escape (isEscape_escape special) (isSpecial_of_mem_escape c) column rest
  · simp only [not_or, Bool.not_eq_true] at special
    obtain ⟨inside, plain, ordinary⟩ := special
    rw [escape_eq_singleton ordinary inside plain]
    exact takeQuoted_char ordinary word inside (fun escape => plain escape.1) column rest

/-- The style a text is written in. -/
def textStyle (s : String) : Style :=
  if s.toList.any isSpecial then .quoted else if isPlain s then .plain else .quoted

private theorem isBare_of_isPlain {s : String} (ordinary : ∀ c ∈ s.toList, isSpecial c = false)
    (plain : isPlain s = true) : IsBare s.toList := by
  simp only [isPlain, isAmbiguous, Bool.and_eq_true, Bool.not_eq_true', Bool.or_eq_false_iff,
    bne_iff_ne] at plain
  obtain ⟨⟨⟨ambiguous, starts⟩, marks⟩, ends⟩ := plain
  refine ⟨?_, ordinary, starts, marks, ends⟩
  intro empty
  simp [String.toList_eq_nil_iff.mp empty] at ambiguous

/-- Every text is written as a scalar that spells it. -/
theorem written_textChars (s : String) : Written (textChars s) (textStyle s) s.toList := by
  unfold textChars textStyle
  by_cases special : s.toList.any isSpecial = true
  · rw [if_pos special, if_pos special]
    exact written_double s.toList
  · rw [if_neg special, if_neg special]
    have ordinary : ∀ c ∈ s.toList, isSpecial c = false := by
      simpa using special
    split
    · next plain => exact .plain (isBare_of_isPlain ordinary plain)
    · exact written_single ordinary

private theorem utf8Len_flatMap_le {write : Char → List Char} {cs : List Char}
    (each : ∀ c ∈ cs, String.utf8Len (write c) ≤ 4 * c.utf8Size) :
    String.utf8Len (cs.flatMap write) ≤ 4 * String.utf8Len cs := by
  induction cs with
  | nil => exact Nat.le_refl 0
  | cons c cs ih =>
      obtain ⟨first, others⟩ := List.forall_mem_cons.mp each
      have rest := ih others
      rw [List.flatMap_cons, String.utf8Len_append, String.utf8Len_cons]
      omega

private theorem utf8Len_escape_le (c : Char) : String.utf8Len (escape c) ≤ 4 * c.utf8Size := by
  by_cases special : isSpecial c = true
  · have checked := forall_isSpecial
      (fun c => decide (String.utf8Len (escape c) ≤ 4 * c.utf8Size)) (by decide) special
    simpa using checked
  · by_cases mark : c = '"' ∨ c = '\\'
    · rcases mark with rfl | rfl <;> decide
    · rw [not_or] at mark
      rw [escape_eq_singleton (by simpa using special) mark.1 mark.2, String.utf8Len_cons,
        String.utf8Len_nil]
      omega

/-- Quotes and escapes make a text at most four times as long, apart from the quotes around it. -/
theorem utf8Len_textChars_le (s : String) :
    String.utf8Len (textChars s) ≤ 4 * s.utf8ByteSize + 2 := by
  rw [← String.utf8Len_toList]
  have twice (c : Char) : String.utf8Len (if c = '\x27' then [c, c] else [c]) ≤ 4 * c.utf8Size := by
    have size := c.utf8Size_pos
    split <;> simp only [String.utf8Len_cons, String.utf8Len_nil] <;> omega
  have quoted (quote : Char) (size : quote.utf8Size = 1) (body : List Char) :
      String.utf8Len (quote :: body ++ [quote]) = String.utf8Len body + 2 := by
    rw [List.cons_append, String.utf8Len_cons, String.utf8Len_append, String.utf8Len_cons, size]
    rfl
  unfold textChars
  split
  · rw [quoted '"' rfl]
    have := utf8Len_flatMap_le fun c (_ : c ∈ s.toList) => utf8Len_escape_le c
    omega
  · split
    · omega
    · rw [quoted '\x27' rfl]
      have := utf8Len_flatMap_le fun c (_ : c ∈ s.toList) => twice c
      omega

/-- A text of words alone can stand as a plain scalar if it does not look like a mark. -/
theorem isBare_of_words {cs : List Char} (filled : cs ≠ []) (starts : startsLikeMark cs = false)
    (words : ∀ c ∈ cs, isSpecial c = false ∧ c ≠ ' ' ∧ c ≠ ':' ∧ c ≠ '#') : IsBare cs := by
  refine ⟨filled, fun c member => (words c member).1, starts, ?_, fun last => ?_⟩
  · clear filled starts
    induction cs with
    | nil => rfl
    | cons c cs ih =>
        obtain ⟨⟨ordinary, blank, colon, -⟩, others⟩ := List.forall_mem_cons.mp words
        have tab : c ≠ '\t' := ne_of_isSpecial_eq_false ordinary rfl
        simp [holdsMark, isBlankOrEnd, blank, colon, tab, ih others]
  · exact (words ' ' (List.mem_of_getLast? last)).2.1 rfl

/-- A digit is none of the characters that are not digits. -/
theorem ne_of_isDigit {c d : Char} (digit : c.isDigit = true) (mark : d.isDigit = false) :
    c ≠ d := by
  rintro rfl
  rw [digit] at mark
  cases mark

private theorem isSpecial_of_isDigit {c : Char} (digit : c.isDigit = true) :
    isSpecial c = false := by
  have range : 48 ≤ c.toNat ∧ c.toNat ≤ 57 := Char.isDigit_iff_toNat.mp digit
  simp only [isSpecial, List.contains_cons, List.contains_nil, Bool.or_false,
    Bool.or_eq_false_iff, Bool.and_eq_false_iff, decide_eq_false_iff_not, beq_eq_false_iff_ne]
  omega

private theorem startsLikeMark_of_isDigit {c : Char} (digit : c.isDigit = true) (rest : List Char) :
    startsLikeMark (c :: rest) = false := by
  have other {d : Char} (mark : d.isDigit = false) : c ≠ d := ne_of_isDigit digit mark
  have indicator : c ∉ leadingIndicators := fun member => by
    have none : leadingIndicators.all (!·.isDigit) = true := rfl
    simpa [digit] using List.all_eq_true.mp none c member
  unfold startsLikeMark
  split
  · next same => exact absurd (List.cons.inj same).1 (other rfl)
  · next same => exact absurd (List.cons.inj same).1 (other rfl)
  · next same => exact absurd (List.cons.inj same).1 (other rfl)
  · next same =>
    obtain ⟨rfl, -⟩ := List.cons.inj same
    simp [indicator, other (d := '-') rfl, other (d := '?') rfl, other (d := ':') rfl]
  · next same => cases same

private theorem startsLikeMark_minus {c : Char} (digit : c.isDigit = true) (rest : List Char) :
    startsLikeMark ('-' :: c :: rest) = false := by
  have other {d : Char} (mark : d.isDigit = false) : c ≠ d := ne_of_isDigit digit mark
  have within : isBlankOrEnd (some c) = false := by
    simp [isBlankOrEnd, other (d := ' ') rfl, other (d := '\t') rfl]
  unfold startsLikeMark
  split
  · next same => exact absurd (List.cons.inj (List.cons.inj same).2).1 (other rfl)
  · next same => cases same
  · next same => cases same
  · next same =>
    obtain ⟨rfl, rfl⟩ := List.cons.inj same
    simp [within, leadingIndicators]
  · next same => cases same

private theorem isBare_numberChars (number : Number) :
    IsBare (Json.numberChars realLayout number) := by
  have signs : ∀ c ∈ realLayout.positiveExponent, Number.IsTextChar c := List.forall_mem_nil _
  have characters := Json.isTextChar_of_mem_numberChars signs number
  obtain ⟨sign, _, text, minus, digit, rest, rfl, first, -⟩ :=
    Json.exists_sign_numberChars signs number
  refine isBare_of_words ?_ ?_ fun c member => ?_
  · rw [text]
    simp
  · rcases minus with rfl | rfl
    · rw [text]
      exact startsLikeMark_of_isDigit first rest
    · rw [text]
      exact startsLikeMark_minus first rest
  · rcases characters c member with digit | mark
    · exact ⟨isSpecial_of_isDigit digit, ne_of_isDigit digit rfl, ne_of_isDigit digit rfl,
        ne_of_isDigit digit rfl⟩
    · simp only [Number.textMarks, List.mem_cons, List.not_mem_nil, or_false] at mark
      rcases mark with rfl | rfl | rfl | rfl <;> decide

end ColumnSearch.Yaml

namespace ColumnSearch

/-- A JSON value without parts. Its number is one that text can spell. -/
inductive Json.Scalar where
  | null
  | bool (value : Bool)
  | number (value : Number) (canonical : value.Canonical)
  | text (value : String)

/-- The scalar as a value. -/
def Json.Scalar.toJson : Json.Scalar → Json
  | null => .null
  | bool value => .bool value
  | number value _ => .number value
  | text value => .text value

/-- The object with the given scalars as the values of its fields. -/
def Json.ofScalars (fields : List (String × Json.Scalar)) : Json :=
  .object (fields.map fun (name, value) => (name, value.toJson))

namespace Yaml

/-- The text that a scalar spells. -/
def scalarText : Json.Scalar → String
  | .null => "null"
  | .bool value => if value then "true" else "false"
  | .number value _ => String.ofList (Json.numberChars realLayout value)
  | .text value => value

/-- The characters of a scalar as it is written. -/
def scalarChars : Json.Scalar → List Char
  | .text value => textChars value
  | value => (scalarText value).toList

/-- The style a scalar is written in. -/
def scalarStyle : Json.Scalar → Style
  | .text value => textStyle value
  | _ => .plain

/-- A scalar is written on one line. -/
theorem lines_toJson (value : Json.Scalar) : lines value.toJson = [scalarChars value] := by
  cases value with
  | null => rfl
  | bool value => cases value <;> rfl
  | number value _ => simp [Json.Scalar.toJson, lines, scalarChars, scalarText]
  | text value => rfl

/-- Every scalar is written so that it spells its text. -/
theorem written_scalarChars (value : Json.Scalar) :
    Written (scalarChars value) (scalarStyle value) (scalarText value).toList := by
  have word {cs : List Char} (filled : cs ≠ []) (starts : startsLikeMark cs = false)
      (words : cs.all (fun c => !isSpecial c && c != ' ' && c != ':' && c != '#') = true) :
      Written cs .plain cs :=
    .plain (isBare_of_words filled starts (by simpa [and_assoc] using words))
  cases value with
  | null => exact word (show "null".toList ≠ [] by decide) rfl rfl
  | bool value =>
      cases value with
      | true => exact word (show "true".toList ≠ [] by decide) rfl rfl
      | false => exact word (show "false".toList ≠ [] by decide) rfl rfl
  | number value _ =>
      simp only [scalarChars, scalarText, String.toList_ofList]
      exact .plain (isBare_numberChars value)
  | text value => exact written_textChars value

end Yaml

end ColumnSearch
