import ColumnSearch.Yaml.Lexer
import ColumnSearch.Yaml.Printer
import Mathlib.Data.String.Basic

/-!
# Reading plain YAML scalars back

Writing escapes special characters, and among the others only the blank ends a word. A text of such
characters that holds no mark is read as one plain scalar, up to the colon of a key or to the end of
its line.
-/

namespace ColumnSearch.Yaml

namespace Position

variable (position : Position)

@[simp] private theorem advance_nil : position.advance [] = position := rfl

@[simp] private theorem advance_cons (c : Char) (cs : List Char) :
    position.advance (c :: cs) = (position.next c).advance cs := rfl

/-- Advancing over two texts is advancing over one after the other. -/
@[simp] theorem advance_append (cs more : List Char) :
    position.advance (cs ++ more) = (position.advance cs).advance more :=
  List.foldl_append

@[simp] private theorem column_next (c : Char) :
    (position.next c).column = position.column + 1 := rfl

/-- The column grows by one for every character. -/
@[simp] theorem column_advance (cs : List Char) :
    (position.advance cs).column = position.column + cs.length := by
  induction cs generalizing position with
  | nil => rfl
  | cons c cs ih =>
      rw [advance_cons, ih, column_next, List.length_cons]
      omega

/-- Advancing stays on the line. -/
@[simp] theorem line_advance (cs : List Char) : (position.advance cs).line = position.line := by
  induction cs generalizing position with
  | nil => rfl
  | cons c cs ih => exact ih (position.next c)

/-- The offset grows by the number of bytes. -/
@[simp] theorem offset_advance (cs : List Char) :
    (position.advance cs).offset = position.offset + String.utf8Len cs := by
  induction cs generalizing position with
  | nil => rfl
  | cons c cs ih =>
      rw [advance_cons, ih, String.utf8Len_cons, Nat.add_comm (String.utf8Len cs)]
      exact Nat.add_assoc _ _ _

end Position

section Ordinary

variable {c : Char}

/-- An ordinary character differs from every special one. -/
theorem ne_of_isSpecial_eq_false (ordinary : isSpecial c = false) {d : Char}
    (special : isSpecial d = true) : c ≠ d := by
  rintro rfl
  rw [ordinary] at special
  cases special

/-- An ordinary character breaks no line. -/
theorem isBreak_of_isSpecial_eq_false (ordinary : isSpecial c = false) : isBreak c = false := by
  have feed : c ≠ '\n' := ne_of_isSpecial_eq_false ordinary rfl
  simp only [isSpecial, List.contains_cons, Bool.or_eq_false_iff, beq_eq_false_iff_ne] at ordinary
  simp only [isBreak, Bool.or_eq_false_iff, beq_eq_false_iff_ne]
  exact ⟨⟨feed, ordinary.2.1⟩, ordinary.2.2.1⟩

/-- An ordinary character moves the position as any other in a line. -/
theorem nextSpace_of_isSpecial_eq_false (ordinary : isSpecial c = false) (position : Position) :
    position.nextSpace c = position.next c := by
  simp [Position.nextSpace, isBreak_of_isSpecial_eq_false ordinary]

/-- Among ordinary characters only the blank ends a word. -/
theorem endsWord_of_isSpecial_eq_false (ordinary : isSpecial c = false) (other : c ≠ ' ') :
    endsWord (some c) = false := by
  have tab : c ≠ '\t' := ne_of_isSpecial_eq_false ordinary rfl
  simp [endsWord, isBlank, other, tab, isBreak_of_isSpecial_eq_false ordinary]

/-- An ordinary character is printable. -/
theorem isPrintable_of_isSpecial_eq_false (ordinary : isSpecial c = false) :
    isPrintable c = true := by
  simp only [isSpecial, List.contains_cons, List.contains_nil, Bool.or_eq_false_iff,
    Bool.and_eq_false_iff, decide_eq_false_iff_not, beq_eq_false_iff_ne] at ordinary
  simp only [isPrintable, Bool.or_eq_true, Bool.and_eq_true, decide_eq_true_eq]
  omega

end Ordinary

/-- A plain text goes on through the words and blanks of a line up to what stands after it. -/
theorem takePlain_append {margin : Nat} (low : margin ≤ 1) (rest : List Char) {cs : List Char}
    (filled : cs ≠ []) (ordinary : ∀ c ∈ cs, isSpecial c = false) (marks : holdsMark cs = false)
    (ends : cs.getLast? ≠ some ' ') (blanks : List Char) (position : Position)
    (starts : blanks ≠ [] → cs.head? ≠ some '#' ∧ 1 ≤ position.column) :
    takePlain false margin (.blanks blanks) position (cs ++ rest) =
      (takePlain false margin .empty (position.advance cs) rest).map fun (text, after) =>
        (blanks ++ cs ++ text, after) := by
  induction cs generalizing blanks position with
  | nil => exact absurd rfl filled
  | cons c cs ih =>
      obtain ⟨first, others⟩ := List.forall_mem_cons.mp ordinary
      simp only [holdsMark, Bool.or_eq_false_iff, Bool.and_eq_false_iff] at marks
      obtain ⟨⟨colon, sign⟩, marks⟩ := marks
      by_cases blank : c = ' '
      · -- A blank joins the gap before the next word, and there is one.
        subst blank
        have more : cs ≠ [] := by
          rintro rfl
          exact ends rfl
        have unsigned : cs.head? ≠ some '#' := by
          simpa [isBlankOrEnd] using sign
        rw [List.getLast?_cons_of_ne_nil more] at ends
        rw [List.cons_append, takePlain, if_pos (show endsWord (some ' ') = true from rfl),
          if_neg (by simp)]
        rw [show (Gap.blanks blanks).push ' ' = .blanks (blanks ++ [' ']) from rfl,
          show position.nextSpace ' ' = position.next ' ' from rfl,
          ih more others marks ends _ _ (fun _ => ⟨unsigned, by simp⟩)]
        simp
      · have inside : endsWord (some c) = false := endsWord_of_isSpecial_eq_false first blank
        have goes : ¬ (Gap.blanks blanks ≠ .empty ∧
            stopsPlain false margin position (c :: (cs ++ rest)) = true) := by
          rintro ⟨gap, stop⟩
          obtain ⟨number, column⟩ := starts fun none => gap (by rw [none]; rfl)
          simp only [List.head?_cons, ne_eq, Option.some.injEq] at number
          simp [stopsPlain, number] at stop
          omega
        have word : ¬ ((c = ':' ∧ endsWord (cs ++ rest).head? = true) ∨
            ((false : Bool) = true ∧ isFlowMark c = true)) := by
          rintro (⟨rfl, last⟩ | ⟨flow, -⟩)
          · simp only [beq_self_eq_true, Bool.true_eq_false, false_or] at colon
            cases cs with
            | nil => cases colon
            | cons d cs =>
                simp only [List.head?_cons, isBlankOrEnd, Bool.or_eq_false_iff,
                  beq_eq_false_iff_ne] at colon
                rw [List.cons_append, List.head?_cons, endsWord_of_isSpecial_eq_false
                  (List.forall_mem_cons.mp others).1 colon.1] at last
                cases last
          · cases flow
        rw [List.cons_append, takePlain, if_neg (by simp [inside]), if_neg goes, if_neg (by simp),
          if_neg word, Position.advance_cons]
        by_cases more : cs = []
        · subst more
          simp [Gap.text]
        · rw [List.getLast?_cons_of_ne_nil more] at ends
          rw [Gap.empty, ih more others marks ends _ _ (fun none => absurd rfl none),
            Option.map_map]
          simp [Gap.text, Gap.empty, Function.comp_def]

/-- The text is over, or starts with neither a blank nor a comment. -/
def StartsToken (cs : List Char) : Prop :=
  ∀ c ∈ cs.head?, endsWord (some c) = false ∧ c ≠ '#' ∧ isOrderMark c = false

/-- A character that is no blank, number sign or order mark starts a token. -/
theorem startsToken_cons {c : Char} (word : endsWord (some c) = false) (number : c ≠ '#')
    (order : isOrderMark c = false) (rest : List Char) : StartsToken (c :: rest) := by
  rintro _ ⟨⟩
  exact ⟨word, number, order⟩

/-- A text that can stand as a plain scalar. -/
structure IsBare (cs : List Char) : Prop where
  filled : cs ≠ []
  ordinary : ∀ c ∈ cs, isSpecial c = false
  starts : startsLikeMark cs = false
  marks : holdsMark cs = false
  ends : cs.getLast? ≠ some ' '

namespace IsBare

variable {cs : List Char} {margin : Nat}

private theorem takePlain_append (bare : IsBare cs) (low : margin ≤ 1) (position : Position)
    (rest : List Char) :
    takePlain false margin .empty position (cs ++ rest) =
      (takePlain false margin .empty (position.advance cs) rest).map fun (text, after) =>
        (cs ++ text, after) :=
  Yaml.takePlain_append low rest bare.filled bare.ordinary bare.marks bare.ends [] position
    (fun none => absurd rfl none)

/-- A plain scalar ends before the colon of a key. -/
theorem takePlain_key (bare : IsBare cs) (low : margin ≤ 1) (position : Position)
    (rest : List Char) :
    takePlain false margin .empty position (cs ++ ':' :: ' ' :: rest) =
      some (cs, .empty, ⟨position.advance cs, ':' :: ' ' :: rest⟩) := by
  rw [bare.takePlain_append low, takePlain, if_neg (by decide), if_neg (by simp),
    if_neg (by simp), if_pos (.inl ⟨rfl, rfl⟩)]
  simp

/-- A plain scalar ends with its line if the next one starts in the column of the block. -/
theorem takePlain_line (bare : IsBare cs) (position : Position) {rest : List Char}
    (token : StartsToken rest) :
    takePlain false 1 .empty position (cs ++ '\n' :: rest) =
      some (cs, .breaks (some '\n') [], ⟨(position.advance cs).nextLine, rest⟩) := by
  rw [bare.takePlain_append (Nat.le_refl 1), takePlain,
    if_pos (show endsWord (some '\n') = true from rfl), if_neg (by simp)]
  have stop : takePlain false 1 (Gap.empty.push '\n') ((position.advance cs).nextSpace '\n') rest =
      some ([], .breaks (some '\n') [], ⟨(position.advance cs).nextLine, rest⟩) := by
    cases rest with
    | nil => rfl
    | cons c rest =>
        rw [takePlain, if_neg (by simp [(token c rfl).1]), if_pos ⟨by decide, rfl⟩]
        rfl
  rw [stop]
  simp

end IsBare

end ColumnSearch.Yaml
