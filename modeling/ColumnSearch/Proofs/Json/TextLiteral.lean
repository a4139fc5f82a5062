import ColumnSearch.Json.Printer
import ColumnSearch.Json.Reader
import Mathlib.Tactic.SplitIfs

/-!
# Text literals read back

A text between quotes is read to its closing quote, and as that text, whatever characters it holds.
-/

namespace ColumnSearch.JsonDocument

/-- A piece that denotes one character, whatever follows it. -/
def Piece.Denotes (piece : Piece) (c : Char) : Prop :=
  ∀ more, denote? (piece :: more) = (denote? more).map (c :: ·)

private theorem Piece.denotes_char (c : Char) : (Piece.char c).Denotes c := by
  intro more
  rw [denote?]

/-- A code unit below the surrogates denotes the character with this code. -/
theorem Piece.denotes_unit {code : Nat} (low : code < 0xD800) :
    (Piece.unit code).Denotes (Char.ofNat code) := by
  have notHigh : ¬(0xD800 ≤ code ∧ code < 0xDC00) := by omega
  have notLow : ¬(0xDC00 ≤ code ∧ code < 0xE000) := by omega
  have notSurrogate : ¬(0xD800 ≤ code ∧ code < 0xE000) := by omega
  intro more
  match more with
  | [] => simp [denote?, notSurrogate]
  | .char _ :: _ => simp [denote?, notSurrogate]
  | .unit _ :: _ => rw [denote?, if_neg notHigh, if_neg notLow]

/-- A text that starts like the escape of a character starts with one piece, which denotes it. -/
def Escapes (escaped : List Char) (c : Char) : Prop :=
  ∃ piece : Piece, piece.Denotes c ∧ ∀ rest, pieces? (escaped ++ rest) =
    (pieces? rest).map fun (more, after) => (piece :: more, after)

private theorem escapes_letter {c letter : Char} (named : unescape? letter = some c)
    (other : letter ≠ 'u') : Escapes ['\\', letter] c := by
  refine ⟨.char c, Piece.denotes_char c, ?_⟩
  intro rest
  rw [List.cons_append, List.singleton_append, pieces?, named]
  · cases pieces? rest <;> rfl
  · intro a b c d after same
    cases same
    exact absurd rfl other

private theorem hexUnit?_control {code : Nat} (control : code < 0x20) :
    hexUnit? '0' '0' (Nat.digitChar (code / 16)) (Nat.digitChar (code % 16)) = some code := by
  have every : ∀ code < 0x20,
      hexUnit? '0' '0' (Nat.digitChar (code / 16)) (Nat.digitChar (code % 16)) = some code := by
    decide
  exact every code control

private theorem escapes_code {c : Char} (control : c.toNat < 0x20) :
    Escapes
      ['\\', 'u', '0', '0', Nat.digitChar (c.toNat / 16), Nat.digitChar (c.toNat % 16)] c := by
  refine ⟨.unit c.toNat, ?_, ?_⟩
  · have denotes := Piece.denotes_unit (show c.toNat < 0xD800 by omega)
    rwa [Char.ofNat_toNat] at denotes
  · intro rest
    simp only [List.cons_append, List.nil_append]
    rw [pieces?, hexUnit?_control control]
    cases pieces? rest <;> rfl

private theorem escapes_self {c : Char} (quote : c ≠ '"') (backslash : c ≠ '\\')
    (printable : 0x20 ≤ c.toNat) : Escapes [c] c := by
  refine ⟨.char c, Piece.denotes_char c, ?_⟩
  intro rest
  rw [List.singleton_append, pieces?, if_pos printable]
  · cases pieces? rest <;> rfl
  · exact quote
  · intro a b c d after same
    exact absurd same backslash
  · intro letter after same
    exact absurd same backslash

private theorem escapes_escape (c : Char) : Escapes (Json.escape c) c := by
  unfold Json.escape
  split_ifs with quote backslash backspace formFeed newLine carriageReturn tab control
  · subst quote
    exact escapes_letter rfl (by decide)
  · subst backslash
    exact escapes_letter rfl (by decide)
  · subst backspace
    exact escapes_letter rfl (by decide)
  · subst formFeed
    exact escapes_letter rfl (by decide)
  · subst newLine
    exact escapes_letter rfl (by decide)
  · subst carriageReturn
    exact escapes_letter rfl (by decide)
  · subst tab
    exact escapes_letter rfl (by decide)
  · exact escapes_code control
  · exact escapes_self quote backslash (Nat.not_lt.mp control)

private theorem exists_pieces (cs rest : List Char) :
    ∃ pieces, pieces? (cs.flatMap Json.escape ++ '"' :: rest) = some (pieces, rest) ∧
      denote? pieces = some cs := by
  induction cs with
  | nil => exact ⟨[], rfl, rfl⟩
  | cons c cs ih =>
      obtain ⟨pieces, read, denoted⟩ := ih
      obtain ⟨piece, denotes, reads⟩ := escapes_escape c
      refine ⟨piece :: pieces, ?_, ?_⟩
      · rw [List.flatMap_cons, List.append_assoc, reads, read]
        rfl
      · rw [denotes, denoted]
        rfl

/-- The text of a text is read to its closing quote, and as that text. -/
theorem lexeme?_textChars (s : String) (rest : List Char) :
    lexeme? (Json.textChars s ++ rest) = some (.text (some s), rest) := by
  obtain ⟨pieces, read, denoted⟩ := exists_pieces s.toList rest
  rw [Json.textChars, List.cons_append, List.cons_append, List.append_assoc, List.singleton_append]
  rw [lexeme?, read, Option.map_some]
  dsimp only
  rw [denoted, Option.map_some, String.ofList_toList]

end ColumnSearch.JsonDocument
