import ColumnSearch.Proofs.Yaml.Plain

/-!
# Reading quoted YAML scalars back

What is written between quotes is read character by character: blanks wait for the word after them,
a single quote is doubled, and an escape names its character by a letter or by its code. So a text
is read back if each of its characters is.
-/

namespace ColumnSearch.Yaml

section Quoted

variable {quote c : Char} {blanks : List Char} {position : Position}

/-- Blanks between quotes join the gap before the next word. -/
theorem takeQuoted_blank (rest : List Char) :
    takeQuoted quote (.text (.blanks blanks)) position (' ' :: rest) =
      takeQuoted quote (.text (.blanks (blanks ++ [' ']))) (position.next ' ') rest := by
  rw [takeQuoted.eq_def]
  dsimp only
  rw [if_pos (show endsWord (some ' ') = true from rfl)]
  exact Option.map_id'

/-- Between quotes, most characters stand for themselves. -/
theorem takeQuoted_char (ordinary : isSpecial c = false) (word : c ≠ ' ') (inside : c ≠ quote)
    (plain : ¬ (c = '\\' ∧ quote = '"')) (column : 1 ≤ position.column) (rest : List Char) :
    takeQuoted quote (.text (.blanks blanks)) position (c :: rest) =
      (takeQuoted quote (.text .empty) (position.next c) rest).map fun (text, after) =>
        (blanks ++ c :: text, after) := by
  rw [takeQuoted.eq_def]
  dsimp only
  rw [if_neg (by simp [endsWord_of_isSpecial_eq_false ordinary word]),
    if_neg (by omega), if_neg inside, if_neg plain]
  simp [nextSpace_of_isSpecial_eq_false ordinary, Gap.text]

/-- A quote that is not doubled ends the scalar. -/
theorem takeQuoted_close (mark : quote = '\x27' ∨ quote = '"') (column : 1 ≤ position.column)
    {rest : List Char} (single : rest.head? ≠ some '\x27') :
    takeQuoted quote (.text (.blanks blanks)) position (quote :: rest) =
      some (blanks, ⟨position.next quote, rest⟩) := by
  have word : endsWord (some quote) = false := by
    rcases mark with rfl | rfl <;> rfl
  rw [takeQuoted.eq_def]
  dsimp only
  rw [if_neg (by simp [word]), if_neg (by omega), if_pos rfl]
  cases rest with
  | nil => rfl
  | cons d rest =>
      have once : ¬ (quote = '\x27' ∧ d = quote) := by
        rintro ⟨rfl, rfl⟩
        exact single rfl
      simp [once, Gap.text]

/-- If each character is read back from what is written for it, so is the whole text. -/
theorem takeQuoted_flatMap (mark : quote = '\x27' ∨ quote = '"') {write : Char → List Char}
    (blank : write ' ' = [' ']) {rest : List Char} (single : rest.head? ≠ some '\x27')
    {cs : List Char}
    (reads : ∀ c ∈ cs, c ≠ ' ' → ∀ blanks position rest, 1 ≤ Position.column position →
      takeQuoted quote (.text (.blanks blanks)) position (write c ++ rest) =
        (takeQuoted quote (.text .empty) (position.advance (write c)) rest).map
          fun (text, after) => (blanks ++ c :: text, after))
    (column : 1 ≤ position.column) :
    takeQuoted quote (.text (.blanks blanks)) position (cs.flatMap write ++ quote :: rest) =
      some (blanks ++ cs, ⟨position.advance (cs.flatMap write ++ [quote]), rest⟩) := by
  induction cs generalizing blanks position with
  | nil => simpa using takeQuoted_close mark column single
  | cons c cs ih =>
      obtain ⟨first, others⟩ := List.forall_mem_cons.mp reads
      rw [List.flatMap_cons, List.append_assoc]
      by_cases word : c = ' '
      · subst word
        rw [blank, List.singleton_append, takeQuoted_blank, ih others (by simp)]
        simp
      · rw [first word _ _ _ column, Gap.empty, ih others (by simp; omega)]
        simp

/-- A quote between single quotes is written twice. -/
theorem takeQuoted_twice (column : 1 ≤ position.column) (rest : List Char) :
    takeQuoted '\x27' (.text (.blanks blanks)) position ('\x27' :: '\x27' :: rest) =
      (takeQuoted '\x27' (.text .empty) ((position.next '\x27').next '\x27') rest).map
        fun (text, after) => (blanks ++ '\x27' :: text, after) := by
  rw [takeQuoted.eq_def]
  dsimp only
  rw [if_neg (by decide), if_neg (by omega), if_pos rfl]
  rfl

/-- The digits of a code stand for its character. -/
theorem takeQuoted_code {code : Nat} (char : ofCode? code = some c) {digits : List Char}
    (filled : digits ≠ []) {value : Nat}
    (spells : digits.foldlM (fun value c => (digit? 16 c).map (16 * value + ·)) value = some code)
    (ordinary : ∀ d ∈ digits, isSpecial d = false) (rest : List Char) :
    takeQuoted quote (.code digits.length value) position (digits ++ rest) =
      (takeQuoted quote (.text .empty) (position.advance digits) rest).map fun (text, after) =>
        (c :: text, after) := by
  induction digits generalizing value position with
  | nil => exact absurd rfl filled
  | cons d digits ih =>
      obtain ⟨first, others⟩ := List.forall_mem_cons.mp ordinary
      rw [List.foldlM_cons] at spells
      obtain ⟨_, next, spells⟩ := Option.bind_eq_some_iff.mp spells
      obtain ⟨digit, read, rfl⟩ := Option.map_eq_some_iff.mp next
      rw [List.cons_append, takeQuoted.eq_def]
      dsimp only
      rw [read, nextSpace_of_isSpecial_eq_false first]
      by_cases last : digits = []
      · subst last
        obtain rfl : 16 * value + digit = code := Option.some.inj spells
        simp [char]
      · have due : (d :: digits).length ≠ 1 := by
          simpa using last
        rw [Option.bind_eq_bind, Option.bind_some, if_neg due, List.length_cons,
          Nat.add_sub_cancel, ih last spells others]
        simp [Function.comp_def]

/-- The text is an escape of the character: a letter that names it, or one that announces its
code. -/
def isEscape (c : Char) : List Char → Bool
  | ['\\', d] => codeLength? d == none && unescape? d == some c
  | '\\' :: d :: digits => codeLength? d == some digits.length && natural? 16 digits == some c.toNat
  | _ => false

/-- Between double quotes, an escape stands for its character. -/
theorem takeQuoted_escape {written : List Char} (escape : isEscape c written = true)
    (ordinary : ∀ d ∈ written, isSpecial d = false) (column : 1 ≤ position.column)
    (rest : List Char) :
    takeQuoted '"' (.text (.blanks blanks)) position (written ++ rest) =
      (takeQuoted '"' (.text .empty) (position.advance written) rest).map fun (text, after) =>
        (blanks ++ c :: text, after) := by
  have start (more : List Char) :
      takeQuoted '"' (.text (.blanks blanks)) position ('\\' :: more) =
        (takeQuoted '"' .escape (position.next '\\') more).map fun (text, after) =>
          (blanks ++ text, after) := by
    rw [takeQuoted.eq_def]
    dsimp only
    rw [if_neg (by decide), if_neg (by omega), if_neg (by decide), if_pos (by decide)]
    rfl
  unfold isEscape at escape
  split at escape
  · next d =>
    simp only [Bool.and_eq_true, beq_iff_eq] at escape
    have letter : isSpecial d = false := ordinary d (by simp)
    rw [List.cons_append, start, List.cons_append, List.nil_append, takeQuoted.eq_def]
    dsimp only
    rw [if_neg (by simp [isBreak_of_isSpecial_eq_false letter]), escape.1, escape.2,
      nextSpace_of_isSpecial_eq_false letter]
    simp [Function.comp_def]
  · next d digits _ =>
    simp only [Bool.and_eq_true, beq_iff_eq] at escape
    obtain ⟨length, spells⟩ := escape
    have letter : isSpecial d = false := ordinary d (by simp)
    have filled : digits ≠ [] := by
      rintro rfl
      cases spells
    have char : ofCode? c.toNat = some c := by
      rw [ofCode?, if_pos (show c.toNat.isValidChar from c.valid), Char.ofNat_toNat]
    have folded : digits.foldlM (fun value c => (digit? 16 c).map (16 * value + ·)) 0 =
        some c.toNat := by
      cases digits with
      | nil => exact absurd rfl filled
      | cons d digits => exact spells
    rw [List.cons_append, start, List.cons_append, takeQuoted.eq_def]
    dsimp only
    rw [if_neg (by simp [isBreak_of_isSpecial_eq_false letter]), length,
      nextSpace_of_isSpecial_eq_false letter]
    dsimp only
    rw [takeQuoted_code char filled folded fun d member => ordinary d (by simp [member])]
    simp [Function.comp_def]
  · cases escape

end Quoted

/-- The codes of the special characters. -/
def specialCodes : List Nat :=
  List.range 0x20 ++ List.range' 0x7F 0x21 ++ [0x2028, 0x2029, 0xFEFF, 0xFFFE, 0xFFFF]

/-- What can be checked for all special characters holds of each. -/
theorem forall_isSpecial (check : Char → Bool)
    (holds : specialCodes.all (fun code => check (Char.ofNat code)) = true) {c : Char}
    (special : isSpecial c = true) : check c = true := by
  have member : c.toNat ∈ specialCodes := by
    simp only [isSpecial, List.contains_iff_mem, Bool.or_eq_true, Bool.and_eq_true,
      decide_eq_true_eq] at special
    simp only [specialCodes, List.mem_append, List.mem_range, List.mem_range'_1]
    rcases special with (low | high) | other
    · exact .inl (.inl low)
    · exact .inl (.inr ⟨high.1, by omega⟩)
    · exact .inr other
  have checked := List.all_eq_true.mp holds _ member
  rwa [Char.ofNat_toNat] at checked

/-- A character that stands for itself between double quotes. -/
theorem escape_eq_singleton {c : Char} (ordinary : isSpecial c = false)
    (inside : c ≠ '"') (plain : c ≠ '\\') : escape c = [c] := by
  simp [escape, ordinary, inside, plain]

/-- The escape of a character that needs one is read as that character. -/
theorem isEscape_escape {c : Char} (special : c = '"' ∨ c = '\\' ∨ isSpecial c = true) :
    isEscape c (escape c) = true := by
  rcases special with rfl | rfl | special
  · rfl
  · rfl
  · exact forall_isSpecial (fun c => isEscape c (escape c)) (by decide) special

/-- Escapes are made of ordinary characters. -/
theorem isSpecial_of_mem_escape (c : Char) : ∀ d ∈ escape c, isSpecial d = false := by
  by_cases special : isSpecial c = true
  · have checked := forall_isSpecial (fun c => (escape c).all (!isSpecial ·)) (by decide) special
    simpa using checked
  · unfold escape
    split
    · refine List.forall_mem_cons.mpr ⟨rfl, List.forall_mem_singleton.mpr ?_⟩
      simpa using special
    · exact List.forall_mem_singleton.mpr (by simpa using special)

end ColumnSearch.Yaml
