import ColumnSearch.Proofs.Binary64.Overflow
import ColumnSearch.Proofs.Predicate.Canonical
import ColumnSearch.Proofs.Token.Spelling

/-!
# What numeric literals denote

A numeric literal is a sign, if any, and then digits with at most one point among them. A literal
without a point denotes the narrowest word that holds its value. All others denote the double that
attracts their magnitude, and nothing if no double does.
-/

namespace ColumnSearch

namespace Number

open Numeral

/-- The text is a body behind at most one sign, and whether the sign is a minus. -/
inductive Signed : Bool → List Char → List Char → Prop where
  | bare (body : List Char) : Signed false body body
  | plus (body : List Char) : Signed false body ('+' :: body)
  | minus (body : List Char) : Signed true body ('-' :: body)

/-- Digits with at most one point among them, and at least one digit. -/
structure IsUnsigned (body : List Char) : Prop where
  characters : ∀ c ∈ body, c.isDigit = true ∨ c = '.'
  points : body.count '.' ≤ 1
  digit : ∃ c ∈ body, c.isDigit = true

/-- The digits before the point and, if there is one, behind it. -/
structure Parts (body whole : List Char) (fraction : Option (List Char)) : Prop where
  spelled : body = whole ++ fractionChars fraction
  whole_digits : ∀ c ∈ whole, c.isDigit = true
  fraction_digits : ∀ c ∈ fraction.getD [], c.isDigit = true
  nonempty : whole ++ fraction.getD [] ≠ []

variable {s : String} {cs body whole : List Char} {fraction : Option (List Char)} {negative : Bool}

private theorem signed_splitSign (cs : List Char) :
    Signed (splitSign cs).1 (splitSign cs).2 cs := by
  unfold splitSign
  split
  · exact .minus _
  · exact .plus _
  · exact .bare _

private theorem IsUnsigned.ne_sign (unsigned : IsUnsigned body) {c : Char} (member : c ∈ body) :
    ¬(c = '+' ∨ c = '-') := by
  rcases unsigned.characters c member with digit | rfl
  · rintro (rfl | rfl) <;> cases digit
  · decide

private theorem splitSign_of_signed (signed : Signed negative body cs)
    (unsigned : IsUnsigned body) :
    splitSign cs = (negative, body) := by
  cases signed with
  | plus => rfl
  | minus => rfl
  | bare =>
      unfold splitSign
      split
      · exact (unsigned.ne_sign List.mem_cons_self (.inr rfl)).elim
      · exact (unsigned.ne_sign List.mem_cons_self (.inl rfl)).elim
      · rfl

private theorem Signed.mem_point_iff (signed : Signed negative body cs) :
    '.' ∈ cs ↔ '.' ∈ body := by
  cases signed with
  | bare => rfl
  | plus => exact List.mem_cons.trans (or_iff_right nofun)
  | minus => exact List.mem_cons.trans (or_iff_right nofun)

private theorem Signed.negative_iff (signed : Signed negative body cs)
    (unsigned : IsUnsigned body) :
    negative = true ↔ cs.head? = some '-' := by
  cases signed with
  | plus => exact iff_of_false nofun nofun
  | minus => exact iff_of_true rfl rfl
  | bare =>
      refine iff_of_false nofun fun minus => ?_
      exact unsigned.ne_sign (List.mem_of_mem_head? minus) (.inr rfl)

private theorem head?_fractionChars_not_digit (fraction : Option (List Char)) :
    ∀ c ∈ (fractionChars fraction).head?, c.isDigit = false := by
  cases fraction with
  | none => exact nofun
  | some digits =>
      rintro _ ⟨⟩
      rfl

private theorem parts_of_splitPoint? (found : splitPoint? body = some (whole, fraction)) :
    Parts body whole fraction := by
  have split := List.takeWhile_append_dropWhile (p := Char.isDigit) (l := body)
  have digits : ∀ c ∈ body.takeWhile Char.isDigit, c.isDigit = true := fun _ =>
    List.mem_takeWhile_imp
  unfold splitPoint? at found
  dsimp only at found
  split at found
  · rename_i none
    rw [none, List.append_nil] at split
    split at found
    · cases found
    · rename_i nonempty
      cases found
      exact ⟨by rw [fractionChars, List.append_nil, split], digits, nofun,
        by rwa [Option.getD_none, List.append_nil]⟩
  · rename_i places point
    rw [point] at split
    split at found
    · rename_i valid
      cases found
      refine ⟨split.symm, digits, List.all_eq_true.mp valid.1, fun empty => valid.2 ?_⟩
      exact List.append_eq_nil_iff.mp empty
    · cases found
  · cases found

private theorem splitPoint?_of_parts (parts : Parts body whole fraction) :
    splitPoint? body = some (whole, fraction) := by
  obtain ⟨rfl, digits, places, nonempty⟩ := parts
  have stops := head?_fractionChars_not_digit fraction
  unfold splitPoint?
  rw [Token.takeWhile_append_of_head? digits stops, Token.dropWhile_append_of_head? digits stops]
  cases fraction with
  | none =>
      rw [Option.getD_none, List.append_nil] at nonempty
      simp only [fractionChars, nonempty, ↓reduceIte]
  | some fraction =>
      rw [Option.getD_some] at places nonempty
      have valid : fraction.all Char.isDigit = true ∧ ¬(whole = [] ∧ fraction = []) :=
        ⟨List.all_eq_true.mpr places, fun empty => nonempty (List.append_eq_nil_iff.mpr empty)⟩
      simp only [fractionChars, valid, not_false_eq_true, and_self, ↓reduceIte]

/-- Digits with or without a point among them are what a literal is without its sign. -/
theorem isUnsigned_of_parts (parts : Parts body whole fraction) : IsUnsigned body := by
  obtain ⟨rfl, digits, places, nonempty⟩ := parts
  have unpointed {cs : List Char} (digits : ∀ c ∈ cs, c.isDigit = true) : cs.count '.' = 0 :=
    List.count_eq_zero.mpr fun point => nomatch digits '.' point
  cases fraction with
  | none =>
      rw [Option.getD_none, List.append_nil] at nonempty
      obtain ⟨c, member⟩ := List.exists_mem_of_ne_nil whole nonempty
      rw [fractionChars, List.append_nil]
      exact ⟨fun c member => .inl (digits c member), by rw [unpointed digits]; exact Nat.zero_le 1,
        c, member, digits c member⟩
  | some fraction =>
      rw [Option.getD_some] at places nonempty
      obtain ⟨c, member⟩ := List.exists_mem_of_ne_nil _ nonempty
      refine ⟨fun c member => ?_, ?_, c, ?_, ?_⟩
      · rcases List.mem_append.mp member with member | member
        · exact .inl (digits c member)
        · rcases List.mem_cons.mp member with point | member
          · exact .inr point
          · exact .inl (places c member)
      · rw [fractionChars, List.count_append, List.count_cons_self, unpointed digits,
          unpointed places]
      · rw [fractionChars]
        rcases List.mem_append.mp member with member | member
        · exact List.mem_append_left _ member
        · exact List.mem_append_right _ (List.mem_cons_of_mem _ member)
      · exact (List.mem_append.mp member).elim (digits c) (places c)

private theorem exists_parts_of_isUnsigned (unsigned : IsUnsigned body) :
    ∃ whole fraction, Parts body whole fraction := by
  obtain ⟨characters, points, c, member, digit⟩ := unsigned
  by_cases pointed : '.' ∈ body
  · obtain ⟨whole, fraction, rfl, first⟩ := List.eq_append_cons_of_mem pointed
    have last : '.' ∉ fraction := by
      rw [List.count_append, List.count_cons_self] at points
      exact List.count_eq_zero.mp (by omega)
    refine ⟨whole, some fraction, rfl, fun c member => ?_, fun c member => ?_, fun empty => ?_⟩
    · rcases characters c (List.mem_append_left _ member) with digit | rfl
      · exact digit
      · exact (first member).elim
    · have inside := List.mem_append_right whole (List.mem_cons_of_mem '.' member)
      rcases characters c inside with digit | rfl
      · exact digit
      · exact (last member).elim
    · obtain ⟨rfl, rfl⟩ := List.append_eq_nil_iff.mp empty
      rw [List.mem_singleton.mp member] at digit
      cases digit
  · refine ⟨body, none, (List.append_nil body).symm, fun c member => ?_, nofun, ?_⟩
    · rcases characters c member with digit | rfl
      · exact digit
      · exact (pointed member).elim
    · rw [Option.getD_none, List.append_nil]
      exact List.ne_nil_of_mem member

/-- The text is a literal with the given sign and digits. -/
def Spells (s : String) (negative : Bool) (whole : List Char) (fraction : Option (List Char)) :
    Prop :=
  ∃ body, Signed negative body s.toList ∧ Parts body whole fraction

private theorem exists_spells_of_isLiteral (literal : isLiteral s = true) :
    ∃ negative whole fraction, Spells s negative whole fraction := by
  obtain ⟨⟨whole, fraction⟩, found⟩ := Option.isSome_iff_exists.mp literal
  exact ⟨_, whole, fraction, _, signed_splitSign s.toList, parts_of_splitPoint? found⟩

/-- A literal is an unsigned one behind at most one sign. -/
theorem isLiteral_iff :
    isLiteral s = true ↔ ∃ negative body, Signed negative body s.toList ∧ IsUnsigned body := by
  constructor
  · intro literal
    obtain ⟨negative, _, _, body, signed, parts⟩ := exists_spells_of_isLiteral literal
    exact ⟨negative, body, signed, isUnsigned_of_parts parts⟩
  · rintro ⟨negative, body, signed, unsigned⟩
    obtain ⟨whole, fraction, parts⟩ := exists_parts_of_isUnsigned unsigned
    rw [isLiteral, splitSign_of_signed signed unsigned, splitPoint?_of_parts parts]
    rfl

private theorem parse?_of_isLiteral_eq_false (other : isLiteral s = false) : parse? s = none := by
  rw [isLiteral, Option.isSome_eq_false_iff, Option.isNone_iff_eq_none] at other
  unfold parse?
  dsimp only
  rw [other]
  rfl

/-- A literal with a point denotes the double its decimal is rounded to. -/
theorem parse?_of_point {places : List Char} (spells : Spells s negative whole (some places)) :
    parse? s = real <$> Binary64.ofDecimal? (.ofParts negative whole places) := by
  obtain ⟨body, signed, parts⟩ := spells
  unfold parse?
  rw [splitSign_of_signed signed (isUnsigned_of_parts parts)]
  dsimp only
  rw [splitPoint?_of_parts parts]
  rfl

/-- The whole number that digits spell behind a sign. -/
def wholeValue (negative : Bool) (digits : List Char) : Int :=
  if negative then -Nat.ofDigitChars 10 digits 0 else Nat.ofDigitChars 10 digits 0

/-- A literal without a point denotes a word if one holds its value, and otherwise a double. -/
theorem parse?_of_whole (spells : Spells s negative whole none) :
    parse? s = (ofInt? (wholeValue negative whole) <|>
      real <$> Binary64.ofDecimal? (.ofParts negative whole [])) := by
  obtain ⟨body, signed, parts⟩ := spells
  unfold parse?
  rw [splitSign_of_signed signed (isUnsigned_of_parts parts)]
  dsimp only
  rw [splitPoint?_of_parts parts, wholeValue, ← Decimal.digitsValue_eq]
  rfl

/-- The magnitude that a literal spells: its digits as a whole number, divided by ten for each digit
behind the point. -/
def spelledMagnitude (s : String) : ℚ :=
  Nat.ofDigitChars 10 (s.toList.filter Char.isDigit) 0 /
    10 ^ ((s.toList.dropWhile (· ≠ '.')).length - 1)

private theorem filter_isDigit_of_parts (parts : Parts body whole fraction) :
    body.filter Char.isDigit = whole ++ fraction.getD [] := by
  obtain ⟨rfl, digits, places, _⟩ := parts
  rw [List.filter_append, List.filter_eq_self.mpr digits]
  cases fraction with
  | none => rfl
  | some fraction =>
      rw [Option.getD_some] at places ⊢
      rw [fractionChars, List.filter_cons_of_neg (by decide), List.filter_eq_self.mpr places]

private theorem dropWhile_of_parts (parts : Parts body whole fraction) :
    body.dropWhile (· ≠ '.') = fractionChars fraction := by
  obtain ⟨rfl, digits, _, _⟩ := parts
  apply Token.dropWhile_append_of_head?
  · intro c member
    rw [decide_eq_true_iff]
    rintro rfl
    cases digits '.' member
  · cases fraction with
    | none => exact nofun
    | some fraction =>
        rintro _ ⟨⟩
        rfl

private theorem Signed.filter_isDigit (signed : Signed negative body cs) :
    cs.filter Char.isDigit = body.filter Char.isDigit := by
  cases signed <;> rfl

private theorem Signed.dropWhile_eq (signed : Signed negative body cs) :
    cs.dropWhile (· ≠ '.') = body.dropWhile (· ≠ '.') := by
  cases signed <;> rfl

private theorem length_fractionChars (fraction : Option (List Char)) :
    (fractionChars fraction).length - 1 = (fraction.getD []).length := by
  cases fraction <;> rfl

/-- The parts of a literal have the magnitude that the literal spells. -/
theorem magnitude_of_spells (spells : Spells s negative whole fraction) :
    (Decimal.ofParts negative whole (fraction.getD [])).magnitude = spelledMagnitude s := by
  obtain ⟨body, signed, parts⟩ := spells
  rw [spelledMagnitude, signed.filter_isDigit, signed.dropWhile_eq, filter_isDigit_of_parts parts,
    dropWhile_of_parts parts, length_fractionChars, ← Decimal.digitsValue_eq,
    Decimal.digitsValue_append, Decimal.magnitude, Decimal.ofParts, zpow_neg, zpow_natCast,
    div_eq_mul_inv]

/-- The digits of a whole literal are its absolute value. -/
theorem abs_wholeValue (negative : Bool) (digits : List Char) :
    |wholeValue negative digits| = Nat.ofDigitChars 10 digits 0 := by
  cases negative with
  | true => exact (abs_neg _).trans (Nat.abs_cast _)
  | false => exact Nat.abs_cast _

/-- Without a fraction, the magnitude of a literal is its absolute value as a whole number. -/
theorem magnitude_whole (negative : Bool) (digits : List Char) :
    (Decimal.ofParts negative digits []).magnitude = |wholeValue negative digits| := by
  rw [abs_wholeValue, ← Decimal.digitsValue_eq, Decimal.magnitude]
  exact mul_one _

/-- The whole numbers in the signed range are held by signed words. -/
theorem exists_signed_of_ofInt? {n : Int} (least : -2 ^ 63 ≤ n) (most : n < 2 ^ 63) :
    ∃ word : Int64, word.toInt = n ∧ ofInt? n = some (signed word) := by
  refine ⟨Int64.ofInt n, Int64.toInt_ofInt_of_le least most, ?_⟩
  rw [ofInt?, if_pos ⟨least, most⟩]

/-- The whole numbers above the signed range and below `2 ^ 64` are held by unsigned words. -/
theorem exists_unsigned_of_ofInt? {n : Int} (least : 2 ^ 63 ≤ n) (most : n < 2 ^ 64) :
    ∃ word : UInt64, word.toNat = n ∧ ofInt? n = some (unsigned word) := by
  refine ⟨UInt64.ofNat n.toNat, ?_, ?_⟩
  · rw [UInt64.toNat_ofNat_of_lt' (by rw [UInt64.size]; omega)]
    omega
  · rw [ofInt?, if_neg (by omega), if_pos (by omega)]

/-- The whole numbers that no word holds are those beyond both ranges. -/
theorem ofInt?_eq_none_iff {n : Int} : ofInt? n = none ↔ n < -2 ^ 63 ∨ 2 ^ 64 ≤ n := by
  unfold ofInt?
  split_ifs with small large
  · exact iff_of_false nofun (by omega)
  · exact iff_of_false nofun (by omega)
  · exact iff_of_true rfl (by omega)

private theorem pow_le_limit : (2 : ℚ) ^ 64 ≤ 2 ^ 1024 - 2 ^ 970 := by
  have power : (2 : ℚ) ^ 1024 = 2 ^ 54 * 2 ^ 970 := pow_add 2 54 970
  have large : (2 : ℚ) ^ 64 ≤ 2 ^ 970 := pow_le_pow_right₀ (by norm_num) (by norm_num)
  rw [power]
  generalize (2 : ℚ) ^ 970 = place at *
  linarith only [large]

private theorem ofInt?_ne_real (n : Int) (x : Binary64) : ofInt? n ≠ some (real x) := by
  unfold ofInt?
  split_ifs <;> exact nofun

/-- No word holds a whole number that is too large for doubles. -/
theorem ofInt?_of_limit_le (large : (2 : ℚ) ^ 1024 - 2 ^ 970 ≤ |wholeValue negative whole|) :
    ofInt? (wholeValue negative whole) = none := by
  have beyond : ((2 ^ 64 : Int) : ℚ) ≤ |wholeValue negative whole| := by
    rw [Int.cast_pow, Int.cast_ofNat]
    exact pow_le_limit.trans large
  have magnitude : 2 ^ 64 ≤ |wholeValue negative whole| := Int.cast_le.mp beyond
  rw [ofInt?_eq_none_iff]
  rcases le_abs'.mp magnitude with below | above
  · left
    omega
  · exact .inr above

/-- A literal denotes nothing exactly if its magnitude is halfway beyond the largest double. -/
theorem parse?_eq_none_iff (literal : isLiteral s = true) :
    parse? s = none ↔ 2 ^ 1024 - 2 ^ 970 ≤ spelledMagnitude s := by
  obtain ⟨negative, whole, fraction, spells⟩ := exists_spells_of_isLiteral literal
  rw [← magnitude_of_spells spells, ← Binary64.ofDecimal?_eq_none_iff]
  cases fraction with
  | some places => rw [parse?_of_point spells, Option.map_eq_map, Option.map_eq_none_iff]; rfl
  | none =>
      rw [parse?_of_whole spells, Option.getD_none]
      cases rounded : Binary64.ofDecimal? (.ofParts negative whole []) with
      | none =>
          rw [Binary64.ofDecimal?_eq_none_iff, magnitude_whole] at rounded
          rw [ofInt?_of_limit_le rounded]
          exact iff_of_true rfl rfl
      | some x =>
          cases ofInt? (wholeValue negative whole) with
          | none => exact iff_of_false nofun nofun
          | some word => exact iff_of_false nofun nofun

/-- A double that a literal denotes is the one that attracts its magnitude, with its sign. -/
theorem attracts_of_parse? {x : Binary64} (found : parse? s = some (.real x)) :
    x.Attracts (spelledMagnitude s) ∧ (x.negative = true ↔ s.toList.head? = some '-') := by
  cases literal : isLiteral s with
  | false =>
      rw [parse?_of_isLiteral_eq_false literal] at found
      cases found
  | true =>
      obtain ⟨negative, whole, fraction, spells⟩ := exists_spells_of_isLiteral literal
      have rounded : Binary64.ofDecimal? (.ofParts negative whole (fraction.getD [])) = some x := by
        cases fraction with
        | some places =>
            rw [parse?_of_point spells] at found
            obtain ⟨_, rounded, ⟨⟩⟩ := Option.map_eq_some_iff.mp found
            exact rounded
        | none =>
            rw [parse?_of_whole spells] at found
            rcases (Option.orElse_eq_some _ _ _).mp found with held | ⟨_, found⟩
            · exact (ofInt?_ne_real _ _ held).elim
            · obtain ⟨_, rounded, ⟨⟩⟩ := Option.map_eq_some_iff.mp found
              exact rounded
      obtain ⟨sign, attracts⟩ := Binary64.attracts_of_ofDecimal? rounded
      rw [magnitude_of_spells spells] at attracts
      obtain ⟨body, signed, parts⟩ := spells
      refine ⟨attracts, ?_⟩
      rw [sign]
      exact signed.negative_iff (isUnsigned_of_parts parts)

/-- The parts of a literal have a fraction exactly if there is a point. -/
theorem Spells.mem_point_iff (spells : Spells s negative whole fraction) :
    '.' ∈ s.toList ↔ fraction ≠ none := by
  obtain ⟨body, signed, parts⟩ := spells
  rw [signed.mem_point_iff, parts.spelled, List.mem_append]
  cases fraction with
  | none =>
      refine iff_of_false ?_ (fun absent => absent rfl)
      rintro (inside | inside)
      · cases parts.whole_digits '.' inside
      · cases inside
  | some places => exact iff_of_true (.inr List.mem_cons_self) nofun

/-- A literal without a point is a sign and digits. -/
theorem exists_whole_of_not_mem (literal : isLiteral s = true) (pointless : '.' ∉ s.toList) :
    ∃ negative digits, Signed negative digits s.toList ∧ AreDigits digits ∧
      Spells s negative digits none := by
  obtain ⟨negative, whole, fraction, spells⟩ := exists_spells_of_isLiteral literal
  obtain rfl : fraction = none := not_not.mp (mt spells.mem_point_iff.mpr pointless)
  obtain ⟨body, signed, parts⟩ := spells
  obtain rfl : body = whole := by rw [parts.spelled, fractionChars, List.append_nil]
  refine ⟨negative, body, signed, ⟨?_, parts.whole_digits⟩, body, signed, parts⟩
  have nonempty := parts.nonempty
  rwa [Option.getD_none, List.append_nil] at nonempty

private theorem exists_real_of_mem (pointed : '.' ∈ s.toList) {number : Number}
    (found : parse? s = some number) : ∃ x, number = .real x := by
  cases literal : isLiteral s with
  | false =>
      rw [parse?_of_isLiteral_eq_false literal] at found
      cases found
  | true =>
      obtain ⟨negative, whole, fraction, spells⟩ := exists_spells_of_isLiteral literal
      obtain ⟨places, rfl⟩ := Option.ne_none_iff_exists'.mp (spells.mem_point_iff.mp pointed)
      rw [parse?_of_point spells] at found
      obtain ⟨x, _, rfl⟩ := Option.map_eq_some_iff.mp found
      exact ⟨x, rfl⟩

/-- Literals are exactly the texts that are digits with at most one point behind at most one sign,
and other texts denote nothing. A literal without a point denotes the signed word of its value if
there is one, else the unsigned word. Beyond these, and for literals with a point, it denotes the
double that attracts its magnitude, or nothing if the magnitude is at least `2 ^ 1024 - 2 ^ 970`.
The word that a literal denotes is read back from its JSON text. -/
theorem literals_are_typed_exactly (s : String) :
    (isLiteral s = true ↔ ∃ negative body, Signed negative body s.toList ∧ IsUnsigned body) ∧
    (isLiteral s = true → '.' ∉ s.toList →
      ∃ negative digits, Signed negative digits s.toList ∧ AreDigits digits ∧
        let value := wholeValue negative digits
        (-2 ^ 63 ≤ value ∧ value < 2 ^ 63 →
          ∃ word : Int64, word.toInt = value ∧ parse? s = some (.signed word)) ∧
        (2 ^ 63 ≤ value ∧ value < 2 ^ 64 →
          ∃ word : UInt64, word.toNat = value ∧ parse? s = some (.unsigned word)) ∧
        (value < -2 ^ 63 ∨ 2 ^ 64 ≤ value →
          (parse? s = none ∨ ∃ x, parse? s = some (.real x)) ∧
          (parse? s = none ↔ 2 ^ 1024 - 2 ^ 970 ≤ |value|))) ∧
    ('.' ∈ s.toList → ∀ number, parse? s = some number → ∃ x, number = .real x) ∧
    (∀ x, parse? s = some (.real x) →
      x.Attracts (spelledMagnitude s) ∧ (x.negative = true ↔ s.toList.head? = some '-')) ∧
    (∀ number, parse? s = some number → (∀ x, number ≠ .real x) →
      Json.parse? (Json.compact (.number number)) = some (.number number)) ∧
    (isLiteral s = false → parse? s = none) := by
  refine ⟨isLiteral_iff, fun literal pointless => ?_, fun pointed _ => exists_real_of_mem pointed,
    fun _ => attracts_of_parse?, fun number found word => ?_, parse?_of_isLiteral_eq_false⟩
  · obtain ⟨negative, digits, signed, areDigits, spells⟩ :=
      exists_whole_of_not_mem literal pointless
    have overflow := parse?_eq_none_iff literal
    rw [← magnitude_of_spells spells, Option.getD_none, magnitude_whole] at overflow
    refine ⟨negative, digits, signed, areDigits, ?_⟩
    intro value
    rw [parse?_of_whole spells] at overflow ⊢
    refine ⟨fun ⟨least, most⟩ => ?_, fun ⟨least, most⟩ => ?_, fun beyond => ⟨?_, ?_⟩⟩
    · obtain ⟨word, same, held⟩ := exists_signed_of_ofInt? least most
      exact ⟨word, same, by rw [held]; rfl⟩
    · obtain ⟨word, same, held⟩ := exists_unsigned_of_ofInt? least most
      exact ⟨word, same, by rw [held]; rfl⟩
    · rw [ofInt?_eq_none_iff.mpr beyond]
      cases Binary64.ofDecimal? (.ofParts negative digits []) with
      | none => exact .inl rfl
      | some x => exact .inr ⟨x, rfl⟩
    · rw [overflow, ← Int.cast_le (R := ℚ), Int.cast_sub, Int.cast_pow, Int.cast_pow,
        Int.cast_ofNat]
  · refine Json.parse?_compact (.number (keptBy_number? (canonical_of_parse? found) ?_))
    exact fun x real => absurd real (word x)

end Number

end ColumnSearch
