import ColumnSearch.Json

/-!
# Reading JSON

Text is split into lexemes, and a `Reading` takes them one by one. `JsonDocument.parse?` accepts
exactly the texts of the JSON grammar, and `Json.parse?` those of them whose numerals and texts all
denote something.
-/

namespace ColumnSearch

namespace JsonDocument

/-- A literal or a mark of JSON text. -/
inductive Lexeme where
  | beginArray
  | endArray
  | beginObject
  | endObject
  | comma
  | colon
  | null
  | bool (value : Bool)
  | number (numeral : Numeral)
  | text (value : Option String)
  deriving Repr

/-- A character between quotes, or the code unit an escape names. -/
inductive Piece where
  | char (value : Char)
  | unit (value : Nat)

/-- The value of a hexadecimal digit. -/
def hexDigit? (c : Char) : Option Nat :=
  if c.isDigit then some (c.toNat - '0'.toNat)
  else if 'a' ≤ c ∧ c ≤ 'f' then some (c.toNat - 'a'.toNat + 10)
  else if 'A' ≤ c ∧ c ≤ 'F' then some (c.toNat - 'A'.toNat + 10)
  else none

/-- The value of four hexadecimal digits. -/
def hexUnit? (a b c d : Char) : Option Nat := do
  return ((← hexDigit? a) * 16 + (← hexDigit? b)) * 256 + (← hexDigit? c) * 16 + (← hexDigit? d)

/-- The character that a letter names after a backslash. -/
def unescape? (c : Char) : Option Char :=
  match c with
  | '"' => some '"'
  | '\\' => some '\\'
  | '/' => some '/'
  | 'b' => some '\x08'
  | 'f' => some '\x0c'
  | 'n' => some '\n'
  | 'r' => some '\r'
  | 't' => some '\t'
  | _ => none

/-- The pieces of a text up to its closing quote, and what follows it. -/
def pieces? : List Char → Option (List Piece × List Char)
  | [] => none
  | '"' :: rest => some ([], rest)
  | '\\' :: 'u' :: a :: b :: c :: d :: rest => do
    let unit ← hexUnit? a b c d
    let (more, rest) ← pieces? rest
    return (.unit unit :: more, rest)
  | '\\' :: c :: rest => do
    let char ← unescape? c
    let (more, rest) ← pieces? rest
    return (.char char :: more, rest)
  | c :: rest =>
    if 0x20 ≤ c.toNat then do
      let (more, rest) ← pieces? rest
      return (.char c :: more, rest)
    else none

/-- The characters that pieces denote: a high surrogate must be followed by a low one. -/
def denote? : List Piece → Option (List Char)
  | [] => some []
  | .char c :: rest => (denote? rest).map (c :: ·)
  | .unit high :: .unit low :: rest =>
    if 0xD800 ≤ high ∧ high < 0xDC00 then
      if 0xDC00 ≤ low ∧ low < 0xE000 then
        let c := Char.ofNat (0x10000 + (high - 0xD800) * 0x400 + (low - 0xDC00))
        (denote? rest).map (c :: ·)
      else none
    else if 0xDC00 ≤ high ∧ high < 0xE000 then none
    else (denote? (.unit low :: rest)).map (Char.ofNat high :: ·)
  | .unit code :: rest =>
    if 0xD800 ≤ code ∧ code < 0xE000 then none
    else (denote? rest).map (Char.ofNat code :: ·)

/-- Digits at the start of a text, at least one, and what follows them. -/
def digits? (cs : List Char) : Option (List Char × List Char) :=
  match cs.takeWhile Char.isDigit with
  | [] => none
  | digits => some (digits, cs.dropWhile Char.isDigit)

/-- The fractional digits after a point, if there is one. -/
def fraction? : List Char → Option (Option (List Char) × List Char)
  | '.' :: rest => (digits? rest).map fun (digits, rest) => (some digits, rest)
  | cs => some (none, cs)

/-- The exponent after its mark, if there is one. -/
def exponent? : List Char → Option (Option Int × List Char)
  | c :: rest =>
    if c = 'e' ∨ c = 'E' then do
      let (negative, rest) := Number.splitSign rest
      let (digits, rest) ← digits? rest
      let magnitude : Int := Decimal.digitsValue 0 digits
      return (some (if negative then -magnitude else magnitude), rest)
    else some (none, c :: rest)
  | [] => some (none, [])

/-- A numeral and what follows it. Its whole part has no needless leading zero. -/
def number? (cs : List Char) : Option (Lexeme × List Char) := do
  let (negative, rest) := match cs with
    | '-' :: rest => (true, rest)
    | _ => (false, cs)
  let (whole, rest) ← digits? rest
  guard (whole.head? ≠ some '0' ∨ whole.length = 1)
  let (fraction, rest) ← fraction? rest
  let (exponent, rest) ← exponent? rest
  return (.number { negative, whole, fraction, exponent }, rest)

/-- A blank between lexemes. -/
def isSpace (c : Char) : Bool :=
  c == ' ' || c == '\n' || c == '\t' || c == '\r'

/-- The lexeme at the start of a text that does not start with a blank, and what follows it. -/
def lexeme? : List Char → Option (Lexeme × List Char)
  | '[' :: rest => some (.beginArray, rest)
  | ']' :: rest => some (.endArray, rest)
  | '{' :: rest => some (.beginObject, rest)
  | '}' :: rest => some (.endObject, rest)
  | ',' :: rest => some (.comma, rest)
  | ':' :: rest => some (.colon, rest)
  | 'n' :: 'u' :: 'l' :: 'l' :: rest => some (.null, rest)
  | 't' :: 'r' :: 'u' :: 'e' :: rest => some (.bool true, rest)
  | 'f' :: 'a' :: 'l' :: 's' :: 'e' :: rest => some (.bool false, rest)
  | '"' :: rest =>
    (pieces? rest).map fun (pieces, rest) => (.text ((denote? pieces).map String.ofList), rest)
  | cs => number? cs

private theorem length_of_pieces? {cs rest : List Char} {pieces : List Piece}
    (read : pieces? cs = some (pieces, rest)) : rest.length < cs.length := by
  fun_induction pieces? cs generalizing pieces rest with
  | case1 => cases read
  | case2 => grind
  | case3 a b c d after ih | case4 c after _ ih =>
      simp only [Option.bind_eq_bind, Option.bind_eq_some_iff] at read
      obtain ⟨_, -, ⟨more, last⟩, found, same⟩ := read
      have shorter := ih found
      cases same
      simp only [List.length_cons]
      omega
  | case5 c after _ _ _ _ ih =>
      simp only [Option.bind_eq_bind, Option.bind_eq_some_iff] at read
      obtain ⟨⟨more, last⟩, found, same⟩ := read
      have shorter := ih found
      cases same
      simp only [List.length_cons]
      omega
  | case6 => cases read

private theorem length_of_digits? {cs digits rest : List Char}
    (read : digits? cs = some (digits, rest)) :
    rest.length < cs.length := by
  cases cs with
  | nil => simp [digits?] at read
  | cons c cs =>
      have shorter := (List.dropWhile_sublist (l := cs) Char.isDigit).length_le
      by_cases digit : c.isDigit
      · simp only [digits?, List.takeWhile_cons, List.dropWhile_cons, digit] at read
        grind
      · simp [digits?, digit] at read

private theorem length_of_fraction? {cs rest : List Char} {fraction : Option (List Char)}
    (read : fraction? cs = some (fraction, rest)) : rest.length ≤ cs.length := by
  unfold fraction? at read
  split at read
  · obtain ⟨⟨digits, after⟩, found, same⟩ := Option.map_eq_some_iff.1 read
    have shorter := length_of_digits? found
    grind
  · grind

private theorem length_of_exponent? {cs rest : List Char} {exponent : Option Int}
    (read : exponent? cs = some (exponent, rest)) : rest.length ≤ cs.length := by
  unfold exponent? at read
  split at read
  · rename_i c cs
    split at read
    · simp only [Option.bind_eq_bind, Option.bind_eq_some_iff] at read
      obtain ⟨⟨digits, after⟩, found, same⟩ := read
      have shorter := length_of_digits? found
      have signless : (Number.splitSign cs).2.length ≤ cs.length := by
        unfold Number.splitSign
        split <;> simp
      grind
    · grind
  · grind

private theorem length_of_number? {cs rest : List Char} {lexeme : Lexeme}
    (read : number? cs = some (lexeme, rest)) : rest.length < cs.length := by
  unfold number? at read
  obtain ⟨⟨whole, afterWhole⟩, foundWhole, read⟩ := Option.bind_eq_some_iff.1 read
  obtain ⟨_, -, read⟩ := Option.bind_eq_some_iff.1 read
  obtain ⟨⟨fraction, afterFraction⟩, foundFraction, read⟩ := Option.bind_eq_some_iff.1 read
  obtain ⟨⟨exponent, afterExponent⟩, foundExponent, same⟩ := Option.bind_eq_some_iff.1 read
  have shorter := length_of_digits? foundWhole
  have fractional := length_of_fraction? foundFraction
  have exponential := length_of_exponent? foundExponent
  cases same
  split at shorter
  · simp only [List.length_cons] at shorter ⊢
    omega
  · exact Nat.lt_of_le_of_lt (Nat.le_trans exponential fractional) shorter

/-- A lexeme consumes something. -/
theorem length_of_lexeme? {cs rest : List Char} {lexeme : Lexeme}
    (read : lexeme? cs = some (lexeme, rest)) : rest.length < cs.length := by
  unfold lexeme? at read
  split at read
  case h_10 =>
      obtain ⟨⟨pieces, after⟩, found, same⟩ := Option.map_eq_some_iff.1 read
      have shorter := length_of_pieces? found
      cases same
      exact Nat.lt_succ_of_lt shorter
  case h_11 => exact length_of_number? read
  -- The marks and the words are followed by the rest.
  all_goals
    cases read
    simp only [List.length_cons]
    omega

/-- The lexemes of a text. -/
def lexemes? (cs : List Char) : Option (List Lexeme) :=
  match cs with
  | [] => some []
  | c :: rest =>
    if isSpace c then lexemes? rest
    else
      match _read : lexeme? (c :: rest) with
      | none => none
      | some (lexeme, after) => (lexemes? after).map (lexeme :: ·)
termination_by cs.length
decreasing_by
  · simp
  · exact length_of_lexeme? _read

/-- An array or object that is being read. An object waits for the value of its last name. -/
inductive Frame where
  | array (items : List JsonDocument)
  | object (fields : List (Option String × JsonDocument)) (name : Option String)

/-- What is known after reading some lexemes, with the containers around it, innermost first. -/
inductive Reading where
  /-- A value must come. -/
  | value (outer : List Frame)
  /-- An array was opened. -/
  | arrayStart (outer : List Frame)
  /-- An object was opened. -/
  | objectStart (outer : List Frame)
  /-- A name must come. -/
  | name (fields : List (Option String × JsonDocument)) (outer : List Frame)
  /-- A name was read. -/
  | colon (fields : List (Option String × JsonDocument)) (name : Option String)
    (outer : List Frame)
  /-- A value was read. -/
  | done (document : JsonDocument) (outer : List Frame)

namespace Reading

/-- Reads a lexeme where a value must come. -/
def readValue (outer : List Frame) : Lexeme → Option Reading
  | .null => some (done .null outer)
  | .bool flag => some (done (.bool flag) outer)
  | .number numeral => some (done (.number numeral) outer)
  | .text text => some (done (.text text) outer)
  | .beginArray => some (arrayStart outer)
  | .beginObject => some (objectStart outer)
  | _ => none

/-- Reads one lexeme. -/
def step (reading : Reading) (lexeme : Lexeme) : Option Reading :=
  match reading, lexeme with
  | value outer, lexeme => readValue outer lexeme
  | arrayStart outer, .endArray => some (done (.array []) outer)
  | arrayStart outer, lexeme => readValue (.array [] :: outer) lexeme
  | objectStart outer, .endObject => some (done (.object []) outer)
  | objectStart outer, .text key => some (colon [] key outer)
  | name fields outer, .text key => some (colon fields key outer)
  | colon fields key outer, .colon => some (value (.object fields key :: outer))
  | done item (.array items :: outer), .comma => some (value (.array (items ++ [item]) :: outer))
  | done item (.array items :: outer), .endArray => some (done (.array (items ++ [item])) outer)
  | done item (.object fields key :: outer), .comma => some (name (fields ++ [(key, item)]) outer)
  | done item (.object fields key :: outer), .endObject =>
    some (done (.object (fields ++ [(key, item)])) outer)
  | _, _ => none

/-- Reads the remaining lexemes. -/
def run (reading : Reading) : List Lexeme → Option JsonDocument
  | [] =>
    match reading with
    | done document [] => some document
    | _ => none
  | lexeme :: rest => (reading.step lexeme).bind fun next => next.run rest

end Reading

/-- The document a text spells. -/
def parse? (s : String) : Option JsonDocument :=
  (lexemes? s.toList).bind (Reading.value []).run

end JsonDocument

/-- The value a text spells, if all its numerals and texts denote something. -/
def Json.parse? (s : String) : Option Json :=
  (JsonDocument.parse? s).bind (JsonDocument.toJson? Numeral.number?)

end ColumnSearch
