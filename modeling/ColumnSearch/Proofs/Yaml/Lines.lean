import ColumnSearch.Proofs.Yaml.Scalar

/-!
# Reading the lines of a YAML mapping

A field whose value is a scalar takes one line, or two if its key is long. From the start of a line
the reader gets over a field to the start of the next line, and adds the tokens of the field; so it
reads a mapping field by field, and at the end of the text it ends the block.
-/

namespace ColumnSearch.Yaml

namespace Written

variable {cs text : List Char} {style : Style}

/-- A scalar is written without special characters. -/
theorem ordinary (written : Written cs style text) : ∀ c ∈ cs, isSpecial c = false := by
  cases written with
  | plain bare => exact bare.ordinary
  | @quoted quote _ _ mark ordinary _ =>
      have around : isSpecial quote = false := by
        rcases mark with rfl | rfl <;> rfl
      exact List.forall_mem_append.mpr
        ⟨List.forall_mem_cons.mpr ⟨around, ordinary⟩, List.forall_mem_singleton.mpr around⟩

private theorem filled (written : Written cs style text) : cs ≠ [] := by
  cases written with
  | plain bare => exact bare.filled
  | quoted => exact List.cons_ne_nil _ _

end Written

private theorem isOrderMark_of_isSpecial_eq_false {c : Char} (ordinary : isSpecial c = false) :
    isOrderMark c = false := by
  simp only [isSpecial, List.contains_cons, Bool.or_eq_false_iff] at ordinary
  exact ordinary.2.2.2.1

/-- Nothing is skipped before a token. -/
theorem toToken_eq {keyAllowed : Bool} {position : Position} {rest : List Char}
    (token : StartsToken rest) :
    toToken false false keyAllowed position rest = (keyAllowed, ⟨position, rest⟩) := by
  cases rest with
  | nil => rfl
  | cons c rest =>
      obtain ⟨word, number, order⟩ := token c rfl
      simp only [endsWord, isBlank, Bool.or_eq_false_iff, beq_eq_false_iff_ne] at word
      simp [toToken, word, number, order]

/-- What a text that does not look like a mark starts with. -/
theorem not_mark_of_startsLikeMark {c : Char} {cs : List Char}
    (starts : startsLikeMark (c :: cs) = false) :
    c ≠ ' ' ∧ c ∉ leadingIndicators ∧
      ((c = '-' ∨ c = '?' ∨ c = ':') → isBlankOrEnd cs.head? = false) ∧
      ∀ mark, mark = '-' ∨ mark = '.' → ¬ [mark, mark, mark] <+: c :: cs := by
  unfold startsLikeMark at starts
  split at starts
  · cases starts
  · cases starts
  · cases starts
  · next d rest dashes points blank same =>
    obtain ⟨rfl, rfl⟩ := List.cons.inj same
    simp only [Bool.or_eq_false_iff, Bool.and_eq_false_iff, List.contains_eq_mem,
      decide_eq_false_iff_not] at starts
    refine ⟨blank, starts.1, fun sign => ?_, ?_⟩
    · rcases starts.2 with other | inside
      · simp only [beq_eq_false_iff_ne] at other
        rcases sign with rfl | rfl | rfl <;> simp at other
      · exact inside
    · rintro mark (rfl | rfl) ⟨more, three⟩
      · exact dashes more (List.cons.inj three.symm).1 (List.cons.inj three.symm).2
      · exact points more (List.cons.inj three.symm).1 (List.cons.inj three.symm).2
  · next none => cases none

private theorem prefix_of_startsMark {mark : Char} {cs : List Char}
    (starts : startsMark mark cs = true) :
    [mark, mark, mark] <+: cs := by
  unfold startsMark at starts
  split at starts
  · simp only [Bool.and_eq_true, beq_iff_eq] at starts
    obtain ⟨⟨⟨rfl, rfl⟩, rfl⟩, -⟩ := starts
    exact ⟨_, rfl⟩
  · cases starts

/-- Neither a blank nor a comment starts with a written scalar. -/
theorem Written.startsToken {cs text : List Char} {style : Style} (written : Written cs style text)
    (rest : List Char) : StartsToken (cs ++ rest) := by
  have ordinary := written.ordinary
  cases written with
  | plain bare =>
      cases cs with
      | nil => exact absurd rfl bare.filled
      | cons c cs =>
          obtain ⟨blank, indicator, -⟩ := not_mark_of_startsLikeMark bare.starts
          have first := ordinary c List.mem_cons_self
          refine startsToken_cons (endsWord_of_isSpecial_eq_false first blank) ?_
            (isOrderMark_of_isSpecial_eq_false first) _
          rintro rfl
          exact indicator List.mem_cons_self
  | quoted mark =>
      rcases mark with rfl | rfl
      · exact startsToken_cons rfl (by decide) rfl _
      · exact startsToken_cons rfl (by decide) rfl _

namespace IsBare

variable {cs rest : List Char} {lexer : Lexer}

/-- The reader takes a bare text for a plain scalar. -/
theorem read? (bare : IsBare cs) (flows : lexer.flows = []) (text : lexer.cursor.rest = cs ++ rest)
    (after : ∀ mark, mark = '-' ∨ mark = '.' → rest.head? ≠ some mark) :
    lexer.read? = lexer.readPlain? := by
  have flow : lexer.inFlow = false := by
    simp [Lexer.inFlow, flows]
  obtain ⟨filled, ordinary, starts, -, -⟩ := bare
  cases cs with
  | nil => exact absurd rfl filled
  | cons c cs =>
      obtain ⟨blank, indicator, sign, three⟩ := not_mark_of_startsLikeMark starts
      obtain ⟨first, others⟩ := List.forall_mem_cons.mp ordinary
      have word : endsWord (some c) = false := endsWord_of_isSpecial_eq_false first blank
      have inside (mark : c = '-' ∨ c = '?' ∨ c = ':') : endsWord (cs ++ rest).head? = false := by
        cases cs with
        | nil => cases sign mark
        | cons d cs =>
            have within := sign mark
            simp only [List.head?_cons, isBlankOrEnd, Bool.or_eq_false_iff,
              beq_eq_false_iff_ne] at within
            exact endsWord_of_isSpecial_eq_false (List.forall_mem_cons.mp others).1 within.1
      have document {mark : Char} (either : mark = '-' ∨ mark = '.') :
          startsMark mark (c :: (cs ++ rest)) = false := by
        rw [Bool.eq_false_iff]
        intro document
        have all := prefix_of_startsMark document
        -- Three marks in a row would lie within the text, since none of them stands after it.
        rcases cs with _ | ⟨d, _ | ⟨e, cs⟩⟩
        · rw [List.nil_append, List.cons_prefix_cons] at all
          obtain ⟨-, more, rfl⟩ := all
          exact after mark either rfl
        · rw [List.cons_append, List.nil_append, List.cons_prefix_cons,
            List.cons_prefix_cons] at all
          obtain ⟨-, -, more, rfl⟩ := all
          exact after mark either rfl
        · refine three mark either ?_
          simp only [List.cons_append, List.cons_prefix_cons] at all ⊢
          exact ⟨all.1, all.2.1, all.2.2.1, List.nil_prefix⟩
      simp only [leadingIndicators, List.mem_cons, List.not_mem_nil, or_false, not_or] at indicator
      rw [Lexer.read?, text, List.cons_append]
      dsimp only
      rw [if_neg (by simp [indicator]), if_neg (by simp [document (.inl rfl)]),
        if_neg (by simp [document (.inr rfl)])]
      by_cases mark : c = '-' ∨ c = '?' ∨ c = ':'
      · have ends := inside mark
        rcases mark with rfl | rfl | rfl <;>
          simp [-List.head?_append, Lexer.readToken?, startsPlain, flow, ends]
      · rw [not_or, not_or] at mark
        simp [Lexer.readToken?, startsPlain, leadingIndicators, indicator, mark, word]

end IsBare

/-- The marks of documents and directives start with characters of their own. -/
theorem Lexer.read?_of_ne {lexer : Lexer} {c : Char} {rest : List Char}
    (text : lexer.cursor.rest = c :: rest) (percent : c ≠ '%') (dash : c ≠ '-') (point : c ≠ '.') :
    lexer.read? = lexer.readToken? c rest := by
  have document (mark : Char) (different : c ≠ mark) : startsMark mark (c :: rest) = false := by
    rw [Bool.eq_false_iff]
    exact fun starts => different (List.cons_prefix_cons.mp (prefix_of_startsMark starts)).1.symm
  rw [Lexer.read?, text]
  dsimp only
  rw [if_neg (by simp [percent]), if_neg (by simp [document '-' dash]),
    if_neg (by simp [document '.' point])]

/-- The reader takes a text after a quote for a quoted scalar. -/
theorem Lexer.read?_of_quote {lexer : Lexer} {quote : Char} {rest : List Char}
    (mark : quote = '\x27' ∨ quote = '"') (text : lexer.cursor.rest = quote :: rest) :
    lexer.read? = lexer.readQuoted? quote rest := by
  rcases mark with rfl | rfl
  · rw [read?_of_ne text (by decide) (by decide) (by decide)]
    simp [readToken?]
  · rw [read?_of_ne text (by decide) (by decide) (by decide)]
    simp [readToken?]

namespace Written

variable {cs text rest : List Char} {style : Style} {lexer : Lexer}

/-- A scalar before a colon is read up to the colon. -/
theorem read?_key (written : Written cs style text) (flows : lexer.flows = [])
    (low : lexer.margin ≤ 1) (here : lexer.cursor.rest = cs ++ ':' :: ' ' :: rest) :
    lexer.read? = lexer.readKeyPart? (.scalar style (String.ofList text))
      ⟨lexer.cursor.position.advance cs, ':' :: ' ' :: rest⟩ false := by
  cases written with
  | plain bare =>
      have flow : lexer.inFlow = false := by
        simp [Lexer.inFlow, flows]
      rw [bare.read? flows here (by simp), Lexer.readPlain?, here, flow]
      dsimp only
      rw [bare.takePlain_key low]
      rfl
  | quoted mark _ reads =>
      rw [List.append_assoc, List.cons_append] at here
      rw [Lexer.read?_of_quote mark here, Lexer.readQuoted?, List.singleton_append]
      dsimp only
      rw [reads _ _ (by simp) (by simp)]
      rfl

/-- A scalar at the end of a line is read up to the next line or to the line feed before it. -/
theorem read?_line (written : Written cs style text) (flows : lexer.flows = [])
    (margin : lexer.margin = 1) (here : lexer.cursor.rest = cs ++ '\n' :: rest)
    (token : StartsToken rest) :
    ∃ after keyAllowed, lexer.read? =
        lexer.readKeyPart? (.scalar style (String.ofList text)) after keyAllowed ∧
      toToken false false keyAllowed after.position after.rest =
        (true, ⟨(lexer.cursor.position.advance cs).nextLine, rest⟩) := by
  cases written with
  | plain bare =>
      have flow : lexer.inFlow = false := by
        simp [Lexer.inFlow, flows]
      refine ⟨⟨(lexer.cursor.position.advance cs).nextLine, rest⟩, true, ?_, toToken_eq token⟩
      rw [bare.read? flows here (by simp), Lexer.readPlain?, here, flow, margin]
      dsimp only
      rw [bare.takePlain_line _ token]
      rfl
  | @quoted quote body _ mark _ reads =>
      rw [List.append_assoc, List.cons_append] at here
      refine ⟨⟨lexer.cursor.position.advance (quote :: body ++ [quote]), '\n' :: rest⟩, false, ?_,
        toToken_eq token⟩
      rw [Lexer.read?_of_quote mark here, Lexer.readQuoted?, List.singleton_append]
      dsimp only
      rw [reads _ _ (by simp) (by simp)]
      rfl

end Written

namespace Lexer

private theorem endBlocks_of_le {limit : Nat} {margins : List Nat}
    (inside : margins.headD 0 ≤ limit) :
    endBlocks limit margins = (margins, []) := by
  cases margins with
  | nil => rfl
  | cons margin margins => exact if_neg (Nat.not_lt.mpr inside)

variable {tokens : List Token} {margins : List Nat} {position : Position} {rest : List Char}

/-- Moving on within the innermost block changes the place alone, and what depends on it. -/
theorem advance?_eq {cursor next : Cursor} {candidate kept : Option Candidate}
    {keyAllowed allowed : Bool}
    (moves : toToken false false keyAllowed cursor.position cursor.rest = (allowed, next))
    (fresh : Candidate.refresh? next.position candidate = some kept)
    (inside : margins.headD 0 ≤ next.position.column + 1) :
    advance? { cursor, tokens, margins, candidate, keyAllowed } =
      some { cursor := next, tokens, margins, candidate := kept, keyAllowed := allowed } := by
  simp only [advance?, inFlow, List.isEmpty_nil, Bool.not_true, moves, dropStale?, fresh]
  simp [closeBlocks, inFlow, column, endBlocks_of_le inside]

/-- The reader at the start of a line after some tokens. -/
def atLine (tokens : List Token) (margins : List Nat) (cursor : Cursor) : Lexer :=
  { cursor, tokens, margins }

/-- The reader gets over a blank to the token after it. -/
theorem advance?_blank {keyAllowed : Bool} (token : StartsToken rest)
    (inside : margins.headD 0 ≤ 1) :
    advance? { cursor := ⟨position, ' ' :: rest⟩, tokens, margins, keyAllowed } =
      some { cursor := ⟨position.next ' ', rest⟩, tokens, margins, keyAllowed } := by
  refine advance?_eq ?_ rfl (Nat.le_trans inside (Nat.le_add_left _ _))
  rw [toToken, if_neg (by decide), if_pos (.inr (.inl rfl)), toToken_eq token]

/-- A token that may belong to a key makes its place a candidate if a key may start there. -/
theorem readKeyPart?_eq {lexer : Lexer} (free : lexer.candidate = none) {token : Token}
    {after : Cursor} {keyAllowed : Bool} :
    lexer.readKeyPart? token after keyAllowed = some { lexer with
      cursor := after
      tokens := lexer.tokens ++ [token]
      candidate := if lexer.keyAllowed then
        some ⟨!lexer.inFlow && lexer.margin == lexer.column + 1, lexer.tokens.length,
          lexer.cursor.position⟩ else none
      keyAllowed } := by
  cases allowed : lexer.keyAllowed
  · simp [readKeyPart?, remember?, emit, allowed, free]
  · simp [readKeyPart?, remember?, forget?, emit, allowed, free]

/-- A colon before a blank stands before a value. -/
theorem read?_colon {lexer : Lexer} (here : lexer.cursor.rest = ':' :: ' ' :: rest) :
    lexer.read? = lexer.readValue? (' ' :: rest) := by
  rw [read?_of_ne here (by decide) (by decide) (by decide)]
  simp [readToken?, endsWord, isBlank]

/-- A question mark before a blank stands before a key. -/
theorem read?_question {lexer : Lexer} (here : lexer.cursor.rest = '?' :: ' ' :: rest) :
    lexer.read? = lexer.readKey? (' ' :: rest) := by
  rw [read?_of_ne here (by decide) (by decide) (by decide)]
  simp [readToken?, endsWord, isBlank]

/-- The tokens that start a block where there is none. -/
def opening (margins : List Nat) : List Token :=
  if margins = [] then [.blockMapping] else []

variable {cs text : List Char} {style : Style}

/-- From the start of a line the reader gets over a short key to its colon. -/
theorem step_key (written : Written cs style text) (near : String.utf8Len cs ≤ Candidate.reach)
    (either : margins = [] ∨ margins = [1]) (start : position.column = 0) :
    (atLine tokens margins ⟨position, cs ++ ':' :: ' ' :: rest⟩).read?.bind advance? =
      some {
        cursor := ⟨position.advance cs, ':' :: ' ' :: rest⟩
        tokens := tokens ++ [.scalar style (String.ofList text)]
        margins
        candidate := some ⟨margins.headD 0 == 1, tokens.length, position⟩
        keyAllowed := false } := by
  have low : margins.headD 0 ≤ 1 := by
    rcases either with rfl | rfl <;> decide
  have here : (atLine tokens margins ⟨position, cs ++ ':' :: ' ' :: rest⟩).flows = [] := rfl
  have colon : StartsToken (':' :: ' ' :: rest) := startsToken_cons rfl (by decide) rfl _
  rw [written.read?_key here low rfl, readKeyPart?_eq rfl, Option.bind_some]
  refine advance?_eq (toToken_eq colon) ?_ (Nat.le_trans low (Nat.le_add_left _ _))
  -- The colon is on the same line and near enough, so the candidate is not stale.
  simp [Candidate.refresh?, Candidate.isStale, atLine, start, near, inFlow, margin, column]

/-- After the colon of a short key the reader gets to its value. -/
theorem step_value {required : Bool} {scalar : Token} {tokens : List Token}
    (either : margins = [] ∨ margins = [1]) {start : Position} (first : start.column = 0)
    (token : StartsToken rest) :
    Option.bind (read? {
        cursor := ⟨position, ':' :: ' ' :: rest⟩
        tokens := tokens ++ [scalar]
        margins
        candidate := some ⟨required, tokens.length, start⟩
        keyAllowed := false }) advance? =
      some {
        cursor := ⟨(position.next ':').next ' ', rest⟩
        tokens := tokens ++ opening margins ++ [.key, scalar, .value]
        margins := [1]
        keyAllowed := false } := by
  rw [read?_colon rfl]
  rcases either with rfl | rfl <;>
    simp [readValue?, openBlock, inFlow, margin, first, emit, moveTo, Cursor.moveTo, opening,
      advance?_blank token]

/-- At the end of a line the reader gets over a scalar to the next line. -/
theorem step_line {keyAllowed : Bool} (written : Written cs style text)
    (token : StartsToken rest) (inside : 1 ≤ position.column) :
    Option.bind (read? {
        cursor := ⟨position, cs ++ '\n' :: rest⟩
        tokens
        margins := [1]
        keyAllowed }) advance? =
      some (atLine (tokens ++ [.scalar style (String.ofList text)]) [1]
        ⟨(position.advance cs).nextLine, rest⟩) := by
  have here : Lexer.flows
      { cursor := ⟨position, cs ++ '\n' :: rest⟩, tokens, margins := [1], keyAllowed } = [] := rfl
  obtain ⟨after, allowed, read, next⟩ := written.read?_line here rfl rfl token
  rw [read, readKeyPart?_eq rfl, Option.bind_some]
  refine advance?_eq next ?_ (Nat.le_add_left _ _)
  -- A candidate here would not be required, and the next line makes it stale.
  cases keyAllowed
  · rfl
  · have beyond : (1 == position.column + 1) = false := beq_eq_false_iff_ne.mpr (by omega)
    simp [Candidate.refresh?, Candidate.isStale, inFlow, margin, column, beyond, Position.nextLine]

/-- From the start of a line the reader gets over a question mark to its key. -/
theorem step_question (either : margins = [] ∨ margins = [1]) (start : position.column = 0)
    (token : StartsToken rest) :
    (atLine tokens margins ⟨position, '?' :: ' ' :: rest⟩).read?.bind advance? =
      some {
        cursor := ⟨(position.next '?').next ' ', rest⟩
        tokens := tokens ++ opening margins ++ [.key]
        margins := [1] } := by
  rw [read?_question rfl]
  rcases either with rfl | rfl <;>
    simp [atLine, readKey?, startBlock?, openBlock, forget?, inFlow, margin, column, start, emit,
      moveTo, Cursor.moveTo, opening, advance?_blank token]

/-- From the start of a line the reader gets over a colon to its value. -/
theorem step_colon (start : position.column = 0) (token : StartsToken rest) :
    (atLine tokens [1] ⟨position, ':' :: ' ' :: rest⟩).read?.bind advance? =
      some {
        cursor := ⟨(position.next ':').next ' ', rest⟩
        tokens := tokens ++ [.value]
        margins := [1] } := by
  rw [read?_colon rfl]
  simp [atLine, readValue?, startBlock?, openBlock, inFlow, margin, column, start, emit, moveTo,
    Cursor.moveTo, advance?_blank token]

/-- What comes of the text from a token on. -/
def resume? (fuel : Nat) (lexer : Lexer) : Option (List Token) :=
  if lexer.cursor.rest.isEmpty then (lexer.closeBlocks 0).forget?.map (·.tokens)
  else lexer.read?.bind (run? fuel)

/-- With fuel left, the reader advances once and resumes. -/
theorem run?_succ (fuel : Nat) (lexer : Lexer) :
    run? (fuel + 1) lexer = lexer.advance?.bind (resume? fuel) := by
  rw [run?]
  refine congrArg _ (funext fun lexer => ?_)
  rw [resume?]
  split <;> simp [Option.map_eq_bind]

/-- From a token on, the text gives the tokens if there is fuel for every character. -/
def Yields (lexer : Lexer) (tokens : List Token) : Prop :=
  ∀ fuel, lexer.cursor.rest.length ≤ fuel → lexer.resume? fuel = some tokens

private theorem Yields.of_step {lexer next : Lexer} (step : lexer.read?.bind advance? = some next)
    (shorter : next.cursor.rest.length < lexer.cursor.rest.length) (yields : next.Yields tokens) :
    lexer.Yields tokens := by
  intro fuel enough
  have more : lexer.cursor.rest.isEmpty = false := by
    rw [List.isEmpty_eq_false_iff]
    exact List.ne_nil_of_length_pos (by omega)
  obtain ⟨fuel, rfl⟩ : ∃ less, fuel = less + 1 := ⟨fuel - 1, by omega⟩
  calc lexer.resume? (fuel + 1)
      = lexer.read?.bind (run? (fuel + 1)) := by simp [resume?, more]
    _ = (lexer.read?.bind advance?).bind (resume? fuel) := by
        rw [Option.bind_assoc]
        exact congrArg _ (funext (run?_succ fuel))
    _ = next.resume? fuel := by rw [step, Option.bind_some]
    _ = some tokens := yields fuel (by omega)

/-- At the end of the text the block ends. -/
theorem yields_end : (atLine tokens [1] ⟨position, []⟩).Yields (tokens ++ [.blockEnd]) :=
  fun _ _ => rfl

end Lexer

open Lexer

/-- The characters of a field whose value is a scalar. -/
def fieldChars : String × Json.Scalar → List Char
  | (name, value) =>
    if maxKeySize < name.utf8ByteSize then
      '?' :: ' ' :: textChars name ++ '\n' :: ':' :: ' ' :: scalarChars value ++ ['\n']
    else textChars name ++ ':' :: ' ' :: scalarChars value ++ ['\n']

/-- The tokens of a field whose value is a scalar. -/
def fieldTokens : String × Json.Scalar → List Token
  | (name, value) =>
    [.key, .scalar (textStyle name) name, .value, .scalar (scalarStyle value) (scalarText value)]

/-- From the start of a line the reader gets over a field to the start of the next line. -/
theorem yields_field {field : String × Json.Scalar} {tokens all : List Token} {margins : List Nat}
    {position : Position} {rest : List Char} (either : margins = [] ∨ margins = [1])
    (start : position.column = 0) (token : StartsToken rest)
    (yields : ∀ next : Position, next.column = 0 →
      (atLine (tokens ++ opening margins ++ fieldTokens field) [1] ⟨next, rest⟩).Yields all) :
    (atLine tokens margins ⟨position, fieldChars field ++ rest⟩).Yields all := by
  obtain ⟨name, value⟩ := field
  have key := written_textChars name
  have scalar := written_scalarChars value
  rw [fieldChars]
  split
  · simp only [List.cons_append, List.append_assoc, List.nil_append]
    have colon (more : List Char) : StartsToken (':' :: more) :=
      startsToken_cons rfl (by decide) rfl more
    refine .of_step (step_question either start (key.startsToken _)) ?_ ?_
    · simp only [atLine, List.length_append, List.length_cons]
      omega
    refine .of_step (step_line key (colon _) (by simp)) ?_ ?_
    · simp only [atLine, List.length_append, List.length_cons]
      omega
    refine .of_step (step_colon rfl (scalar.startsToken _)) ?_ ?_
    · simp only [atLine, List.length_append, List.length_cons]
      omega
    refine .of_step (step_line scalar token (by simp)) ?_ ?_
    · simp only [atLine, List.length_append, List.length_cons]
      omega
    simpa [fieldTokens] using yields _ rfl
  · next short =>
    simp only [List.cons_append, List.append_assoc, List.nil_append]
    have near : String.utf8Len (textChars name) ≤ Candidate.reach := by
      have bound := utf8Len_textChars_le name
      rw [maxKeySize] at short
      rw [Candidate.reach]
      omega
    refine .of_step (step_key key near either start) ?_ ?_
    · have filled := List.length_pos_of_ne_nil key.filled
      simp only [atLine, List.length_append, List.length_cons]
      omega
    refine .of_step (step_value either start (scalar.startsToken _)) ?_ ?_
    · simp only [List.length_append, List.length_cons]
      omega
    refine .of_step (step_line scalar token (by simp)) ?_ ?_
    · simp only [atLine, List.length_append, List.length_cons]
      omega
    simpa [fieldTokens] using yields _ rfl

/-- Where fields are written, a token or the end of the text follows. -/
theorem startsToken_fields (fields : List (String × Json.Scalar)) :
    StartsToken (fields.flatMap fieldChars) := by
  cases fields with
  | nil =>
      rintro _ ⟨⟩
  | cons field fields =>
      rw [List.flatMap_cons, fieldChars]
      split
      · exact startsToken_cons rfl (by decide) rfl _
      · rw [List.append_assoc, List.append_assoc]
        exact (written_textChars field.1).startsToken _

/-- The reader reads the lines of a mapping field by field. -/
theorem yields_fields (fields : List (String × Json.Scalar)) (tokens : List Token)
    {position : Position} (start : position.column = 0) :
    (atLine tokens [1] ⟨position, fields.flatMap fieldChars⟩).Yields
      (tokens ++ fields.flatMap fieldTokens ++ [.blockEnd]) := by
  induction fields generalizing tokens position with
  | nil =>
      rw [List.flatMap_nil, List.flatMap_nil, List.append_nil]
      exact yields_end
  | cons field fields ih =>
      rw [List.flatMap_cons]
      refine yields_field (.inr rfl) start (startsToken_fields fields) fun next first => ?_
      simpa [opening] using ih (tokens ++ fieldTokens field) first

end ColumnSearch.Yaml
