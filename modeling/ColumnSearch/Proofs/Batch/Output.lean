import ColumnSearch.Proofs.Batch.Shown
import ColumnSearch.Proofs.CommandLine.Outcome
import ColumnSearch.Proofs.Json.Visible

/-!
# Printed batches stay in step with their input

Splitting at every line feed divides a text into its lines and what follows the last line feed. A
record is printed as compact text, which holds no line feed, so the printed records are told apart
by their line feeds: there is one line for each line of the input, and it holds nothing but the
record of that line, of which it shows everything.
-/

namespace ColumnSearch

namespace Text

/-- A line without the carriage return that belongs to the line feed after it. -/
def dropReturn (line : List Char) : List Char :=
  if line.getLast? = some '\r' then line.dropLast else line

/-- The lines among parts that line feeds divide: the last part is no line if it is empty. -/
def linesOfParts : List (List Char) → List (List Char)
  | [] => []
  | [last] => if last = [] then [] else [last]
  | line :: next :: parts => dropReturn line :: linesOfParts (next :: parts)

private theorem linesOfParts_cons (line : List Char) {parts : List (List Char)}
    (more : parts ≠ []) :
    linesOfParts (line :: parts) = dropReturn line :: linesOfParts parts := by
  cases parts with
  | nil => exact absurd rfl more
  | cons next parts => rw [linesOfParts]

/-- A character goes to the first line, unless it is the carriage return before a line feed. -/
theorem linesOfParts_cons_cons {c : Char} {first : List Char} {parts : List (List Char)}
    (kept : first = [] → parts ≠ [] → c ≠ '\r') :
    linesOfParts ((c :: first) :: parts) =
      match linesOfParts (first :: parts) with
      | [] => [[c]]
      | line :: more => (c :: line) :: more := by
  cases parts with
  | nil =>
      by_cases empty : first = []
      · simp [linesOfParts, empty]
      · simp [linesOfParts, empty]
  | cons next parts =>
      have dropped : dropReturn (c :: first) = c :: dropReturn first := by
        cases first with
        | nil => simp [dropReturn, kept rfl]
        | cons d first =>
            rw [dropReturn, dropReturn, List.getLast?_cons_cons]
            split <;> rfl
      simp only [linesOfParts, dropped]

/-- Behind a character that is no line feed, a text is split like the rest of it. -/
theorem exists_splitOn_cons {c : Char} (other : c ≠ '\n') (cs : List Char) :
    ∃ first parts, cs.splitOn '\n' = first :: parts ∧
      (c :: cs).splitOn '\n' = (c :: first) :: parts := by
  obtain ⟨first, parts, split⟩ := List.exists_cons_of_ne_nil (List.splitOn_ne_nil '\n' cs)
  refine ⟨first, parts, split, ?_⟩
  rw [List.splitOn_cons_eq_if_modifyHead, if_neg (by simpa using other), split,
    List.modifyHead_cons]

private theorem splitOn_feed_cons (cs : List Char) :
    ('\n' :: cs).splitOn '\n' = [] :: cs.splitOn '\n' :=
  List.splitOn_append_cons_self_of_not_mem (List.not_mem_nil) cs

/-- Only a text that starts with a line feed has an empty part before others. -/
theorem eq_cons_of_splitOn {cs : List Char} {parts : List (List Char)} (more : parts ≠ [])
    (split : cs.splitOn '\n' = [] :: parts) : ∃ rest, cs = '\n' :: rest := by
  cases cs with
  | nil =>
      cases split
      exact absurd rfl more
  | cons c cs =>
      by_cases feed : c = '\n'
      · exact ⟨cs, by rw [feed]⟩
      · obtain ⟨first, parts, _, behind⟩ := exists_splitOn_cons feed cs
        rw [behind] at split
        cases split

/-- A character that is kept before an empty first part is no carriage return. -/
theorem ne_return_of_splitOn {c : Char} {cs first : List Char} {parts : List (List Char)}
    (other : ∀ rest, c = '\r' → cs = '\n' :: rest → False)
    (split : cs.splitOn '\n' = first :: parts) (empty : first = []) (more : parts ≠ []) :
    c ≠ '\r' := by
  subst empty
  obtain ⟨rest, starts⟩ := eq_cons_of_splitOn more split
  intro carriage
  exact other rest carriage starts

/-- Lines are found by splitting the text at its line feeds. -/
theorem lineChars_eq_linesOfParts (cs : List Char) :
    lineChars cs = linesOfParts (cs.splitOn '\n') := by
  fun_induction lineChars cs with
  | case1 => rfl
  | case2 cs ih =>
      obtain ⟨first, parts, split, behind⟩ :=
        exists_splitOn_cons (c := '\r') (by decide) ('\n' :: cs)
      rw [splitOn_feed_cons] at split
      cases split
      rw [behind, linesOfParts_cons _ (List.splitOn_ne_nil _ _), ih]
      rfl
  | case3 cs ih =>
      rw [splitOn_feed_cons, linesOfParts_cons _ (List.splitOn_ne_nil _ _), ih]
      rfl
  | case4 c cs other alone none ih =>
      obtain ⟨first, parts, split, behind⟩ := exists_splitOn_cons alone cs
      rw [behind, linesOfParts_cons_cons (ne_return_of_splitOn other split), ← split, ← ih, none]
  | case5 c cs other alone line more found ih =>
      obtain ⟨first, parts, split, behind⟩ := exists_splitOn_cons alone cs
      rw [behind, linesOfParts_cons_cons (ne_return_of_splitOn other split), ← split, ← ih, found]

private theorem splitOn_flatMap {lines : List (List Char)} (each : ∀ line ∈ lines, '\n' ∉ line) :
    (lines.flatMap (· ++ ['\n'])).splitOn '\n' = lines ++ [[]] := by
  induction lines with
  | nil => rfl
  | cons line lines ih =>
      obtain ⟨first, others⟩ := List.forall_mem_cons.mp each
      rw [List.flatMap_cons, List.append_assoc, List.singleton_append,
        List.splitOn_append_cons_self_of_not_mem first, ih others, List.cons_append]

private theorem linesOfParts_append {lines : List (List Char)}
    (each : ∀ line ∈ lines, '\r' ∉ line) :
    linesOfParts (lines ++ [[]]) = lines := by
  induction lines with
  | nil => rfl
  | cons line lines ih =>
      obtain ⟨first, others⟩ := List.forall_mem_cons.mp each
      have kept : dropReturn line = line :=
        if_neg fun last => first (List.mem_of_getLast? last)
      rw [List.cons_append, linesOfParts_cons _ (List.concat_ne_nil _ _), kept, ih others]

private theorem not_mem_of_isVisible {cs : List Char} (visible : ∀ c ∈ cs, IsVisible c) {c : Char}
    (control : c.toNat < 0x20) : c ∉ cs := fun member =>
  absurd (visible c member) (Nat.not_le.mpr control)

/-- Texts without control characters are the lines of what they make up when a line feed ends each
of them. -/
theorem lineChars_flatMap {lines : List (List Char)}
    (visible : ∀ line ∈ lines, ∀ c ∈ line, IsVisible c) :
    lineChars (lines.flatMap (· ++ ['\n'])) = lines := by
  rw [lineChars_eq_linesOfParts,
    splitOn_flatMap fun line member => not_mem_of_isVisible (visible line member) (by decide),
    linesOfParts_append fun line member => not_mem_of_isVisible (visible line member) (by decide)]

private theorem map_toList_map_ofList (lines : List (List Char)) :
    (lines.map String.ofList).map String.toList = lines := by
  rw [List.map_map]
  exact List.map_id'' (fun _ => String.toList_ofList) lines

end Text

namespace CommandLine

variable (policy : Policy) (target : Target) (text : String)

/-- The printed lines of a batch. -/
def batchLines : List (List Char) :=
  ((Host.fresh policy target).records (Text.lines text)).map fun record => Json.chars record.toJson

private theorem toList_batchText :
    (batchText policy target text).toList =
      (batchLines policy target text).flatMap (· ++ ['\n']) := by
  simp only [batchText, batchLines, Host.records, Host.fresh, String.toList_join, List.flatMap_map,
    List.map_map, String.toList_append, Json.compact, String.toList_ofList]
  rfl

private theorem isVisible_batchLines :
    ∀ line ∈ batchLines policy target text, ∀ c ∈ line, IsVisible c := by
  intro line member
  obtain ⟨record, _, rfl⟩ := List.mem_map.mp member
  exact Json.isVisible_chars record.toJson

/-- The lines that are printed are the compact texts of the records. -/
theorem lines_batchText :
    Text.lines (batchText policy target text) =
      ((Host.fresh policy target).records (Text.lines text)).map (·.toJson.compact) := by
  rw [Text.lines, toList_batchText, Text.lineChars_flatMap (isVisible_batchLines _ _ _), batchLines,
    List.map_map]
  rfl

/-- A batch is printed in step with its input. Any command line that asks for it prints the same
text, in which every line feed ends a line. There are as many lines as the input has, which are
what line feeds divide, without the carriage return before a line feed, and without an empty rest.
Each line is the compact text of the record of the line with the same number, as the host returns
it after the lines before. It spells the object of what the record shows, and no record that a host
returns has the same text and shows anything else. -/
theorem batch_output_stays_in_step :
    (∀ environment storage stdin words invocation path,
      Invocation.parse environment words = .ok invocation →
      invocation.action = .batch path target →
      invocation.policy.resolve storage = .ok policy →
      Input.batch storage stdin path = .ok text →
      outcome environment storage stdin words =
        { exitCode := 0, output := batchText policy target text }) ∧
    (batchText policy target text).toList.splitOn '\n' =
      (Text.lines (batchText policy target text)).map String.toList ++ [[]] ∧
    (Text.lines (batchText policy target text)).length = (Text.lines text).length ∧
    (Text.lines text).map String.toList = Text.linesOfParts (text.toList.splitOn '\n') ∧
    ∀ index line, (Text.lines text)[index]? = some line →
      ∃ record, record =
          (((Host.fresh policy target).after ((Text.lines text).take index)).submit line).2 ∧
        (Text.lines (batchText policy target text))[index]? = some record.toJson.compact ∧
        JsonDocument.parse? record.toJson.compact = some (.object record.members) ∧
        ∀ (host : Host) (other : String),
          (host.submit other).2.toJson.compact = record.toJson.compact →
          (host.submit other).2.shown = record.shown := by
  refine ⟨?_, ?_, ?_, ?_, ?_⟩
  · intro environment storage stdin words invocation path parsed asked resolved input
    refine outcome_of_run_eq_ok parsed resolved ?_
    rw [asked, Action.run, input]
    rfl
  · rw [Text.lines, toList_batchText, Text.lineChars_flatMap (isVisible_batchLines _ _ _),
      Text.map_toList_map_ofList, Text.splitOn_flatMap]
    intro line member
    exact Text.not_mem_of_isVisible (isVisible_batchLines _ _ _ line member) (by decide)
  · rw [lines_batchText, List.length_map, Host.length_records]
  · rw [Text.lines, Text.map_toList_map_ofList, Text.lineChars_eq_linesOfParts]
  · intro index line stands
    refine ⟨_, rfl, ?_, Record.parse?_compact (Host.sound_submit _ _), ?_⟩
    · rw [lines_batchText, List.getElem?_map, Host.getElem?_records _ stands]
      rfl
    · intro host other same
      exact Record.shown_eq_of_compact_eq (host.sound_submit other) (Host.sound_submit _ _) same

/-- Of two lines that are piped in, the first is no search and the second asks for nothing. -/
theorem batch_output_stays_in_step_piped :
    let nowhere : Storage := ⟨fun _ => none, fun _ => false⟩
    let printed := batchText {} ⟨"Employees", "JobTitle"⟩ "(\r\n \n"
    outcome (fun _ => none) nowhere (.piped "(\r\n \n") ["batch"] =
      { exitCode := 0, output := printed } ∧
    (Text.lines printed).length = 2 ∧
    (Text.lines printed)[1]? = some "\x7b\"query\":\"\",\"status\":\"cleared\"\x7d" := by
  intro nowhere printed
  have parsed : Invocation.parse (fun _ => none) ["batch"] =
      .ok ⟨.batch none ⟨"Employees", "JobTitle"⟩, {}, false, false⟩ := by
    decide +kernel
  obtain ⟨runs, _, count, _, each⟩ :=
    batch_output_stays_in_step {} ⟨"Employees", "JobTitle"⟩ "(\r\n \n"
  obtain ⟨record, returned, line, _⟩ := each 1 " " (by decide)
  refine ⟨runs _ nowhere (.piped "(\r\n \n") _ _ none parsed rfl rfl rfl, ?_, ?_⟩
  · rw [count]
    decide
  · rw [line, returned]
    decide +kernel

end CommandLine

end ColumnSearch
