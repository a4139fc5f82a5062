import ColumnSearch.Batch
import ColumnSearch.Proofs.Search.Blank
import ColumnSearch.Proofs.Search.RoundTrip
import ColumnSearch.Proofs.Sha256

/-!
# Following a batch

A host keeps only the fingerprint of the filters it applies. Its records are enough to tell the
filters themselves, and every record that applies filters is needed: the host repeats no
application.
-/

namespace ColumnSearch

namespace Host

/-- The host that applies no filters yet. -/
def fresh (policy : Policy) (target : Target) : Host :=
  { policy, target }

/-- The filters that are to be applied after one more line: none after a blank one, those of the
line if it compiles, and the same as before if it fails. -/
def advance (policy : Policy) (target : Target) (current : Option FilterSet) (line : String) :
    Option FilterSet :=
  if Text.isBlankText line then none
  else
    match Search.compile policy target line with
    | .ok compiled => some compiled.filters
    | .error _ => current

/-- The filters that are to be applied after some lines, none being applied at first. -/
def current (policy : Policy) (target : Target) (lines : List String) : Option FilterSet :=
  lines.foldl (advance policy target) none

/-- The compact texts of the filters that lines compile to. -/
def encodings (policy : Policy) (target : Target) (lines : List String) : List String :=
  (lines.filterMap fun line => (Search.compile policy target line).toOption).map
    fun compiled => compiled.filters.toJson.compact

/-- The records of submitting lines in order. -/
def records (host : Host) (lines : List String) : List Record :=
  (host.submitAll lines).map Prod.fst

/-- The host before the first line and after each of them. -/
def states (host : Host) (lines : List String) : List Host :=
  host :: (host.submitAll lines).map Prod.snd

/-- The host after submitting lines in order. -/
def after (host : Host) (lines : List String) : Host :=
  lines.foldl (fun host line => (host.submit line).1) host

end Host

private theorem Submission.isSome_filters?_iff (submission : Submission) :
    submission.filters?.isSome = true ↔ submission.status = "applied" := by
  rcases submission with _ | _ | _ | _ | _ | _ <;> simp [filters?, status]

namespace Record

/-- What a reader of records holds after one more record, taking filters that are applied and
dropping them when they are cleared. -/
def follow (held : Option FilterSet) (record : Record) : Option FilterSet :=
  if record.submission.status = "applied" then record.submission.filters?
  else if record.submission.status = "cleared" then none
  else held

@[simp]
private theorem follow_cleared (held : Option FilterSet) (query : String) :
    follow held ⟨query, .cleared⟩ = none := by
  simp [follow, Submission.status]

@[simp]
private theorem follow_failed (held : Option FilterSet) (query : String) (error : SearchError) :
    follow held ⟨query, .failed error⟩ = held := by
  cases error <;> simp [follow, Submission.status]

@[simp]
private theorem follow_unchanged (held : Option FilterSet) (query fingerprint : String)
    (metrics : Option Metrics) :
    follow held ⟨query, .unchanged fingerprint metrics⟩ = held := by
  simp [follow, Submission.status]

@[simp]
private theorem follow_applied (held : Option FilterSet) (query fingerprint : String)
    (filters : FilterSet) (metrics : Option Metrics) :
    follow held ⟨query, .applied fingerprint filters metrics⟩ = some filters := by
  simp [follow, Submission.status, Submission.filters?]

end Record

namespace Host

variable {policy : Policy} {target : Target} {host : Host} {lines : List String} {line : String}
  {held : Option FilterSet}

private theorem submit_of_isBlankText (host : Host) (blank : Text.isBlankText line = true) :
    host.submit line = ({ host with applied := none }, ⟨Text.trim line, .cleared⟩) := by
  rw [submit, Text.isEmpty_trim, if_pos blank]

/-- A line that is not blank and does not compile is reported with its error and leaves the host
alone. -/
theorem submit_of_error {error : SearchError} (visible : Text.isBlankText line = false)
    (failed : Search.compile host.policy host.target line = .error error) :
    host.submit line = (host, ⟨Text.trim line, .failed error⟩) := by
  rw [submit, Text.isEmpty_trim, if_neg (by simp [visible]), failed]

/-- A line that compiles is applied unless its filters are the ones already applied. -/
theorem submit_of_ok {compiled : Compiled}
    (success : Search.compile host.policy host.target line = .ok compiled) :
    host.submit line =
      if host.applied = some compiled.filters.fingerprint then
        (host, ⟨Text.trim line, .unchanged compiled.filters.fingerprint compiled.metrics⟩)
      else
        ({ host with applied := some compiled.filters.fingerprint },
          ⟨Text.trim line,
            .applied compiled.filters.fingerprint compiled.filters compiled.metrics⟩) := by
  have visible : Text.isBlankText line = false := by
    rw [Bool.eq_false_iff]
    intro blank
    exact Search.compile_ne_ok_of_isBlankText blank compiled success
  rw [submit, Text.isEmpty_trim, if_neg (by simp [visible]), success]

/-- What submitting a line can do to the host, and the record of it. -/
inductive Submits (host : Host) (line : String) : Host × Record → Prop where
  | cleared (blank : Text.isBlankText line = true) :
    Submits host line ({ host with applied := none }, ⟨Text.trim line, .cleared⟩)
  | failed {error : SearchError}
    (failure : Search.compile host.policy host.target line = .error error) :
    Submits host line (host, ⟨Text.trim line, .failed error⟩)
  | unchanged {compiled : Compiled}
    (success : Search.compile host.policy host.target line = .ok compiled)
    (same : host.applied = some compiled.filters.fingerprint) :
    Submits host line
      (host, ⟨Text.trim line, .unchanged compiled.filters.fingerprint compiled.metrics⟩)
  | applied {compiled : Compiled}
    (success : Search.compile host.policy host.target line = .ok compiled)
    (different : host.applied ≠ some compiled.filters.fingerprint) :
    Submits host line ({ host with applied := some compiled.filters.fingerprint },
      ⟨Text.trim line, .applied compiled.filters.fingerprint compiled.filters compiled.metrics⟩)

/-- Every line is handled in one of the ways that `Submits` lists. -/
theorem submits_submit (host : Host) (line : String) : host.Submits line (host.submit line) := by
  by_cases blank : Text.isBlankText line = true
  · rw [submit_of_isBlankText host blank]
    exact .cleared blank
  · cases outcome : Search.compile host.policy host.target line with
    | error error =>
        rw [submit_of_error (Bool.eq_false_iff.mpr blank) outcome]
        exact .failed outcome
    | ok compiled =>
        rw [submit_of_ok outcome]
        by_cases same : host.applied = some compiled.filters.fingerprint
        · rw [if_pos same]
          exact .unchanged outcome same
        · rw [if_neg same]
          exact .applied outcome same

private theorem records_nil (host : Host) : host.records [] = [] :=
  rfl

/-- The first record is that of the first line, and the others come from the host it leaves. -/
theorem records_cons (host : Host) (line : String) (lines : List String) :
    host.records (line :: lines) = (host.submit line).2 :: (host.submit line).1.records lines := by
  simp only [records, submitAll, List.map_cons]

private theorem states_cons (host : Host) (line : String) (lines : List String) :
    host.states (line :: lines) = host :: (host.submit line).1.states lines := by
  simp only [states, submitAll, List.map_cons]

/-- The host after several lines is the one that the first line leaves, after the others. -/
theorem after_cons (host : Host) (line : String) (lines : List String) :
    host.after (line :: lines) = (host.submit line).1.after lines := by
  rw [after, List.foldl_cons, after]

/-- There is one record for every line. -/
theorem length_records (host : Host) (lines : List String) :
    (host.records lines).length = lines.length := by
  induction lines generalizing host with
  | nil => rfl
  | cons line lines ih => rw [records_cons, List.length_cons, List.length_cons, ih]

private theorem take_records (host : Host) (lines : List String) (count : Nat) :
    (host.records lines).take count = host.records (lines.take count) := by
  induction lines generalizing host count with
  | nil => rw [List.take_nil, records_nil, List.take_nil]
  | cons line lines ih =>
      cases count with
      | zero => rfl
      | succ count => rw [records_cons, List.take_succ_cons, List.take_succ_cons, records_cons, ih]

private theorem getElem?_states (host : Host) {lines : List String} {count : Nat}
    (within : count ≤ lines.length) :
    (host.states lines)[count]? = some (host.after (lines.take count)) := by
  induction lines generalizing host count with
  | nil =>
      cases Nat.le_zero.mp within
      rfl
  | cons line lines ih =>
      cases count with
      | zero => rfl
      | succ count =>
          rw [states_cons, List.getElem?_cons_succ, ih _ (Nat.le_of_succ_le_succ within),
            List.take_succ_cons, after_cons]

/-- The record at a position is what its line gets from the host that the earlier lines leave. -/
theorem getElem?_records (host : Host) {index : Nat} (stands : lines[index]? = some line) :
    (host.records lines)[index]? = some ((host.after (lines.take index)).submit line).2 := by
  induction lines generalizing host index with
  | nil => cases stands
  | cons first lines ih =>
      cases index with
      | zero =>
          cases stands
          rw [records_cons, List.getElem?_cons_zero, List.take_zero, after, List.foldl_nil]
      | succ index =>
          rw [List.getElem?_cons_succ] at stands
          rw [records_cons, List.getElem?_cons_succ, ih _ stands, List.take_succ_cons, after_cons]

private theorem records_append (host : Host) (lines : List String) (line : String) :
    host.records (lines ++ [line]) =
      host.records lines ++ [((host.after lines).submit line).2] := by
  induction lines generalizing host with
  | nil =>
      rw [List.nil_append, records_cons, records_nil, records_nil, List.nil_append, after,
        List.foldl_nil]
  | cons first lines ih =>
      rw [List.cons_append, records_cons, records_cons, ih, List.cons_append, after_cons]

private theorem after_append (host : Host) (lines : List String) (line : String) :
    host.after (lines ++ [line]) = ((host.after lines).submit line).1 := by
  rw [after, List.foldl_append, List.foldl_cons, List.foldl_nil, after]

private theorem current_append (policy : Policy) (target : Target) (lines : List String)
    (line : String) :
    current policy target (lines ++ [line]) =
      advance policy target (current policy target lines) line := by
  rw [current, List.foldl_append, List.foldl_cons, List.foldl_nil, current]

private theorem mem_encodings {compiled : Compiled} (member : line ∈ lines)
    (success : Search.compile policy target line = .ok compiled) :
    compiled.filters.toJson.compact ∈ encodings policy target lines := by
  refine List.mem_map_of_mem (List.mem_filterMap.mpr ⟨line, member, ?_⟩)
  rw [success]
  rfl

private theorem collisionFree_of_subset {others : List String} (subset : others ⊆ lines)
    (collisionFree : Sha256.CollisionFree (encodings policy target lines)) :
    Sha256.CollisionFree (encodings policy target others) := by
  have fewer : encodings policy target others ⊆ encodings policy target lines :=
    List.map_subset _ (List.filterMap_subset _ subset)
  intro first member second occurs
  exact collisionFree first (fewer member) second (fewer occurs)

/-- The filters that are to be applied are those of a line. -/
theorem exists_line_of_current {filters : FilterSet}
    (holds : current policy target lines = some filters) :
    ∃ line ∈ lines, ∃ compiled, Search.compile policy target line = .ok compiled ∧
      compiled.filters = filters := by
  induction lines using List.reverseRecOn with
  | nil => cases holds
  | append_singleton lines line ih =>
      rw [current_append] at holds
      unfold advance at holds
      split at holds
      · cases holds
      split at holds
      · rename_i compiled success
        exact ⟨line, List.mem_append_right _ List.mem_cons_self, compiled, success,
          Option.some.inj holds⟩
      · obtain ⟨earlier, member, compiled, success, same⟩ := ih holds
        exact ⟨earlier, List.mem_append_left _ member, compiled, success, same⟩

/-- Filters of lines have different fingerprints if their texts do not collide. -/
theorem eq_of_fingerprint_eq (collisionFree : Sha256.CollisionFree (encodings policy target lines))
    {other : String} {first second : Compiled} (member : line ∈ lines) (occurs : other ∈ lines)
    (success : Search.compile policy target line = .ok first)
    (succeeds : Search.compile policy target other = .ok second)
    (same : first.filters.fingerprint = second.filters.fingerprint) :
    first.filters = second.filters := by
  have digests := Sha256.digest_eq_of_hex_eq same
  have texts := collisionFree _ (mem_encodings member success) _ (mem_encodings occurs succeeds)
    digests
  exact FilterSet.eq_of_compact_eq (Search.canonical_of_compile success)
    (Search.canonical_of_compile succeeds) texts

/-- The host compiles as given, and has the fingerprint of the filters that are to be applied. -/
structure Tracks (policy : Policy) (target : Target) (host : Host) (held : Option FilterSet) :
    Prop where
  policy : host.policy = policy
  target : host.target = target
  applied : host.applied = held.map FilterSet.fingerprint

/-- The record of a line tells apart whether its filters are those held already. -/
structure Tells (policy : Policy) (target : Target) (held : Option FilterSet) (line : String)
    (record : Record) : Prop where
  unchanged : ∀ compiled, Search.compile policy target line = .ok compiled →
    (record.submission.status = "unchanged" ↔ held = some compiled.filters)
  applied : ∀ compiled, Search.compile policy target line = .ok compiled →
    (record.submission.status = "applied" ↔ held ≠ some compiled.filters)
  filters : record.submission.filters?.isSome = true ↔ record.submission.status = "applied"

/-- A line that does not compile says nothing about the filters held. -/
theorem tells_of_failure (record : Record)
    (failed : ∀ compiled, Search.compile policy target line ≠ .ok compiled) :
    Tells policy target held line record where
  unchanged compiled success := absurd success (failed compiled)
  applied compiled success := absurd success (failed compiled)
  filters := record.submission.isSome_filters?_iff

private theorem tells_of_success {compiled : Compiled} {record : Record}
    (success : Search.compile policy target line = .ok compiled)
    (unchanged : record.submission.status = "unchanged" ↔ held = some compiled.filters)
    (applied : record.submission.status = "applied" ↔ held ≠ some compiled.filters) :
    Tells policy target held line record := by
  refine ⟨?_, ?_, record.submission.isSome_filters?_iff⟩
  · intro other succeeds
    cases success.symm.trans succeeds
    exact unchanged
  · intro other succeeds
    cases success.symm.trans succeeds
    exact applied

/-- A host on track has the fingerprint of some filters just when they are the ones held. -/
theorem Tracks.applied_eq_some_iff (tracks : Tracks policy target host held) {filters : FilterSet}
    (distinct : ∀ other, held = some other → other.fingerprint = filters.fingerprint →
      other = filters) :
    host.applied = some filters.fingerprint ↔ held = some filters := by
  rw [tracks.applied]
  constructor
  · intro equal
    obtain ⟨other, holds, same⟩ := Option.map_eq_some_iff.mp equal
    rw [holds, distinct other holds same]
  · rintro rfl
    rfl

/-- One submission keeps the host on track, and its record takes a reader along. -/
theorem Tracks.submit (tracks : Tracks policy target host held)
    (distinct : ∀ filters compiled, held = some filters →
      Search.compile policy target line = .ok compiled →
      filters.fingerprint = compiled.filters.fingerprint → filters = compiled.filters) :
    Tracks policy target (host.submit line).1 (advance policy target held line) ∧
      (host.submit line).2.follow held = advance policy target held line ∧
      Tells policy target held line (host.submit line).2 := by
  have ⟨samePolicy, sameTarget, applied⟩ := tracks
  by_cases blank : Text.isBlankText line = true
  · rw [submit_of_isBlankText host blank, advance, if_pos blank]
    exact ⟨⟨samePolicy, sameTarget, rfl⟩, Record.follow_cleared held _,
      tells_of_failure _ (Search.compile_ne_ok_of_isBlankText blank)⟩
  · cases outcome : Search.compile policy target line with
    | error error =>
        have failed : Search.compile host.policy host.target line = .error error := by
          rw [samePolicy, sameTarget, outcome]
        rw [submit_of_error (Bool.eq_false_iff.mpr blank) failed, advance, if_neg blank, outcome]
        refine ⟨⟨samePolicy, sameTarget, applied⟩, Record.follow_failed held _ error,
          tells_of_failure _ ?_⟩
        intro compiled success
        rw [outcome] at success
        cases success
    | ok compiled =>
        have success : Search.compile host.policy host.target line = .ok compiled := by
          rw [samePolicy, sameTarget, outcome]
        have same := tracks.applied_eq_some_iff fun filters holds =>
          distinct filters compiled holds outcome
        rw [submit_of_ok success, advance, if_neg blank, outcome]
        by_cases unchanged : held = some compiled.filters
        · rw [if_pos (same.mpr unchanged)]
          subst unchanged
          refine ⟨⟨samePolicy, sameTarget, applied⟩, Record.follow_unchanged _ _ _ _, ?_⟩
          apply tells_of_success outcome
          · exact iff_of_true rfl rfl
          · exact iff_of_false (by simp [Submission.status]) (not_not.mpr rfl)
        · rw [if_neg (mt same.mp unchanged)]
          refine ⟨⟨samePolicy, sameTarget, rfl⟩, Record.follow_applied _ _ _ _ _, ?_⟩
          apply tells_of_success outcome
          · exact iff_of_false (by simp [Submission.status]) unchanged
          · exact iff_of_true rfl unchanged

private theorem distinct_of_collisionFree
    (collisionFree : Sha256.CollisionFree (encodings policy target (lines ++ [line])))
    (filters : FilterSet) (compiled : Compiled) (holds : current policy target lines = some filters)
    (success : Search.compile policy target line = .ok compiled)
    (same : filters.fingerprint = compiled.filters.fingerprint) : filters = compiled.filters := by
  obtain ⟨earlier, member, before, succeeded, rfl⟩ := exists_line_of_current holds
  exact eq_of_fingerprint_eq collisionFree (List.mem_append_left _ member)
    (List.mem_append_right _ List.mem_cons_self) succeeded success same

/-- After a run the host is on track, and so is a reader of its records. -/
theorem tracks_after (collisionFree : Sha256.CollisionFree (encodings policy target lines)) :
    Tracks policy target ((fresh policy target).after lines) (current policy target lines) ∧
      ((fresh policy target).records lines).foldl Record.follow none =
        current policy target lines := by
  induction lines using List.reverseRecOn with
  | nil => exact ⟨⟨rfl, rfl, rfl⟩, rfl⟩
  | append_singleton lines line ih =>
      obtain ⟨tracks, follows⟩ :=
        ih (collisionFree_of_subset (List.subset_append_left _ _) collisionFree)
      obtain ⟨next, follow, _⟩ := tracks.submit (distinct_of_collisionFree collisionFree)
      rw [after_append, records_append, current_append, List.foldl_append, List.foldl_cons,
        List.foldl_nil, follows]
      exact ⟨next, follow⟩

/-- The records of a batch tell which filters its host applies after every line, if the compact
texts of these filters do not collide. A reader who takes the filters of each record that applies
some and drops them at each record that clears them holds the filters of the last line that
compiled, unless a blank line came after it. Filters are applied just when they are not the ones
held before. -/
theorem records_follow_current (policy : Policy) (target : Target) (lines : List String)
    (collisionFree : Sha256.CollisionFree (encodings policy target lines)) :
    ((fresh policy target).records lines).length = lines.length ∧
    (∀ count ≤ lines.length, ∃ state, ((fresh policy target).states lines)[count]? = some state ∧
      state.applied = (current policy target (lines.take count)).map FilterSet.fingerprint ∧
      (((fresh policy target).records lines).take count).foldl Record.follow none =
        current policy target (lines.take count)) ∧
    ∀ index line record, lines[index]? = some line →
      ((fresh policy target).records lines)[index]? = some record →
      (∀ compiled, Search.compile policy target line = .ok compiled →
        (record.submission.status = "unchanged" ↔
          current policy target (lines.take index) = some compiled.filters) ∧
        (record.submission.status = "applied" ↔
          current policy target (lines.take index) ≠ some compiled.filters)) ∧
      (record.submission.filters?.isSome = true ↔ record.submission.status = "applied") := by
  refine ⟨length_records _ lines, ?_, ?_⟩
  · intro count within
    obtain ⟨tracks, follows⟩ :=
      tracks_after (collisionFree_of_subset (List.take_subset count lines) collisionFree)
    exact ⟨_, getElem?_states _ within, tracks.applied, by rw [take_records, follows]⟩
  · intro index line record stands recorded
    have through : lines.take (index + 1) = lines.take index ++ [line] := by
      rw [List.take_add_one, stands, Option.toList_some]
    have free := collisionFree_of_subset (List.take_subset (index + 1) lines) collisionFree
    rw [through] at free
    obtain ⟨tracks, _⟩ := tracks_after (collisionFree_of_subset (List.subset_append_left _ _) free)
    obtain ⟨_, _, tells⟩ := tracks.submit (distinct_of_collisionFree free)
    rw [getElem?_records _ stands, Option.some.injEq] at recorded
    rw [recorded] at tells
    exact ⟨fun compiled success => ⟨tells.unchanged compiled success,
      tells.applied compiled success⟩, tells.filters⟩

/-- The filters of a search for one word. -/
def wordFilters (word : String) : FilterSet :=
  .single (.ofTests ⟨"Tickets", "Status"⟩ .and [⟨.contains, word⟩])

private theorem collisionFree_open_closed :
    Sha256.CollisionFree
      (encodings {} ⟨"Tickets", "Status"⟩ ["open", "closed", "AND", "(closed)", " "]) := by
  have searches : ["open", "closed", "AND", "(closed)", " "].filterMap
      (fun line => (Search.compile {} ⟨"Tickets", "Status"⟩ line).toOption) =
      [⟨wordFilters "open", none⟩, ⟨wordFilters "closed", none⟩, ⟨wordFilters "closed", none⟩] := by
    decide +kernel
  have apart : Sha256.digest (wordFilters "open").toJson.compact.toUTF8.toList ≠
      Sha256.digest (wordFilters "closed").toJson.compact.toUTF8.toList := by
    rw [Json.compact, Json.compact, Sha256.toList_toUTF8_ofList, Sha256.toList_toUTF8_ofList]
    decide +kernel
  have either {text : String} (member : text ∈
      encodings {} ⟨"Tickets", "Status"⟩ ["open", "closed", "AND", "(closed)", " "]) :
      text = (wordFilters "open").toJson.compact ∨
        text = (wordFilters "closed").toJson.compact := by
    rw [encodings, searches] at member
    simpa using member
  intro first member second occurs same
  rcases either member with rfl | rfl
  · rcases either occurs with rfl | rfl
    · rfl
    · exact absurd same apart
  · rcases either occurs with rfl | rfl
    · exact absurd same.symm apart
    · rfl

/-- A search that compiles to the filters held is not applied again, although another line failed in
between. -/
theorem records_follow_current_closed_again :
    Sha256.CollisionFree
      (encodings {} ⟨"Tickets", "Status"⟩ ["open", "closed", "AND", "(closed)", " "]) ∧
    ∀ record, ((fresh {} ⟨"Tickets", "Status"⟩).records
        ["open", "closed", "AND", "(closed)", " "])[3]? = some record →
      record.submission.status = "unchanged" := by
  refine ⟨collisionFree_open_closed, ?_⟩
  intro record recorded
  have success : Search.compile {} ⟨"Tickets", "Status"⟩ "(closed)" =
      .ok ⟨wordFilters "closed", none⟩ := by
    decide +kernel
  have holds : current {} ⟨"Tickets", "Status"⟩ ["open", "closed", "AND"] =
      some (wordFilters "closed") := by
    decide +kernel
  obtain ⟨_, _, tells⟩ := records_follow_current {} ⟨"Tickets", "Status"⟩
    ["open", "closed", "AND", "(closed)", " "] collisionFree_open_closed
  exact ((tells 3 "(closed)" record rfl recorded).1 _ success).1.mpr holds

end Host

end ColumnSearch
