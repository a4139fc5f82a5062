import ColumnSearch.Proofs.Batch

/-!
# Deleting lines from a batch

A line that fails, or compiles to the filters applied already, leaves the host as it was. Such
lines can be deleted, any number of them at once, and the other lines are recorded as before.
-/

namespace ColumnSearch

/-- The submission applies no filters and removes none. -/
def Submission.Idle (submission : Submission) : Prop :=
  submission.status = "rejected" ∨ submission.status = "error" ∨ submission.status = "unchanged"

private theorem Submission.not_idle_cleared : ¬Idle .cleared := by
  rintro (other | other | other) <;> simp [status] at other

private theorem Submission.not_idle_applied (fingerprint : String) (filters : FilterSet)
    (metrics : Option Metrics) : ¬Idle (.applied fingerprint filters metrics) := by
  rintro (other | other | other) <;> simp [status] at other

namespace Host

section Remaining

variable {α : Type}

/-- The items at positions that are not deleted, when the first item is at the given position. -/
def remaining (deleted : Nat → Bool) (position : Nat) (items : List α) : List α :=
  ((items.zipIdx position).filter fun item => !deleted item.2).map Prod.fst

private theorem remaining_cons_of_deleted {deleted : Nat → Bool} {position : Nat}
    (gone : deleted position = true) (item : α) (rest : List α) :
    remaining deleted position (item :: rest) = remaining deleted (position + 1) rest := by
  rw [remaining, List.zipIdx_cons, List.filter_cons_of_neg (by simp [gone]), remaining]

private theorem remaining_cons_of_kept {deleted : Nat → Bool} {position : Nat}
    (kept : deleted position = false) (item : α) (rest : List α) :
    remaining deleted position (item :: rest) = item :: remaining deleted (position + 1) rest := by
  rw [remaining, List.zipIdx_cons, List.filter_cons_of_pos (by simp [kept]), List.map_cons,
    remaining]

end Remaining

variable {host : Host} {lines : List String} {line : String} {deleted : Nat → Bool}

/-- An idle submission leaves the host as it was. -/
theorem submit_of_idle (idle : (host.submit line).2.submission.Idle) :
    (host.submit line).1 = host := by
  have step := submits_submit host line
  generalize host.submit line = outcome at step idle ⊢
  cases step with
  | cleared _ => exact (Submission.not_idle_cleared idle).elim
  | failed _ => rfl
  | unchanged _ _ => rfl
  | applied _ _ => exact (Submission.not_idle_applied _ _ _ idle).elim

/-- Deleting idle lines from a batch whose first line is at the given position. -/
theorem records_remaining (host : Host) (position : Nat)
    (idle : ∀ index record, (host.records lines)[index]? = some record →
      deleted (position + index) = true → record.submission.Idle) :
    host.records (remaining deleted position lines) =
        remaining deleted position (host.records lines) ∧
      host.after (remaining deleted position lines) = host.after lines := by
  induction lines generalizing host position with
  | nil => exact ⟨rfl, rfl⟩
  | cons line lines ih =>
      rw [records_cons] at idle ⊢
      -- The later lines are submitted to the host this line leaves, one position further on.
      have later : ∀ index record, ((host.submit line).1.records lines)[index]? = some record →
          deleted (position + 1 + index) = true → record.submission.Idle := by
        intro index record stands
        rw [Nat.add_right_comm]
        exact idle (index + 1) record stands
      obtain ⟨recorded, ended⟩ := ih _ _ later
      cases gone : deleted position with
      | true =>
          have unmoved := submit_of_idle (idle 0 _ rfl gone)
          rw [unmoved] at recorded ended ⊢
          rw [remaining_cons_of_deleted gone, remaining_cons_of_deleted gone, after_cons, unmoved]
          exact ⟨recorded, ended⟩
      | false =>
          rw [remaining_cons_of_kept gone, remaining_cons_of_kept gone, records_cons, after_cons,
            after_cons, recorded, ended]
          exact ⟨rfl, rfl⟩

/-- Lines whose records are idle do not influence other lines: with any set of them deleted, every
other line has the record that it had, and the host ends as it did. -/
theorem idle_lines_leave_no_trace (policy : Policy) (target : Target) (lines : List String)
    (deleted : Nat → Bool)
    (idle : ∀ index record, ((fresh policy target).records lines)[index]? = some record →
      deleted index = true → record.submission.Idle) :
    (fresh policy target).records (remaining deleted 0 lines) =
        remaining deleted 0 ((fresh policy target).records lines) ∧
      ((fresh policy target).after (remaining deleted 0 lines)).applied =
        ((fresh policy target).after lines).applied := by
  obtain ⟨recorded, ended⟩ := records_remaining (fresh policy target) 0 (by simpa using idle)
  exact ⟨recorded, by rw [ended]⟩

/-- A line that fails and one that repeats the filters applied before it are deleted together. -/
theorem idle_lines_leave_no_trace_failed_and_repeated :
    let host := fresh {} ⟨"Tickets", "Status"⟩
    let lines := ["closed", "AND", "(closed)", " "]
    let deleted := fun index => index == 1 || index == 2
    (∀ index record, (host.records lines)[index]? = some record → deleted index = true →
      record.submission.Idle) ∧
    remaining deleted 0 lines = ["closed", " "] ∧
    host.records ["closed", " "] = remaining deleted 0 (host.records lines) ∧
    (host.after ["closed", " "]).applied = (host.after lines).applied := by
  intro host lines deleted
  have closed : Search.compile host.policy host.target "closed" =
      .ok ⟨wordFilters "closed", none⟩ := by
    decide +kernel
  have malformed : Search.compile host.policy host.target "AND" =
      .error (.parse ⟨0, .unexpectedToken "AND"⟩) := by
    decide +kernel
  have again : Search.compile host.policy host.target "(closed)" =
      .ok ⟨wordFilters "closed", none⟩ := by
    decide +kernel
  have visible : Text.isBlankText "AND" = false := by decide +kernel
  let applying : Host := { host with applied := some (wordFilters "closed").fingerprint }
  have first : (host.submit "closed").1 = applying := by
    rw [submit_of_ok closed, if_neg nofun]
  have second := @submit_of_error applying "AND" _ visible malformed
  have third := @submit_of_ok applying "(closed)" _ again
  rw [if_pos rfl] at third
  have idle : ∀ index record, (host.records lines)[index]? = some record →
      deleted index = true → record.submission.Idle := by
    intro index record stands gone
    rw [records_cons, first, records_cons, second, records_cons, third] at stands
    rcases Bool.or_eq_true_iff.mp gone with place | place
    · cases beq_iff_eq.mp place
      cases stands
      exact .inr (.inl rfl)
    · cases beq_iff_eq.mp place
      cases stands
      exact .inr (.inr rfl)
  exact ⟨idle, rfl, idle_lines_leave_no_trace _ _ lines deleted idle⟩

end Host

end ColumnSearch
