import ColumnSearch.Search
import ColumnSearch.Text.Blank

/-!
# Batches of searches

A host applies one filter set at a time. Submitting a search replaces the applied filters when the
new ones differ from them, removes them when the search is blank, and leaves them alone when it
fails. Each submission yields a record of what happened.
-/

namespace ColumnSearch

/-- What a submission did. -/
inductive Submission where
  /-- New filters are applied. -/
  | applied (fingerprint : String) (filters : FilterSet) (metrics : Option Metrics)
  /-- The filters are those applied already. -/
  | unchanged (fingerprint : String) (metrics : Option Metrics)
  /-- The search is blank and the filters are removed. -/
  | cleared
  /-- The search has no filters. -/
  | failed (error : SearchError)
  deriving DecidableEq, Repr

/-- A submitted search and what it did. -/
structure Record where
  query : String
  submission : Submission
  deriving DecidableEq, Repr

namespace Submission

/-- The name of what was done. -/
def status : Submission → String
  | applied .. => "applied"
  | unchanged .. => "unchanged"
  | cleared => "cleared"
  | failed (.rejected _) => "rejected"
  | failed _ => "error"

/-- The fingerprint of the filters the search compiles to. -/
def fingerprint? : Submission → Option String
  | applied fingerprint _ _ => some fingerprint
  | unchanged fingerprint _ => some fingerprint
  | _ => none

/-- The newly applied filters. -/
def filters? : Submission → Option FilterSet
  | applied _ filters _ => some filters
  | _ => none

/-- Why the search failed. -/
def reason? : Submission → Option String
  | failed error => some error.message
  | _ => none

/-- The sizes of the search. -/
def metrics? : Submission → Option Metrics
  | applied _ _ metrics => metrics
  | unchanged _ metrics => metrics
  | _ => none

end Submission

/-- A record as JSON, without the fields that do not apply. -/
def Record.toJson (record : Record) : Json :=
  Json.ofPresent [("query", some (.text record.query)),
    ("status", some (.text record.submission.status)),
    ("fingerprint", record.submission.fingerprint?.map .text),
    ("filters", record.submission.filters?.map FilterSet.toJson),
    ("reason", record.submission.reason?.map .text),
    ("metrics", record.submission.metrics?.map Metrics.toJson)]

/-- What searches are compiled with, and the fingerprint of the applied filters. -/
structure Host where
  policy : Policy
  target : Target
  applied : Option String := none
  deriving DecidableEq, Repr

namespace Host

/-- Submits one search. The policy applies to the text as it is; the record shows it trimmed. -/
def submit (host : Host) (line : String) : Host × Record :=
  let query := Text.trim line
  if query.isEmpty then
    ({ host with applied := none }, ⟨query, .cleared⟩)
  else
    match Search.compile host.policy host.target line with
    | .error error => (host, ⟨query, .failed error⟩)
    | .ok compiled =>
      let fingerprint := compiled.filters.fingerprint
      if host.applied = some fingerprint then
        (host, ⟨query, .unchanged fingerprint compiled.metrics⟩)
      else
        ({ host with applied := some fingerprint },
          ⟨query, .applied fingerprint compiled.filters compiled.metrics⟩)

/-- Submits searches in order, pairing each record with the host after it. -/
def submitAll (host : Host) : List String → List (Record × Host)
  | [] => []
  | line :: rest =>
    let (next, record) := host.submit line
    (record, next) :: next.submitAll rest

end Host

end ColumnSearch
