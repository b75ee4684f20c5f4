import SprintTicket.Logic.Latest
import SprintTicket.Attempts.Record

/-!
# The attempt ledger

`load_attempt_records` returns the records of a run sorted by sequence and
refuses duplicates, so a loaded ledger is strictly increasing. `latestAttempt`
is the search every reader makes from its end.
-/

set_option autoImplicit false

namespace SprintTicket

open Latest

/-- What `load_attempt_records` returns. -/
structure AttemptLedger where
  records : List AttemptRecord
  increasing : records.Pairwise fun earlier later => earlier.sequence < later.sequence

/-- `latest_attempt` with a phase filter and a status filter. -/
def latestAttempt (phases : AttemptPhase → Bool) (statuses : AttemptStatus → Bool)
    (records : List AttemptRecord) : Option AttemptRecord :=
  latest (fun record => phases record.phase && statuses record.status) records

/-- `latest_writable_attempt`. -/
def latestWritableAttempt (records : List AttemptRecord) : Option AttemptRecord :=
  latestAttempt AttemptPhase.writable (fun status => status = .completed) records

/-- The record with the largest sequence among those that satisfy `p`. -/
structure IsLatest (p : AttemptRecord → Prop) (records : List AttemptRecord) (record : AttemptRecord) :
    Prop where
  member : record ∈ records
  holds : p record
  largest : ∀ other ∈ records, p other → other.sequence ≤ record.sequence

/-- The latest one depends on the predicate only through the records it picks. -/
theorem IsLatest.congr {p q : AttemptRecord → Prop} {records : List AttemptRecord} {record : AttemptRecord}
    (h : IsLatest p records record) (same : ∀ other, p other ↔ q other) : IsLatest q records record :=
  ⟨h.member, (same record).mp h.holds, fun other member holds => h.largest other member ((same other).mpr holds)⟩

/-- `latest_attempt` finds the record with the highest number: the ledger is sorted by it. -/
theorem AttemptLedger.isLatest_iff (ledger : AttemptLedger) {p : AttemptRecord → Bool}
    {record : AttemptRecord} :
    latest p ledger.records = some record ↔ IsLatest (fun r => p r = true) ledger.records record := by
  rw [latest_eq_some_iff ledger.increasing]
  exact ⟨fun ⟨member, holds, largest⟩ => ⟨member, holds, largest⟩,
    fun ⟨member, holds, largest⟩ => ⟨member, holds, largest⟩⟩

/-- Two records of one sequence are one record. -/
theorem AttemptLedger.sequence_injective (ledger : AttemptLedger) {left right : AttemptRecord}
    (hl : left ∈ ledger.records) (hr : right ∈ ledger.records) (same : left.sequence = right.sequence) :
    left = right :=
  key_injective ledger.increasing hl hr same

end SprintTicket
