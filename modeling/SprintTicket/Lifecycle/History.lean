import SprintTicket.Lifecycle.Sessions

/-!
# The history of `run.json`

The abstract model of a run is its record alone: it starts in PREPARING without
rounds, and every write is one that the workflow allows. Whatever the passes, the
stops and the resumes of a run do, what they write is such a history
(`run_json_history`). So the bounds of one drive hold over all sessions.
-/

set_option autoImplicit false

namespace SprintTicket

/-- The workflow allows that `after` replaces `before`. -/
inductive LegalWrite (before after : RunRecord) : Prop
  /-- A pass saved the decision of its stage. -/
  | advanced (advance : Advance before after)
  /-- The run was stopped outside the loop. -/
  | stopped (legal : after.state ∈ legalWorkflowTransitions before.state) (terminal : after.state.terminal = true)
      (policy : after.resolvedPolicy = before.resolvedPolicy) (branch : after.startingBranch = before.startingBranch)
      (baseline : after.baselineSha = before.baselineSha)
      (rounds : after.currentCorrectionRound = before.currentCorrectionRound ∧
        after.currentReviewRound = before.currentReviewRound)

/-- The writes, each with the record that it replaced, lead from `first` to a record. -/
inductive History (first : RunRecord) : List (RunRecord × RunRecord) → RunRecord → Prop
  | created : History first [] first
  | written {writes : List (RunRecord × RunRecord)} {record next : RunRecord} (past : History first writes record)
      (write : LegalWrite record next) : History first (writes ++ [(record, next)]) next

/-- What every record of a run shares. -/
structure SameRun (first record : RunRecord) : Prop where
  policy : record.resolvedPolicy = first.resolvedPolicy
  branch : record.startingBranch = first.startingBranch
  baseline : record.baselineSha = first.baselineSha

namespace LegalWrite

variable {before after : RunRecord}

/-- A write moves along a legal transition. -/
theorem legal (write : LegalWrite before after) : after.state ∈ legalWorkflowTransitions before.state := by
  cases write with
  | advanced advance => exact advance.legal
  | stopped legal => exact legal

/-- A terminal record is never replaced. -/
theorem active (write : LegalWrite before after) : before.state.terminal = false :=
  WorkflowState.active_of_legal write.legal

theorem sameRun (write : LegalWrite before after) : SameRun before after := by
  cases write with
  | advanced advance => exact ⟨advance.policy, advance.branch, advance.baseline⟩
  | stopped _ _ policy branch baseline => exact ⟨policy, branch, baseline⟩

theorem rounds (write : LegalWrite before after) :
    before.currentCorrectionRound ≤ after.currentCorrectionRound ∧
      before.currentReviewRound ≤ after.currentReviewRound := by
  cases write with
  | advanced advance =>
    have review := advance.review
    refine ⟨?_, ?_⟩
    · rcases advance.correction with same | ⟨-, -, next⟩ <;> omega
    · split at review <;> omega
  | stopped _ _ _ _ _ rounds => exact ⟨rounds.1.ge, rounds.2.ge⟩

/-- The end of a run has no rank, and everything before it has one. -/
theorem rank_lt (write : LegalWrite before after) : stageRank after.toRunFields < stageRank before.toRunFields := by
  cases write with
  | advanced advance => exact advance.rank_lt
  | stopped legal terminal =>
    have ended : stageRank after.toRunFields = 0 := WorkflowState.rank_terminal terminal
    rw [ended]
    exact stageRank_pos (WorkflowState.active_of_legal legal)

end LegalWrite

namespace History

variable {first record : RunRecord} {writes : List (RunRecord × RunRecord)}

theorem sameRun (history : History first writes record) : SameRun first record := by
  induction history with
  | created => exact ⟨rfl, rfl, rfl⟩
  | written _ write ih =>
    have same := write.sameRun
    exact ⟨same.policy.trans ih.policy, same.branch.trans ih.branch, same.baseline.trans ih.baseline⟩

/-- Every write costs rank. -/
theorem length_le (history : History first writes record) :
    writes.length + stageRank record.toRunFields ≤ stageRank first.toRunFields := by
  induction history with
  | created => simp
  | written _ write ih =>
    have lower := write.rank_lt
    rw [List.length_append, List.length_singleton]
    omega

/-- Every write of a history is legal and of the same run. -/
theorem legal (history : History first writes record) {before after : RunRecord} (member : (before, after) ∈ writes) :
    LegalWrite before after ∧ SameRun first before := by
  induction history with
  | created => cases member
  | written past write ih =>
    rcases List.mem_append.mp member with member | last
    · exact ih member
    · cases List.mem_singleton.mp last
      exact ⟨write, past.sameRun⟩

end History

/-! ## The sessions -/

/-- The write of `run.json` that the event is. -/
def DriveEvent.write : DriveEvent → Option (RunRecord × RunRecord)
  | .saved save => some (save.before, save.after)
  | .stopped before after => some (before, after)
  | .dispatched _ | .invoked _ _ => none

def RunStore.writes (store : RunStore) : List (RunRecord × RunRecord) := store.events.filterMap DriveEvent.write

/-- A record as `create_run_snapshot` writes it. -/
structure NewRecord (record : RunRecord) : Prop where
  state : record.state = .preparing
  rounds : record.currentCorrectionRound = 0 ∧ record.currentReviewRound = 0

/-- The store is one that the abstract model allows. -/
def HasHistory (store : RunStore) : Prop := ∃ first, NewRecord first ∧ History first store.writes store.record

/-- A dispatch writes no run record. -/
theorem DispatchLog.noWrite {record : RunRecord} {log : List DriveEvent} (logged : DispatchLog record log) :
    log.filterMap DriveEvent.write = [] := by
  cases logged <;> rfl

/-- A pass writes nothing, or a decision that the workflow allows. -/
theorem HasHistory.passed {printable : Char → Bool} {store t : RunStore} {outcome : Except Halt RunRecord}
    (history : HasHistory store) (effect : PassEffect printable store t outcome) : HasHistory t := by
  obtain ⟨first, new, past⟩ := history
  refine ⟨first, new, ?_⟩
  cases effect with
  | stopped kept logged _ =>
    rw [RunStore.writes, kept.events, List.filterMap_append, logged.noWrite, List.append_nil, kept.record]
    exact past
  | moved advance logged moved _ _ =>
    rw [RunStore.writes, moved.events, List.filterMap_append, List.filterMap_append, logged.noWrite, List.append_nil,
      moved.record]
    exact .written past (.advanced advance)

/-- Stopping a run is a legal write. -/
theorem Stopped.write_legal {store t : RunStore} (stopped : Stopped store t) : LegalWrite store.record t.record :=
  .stopped stopped.legal stopped.terminal stopped.policy stopped.branch stopped.baseline stopped.rounds

theorem history_rule {printable : Char → Bool} : SessionRule printable HasHistory HasHistory where
  created new := by
    refine ⟨_, ⟨new.state, new.rounds⟩, ?_⟩
    rw [RunStore.writes, new.events]
    exact .created
  rests live := live
  passed live _ effect := live.passed effect
  moved live _ effect := live.passed effect
  stopped := by
    rintro store t ⟨first, new, past⟩ stopped
    refine ⟨first, new, ?_⟩
    rw [RunStore.writes, stopped.events, List.filterMap_append]
    exact .written past stopped.write_legal
  resumed rest _ := rest

section Reached

variable {sha256 : Sha256} {ticketDigest : TicketDigest} {resolve : PathResolver} {printable : Char → Bool}
  {runPath : String} {store : RunStore}

/-- **Refinement.** The sessions of a run write a history, and a short one. -/
theorem run_json_history (reached : RunReached sha256 ticketDigest resolve printable runPath store) :
    ∃ first, NewRecord first ∧ History first store.writes store.record ∧
      store.writes.length + stageRank store.record.toRunFields ≤ 4 * first.maxCorrectionRounds + 6 ∧
      SameRun first store.record ∧
      ∀ before after, (before, after) ∈ store.writes →
        before.state.terminal = false ∧ SameRun first before ∧
          before.currentCorrectionRound ≤ after.currentCorrectionRound ∧
          before.currentReviewRound ≤ after.currentReviewRound := by
  obtain ⟨first, new, history⟩ := history_rule.rest reached
  have ranked := history.length_le
  have start : stageRank first.toRunFields = 4 * first.maxCorrectionRounds + 6 := by
    rw [stageRank, new.state, WorkflowState.rank, RunFields.remainingRounds, new.rounds.1, Nat.sub_zero]
  refine ⟨first, new, history, by omega, history.sameRun, fun before after member => ?_⟩
  obtain ⟨write, same⟩ := history.legal member
  exact ⟨write.active, same, write.rounds⟩

end Reached

/-- Also when the process dies under the implementation. -/
theorem run_json_history_example : ∃ first, NewRecord first ∧
    (exampleSession exampleDyingDrive 6).writes.length +
      stageRank (exampleSession exampleDyingDrive 6).record.toRunFields ≤ 4 * first.maxCorrectionRounds + 6 := by
  obtain ⟨first, new, _, bound, _⟩ := run_json_history (exampleSession_reached exampleDyingDrive 6)
  exact ⟨first, new, bound⟩

end SprintTicket
