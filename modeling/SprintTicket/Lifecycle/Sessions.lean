import SprintTicket.Lifecycle.FailureHandling
import SprintTicket.Lifecycle.Resume

/-!
# Sessions

A run begins with `run_ticket_lifecycle` and goes on with `resume_ticket_lifecycle`,
any number of times. Every session may be cut short by an exception or by the death
of its process, before or after each of its writes; `RunReached` are the stores that
sessions leave behind, so every crash point is one of them. Sessions that overlap are
not among them: `resume_ticket_lifecycle` reads `run.json` before it has the repository
lock, and in a `RunReached` store no other session replaces the record in between.

`SessionRule.rest` is the induction over all of this. It needs two predicates: what
holds where the loop is about to make a pass (`Live`), and what holds wherever a
session may have ended (`Rest`). A resume leads from the second back to the first.
-/

set_option autoImplicit false

namespace SprintTicket

open Checks Effects Effects.Effect

/-- `_mark_human_required`. -/
def markHumanRequired (failure : FailurePath) (terminalReason : String) : Controlled RunRecord := do
  let reason ← call (StopReason.ofMessage .humanJudgmentRequired terminalReason false)
  markTerminalStop failure ⟨.humanRequired, reason⟩

/-- `_empty_result`. -/
def emptyResult (record : RunRecord) : LifecycleResult := ⟨record, false, [], none⟩

/-- A resume stops the run for a human, and reports that. -/
def stopForHuman (failure : FailurePath) (terminalReason : String) : Controlled LifecycleResult := do
  let record ← markHumanRequired failure terminalReason
  call failure.lock
  let _ ← publishTerminalReport failure.publication
  pure (emptyResult record)

/-- What a resume does about its decision when it does not drive the run. -/
def settleResume (failure : FailurePath) (record : RunRecord) :
    Except Raised ResumeOutcome → Controlled LifecycleResult
  | .error error => raise (.raised error)
  | .ok (.ownershipLost error) => pure (ownershipFailureResult record error.message)
  | .ok (.humanRequired reason) => stopForHuman failure reason
  | .ok (.controllerFailure message) => controllerFailureResult failure message record
  | .ok .alreadyTerminal | .ok .driven => pure (emptyResult record)

/-- Everything `resume_ticket_lifecycle` meets. -/
structure ResumeEnvironment where
  /-- `RunOwnership.acquire` and `load_run_record_for_owner`, before the lock is held. -/
  load : Except Raised RunRecord
  /-- `acquire_repository_run_lock`. -/
  lock : Except Raised Unit
  compatibilityProblem : Except Raised (Option String)
  sources : ResumeSources
  createExecutors : Except Raised Unit
  drive : DriveEnvironment
  failure : FailurePath

section Sessions

variable (sha256 : Sha256) (ticketDigest : TicketDigest) (resolve : PathResolver) (printable : Char → Bool)
  (runPath : String)

/-- `drive_safely` in the `try` block of a resume. -/
def driveResumed (resume : ResumeEnvironment) (fuel : Nat) (record : RunRecord) :
    Controlled (Option LifecycleResult) := do
  match ← caught (driveSafely sha256 printable runPath resume.drive fuel record) with
  | .ok result => pure result
  | .error error => do
    let result ← settleResume resume.failure record (resumeDrive (.error error))
    pure (some result)

/-- The decision of a resume over the record that it loaded. -/
def resumeDecision (resume : ResumeEnvironment) (record : RunRecord) : Except Raised ResumeOutcome :=
  resumeTicketLifecycleLocked sha256 ticketDigest resolve record.resolvedPolicy.verificationCommands resume.sources
    record resume.compatibilityProblem resume.createExecutors

/-- `_resume_ticket_lifecycle_locked`, with all that it writes. -/
def resumeLocked (resume : ResumeEnvironment) (fuel : Nat) (record : RunRecord) :
    Controlled (Option LifecycleResult) :=
  match resumeDecision sha256 ticketDigest resolve resume record with
  | .ok .driven => driveResumed sha256 printable runPath resume fuel record
  | decision => do
    let result ← settleResume resume.failure record decision
    pure (some result)

/-- `resume_ticket_lifecycle`; under the lock it goes on with the record of before. -/
def resumeTicketLifecycle (resume : ResumeEnvironment) (fuel : Nat) : Controlled (Option LifecycleResult) := do
  let record ← call resume.load
  call resume.lock
  resumeLocked sha256 ticketDigest resolve printable runPath resume fuel record

/-- `_run_ticket_lifecycle_locked` after `create_run_snapshot`. -/
def runTicketLifecycle (owned : OwnershipCheck) (lock : Except Raised Unit) (environment : DriveEnvironment)
    (fuel : Nat) : Controlled (Option LifecycleResult) := do
  let store ← get
  match owned with
  | .error text => pure (some (ownershipFailureResult store.record text))
  | .ok () => do
    call lock
    driveSafely sha256 printable runPath environment fuel store.record

/-- The run directory as `create_run_snapshot` leaves it. -/
structure Created (store : RunStore) : Prop where
  state : store.record.state = .preparing
  rounds : store.record.currentCorrectionRound = 0 ∧ store.record.currentReviewRound = 0
  ledger : store.ledger.records = []
  events : store.events = []

/-- What a resume can read of `run.json` and of the ledger is what the last session left:
it begins after the end of that session. -/
structure ResumeEnvironment.ReadsFrom (resume : ResumeEnvironment) (store : RunStore) : Prop where
  record : ∀ record, resume.load = .ok record → record = store.record
  ledger : ∀ ledger, resume.sources.directory.ledger = .ok ledger → ledger = store.ledger

/-- The stores that the sessions of a run leave, one session after the other. -/
inductive RunReached : RunStore → Prop
  | created {store : RunStore} (new : Created store) : RunReached store
  | run {store t : RunStore} {owned : OwnershipCheck} {lock : Except Raised Unit} {environment : DriveEnvironment}
      {fuel : Nat} {outcome : Except Halt (Option LifecycleResult)} (new : Created store)
      (session : runTicketLifecycle sha256 printable runPath owned lock environment fuel store = (outcome, t)) :
    RunReached t
  | resumed {store t : RunStore} {resume : ResumeEnvironment} {fuel : Nat}
      {outcome : Except Halt (Option LifecycleResult)} (before : RunReached store) (reads : resume.ReadsFrom store)
      (session : resumeTicketLifecycle sha256 ticketDigest resolve printable runPath resume fuel store =
        (outcome, t)) :
    RunReached t

end Sessions

/-- The run was stopped outside the loop. -/
structure Stopped (store t : RunStore) : Prop where
  write : ∃ record, t = store.stop record
  legal : t.record.state ∈ legalWorkflowTransitions store.record.state
  terminal : t.record.state.terminal = true
  writing : store.record.state.writing = true → t.record.state = .humanRequired
  policy : t.record.resolvedPolicy = store.record.resolvedPolicy
  branch : t.record.startingBranch = store.record.startingBranch
  baseline : t.record.baselineSha = store.record.baselineSha
  rounds : t.record.currentCorrectionRound = store.record.currentCorrectionRound ∧
    t.record.currentReviewRound = store.record.currentReviewRound

/-- A terminal record is never stopped. -/
theorem Stopped.active {store t : RunStore} (stopped : Stopped store t) : store.record.state.terminal = false :=
  WorkflowState.active_of_legal stopped.legal

/-- Stopping a run appends one event and nothing else. -/
theorem Stopped.events {store t : RunStore} (stopped : Stopped store t) :
    t.events = store.events ++ [.stopped store.record t.record] := by
  obtain ⟨record, rfl⟩ := stopped.write
  rfl

/-- The attempts are left alone. -/
theorem Stopped.ledger {store t : RunStore} (stopped : Stopped store t) : t.ledger = store.ledger := by
  obtain ⟨record, rfl⟩ := stopped.write
  rfl

/-- What a session writes outside the loop: nothing, or one stop. -/
def StopsAtMost (store t : RunStore) : Prop := t = store ∨ Stopped store t

section Stopping

variable {failure : FailurePath} {store t : RunStore} {record : RunRecord}

/-- Nothing is written, or the run is stopped in this state. -/
def StopsIn (state : WorkflowState) (store t : RunStore) : Prop :=
  t = store ∨ Stopped store t ∧ t.record.state = state

theorem StopsIn.atMost {state : WorkflowState} (stops : StopsIn state store t) : StopsAtMost store t :=
  stops.imp id And.left

/-- The functions that stop a run, one lemma each. -/
theorem markTerminalStop_stops {stop : TerminalStop} {outcome : Except Halt RunRecord}
    (terminal : stop.state.terminal = true)
    (writing : store.record.state.writing = true → stop.state = .humanRequired)
    (h : markTerminalStop failure stop store = (outcome, t)) :
    StopsIn stop.state store t ∧ ∀ marked, outcome = .ok marked → t.record.state = stop.state := by
  have idle {halt : Halt} (stopped : outcome = .error halt) (rest : t = store) :
      StopsIn stop.state store t ∧ ∀ marked, outcome = .ok marked → t.record.state = stop.state := by
    subst stopped
    exact ⟨.inl rest, fun _ own => by cases own⟩
  rcases call_bind_cases h with ⟨_, _, stopped, rest⟩ | ⟨_, _, h⟩
  · exact idle stopped rest
  rw [get_bind] at h
  rcases call_bind_cases h with ⟨_, _, stopped, rest⟩ | ⟨timestamp, _, h⟩
  · exact idle stopped rest
  rcases call_bind_cases h with ⟨_, _, stopped, rest⟩ | ⟨updated, moved, h⟩
  · exact idle stopped rest
  obtain ⟨legal, fields⟩ := RunRecord.transitionTo_ok moved
  have state : updated.state = stop.state := by rw [fields]; rfl
  have stopped : Stopped store (store.stop updated) :=
    { write := ⟨updated, rfl⟩
      legal := by rw [← state] at legal; exact legal
      terminal := state ▸ terminal
      writing := fun wrote => state.trans (writing wrote)
      policy := by show updated.resolvedPolicy = _; rw [fields]; rfl
      branch := by show updated.startingBranch = _; rw [fields]; rfl
      baseline := by show updated.baselineSha = _; rw [fields]; rfl
      rounds := by
        constructor
        · show updated.currentCorrectionRound = _
          rw [fields]
          rfl
        · show updated.currentReviewRound = _
          rw [fields]
          rfl }
  rcases bind_cases h with ⟨halt, ran, rfl⟩ | ⟨_, s, ran, h⟩
  · rcases persist_error ran with rfl | rfl
    · exact idle rfl rfl
    · exact ⟨.inr ⟨stopped, state⟩, fun _ own => by cases own⟩
  · obtain rfl := persist_ok ran
    cases h
    exact ⟨.inr ⟨stopped, state⟩, fun _ _ => state⟩

theorem markHumanRequired_stops {reason : String} {outcome : Except Halt RunRecord}
    (h : markHumanRequired failure reason store = (outcome, t)) :
    StopsIn .humanRequired store t ∧ ∀ marked, outcome = .ok marked → t.record.state = .humanRequired := by
  rcases call_bind_cases h with ⟨_, _, rfl, rfl⟩ | ⟨text, _, h⟩
  · exact ⟨.inl rfl, fun _ own => by cases own⟩
  · exact markTerminalStop_stops rfl (fun _ => rfl) h

theorem stopForHuman_stops {reason : String} {outcome : Except Halt LifecycleResult}
    (h : stopForHuman failure reason store = (outcome, t)) :
    StopsIn .humanRequired store t ∧ ∀ result, outcome = .ok result → t.record.state = .humanRequired := by
  rcases bind_cases h with ⟨halt, ran, rfl⟩ | ⟨marked, s, ran, h⟩
  · exact ⟨(markHumanRequired_stops ran).1, fun _ own => by cases own⟩
  obtain ⟨stopped, persisted⟩ := markHumanRequired_stops ran
  have state := persisted marked rfl
  rcases call_bind_cases h with ⟨_, _, rfl, rfl⟩ | ⟨_, _, h⟩
  · exact ⟨stopped, fun _ _ => state⟩
  rcases publishTerminalReport_cases failure.publication s with ⟨_, _, ran⟩ | ⟨_, reported, ran⟩ <;>
    rw [bind_apply, ran] at h <;> cases h <;> exact ⟨stopped, fun _ _ => state⟩

theorem markControllerException_stops {message : String} {outcome : Except Halt RunRecord}
    (h : markControllerException failure message store = (outcome, t)) : StopsAtMost store t := by
  rcases call_bind_cases h with ⟨_, _, _, rest⟩ | ⟨_, _, h⟩
  · exact .inl rest
  rw [get_bind] at h
  split at h
  · cases h
    exact .inl rfl
  · rcases call_bind_cases h with ⟨_, _, _, rest⟩ | ⟨stop, classified, h⟩
    · exact .inl rest
    · obtain ⟨terminal, _, writing⟩ := classifyUnexpectedControllerFailure_ok classified
      exact (markTerminalStop_stops terminal writing h).1.atMost

theorem controllerFailureResult_stops {message : String} {outcome : Except Halt LifecycleResult}
    (h : controllerFailureResult failure message record store = (outcome, t)) : StopsAtMost store t := by
  have marks {ended : Except Halt RunRecord} {s : RunStore}
      (ran : (do requireOwned failure.owned; markControllerException failure message) store = (ended, s)) :
      StopsAtMost store s := by
    rcases call_bind_cases ran with ⟨_, _, _, rest⟩ | ⟨_, _, ran⟩
    · exact .inl rest
    · exact markControllerException_stops ran
  rcases bind_cases h with ⟨halt, ran, rfl⟩ | ⟨ended, s, ran, h⟩
  · exact marks (caught_error ran).2
  · have stopped := marks (caught_ok ran)
    cases ended with
    | error error =>
      dsimp only at h
      split at h <;> cases h <;> exact stopped
    | ok marked =>
      rcases call_bind_cases h with ⟨_, _, _, rest⟩ | ⟨_, _, h⟩
      · exact rest ▸ stopped
      · rcases publishTerminalReport_cases failure.publication s with ⟨_, _, ran⟩ | ⟨_, reported, ran⟩ <;>
          rw [bind_apply, ran] at h <;> cases h <;> exact stopped

theorem handleDriveError_stops {environment : DriveEnvironment} {error : Raised}
    {outcome : Except Halt LifecycleResult} (h : handleDriveError environment record error store = (outcome, t)) :
    StopsAtMost store t := by
  unfold handleDriveError at h
  split at h
  · cases h
    exact .inl rfl
  · split at h
    · exact controllerFailureResult_stops h
    · cases h
      exact .inl rfl

theorem settleResume_stops {decision : Except Raised ResumeOutcome} {outcome : Except Halt LifecycleResult}
    (h : settleResume failure record decision store = (outcome, t)) : StopsAtMost store t := by
  unfold settleResume at h
  split at h
  case h_3 => exact (stopForHuman_stops h).1.atMost
  case h_4 => exact controllerFailureResult_stops h
  all_goals
    cases h
    exact .inl rfl

end Stopping

/-! ## The induction -/

/-- What a resume that is driven has found. -/
structure Resumable (store : RunStore) : Prop where
  state : store.record.state ∈ [.preparing, .prepared, .verifying, .reviewing, .reporting, .correctionPending]
  finished : ∀ attempt ∈ store.ledger.records, attempt.phase.writable = true → attempt.status ≠ .started

/-- `Live` holds before every pass, and `Rest` after every end of a session. -/
structure SessionRule (printable : Char → Bool) (Live Rest : RunStore → Prop) : Prop where
  created : ∀ {store}, Created store → Live store
  rests : ∀ {store}, Live store → Rest store
  passed : ∀ {store t outcome}, Live store → store.record.state.terminal = false →
    PassEffect printable store t outcome → Rest t
  moved : ∀ {store t next}, Live store → store.record.state.terminal = false →
    PassEffect printable store t (.ok next) → Live t
  stopped : ∀ {store t}, Rest store → Stopped store t → Rest t
  resumed : ∀ {store}, Rest store → Resumable store → Live store

namespace SessionRule

variable {sha256 : Sha256} {ticketDigest : TicketDigest} {resolve : PathResolver} {printable : Char → Bool}
  {runPath : String} {Live Rest : RunStore → Prop} {store t : RunStore}

/-- The rule holds across a stop. -/
theorem stops {store t : RunStore} (rule : SessionRule printable Live Rest) (holds : Rest store)
    (stopped : StopsAtMost store t) : Rest t := by
  rcases stopped with rfl | stopped
  · exact holds
  · exact rule.stopped holds stopped

/-- Induction on the passes. -/
theorem driveLoop {passes : Nat → Pass} {fuel index : Nat} {outcome : Except Halt (Option RunRecord)}
    (rule : SessionRule printable Live Rest) (live : Live store)
    (h : driveLoop sha256 printable runPath passes fuel index store.record store = (outcome, t)) : Rest t := by
  induction fuel generalizing index store with
  | zero =>
    unfold SprintTicket.driveLoop at h
    split at h <;> cases h <;> exact rule.rests live
  | succ fuel ih =>
    unfold SprintTicket.driveLoop at h
    cases terminal : store.record.state.terminal <;> rw [terminal] at h
    · rcases bind_cases h with ⟨halt, ran, rfl⟩ | ⟨updated, s, ran, h⟩
      · exact rule.passed live terminal (drivePass_effect rfl ran)
      · have effect := drivePass_effect rfl ran
        have same : s.record = updated := by
          cases effect with
          | moved _ _ moved _ ends => exact moved.record.trans (ends updated rfl).symm
        exact ih (rule.moved live terminal effect) (by rw [same]; exact h)
    · cases h
      exact rule.rests live

theorem driveLifecycle {environment : DriveEnvironment} {fuel : Nat}
    {outcome : Except Halt (Option LifecycleResult)} (rule : SessionRule printable Live Rest) (live : Live store)
    (h : driveLifecycle sha256 printable runPath environment fuel store.record store = (outcome, t)) : Rest t := by
  rcases bind_cases h with ⟨halt, ran, rfl⟩ | ⟨last, s, ran, h⟩
  · exact rule.driveLoop live ran
  have rest := rule.driveLoop live ran
  cases last with
  | none =>
    cases h
    exact rest
  | some final =>
    dsimp only at h
    rcases publishTerminalReport_cases environment.publication s with ⟨_, _, ran⟩ | ⟨_, reported, ran⟩
    · rw [bind_apply, ran] at h
      cases h
      exact rest
    · rw [bind_apply, ran] at h
      rcases call_bind_cases h with ⟨_, _, _, same⟩ | ⟨_, _, h⟩
      · exact same ▸ rest
      · cases h
        exact rest

theorem driveSafely {environment : DriveEnvironment} {fuel : Nat}
    {outcome : Except Halt (Option LifecycleResult)} (rule : SessionRule printable Live Rest) (live : Live store)
    (h : driveSafely sha256 printable runPath environment fuel store.record store = (outcome, t)) : Rest t := by
  cases owned : environment.ownership with
  | error refusal =>
    unfold SprintTicket.driveSafely at h
    rw [owned] at h
    cases h
    exact rule.rests live
  | ok _ => ?_
  rw [driveSafely_owned owned] at h
  rcases bind_cases h with ⟨halt, ran, rfl⟩ | ⟨ended, s, ran, h⟩
  · exact rule.driveLifecycle live (caught_error ran).2
  have rest := rule.driveLifecycle live (caught_ok ran)
  cases ended with
  | ok result =>
    cases h
    exact rest
  | error error =>
    rcases bind_cases h with ⟨halt, ran, rfl⟩ | ⟨result, s', ran, h⟩
    · exact rule.stops rest (handleDriveError_stops ran)
    · cases h
      exact rule.stops rest (handleDriveError_stops ran)

/-- A resume that is not driven settles its decision. -/
theorem resumeLocked_settles {resume : ResumeEnvironment} {fuel : Nat} {record : RunRecord}
    {outcome : Except Halt (Option LifecycleResult)}
    (other : resumeDecision sha256 ticketDigest resolve resume record ≠ .ok .driven)
    (h : resumeLocked sha256 ticketDigest resolve printable runPath resume fuel record store = (outcome, t)) :
    ∃ ended, settleResume resume.failure record (resumeDecision sha256 ticketDigest resolve resume record) store =
        (ended, t) ∧
      ∀ result, outcome = .ok result → ∃ settled, result = some settled ∧ ended = .ok settled := by
  have settled : resumeLocked sha256 ticketDigest resolve printable runPath resume fuel record =
      (do
        let result ← settleResume resume.failure record (resumeDecision sha256 ticketDigest resolve resume record)
        pure (some result)) := by
    unfold resumeLocked
    split
    · rename_i driven
      exact absurd driven other
    · rfl
  rw [settled] at h
  rcases bind_cases h with ⟨halt, ran, rfl⟩ | ⟨result, s, ran, h⟩
  · exact ⟨_, ran, fun _ own => by cases own⟩
  · cases h
    refine ⟨_, ran, fun _ own => ?_⟩
    cases own
    exact ⟨_, rfl, rfl⟩

/-- The gate of a resume, as far as it concerns the store. -/
theorem resumable {resume : ResumeEnvironment} (reads : resume.ReadsFrom store)
    (h : resumeDecision sha256 ticketDigest resolve resume store.record = .ok .driven) : Resumable store := by
  obtain ⟨preflight, checked⟩ := driven_noProblem h
  obtain ⟨ledger, baseline, snapshot, current, gate⟩ := resumeGate_of_noProblem preflight checked
  obtain rfl := reads.ledger ledger gate.loaded
  exact ⟨gate.workspace.resumable, gate.finished⟩

/-- A resume starts from where the session before it left the store. -/
theorem resumeTicketLifecycle {resume : ResumeEnvironment} {fuel : Nat}
    {outcome : Except Halt (Option LifecycleResult)} (rule : SessionRule printable Live Rest) (rest : Rest store)
    (reads : resume.ReadsFrom store)
    (h : resumeTicketLifecycle sha256 ticketDigest resolve printable runPath resume fuel store = (outcome, t)) :
    Rest t := by
  rcases call_bind_cases h with ⟨_, _, _, same⟩ | ⟨record, loaded, h⟩
  · exact same ▸ rest
  obtain rfl := reads.record record loaded
  rcases call_bind_cases h with ⟨_, _, _, same⟩ | ⟨_, _, h⟩
  · exact same ▸ rest
  by_cases driven : resumeDecision sha256 ticketDigest resolve resume store.record = .ok .driven
  · have live := rule.resumed rest (resumable reads driven)
    unfold resumeLocked at h
    rw [driven] at h
    rcases bind_cases h with ⟨halt, ran, rfl⟩ | ⟨ended, s, ran, h⟩
    · exact rule.driveSafely live (caught_error ran).2
    have rest := rule.driveSafely live (caught_ok ran)
    cases ended with
    | ok result =>
      cases h
      exact rest
    | error error =>
      rcases bind_cases h with ⟨halt, ran, rfl⟩ | ⟨result, s', ran, h⟩
      · exact rule.stops rest (settleResume_stops ran)
      · cases h
        exact rule.stops rest (settleResume_stops ran)
  · obtain ⟨_, ran, _⟩ := resumeLocked_settles driven h
    exact rule.stops rest (settleResume_stops ran)

/-- **Induction over sessions.** -/
theorem rest {store : RunStore} (rule : SessionRule printable Live Rest)
    (reached : RunReached sha256 ticketDigest resolve printable runPath store) : Rest store := by
  induction reached with
  | created new => exact rule.rests (rule.created new)
  | run new session =>
    have live := rule.created new
    rename_i owned lock environment fuel outcome
    rw [runTicketLifecycle, get_bind] at session
    cases owned with
    | error text =>
      cases session
      exact rule.rests live
    | ok _ =>
      rcases call_bind_cases session with ⟨_, _, _, same⟩ | ⟨_, _, session⟩
      · exact same ▸ rule.rests live
      · exact rule.driveSafely live session
  | resumed before reads session ih => exact rule.resumeTicketLifecycle ih reads session

end SessionRule

/-- The process dies when the agent of the implementation has been called, before the
start of the agent is recorded. -/
def exampleDyingDrive : DriveEnvironment :=
  { exampleFailingDrive (.ok ()) with
    passes := fun index =>
      if index = 0 then examplePreparingPass
      else
        { examplePass (.ok ()) with
          writable :=
            ⟨true, [(.updateAttempt {} AttemptChanges.plain_empty ⟨"2026-01-01T00:02:00Z"⟩, .lost .died)], .written⟩ } }

/-- The implementation changes a file, and the verification after it fails. -/
def exampleCorrectedDrive : DriveEnvironment :=
  { exampleFailingDrive (.ok ()) with
    passes := fun index =>
      if index = 0 then examplePreparingPass
      else
        { exampleVerifyingPass 1 with
          environment :=
            { (exampleVerifyingPass 1).environment with
              implementation :=
                exampleChangingRun exampleExecution ⟨exampleWriteFields 2 .implementing, by decide⟩
                  exampleCleanWorkspace }
          writable := ⟨true, [], .written⟩ } }

/-- What the first session of the example run leaves; with less fuel it is seen earlier. -/
def exampleSession (environment : DriveEnvironment) (fuel : Nat) : RunStore :=
  (runTicketLifecycle exampleRunSha256 (fun _ => true) "/runs/r1" (.ok ()) (.ok ()) environment fuel
    (exampleStore exampleNewRecord)).2

theorem exampleSession_reached (environment : DriveEnvironment) (fuel : Nat) :
    RunReached exampleRunSha256 exampleTicketDigest .ok (fun _ => true) "/runs/r1" (exampleSession environment fuel) := by
  have new : Created (exampleStore exampleNewRecord) := ⟨rfl, ⟨rfl, rfl⟩, rfl, rfl⟩
  have session : runTicketLifecycle exampleRunSha256 (fun _ => true) "/runs/r1" (.ok ()) (.ok ()) environment
      fuel (exampleStore exampleNewRecord) = (_, exampleSession environment fuel) := rfl
  exact .run new session

end SprintTicket
