import SprintTicket.Lifecycle.Bounded

/-!
# The failure path

`drive_safely` turns what its loop raises into a result: ownership loss into a
result that persists nothing, every other exception into a terminal record. The
second handling may fail in turn. `FailureStrikes` lists the failures there
that no `except` clause of `drive_safely` catches.
-/

set_option autoImplicit false

namespace SprintTicket

open Checks Effects Effects.Effect

def WriteOutcome.halt : WriteOutcome → Option Halt
  | .written => none
  | .lost halt | .late halt => some halt

/-- A state in which an agent may have written to the workspace. -/
def WorkflowState.writing (state : WorkflowState) : Bool := state = .implementing || state = .correcting

def answerHalt {α : Type} : Except Raised α → Option Halt
  | .ok _ => none
  | .error error => some (.raised error)

/-- Where `_mark_controller_exception` stops, for the persisted record `disk`. -/
def markHalt (failure : FailurePath) (disk : RunRecord) (message : String) : Option Halt :=
  (answerHalt failure.load).or <|
    if disk.state.terminal then none
    else
      (answerHalt (classifyUnexpectedControllerFailure disk.state message)).or <|
        (answerHalt failure.reload).or <| (answerHalt failure.timestamp).or failure.saveOutcome.halt

/-- The classified stop is terminal, and HUMAN_REQUIRED in a writing state. -/
theorem classifyUnexpectedControllerFailure_ok {state : WorkflowState} {message : String} {stop : TerminalStop}
    (h : classifyUnexpectedControllerFailure state message = .ok stop) :
    stop.state.terminal = true ∧ stop.state.failureStop = true ∧
      (state.writing = true → stop.state = .humanRequired) := by
  unfold classifyUnexpectedControllerFailure at h
  split at h
  · obtain ⟨reason, _, h⟩ := bind_ok_iff.mp h
    cases h
    exact ⟨rfl, rfl, fun _ => rfl⟩
  · rename_i quiet
    obtain ⟨reason, _, h⟩ := bind_ok_iff.mp h
    cases h
    refine ⟨rfl, rfl, fun writing => absurd ?_ quiet⟩
    simpa [WorkflowState.writing] using writing

/-- Every active record can be stopped. -/
theorem RunRecord.transitionTo_stop {record : RunRecord} {stop : TerminalStop} (timestamp : String)
    (active : record.state.terminal = false) (fails : stop.state.failureStop = true) :
    ∃ next, record.transitionTo stop.state timestamp
      { terminalReason := some stop.reason.message, stopReason := some stop.reason } = .ok next := by
  have legal : stop.state ∈ legalWorkflowTransitions record.state := by
    obtain ⟨human, failed⟩ := stop_legal active
    cases state : stop.state <;> rw [state] at fails <;> first | exact human | exact failed | cases fails
  exact RunRecord.transitionTo_legal timestamp legal (by rw [fails]; rfl) rfl

section Mark

variable (failure : FailurePath) (store : RunStore) (message : String)

/-- The record that marking leaves. -/
structure Marked (store : RunStore) (marked : RunRecord) (t : RunStore) : Prop where
  persisted : t.record = marked
  terminal : marked.state.terminal = true
  writing : store.record.state.writing = true → marked.state = .humanRequired

/-- `_mark_terminal_stop` of an active record, for a failure stop. -/
theorem markTerminalStop_cases {stop : TerminalStop} (active : store.record.state.terminal = false)
    (fails : stop.state.failureStop = true) :
    (∃ halt t, (answerHalt failure.reload).or ((answerHalt failure.timestamp).or failure.saveOutcome.halt) =
        some halt ∧ markTerminalStop failure stop store = (.error halt, t)) ∨
      (answerHalt failure.reload).or ((answerHalt failure.timestamp).or failure.saveOutcome.halt) = none ∧
        ∃ marked t, markTerminalStop failure stop store = (.ok marked, t) ∧ t.record = marked ∧
          marked.state = stop.state := by
  unfold markTerminalStop
  cases reload : failure.reload with
  | error error => exact .inl ⟨_, _, rfl, rfl⟩
  | ok _ =>
    cases clock : failure.timestamp with
    | error error => exact .inl ⟨_, _, rfl, rfl⟩
    | ok timestamp =>
      obtain ⟨next, moved⟩ := RunRecord.transitionTo_stop timestamp active fails
      have state : next.state = stop.state := by
        rw [(RunRecord.transitionTo_ok moved).2]
        rfl
      have evaluated : (do
          call (.ok () : Except Raised Unit)
          let store ← get
          let timestamp ← call (.ok timestamp)
          let updated ← call (store.record.transitionTo stop.state timestamp
            { terminalReason := some stop.reason.message, stopReason := some stop.reason })
          persist failure.saveOutcome (RunStore.stop updated)
          pure updated) store = (persist failure.saveOutcome (RunStore.stop next) >>= fun _ => pure next) store := by
        show (call (store.record.transitionTo _ _ _) >>= _) store = _
        rw [moved]
        rfl
      rw [evaluated]
      cases saved : failure.saveOutcome with
      | written => exact .inr ⟨rfl, next, _, rfl, rfl, state⟩
      | lost halt => exact .inl ⟨halt, _, rfl, rfl⟩
      | late halt => exact .inl ⟨halt, _, rfl, rfl⟩

/-- Marking halts where `markHalt` says, and else leaves a terminal record. -/
theorem markControllerException_cases :
    (∃ halt t, markHalt failure store.record message = some halt ∧
        markControllerException failure message store = (.error halt, t)) ∨
      markHalt failure store.record message = none ∧
        ∃ marked t, markControllerException failure message store = (.ok marked, t) ∧ Marked store marked t := by
  unfold markHalt markControllerException
  cases load : failure.load with
  | error error => exact .inl ⟨_, _, rfl, rfl⟩
  | ok _ =>
    cases terminal : store.record.state.terminal with
    | true =>
      refine .inr ⟨rfl, store.record, store, ?_, rfl, terminal, fun writing => ?_⟩
      · show (if store.record.state.terminal then _ else _ : Controlled RunRecord) store = _
        rw [terminal]
        rfl
      · cases state : store.record.state <;> rw [state] at writing terminal <;> first
          | exact absurd terminal (by decide)
          | exact absurd writing (by decide)
    | false =>
      have evaluated : (do
          call (.ok () : Except Raised Unit)
          let store ← get
          if store.record.state.terminal then pure store.record
          else do
            let stop ← call (classifyUnexpectedControllerFailure store.record.state message)
            markTerminalStop failure stop : Controlled RunRecord) store =
          (call (classifyUnexpectedControllerFailure store.record.state message) >>=
            markTerminalStop failure) store := by
        show (if store.record.state.terminal then _ else _ : Controlled RunRecord) store = _
        rw [terminal]
        rfl
      rw [evaluated]
      cases classified : classifyUnexpectedControllerFailure store.record.state message with
      | error error => exact .inl ⟨_, _, rfl, rfl⟩
      | ok stop =>
        obtain ⟨ends, fails, writing⟩ := classifyUnexpectedControllerFailure_ok classified
        rcases markTerminalStop_cases failure store terminal fails with
          ⟨halt, t, halts, run⟩ | ⟨none, marked, t, run, persisted, state⟩
        · exact .inl ⟨halt, t, halts, run⟩
        · exact .inr ⟨none, marked, t, run, persisted, by rw [state]; exact ends,
            fun wrote => by rw [state]; exact writing wrote⟩

end Mark

/-- What leaves `_publish_terminal_report`. -/
def Publication.escape (publication : Publication) : Option Raised :=
  match publication.owned, publication.publish with
  | .error text, _ => some (ownershipError text)
  | .ok (), .ok () => none
  | .ok (), .error error =>
    if error.isinstance .runOwnershipError || !error.isinstance .exception then some error else none

/-- The report is published once, or its failure escapes. -/
theorem publishTerminalReport_cases (publication : Publication) (store : RunStore) :
    (∃ error, publication.escape = some error ∧
        publishTerminalReport publication store = (.error (.raised error), store)) ∨
      publication.escape = none ∧ ∃ reported, publishTerminalReport publication store = (.ok reported, store) := by
  unfold Publication.escape publishTerminalReport
  cases owned : publication.owned with
  | error text => exact .inl ⟨_, rfl, rfl⟩
  | ok _ =>
    cases publish : publication.publish with
    | ok _ => exact .inr ⟨rfl, true, rfl⟩
    | error error =>
      dsimp only
      cases escapes : error.isinstance .runOwnershipError || !error.isinstance .exception
      · refine .inr ⟨rfl, false, ?_⟩
        show (if error.isinstance .runOwnershipError || !error.isinstance .exception then raise (.raised error)
          else pure false : Controlled Bool) store = _
        rw [escapes]
        rfl
      · refine .inl ⟨error, rfl, ?_⟩
        show (if error.isinstance .runOwnershipError || !error.isinstance .exception then raise (.raised error)
          else pure false : Controlled Bool) store = _
        rw [escapes]
        rfl

/-- An exception that is not ownership loss. -/
def Raised.ordinary (error : Raised) : Bool := error.isinstance .exception && !error.isinstance .runOwnershipError

/-- A failure strikes the failure path where nothing catches it: while the run
is marked, at the lock update after it, or as ownership loss while the report is
published. `disk` is the persisted record. -/
inductive FailureStrikes (failure : FailurePath) (disk : RunRecord) (message : String) : Prop
  | marking {error : Raised} (halts : markHalt failure disk message = some (.raised error))
      (ordinary : error.ordinary = true)
  | lock {error : Raised} (marked : markHalt failure disk message = none)
      (locked : failure.lock = .error error) (exception : error.isinstance .exception = true)
  | publication {error : Raised} (marked : markHalt failure disk message = none)
      (locked : failure.lock = .ok ()) (escapes : failure.publication.escape = some error)
      (exception : error.isinstance .exception = true)

/-- A halt that no `except Exception` clause sees. -/
def Halt.interruption : Halt → Bool
  | .died => true
  | .raised error => !error.isinstance .exception

section Result

variable {failure : FailurePath} {store t : RunStore} {message : String} {record : RunRecord}

/-- What `_controller_failure_result` owes to its caller. -/
structure FailureHandled (store t : RunStore) (outcome : Except Halt LifecycleResult) : Prop where
  returns : ∀ halt, outcome = .error halt → halt.interruption = true
  persisted : ∀ result, outcome = .ok result → result.safetyViolations = [] → Marked store result.record t

/-- Only what is no `Exception` may escape. -/
theorem FailureHandled.raised {error : Raised} :
    FailureHandled store t (.error (.raised error)) ↔ ¬error.isinstance .exception = true := by
  constructor
  · intro handled
    simpa [Halt.interruption] using handled.returns _ rfl
  · intro interruption
    refine ⟨fun halt own => ?_, fun result own => by cases own⟩
    cases own
    simpa [Halt.interruption] using interruption

/-- A result of ownership loss promises nothing about the record. -/
theorem FailureHandled.lost {text : String} :
    FailureHandled store t (.ok (ownershipFailureResult record text)) where
  returns _ own := by cases own
  persisted result own safe := by
    cases own
    cases safe

/-- **The failure path** returns a terminal record unless a failure strikes it. -/
theorem controllerFailureResult_handled {outcome : Except Halt LifecycleResult}
    (h : controllerFailureResult failure message record store = (outcome, t)) :
    FailureHandled store t outcome ↔ (failure.owned = .ok () → ¬FailureStrikes failure store.record message) := by
  unfold controllerFailureResult at h
  cases owned : failure.owned with
  | error text =>
    rw [owned] at h
    cases h
    exact ⟨fun _ other => (by cases other), fun _ => .lost⟩
  | ok _ =>
    rw [owned] at h
    have marking {ended : Except Halt RunRecord} {s : RunStore}
        (ran : markControllerException failure message store = (ended, s)) :
        (do requireOwned (.ok ()); markControllerException failure message : Controlled RunRecord) store =
          (ended, s) := ran
    rcases markControllerException_cases failure store message with
      ⟨halt, s, halts, ran⟩ | ⟨marks, marked, s, ran, mark⟩
    · rw [bind_apply, caught, marking ran] at h
      cases halt with
      | died =>
        cases h
        refine ⟨fun _ _ strikes => ?_, fun _ => ⟨fun halt own => by cases own; rfl, fun result own => by cases own⟩⟩
        cases strikes with
        | marking other => rw [halts] at other; cases other
        | lock other => rw [halts] at other; cases other
        | publication other => rw [halts] at other; cases other
      | raised error =>
        dsimp only at h
        have only : FailureStrikes failure store.record message ↔ error.ordinary = true := by
          constructor
          · intro strikes
            cases strikes with
            | marking other ordinary => rw [halts] at other; cases other; exact ordinary
            | lock other => rw [halts] at other; cases other
            | publication other => rw [halts] at other; cases other
          · exact .marking halts
        rw [only]
        cases ownership : error.isinstance .runOwnershipError <;> rw [ownership] at h
        · cases h
          rw [FailureHandled.raised]
          simp [Raised.ordinary, ownership]
        · cases h
          simp only [Raised.ordinary, ownership, Bool.not_true, Bool.and_false, Bool.false_eq_true,
            not_false_eq_true, implies_true, iff_true]
          exact .lost
    · rw [bind_apply, caught, marking ran] at h
      dsimp only at h
      cases locked : failure.lock with
      | error error =>
        rw [locked] at h
        cases h
        rw [FailureHandled.raised]
        constructor
        · intro interruption _ strikes
          cases strikes with
          | marking other => rw [marks] at other; cases other
          | lock _ other exception => rw [locked] at other; cases other; exact interruption exception
          | publication _ other => rw [locked] at other; cases other
        · exact fun unstruck exception => unstruck rfl (.lock marks locked exception)
      | ok _ =>
        rw [locked] at h
        have quiet : FailureStrikes failure store.record message ↔
            ∃ error, failure.publication.escape = some error ∧ error.isinstance .exception = true := by
          constructor
          · intro strikes
            cases strikes with
            | marking other => rw [marks] at other; cases other
            | lock _ other => rw [locked] at other; cases other
            | publication _ _ escapes exception => exact ⟨_, escapes, exception⟩
          · exact fun ⟨_, escapes, exception⟩ => .publication marks locked escapes exception
        rw [quiet]
        rcases call_bind_cases h with ⟨_, other, _⟩ | ⟨_, _, h⟩
        · cases other
        rcases publishTerminalReport_cases failure.publication s with
          ⟨error, escapes, ran⟩ | ⟨none, reported, ran⟩
        · rw [bind_apply, ran] at h
          cases h
          rw [FailureHandled.raised, escapes]
          simp
        · rw [bind_apply, ran] at h
          cases h
          rw [none]
          simp only [reduceCtorEq, false_and, exists_false, not_false_eq_true, implies_true, iff_true]
          refine ⟨fun _ own => (by cases own), fun result own _ => ?_⟩
          cases own
          exact mark

end Result

/-! ## The whole drive -/

section Safely

variable (sha256 : Sha256) (printable : Char → Bool) (runPath : String) (environment : DriveEnvironment)
  (fuel : Nat) (record : RunRecord) (store : RunStore)

/-- `drive_safely` returns, unless it is interrupted. When no ownership was lost
the persisted record is the returned one and terminal, and a failure while an
agent may have been writing requires a human. -/
structure ReturnsSafely : Prop where
  returns : ∀ halt t, driveSafely sha256 printable runPath environment fuel record store = (.error halt, t) →
    halt.interruption = true
  finished : ∀ t, driveSafely sha256 printable runPath environment fuel record store ≠ (.ok none, t)
  persisted : ∀ result t, driveSafely sha256 printable runPath environment fuel record store =
      (.ok (some result), t) → result.safetyViolations = [] →
    t.record = result.record ∧ result.record.state.terminal = true
  writing : ∀ result t, driveSafely sha256 printable runPath environment fuel record store =
      (.ok (some result), t) → result.safetyViolations = [] →
    ∀ error s, driveLifecycle sha256 printable runPath environment fuel record store = (.error (.raised error), s) →
      s.record.state.writing = true → result.record.state = .humanRequired

/-- An exception of the loop is being handled, and a second failure strikes. -/
def StrikesTwice : Prop :=
  environment.ownership = .ok () ∧ ∃ error s,
    driveLifecycle sha256 printable runPath environment fuel record store = (.error (.raised error), s) ∧
      error.ordinary = true ∧ environment.failure.owned = .ok () ∧
      FailureStrikes environment.failure s.record (controllerErrorText environment.exceptionPrefix error)

variable {sha256 printable runPath environment fuel record store}

/-- Publishing and the last lock update change nothing in the run directory. -/
theorem driveLifecycle_ok {result : Option LifecycleResult} {t : RunStore} (same : store.record = record)
    (enough : 4 * (record.maxCorrectionRounds - record.currentCorrectionRound) + 6 ≤ fuel)
    (h : driveLifecycle sha256 printable runPath environment fuel record store = (.ok result, t)) :
    ∃ final, result = some final ∧ t.record = final.record ∧ final.record.state.terminal = true := by
  obtain ⟨last, s, driven, h⟩ := bind_ok.mp h
  have effect := driveLoop_effect same driven
  cases last with
  | none => exact absurd rfl (effect.enough ((stageRank_le _).trans enough))
  | some final =>
    obtain ⟨terminal, persisted⟩ := effect.ended final rfl
    dsimp only at h
    rcases publishTerminalReport_cases environment.publication s with ⟨_, _, ran⟩ | ⟨_, reported, ran⟩
    · rw [bind_apply, ran] at h
      cases h
    · rw [bind_apply, ran] at h
      obtain ⟨_, _, h⟩ := call_bind_ok.mp h
      cases h
      exact ⟨_, rfl, persisted, terminal⟩

/-- What the loop raises is handled; everything else is handed on. -/
theorem driveSafely_owned (owned : environment.ownership = .ok ()) :
    driveSafely sha256 printable runPath environment fuel record store =
      (caught (driveLifecycle sha256 printable runPath environment fuel record) >>= fun outcome =>
        match outcome with
        | .ok result => pure result
        | .error error => do
          let result ← handleDriveError environment record error
          pure (some result)) store := by
  have entered : driveSafely sha256 printable runPath environment fuel record =
      driveLifecycleSafely sha256 printable runPath environment fuel record := by
    simp only [driveSafely, owned]
  exact congrFun entered store

section Driven

variable {s t : RunStore} {outcome : Except Halt (Option LifecycleResult)} {error : Raised}

/-- The three ways the drive ends, as `drive_safely` sees them. -/
theorem driveSafely_result (owned : environment.ownership = .ok ()) {result : Option LifecycleResult}
    (driven : driveLifecycle sha256 printable runPath environment fuel record store = (.ok result, s)) :
    driveSafely sha256 printable runPath environment fuel record store = (.ok result, s) := by
  rw [driveSafely_owned owned, bind_apply, caught, driven]
  rfl

theorem driveSafely_died (owned : environment.ownership = .ok ())
    (driven : driveLifecycle sha256 printable runPath environment fuel record store = (.error .died, s)) :
    driveSafely sha256 printable runPath environment fuel record store = (.error .died, s) := by
  rw [driveSafely_owned owned, bind_apply, caught, driven]

theorem driveSafely_raised (owned : environment.ownership = .ok ())
    (driven : driveLifecycle sha256 printable runPath environment fuel record store = (.error (.raised error), s)) :
    driveSafely sha256 printable runPath environment fuel record store =
      (handleDriveError environment record error >>= fun result => pure (some result)) s := by
  rw [driveSafely_owned owned, bind_apply, caught, driven]

/-- What a handled exception of the loop comes to. -/
theorem handleDriveError_handled {handled : Except Halt LifecycleResult}
    (h : handleDriveError environment record error s = (handled, t)) :
    FailureHandled s t handled ↔ (error.ordinary = true → environment.failure.owned = .ok () →
      ¬FailureStrikes environment.failure s.record (controllerErrorText environment.exceptionPrefix error)) := by
  unfold handleDriveError at h
  cases ownership : error.isinstance .runOwnershipError <;> rw [ownership] at h
  · cases exception : error.isinstance .exception <;> rw [exception] at h
    · cases h
      rw [FailureHandled.raised]
      simp [Raised.ordinary, exception]
    · have ordinary : error.ordinary = true := by simp [Raised.ordinary, ownership, exception]
      rw [controllerFailureResult_handled h]
      exact ⟨fun unstruck _ => unstruck, fun unstruck => unstruck ordinary⟩
  · cases h
    simp only [Raised.ordinary, ownership, Bool.not_true, Bool.and_false, Bool.false_eq_true, false_implies, iff_true]
    exact .lost

/-- After an exception of the loop, `drive_safely` is as good as its failure path. -/
theorem returnsSafely_raised (owned : environment.ownership = .ok ()) {handled : Except Halt LifecycleResult}
    (driven : driveLifecycle sha256 printable runPath environment fuel record store = (.error (.raised error), s))
    (h : handleDriveError environment record error s = (handled, t)) :
    ReturnsSafely sha256 printable runPath environment fuel record store ↔ FailureHandled s t handled := by
  have ended := driveSafely_raised owned driven
  rw [bind_apply, h] at ended
  rcases handled with halt | result
  · constructor
    · intro safely
      refine ⟨fun other own => ?_, fun result own => (by cases own)⟩
      cases own
      exact safely.returns halt t ended
    · intro fine
      refine ⟨fun other u own => ?_, fun u own => ?_, fun result u own => ?_, fun result u own => ?_⟩ <;>
        rw [ended] at own <;> cases own
      exact fine.returns halt rfl
  · constructor
    · intro safely
      refine ⟨fun other own => (by cases own), fun other own safe => ?_⟩
      cases own
      obtain ⟨persisted, terminal⟩ := safely.persisted result t ended safe
      exact ⟨persisted, terminal, safely.writing result t ended safe error s driven⟩
    · intro fine
      refine ⟨fun other u own => ?_, fun u own => ?_, fun other u own safe => ?_,
        fun other u own safe raised u' again writing => ?_⟩ <;> rw [ended] at own <;> cases own
      · have mark := fine.persisted result rfl safe
        exact ⟨mark.persisted, mark.terminal⟩
      · rw [driven] at again
        cases again
        exact (fine.persisted result rfl safe).writing writing

end Driven

/-- **Drive safely.** It returns as it should exactly when no second failure
strikes while a first one is handled. -/
theorem drive_safely_returns_iff (same : store.record = record)
    (enough : 4 * (record.maxCorrectionRounds - record.currentCorrectionRound) + 6 ≤ fuel) :
    ReturnsSafely sha256 printable runPath environment fuel record store ↔
      ¬StrikesTwice sha256 printable runPath environment fuel record store := by
  cases owned : environment.ownership with
  | error refusal =>
    have refused : driveSafely sha256 printable runPath environment fuel record store =
        (.ok (some (ownershipFailureResult record refusal.text)), store) := by
      unfold driveSafely
      rw [owned]
      rfl
    refine ⟨fun _ strikes => ?_, fun _ => ⟨?_, ?_, ?_, ?_⟩⟩
    · have other := strikes.1
      rw [owned] at other
      cases other
    · intro halt t own
      rw [refused] at own
      cases own
    · intro t own
      rw [refused] at own
      cases own
    all_goals
      intro result t own safe
      rw [refused] at own
      cases own
      cases safe
  | ok _ =>
    rcases driven : driveLifecycle sha256 printable runPath environment fuel record store with ⟨halt | result, s⟩
    · cases halt with
      | died =>
        have ended := driveSafely_died owned driven
        have quiet : ¬StrikesTwice sha256 printable runPath environment fuel record store := by
          rintro ⟨_, error, s', other, _⟩
          rw [driven] at other
          cases other
        refine ⟨fun _ => quiet, fun _ => ⟨fun halt t own => ?_, fun t own => ?_, fun result t own => ?_,
          fun result t own => ?_⟩⟩ <;> rw [ended] at own <;> cases own
        rfl
      | raised error =>
        rcases handled : handleDriveError environment record error s with ⟨outcome, t⟩
        rw [returnsSafely_raised owned driven handled, handleDriveError_handled handled]
        constructor
        · rintro unstruck ⟨_, other, s', again, ordinary, held, strikes⟩
          rw [driven] at again
          cases again
          exact unstruck ordinary held strikes
        · exact fun quiet ordinary held strikes => quiet ⟨owned, error, s, driven, ordinary, held, strikes⟩
    · have ended := driveSafely_result owned driven
      obtain ⟨final, rfl, persisted, terminal⟩ := driveLifecycle_ok same enough driven
      have quiet : ¬StrikesTwice sha256 printable runPath environment fuel record store := by
        rintro ⟨_, error, s', other, _⟩
        rw [driven] at other
        cases other
      refine ⟨fun _ => quiet, fun _ => ⟨fun halt t own => ?_, fun t own => ?_, fun result t own safe => ?_,
        fun result t own safe error s' again => ?_⟩⟩ <;> rw [ended] at own <;> cases own
      · exact ⟨persisted, terminal⟩
      · rw [driven] at again
        cases again

end Safely

/-- A drive whose first lock update fails; `published` is the ownership check
before the report of the failure. -/
def exampleFailingDrive (published : OwnershipCheck) : DriveEnvironment where
  ownership := .ok ()
  passes _ := examplePass (.error exampleUnavailable)
  publication := ⟨.ok (), .ok ()⟩
  lockAtEnd := .ok ()
  failure :=
    { owned := .ok ()
      load := .ok ()
      reload := .ok ()
      timestamp := .ok "2026-01-01T00:03:00Z"
      saveOutcome := .written
      lock := .ok ()
      publication := ⟨published, .ok ()⟩ }
  exceptionPrefix := "Internal TicketAutomation exception"

/-- With ownership held throughout, the failing drive returns safely. -/
theorem drive_safely_returns_iff_example :
    ReturnsSafely exampleSha256 (fun _ => true) "/runs/r1" (exampleFailingDrive (.ok ())) 6 exampleExhaustedRecord
      (exampleStore exampleExhaustedRecord) := by
  have start : (exampleStore exampleExhaustedRecord).record = exampleExhaustedRecord := rfl
  refine (drive_safely_returns_iff start (by decide)).mpr ?_
  rintro ⟨_, error, s, driven, _, _, strikes⟩
  cases driven
  cases strikes with
  | marking halts => cases halts
  | lock _ locked => cases locked
  | publication _ _ escapes => cases escapes

/-- Ownership that is lost while the failure is reported escapes. -/
theorem drive_safely_escapes :
    ¬ReturnsSafely exampleSha256 (fun _ => true) "/runs/r1" (exampleFailingDrive (.error "Run ownership was lost."))
      6 exampleExhaustedRecord (exampleStore exampleExhaustedRecord) := by
  intro safely
  have interrupted := safely.returns (.raised ⟨.runOwnershipError, "Run ownership was lost."⟩) _ rfl
  cases interrupted

end SprintTicket
