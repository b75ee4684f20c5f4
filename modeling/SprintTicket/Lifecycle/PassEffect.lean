import SprintTicket.Lifecycle.Drive

/-!
# What one pass of the loop does

`PassEffect` lists everything a pass may leave behind, also when it is cut
short: `drivePass_effect` is the only proof that follows the body of the loop.
The invariants of whole runs are read off it.
-/

set_option autoImplicit false

namespace SprintTicket

open Checks Effects Effects.Effect

/-- The agents that the dispatch of a record may invoke. -/
inductive MayInvoke (record : RunRecord) : AgentTaskKind → Prop
  | implementation (state : record.state = .implementing) : MayInvoke record .implementation
  | correction (state : record.state = .correcting)
      (limit : record.currentCorrectionRound < record.maxCorrectionRounds) : MayInvoke record .correction

/-- What the dispatch of a record adds to the log. -/
inductive DispatchLog (record : RunRecord) : List DriveEvent → Prop
  | idle : DispatchLog record []
  | stage : DispatchLog record [.dispatched record]
  | agent {kind : AgentTaskKind} (allowed : MayInvoke record kind) :
    DispatchLog record [.dispatched record, .invoked kind record]

/-- `t` differs from `store` in the newest attempt and its artifacts only. -/
structure Framed (store : RunStore) (log : List DriveEvent) (t : RunStore) : Prop where
  record : t.record = store.record
  events : t.events = store.events ++ log
  results : ∀ n < store.ledger.nextSequence, t.resultFile n = store.resultFile n
  executions : ∀ n < store.ledger.nextSequence, t.execution n = store.execution n

/-- The attempt that a pass over `store` started, as `t` holds it. -/
structure Attempted (store t : RunStore) (attempt : AttemptRecord) : Prop where
  phase : phaseForActiveState store.record.state = some attempt.phase
  sequence : attempt.sequence = store.ledger.nextSequence
  records : t.ledger.records = store.ledger.records ++ [attempt]

/-- A stage is running below its attempt. -/
structure Running (store : RunStore) (log : List DriveEvent) (t : RunStore) : Prop extends
    Framed store log t where
  attempt : ∃ attempt, Attempted store t attempt ∧ attempt.status = .started

theorem Framed.refl (store : RunStore) : Framed store [] store := ⟨rfl, by simp, fun _ _ => rfl, fun _ _ => rfl⟩

/-- Logging an event is within the frame. -/
theorem Framed.logged {store t : RunStore} {log : List DriveEvent} (kept : Framed store log t)
    (event : DriveEvent) : Framed store (log ++ [event]) (t.log event) where
  record := kept.record
  events := by rw [RunStore.log, kept.events, List.append_assoc]
  results := kept.results
  executions := kept.executions

theorem Running.logged {store t : RunStore} {log : List DriveEvent} (running : Running store log t)
    (event : DriveEvent) : Running store (log ++ [event]) (t.log event) := by
  obtain ⟨attempt, attempted, started⟩ := running.attempt
  exact ⟨running.toFramed.logged event,
    attempt, ⟨attempted.phase, attempted.sequence, attempted.records⟩, started⟩

/-- The attempt of a running stage is found by its sequence. -/
theorem Attempted.found {store t : RunStore} {attempt : AttemptRecord} (attempted : Attempted store t attempt) :
    t.ledger.find store.ledger.nextSequence = some attempt := by
  have found := AttemptLedger.find_last attempted.records
  rw [attempted.sequence] at found
  exact found

/-- A replacement of the newest attempt that keeps its identity. -/
theorem Attempted.replaced {store t : RunStore} {attempt updated : AttemptRecord}
    (attempted : Attempted store t attempt)
    (identity : SameIdentity attempt.toAttemptFields updated.toAttemptFields) :
    Attempted store (t.replaceAttempt updated) updated where
  phase := by rw [← identity.phase]; exact attempted.phase
  sequence := identity.sequence.symm.trans attempted.sequence
  records := AttemptLedger.replace_last attempted.records identity.sequence.symm

theorem Framed.replaced {store t : RunStore} {log : List DriveEvent} (kept : Framed store log t)
    (updated : AttemptRecord) : Framed store log (t.replaceAttempt updated) :=
  ⟨kept.record, kept.events, kept.results, kept.executions⟩

section Writes

variable {α : Type} {P : RunStore → Prop} {store : RunStore} {log : List DriveEvent}

theorem keeps_call {answer : Except Raised α} : Keeps P (call answer : Controlled α) := keeps_lift

/-- A write keeps what its change keeps. -/
theorem keeps_persist {outcome : WriteOutcome} {change : RunStore → RunStore}
    (h : ∀ s, P s → P (change s)) : Keeps P (persist outcome change) := by
  cases outcome with
  | written => exact keeps_modify h
  | lost halt => exact keeps_raise
  | late halt => exact keeps_bind (keeps_modify h) fun _ => keeps_raise

/-- A write that returned has been made. -/
theorem persist_ok {outcome : WriteOutcome} {change : RunStore → RunStore} {s t : RunStore} {u : Unit}
    (h : persist outcome change s = (.ok u, t)) : t = change s := by
  cases outcome with
  | written =>
    cases h
    rfl
  | lost halt => cases h
  | late halt => cases h

/-- A write that does not go through was made or it was not. -/
theorem persist_error {outcome : WriteOutcome} {change : RunStore → RunStore} {s t : RunStore} {halt : Halt}
    (h : persist outcome change s = (.error halt, t)) : t = s ∨ t = change s := by
  cases outcome with
  | written => cases h
  | lost other =>
    cases h
    exact .inl rfl
  | late other =>
    cases h
    exact .inr rfl

/-- A call is followed by the rest when it answers. -/
theorem call_bind_ok {β : Type} {answer : Except Raised α} {f : α → Controlled β} {s t : RunStore} {b : β} :
    (call answer >>= f) s = (.ok b, t) ↔ ∃ a, answer = .ok a ∧ f a s = (.ok b, t) := by
  cases answer <;> simp [call, bind_apply, Except.mapError]

/-- A sequence stops at a call that raises, or goes on with its answer. -/
theorem call_bind_cases {β : Type} {answer : Except Raised α} {f : α → Controlled β} {s t : RunStore}
    {outcome : Except Halt β} (h : (call answer >>= f) s = (outcome, t)) :
    (∃ error, answer = .error error ∧ outcome = .error (.raised error) ∧ t = s) ∨
      ∃ a, answer = .ok a ∧ f a s = (outcome, t) := by
  cases answer with
  | error error =>
    cases h
    exact .inl ⟨error, rfl, rfl, rfl⟩
  | ok a => exact .inr ⟨a, rfl, h⟩

theorem persist_bind_ok {β : Type} {outcome : WriteOutcome} {change : RunStore → RunStore}
    {f : Unit → Controlled β} {s t : RunStore} {b : β} :
    (persist outcome change >>= f) s = (.ok b, t) ↔ outcome = .written ∧ f () (change s) = (.ok b, t) := by
  cases outcome <;> simp [persist, bind_apply]

/-- A body that is caught has its exception as an answer. -/
theorem caught_ok {body : Controlled α} {s t : RunStore} {outcome : Except Raised α}
    (h : caught body s = (.ok outcome, t)) :
    body s = (outcome.mapError .raised, t) := by
  unfold caught at h
  split at h
  · rename_i a u run
    cases h
    exact run
  · rename_i error u run
    cases h
    exact run
  · cases h

/-- Only the end of the process is not caught. -/
theorem caught_error {body : Controlled α} {s t : RunStore} {halt : Halt}
    (h : caught body s = (.error halt, t)) : halt = .died ∧ body s = (.error .died, t) := by
  unfold caught at h
  split at h
  · cases h
  · cases h
  · rename_i other u notRaised run
    cases h
    cases halt with
    | raised error => exact absurd rfl (notRaised error)
    | died => exact ⟨rfl, run⟩

theorem keeps_caught {body : Controlled α} (h : Keeps P body) : Keeps P (caught body) := by
  intro s holds
  have after := h s holds
  unfold caught
  split <;> rename_i run <;> rw [run] at after <;> exact after

/-- The result artifact of the newest attempt is no earlier one. -/
theorem keeps_writeResult {outcome : WriteOutcome} {value : Json} :
    Keeps (Running store log) (persist outcome (RunStore.writeResult store.ledger.nextSequence value)) := by
  refine keeps_persist fun s running => ?_
  obtain ⟨attempt, attempted, started⟩ := running.attempt
  refine ⟨⟨running.record, running.events, fun n below => ?_, running.executions⟩,
    attempt, ⟨attempted.phase, attempted.sequence, attempted.records⟩, started⟩
  rw [RunStore.writeResult]
  dsimp only
  rw [if_neg (by omega)]
  exact running.results n below

theorem keeps_stageWrite {write : StageWrite} {outcome : WriteOutcome} :
    Keeps (Running store log) (stageWrite store.ledger.nextSequence write outcome) := by
  intro s running
  obtain ⟨attempt, attempted, started⟩ := running.attempt
  cases write with
  | updateAttempt changes plain now =>
    obtain ⟨update, prepared⟩ := prepareUpdate_plain plain attempt now
    obtain ⟨expected, fields⟩ := prepareUpdate_expected prepared
    have same : update.updated.status = .started := by
      rw [fields, AttemptChanges.apply, plain.status]
      exact started
    have identity := update.identity
    rw [expected] at identity
    have evaluated : stageWrite store.ledger.nextSequence (.updateAttempt changes plain now) outcome s =
        persist outcome (RunStore.replaceAttempt update.updated) s := by
      rw [stageWrite, get_bind, attempted.found]
      dsimp only
      rw [prepared]
      rfl
    rw [evaluated]
    cases outcome with
    | lost halt => exact running
    | written =>
      exact ⟨running.toFramed.replaced _, _, attempted.replaced identity, same⟩
    | late halt =>
      exact ⟨running.toFramed.replaced _, _, attempted.replaced identity, same⟩
  | writeExecution evidence =>
    refine keeps_persist (fun s running => ?_) s running
    obtain ⟨attempt, attempted, started⟩ := running.attempt
    refine ⟨⟨running.record, running.events, running.results, fun n below => ?_⟩,
      attempt, ⟨attempted.phase, attempted.sequence, attempted.records⟩, started⟩
    rw [RunStore.writeExecution]
    dsimp only
    rw [if_neg (by omega)]
    exact running.executions n below

/-- What a stage writes on the way concerns its own attempt. -/
theorem keeps_stageProgress {writes : List (StageWrite × WriteOutcome)} :
    Keeps (Running store log) (stageProgress store.ledger.nextSequence writes) := by
  induction writes with
  | nil => exact keeps_pure
  | cons write rest ih => exact keeps_bind keeps_stageWrite fun _ => ih

end Writes

/-- What the result artifact of a stage says when the stage does not stop the run. -/
inductive StageEvidence (printable : Char → Bool) (record : RunRecord) (file : ArtifactFile) :
    StageOutcome → Prop
  | stops {outcome : StageOutcome} (stopped : outcome.stops = true) : StageEvidence printable record file outcome
  | preparation {round : VerificationRound} (state : record.state = .preparing)
      (written : file = .json (.obj (encodeRound round))) : StageEvidence printable record file .completed
  | verification {round : VerificationRound} {resultPath : String} (state : record.state = .verifying)
      (written : file = .json (.obj (encodeRound round)))
      (failures : RoundFailures printable resultPath round)
      (index : round.roundIndex = record.currentCorrectionRound) :
    StageEvidence printable record file (finishOutcome round false).1
  | review {result : ReviewResult} (state : record.state = .reviewing)
      (written : file = .json (encodeReviewResult result)) :
    StageEvidence printable record file (validReviewOutcome result).1
  | writable {value : Json} {outcome : StageOutcome}
      (state : record.state = .implementing ∨ record.state = .correcting) (written : file = .json value) :
    StageEvidence printable record file outcome

section Stages

variable {sha256 : Sha256} {printable : Char → Bool} {store : RunStore} {log : List DriveEvent}
  {owner : StageAttempt}

theorem runVerificationStage_keeps {baseline : Bool} {run : VerificationRun}
    (newest : owner.sequence = store.ledger.nextSequence) :
    Keeps (Running store log) (runVerificationStage sha256 printable baseline owner run) := by
  refine keeps_bind keeps_get fun disk => keeps_bind keeps_call fun round => ?_
  rw [newest]
  exact keeps_bind keeps_writeResult fun _ => keeps_bind keeps_call fun _ =>
    keeps_bind keeps_call fun _ => keeps_pure

/-- A round of either kind lists its failed commands. -/
theorem verificationRound_ok {record : RunRecord} {run : VerificationRun} {round : VerificationRound}
    (h : verificationRound printable record false run = .ok round) :
    record.state = .verifying ∧ RoundFailures printable run.resultPath round ∧
      round.roundIndex = record.currentCorrectionRound := by
  obtain ⟨state, h⟩ := check_bind_ok.mp h
  obtain ⟨_, h⟩ := check_bind_ok.mp h
  obtain ⟨violations, _, h⟩ := bind_ok_iff.mp h
  have state : record.state = .verifying := by
    simpa [requireVerificationState] using state
  refine ⟨state, ?_⟩
  dsimp only at h
  split at h
  · rename_i violated
    obtain ⟨_, h⟩ := check_bind_ok.mp h
    cases h
    refine ⟨⟨run.resultPath_text, rfl, ?_⟩, rfl⟩
    simp [controllerErrorRound, roundStatus, violated]
  · obtain ⟨results, violations, failures, _, _, listed, rfl⟩ := runRound_ok h
    exact ⟨⟨run.resultPath_text, listed, rfl⟩, rfl⟩

/-- A verification that returned has written its round. -/
theorem runVerificationStage_ok {baseline : Bool} {run : VerificationRun} {s t : RunStore}
    {result : VerificationStageResult}
    (h : runVerificationStage sha256 printable baseline owner run s = (.ok result, t)) :
    ∃ round, verificationRound printable s.record baseline run = .ok round ∧
      t.resultFile owner.sequence = .json (.obj (encodeRound round)) ∧
      result.outcome = (finishOutcome round baseline).1 := by
  rw [runVerificationStage, get_bind] at h
  obtain ⟨round, made, h⟩ := call_bind_ok.mp h
  obtain ⟨_, h⟩ := persist_bind_ok.mp h
  obtain ⟨_, _, h⟩ := call_bind_ok.mp h
  obtain ⟨after, _, h⟩ := call_bind_ok.mp h
  cases h
  exact ⟨round, made, by simp [RunStore.writeResult], rfl⟩

theorem runReviewStage_keeps {run : ReviewRun} (newest : owner.sequence = store.ledger.nextSequence) :
    Keeps (Running store log) (runReviewStage sha256 owner run) := by
  rw [runReviewStage, newest]
  exact keeps_bind keeps_stageProgress fun _ => keeps_bind keeps_call fun _ => keeps_bind keeps_call fun _ =>
    keeps_bind keeps_writeResult fun _ => keeps_bind keeps_call fun _ => keeps_pure

/-- A review that does not stop the run has written its result. -/
theorem runReviewStage_ok {run : ReviewRun} {s t : RunStore} {result : ReviewStageResult}
    (h : runReviewStage sha256 owner run s = (.ok result, t)) :
    result.outcome.stops = true ∨
      ∃ review, t.resultFile owner.sequence = .json (encodeReviewResult review) ∧
        result.outcome = (validReviewOutcome review).1 := by
  obtain ⟨_, s₁, _, h⟩ := bind_ok.mp h
  obtain ⟨ending, _, h⟩ := call_bind_ok.mp h
  obtain ⟨value, encoded, h⟩ := call_bind_ok.mp h
  obtain ⟨_, h⟩ := persist_bind_ok.mp h
  obtain ⟨after, _, h⟩ := call_bind_ok.mp h
  cases h
  cases ending with
  | stopped outcome stops message execution written violations => exact .inl stops
  | valid review execution =>
    cases encoded
    exact .inr ⟨review, by simp [RunStore.writeResult], rfl⟩

/-- A writable stage adds at most the call of its agent to the log. -/
theorem performWritable_effect {kind : AgentTaskKind} {allowed : RunRecord → Bool} {run : WritableRun}
    {finish : RunRecord → Except Raised StageFinish} {s t : RunStore} {outcome : Except Halt Unit}
    (newest : owner.sequence = store.ledger.nextSequence)
    (h : performWritable kind allowed owner run finish s = (outcome, t)) (running : Running store log s) :
    Running store log t ∨
      allowed store.record = true ∧ Running store (log ++ [.invoked kind store.record]) t := by
  have rest : ∀ log, Keeps (Running store log) (do
      stageProgress owner.sequence run.progress
      let finished ← call (finish s.record)
      let value ← call finished.written
      persist run.outcome (RunStore.writeResult owner.sequence value)) := by
    intro log
    rw [newest]
    exact keeps_bind keeps_stageProgress fun _ => keeps_bind keeps_call fun _ => keeps_bind keeps_call fun _ =>
      keeps_writeResult
  rw [performWritable, get_bind] at h
  dsimp only at h
  split at h
  · rename_i called
    have invoked := running.logged (.invoked kind s.record)
    rw [modify_bind] at h
    rw [running.record] at called invoked
    exact .inr ⟨(Bool.and_eq_true_iff.mp called).2, (rest _).after h (by rw [running.record]; exact invoked)⟩
  · exact .inl ((rest _).after h running)

/-- A writable stage that returned has written its result. -/
theorem performWritable_ok {kind : AgentTaskKind} {allowed : RunRecord → Bool} {run : WritableRun}
    {finish : RunRecord → Except Raised StageFinish} {s t : RunStore} {u : Unit}
    (h : performWritable kind allowed owner run finish s = (.ok u, t)) :
    ∃ value, t.resultFile owner.sequence = .json value := by
  rw [performWritable, get_bind] at h
  dsimp only at h
  have written : ∀ {s : RunStore} {disk : RunRecord}, (do
      stageProgress owner.sequence run.progress
      let finished ← call (finish disk)
      let value ← call finished.written
      persist run.outcome (RunStore.writeResult owner.sequence value) : Controlled Unit) s = (.ok u, t) →
      ∃ value, t.resultFile owner.sequence = .json value := by
    intro s disk h
    obtain ⟨_, s₁, _, h⟩ := bind_ok.mp h
    obtain ⟨finished, _, h⟩ := call_bind_ok.mp h
    obtain ⟨value, _, h⟩ := call_bind_ok.mp h
    obtain rfl := persist_ok h
    exact ⟨value, by simp [RunStore.writeResult]⟩
  split at h
  · rw [modify_bind] at h
    exact written h
  · exact written h

end Stages

section Dispatch

variable {sha256 : Sha256} {printable : Char → Bool} {stage : StageDispatch} {store : RunStore}
  {record : RunRecord} {owner : StageAttempt}

/-- All a stage can do to the store, whatever its outcome. -/
theorem performStage_effect {s t : RunStore} {outcome : Except Halt StageEnvironment}
    (same : store.record = record) (newest : owner.sequence = store.ledger.nextSequence)
    (h : performStage sha256 printable stage record (some owner) s = (outcome, t))
    (running : Running store [.dispatched record] s) :
    ∃ log, DispatchLog record log ∧ Running store log t := by
  have quiet {x : Controlled StageEnvironment} (run : x s = (outcome, t))
      (keeps : Keeps (Running store [.dispatched record]) x) : ∃ log, DispatchLog record log ∧ Running store log t :=
    ⟨_, .stage, keeps.after run running⟩
  have agent {kind : AgentTaskKind} {allowed : RunRecord → Bool}
      {finish : RunRecord → Except Raised StageFinish} {environment : StageEnvironment}
      (may : allowed record = true → MayInvoke record kind)
      (run : (do performWritable kind allowed owner stage.writable finish; pure environment) s = (outcome, t)) :
      ∃ log, DispatchLog record log ∧ Running store log t := by
    rcases ran : performWritable kind allowed owner stage.writable finish s with ⟨ended, s₁⟩
    obtain rfl : s₁ = t := by
      rw [bind_apply, ran] at run
      cases ended <;> cases run <;> rfl
    rcases performWritable_effect newest ran running with running | ⟨called, running⟩
    · exact ⟨_, .stage, running⟩
    · rw [same] at called running
      exact ⟨_, .agent (may called), running⟩
  unfold performStage at h
  cases state : record.state <;> rw [state] at h
  case preparing =>
    exact quiet h (keeps_bind (keeps_caught (runVerificationStage_keeps newest)) fun _ => keeps_pure)
  case implementing => exact agent (fun _ => .implementation state) h
  case verifying => exact quiet h (keeps_bind (runVerificationStage_keeps newest) fun _ => keeps_pure)
  case reviewing => exact quiet h (keeps_bind (runReviewStage_keeps newest) fun _ => keeps_pure)
  case correcting =>
    dsimp only at h
    rw [get_bind] at h
    cases planned : planPendingCorrection stage.plannerOwned s.directory with
    | error error =>
      rw [planned] at h
      cases h
      exact ⟨_, .stage, running⟩
    | ok plan =>
      rw [planned] at h
      exact agent (fun limit => .correction state (by simpa [correctionAllowed] using limit)) h
  all_goals
    cases h
    exact ⟨_, .stage, running⟩

/-- The outcome of an executed decision is the one of its stage. -/
theorem decisionForStageResult_outcome {state : WorkflowState} {result : StageResult} {options : DecisionOptions}
    {decision : StageDecision} {completion : StageCompletion}
    (h : decisionForStageResult state result options = .ok decision)
    (completed : decision.completion = some completion) : completion.outcome = result.outcome := by
  have decided := (decisionForStageResult_ok h).completion
  rw [completed] at decided
  cases decided
  rfl

/-- What a stage wrote agrees with the decision made of it. -/
theorem performStage_evidence {environment : StageEnvironment} {decision : StageDecision}
    {completion : StageCompletion} {disk : RunRecord} {s t : RunStore}
    (h : performStage sha256 printable stage record (some owner) s = (.ok environment, t))
    (same : s.record = record) {phase : AttemptPhase} (active : phaseForActiveState record.state = some phase)
    (notReporting : record.state ≠ .reporting)
    (decided : dispatchStage sha256 environment disk record (some owner) = .ok decision)
    (completed : decision.completion = some completion) :
    StageEvidence printable record (t.resultFile owner.sequence) completion.outcome := by
  unfold performStage at h
  unfold dispatchStage at decided
  cases state : record.state <;> rw [state] at h decided
  case preparing =>
    obtain ⟨outcome, s₁, ran, h⟩ := bind_ok.mp h
    cases h
    have ran := caught_ok ran
    obtain ⟨_, _, decided⟩ := bind_ok_iff.mp decided
    cases outcome with
    | ok result =>
      obtain ⟨round, _, written, outcome⟩ := runVerificationStage_ok ran
      have own := decisionForStageResult_outcome decided completed
      rw [show completion.outcome = result.outcome from own]
      cases finished : result.outcome with
      | completed => exact .preparation state written
      | humanRequired => exact .stops rfl
      | failed => exact .stops rfl
      | correctionRequired =>
        rw [outcome, finishOutcome] at finished
        split at finished
        · cases finished
        · split at finished
          · cases finished
          · rename_i clean
            simp only [true_and, not_or] at clean
            rw [if_neg clean.1] at finished
            cases finished
    | error error =>
      dsimp only at decided
      split at decided
      · rw [decisionForStageResult_outcome decided completed]
        exact .stops rfl
      · cases decided
  case implementing =>
    obtain ⟨_, s₁, ran, h⟩ := bind_ok.mp h
    cases h
    obtain ⟨value, written⟩ := performWritable_ok ran
    exact .writable (.inl state) written
  case verifying =>
    obtain ⟨result, s₁, ran, h⟩ := bind_ok.mp h
    cases h
    obtain ⟨round, made, written, outcome⟩ := runVerificationStage_ok ran
    rw [same] at made
    obtain ⟨_, failures, index⟩ := verificationRound_ok made
    obtain ⟨_, _, decided⟩ := bind_ok_iff.mp decided
    rw [show completion.outcome = result.outcome from decisionForStageResult_outcome decided completed, outcome]
    exact .verification state written failures index
  case reviewing =>
    obtain ⟨result, s₁, ran, h⟩ := bind_ok.mp h
    cases h
    obtain ⟨_, _, decided⟩ := bind_ok_iff.mp decided
    rw [show completion.outcome = result.outcome from decisionForStageResult_outcome decided completed]
    rcases runReviewStage_ok ran with stops | ⟨review, written, outcome⟩
    · exact .stops stops
    · rw [outcome]
      exact .review state written
  case correcting =>
    dsimp only at h
    rw [get_bind] at h
    obtain ⟨_, _, h⟩ := call_bind_ok.mp h
    obtain ⟨_, s₁, ran, h⟩ := bind_ok.mp h
    cases h
    obtain ⟨value, written⟩ := performWritable_ok ran
    exact .writable (.inr state) written
  case reporting => exact absurd state notReporting
  all_goals
    rw [state] at active
    cases active

end Dispatch

/-! ## The pass -/

/-- An outcome ends its attempt. -/
theorem attemptStatusByStageOutcome_ne_started (outcome : StageOutcome) :
    attemptStatusByStageOutcome outcome ≠ .started := by
  cases outcome <;> decide

/-- The attempt of a pass ended with this outcome. -/
structure Finished (printable : Char → Bool) (store t : RunStore) (outcome : StageOutcome)
    (attempt : AttemptRecord) : Prop extends Attempted store t attempt where
  status : attempt.status = attemptStatusByStageOutcome outcome
  evidence : store.record.state ≠ .reporting →
    StageEvidence printable store.record (t.resultFile attempt.sequence) outcome

/-- What a pass did to the ledger. -/
inductive AttemptEffect (printable : Char → Bool) (store t : RunStore) : Prop
  | none (ledger : t.ledger = store.ledger)
  | running {attempt : AttemptRecord} (attempted : Attempted store t attempt)
      (started : attempt.status = .started)
  | finished {outcome : StageOutcome} {attempt : AttemptRecord}
      (ended : Finished printable store t outcome attempt)

/-- The next record of a pass. -/
structure Advance (record updated : RunRecord) : Prop where
  legal : updated.state ∈ legalWorkflowTransitions record.state
  policy : updated.resolvedPolicy = record.resolvedPolicy
  branch : updated.startingBranch = record.startingBranch
  baseline : updated.baselineSha = record.baselineSha
  review : updated.currentReviewRound = if record.state = .reviewing then record.currentReviewRound + 1
    else record.currentReviewRound
  correction : updated.currentCorrectionRound = record.currentCorrectionRound ∨
    record.state = .correcting ∧ record.currentCorrectionRound < record.maxCorrectionRounds ∧
      updated.currentCorrectionRound = record.currentCorrectionRound + 1
  corrected : record.state = .correcting → updated.state = .verifying →
    updated.currentCorrectionRound = record.currentCorrectionRound + 1
  planned : updated.state = .correcting → record.currentCorrectionRound < record.maxCorrectionRounds

/-- The decision of the pass was saved; `ledger` and `resultFile` are from then. -/
structure Moved (store : RunStore) (log : List DriveEvent) (updated : RunRecord) (ledger : AttemptLedger)
    (resultFile : Nat → ArtifactFile) (t : RunStore) : Prop where
  record : t.record = updated
  events : t.events = store.events ++ log ++ [.saved ⟨store.record, updated, ledger, resultFile⟩]
  results : ∀ n < store.ledger.nextSequence, t.resultFile n = store.resultFile n
  executions : ∀ n < store.ledger.nextSequence, t.execution n = store.execution n

/-- Which stage the saved decision ended. -/
inductive MoveCause (printable : Char → Bool) (store : RunStore) (updated : RunRecord)
    (ledger : AttemptLedger) (resultFile : Nat → ArtifactFile) (t : RunStore) : Prop
  /-- No stage: a transition without an attempt. -/
  | immediate (inactive : phaseForActiveState store.record.state = none)
      (saved : ledger = store.ledger ∧ resultFile = store.resultFile)
      (kept : t.ledger = store.ledger ∧ t.resultFile = store.resultFile)
  /-- The stage whose attempt was completed before. -/
  | executed {outcome : StageOutcome} {attempt : AttemptRecord} (active : store.record.state ≠ .reporting)
      (requested : Requested store.record.state outcome updated.state)
      (ended : Finished printable store t outcome attempt)
      (saved : ledger = t.ledger ∧ resultFile = t.resultFile)
  /-- Reporting: its attempt is completed afterwards. -/
  | reported (state : store.record.state = .reporting) (terminal : updated.state.terminal = true)
      (attempt : AttemptEffect printable store t)

/-- **What a pass does**: it stops before its decision is saved, or it saves it. -/
inductive PassEffect (printable : Char → Bool) (store t : RunStore) : Except Halt RunRecord → Prop
  | stopped {halt : Halt} {log : List DriveEvent} (kept : Framed store log t)
      (logged : DispatchLog store.record log) (attempt : AttemptEffect printable store t) :
    PassEffect printable store t (.error halt)
  | moved {outcome : Except Halt RunRecord} {updated : RunRecord} {log : List DriveEvent}
      {ledger : AttemptLedger} {resultFile : Nat → ArtifactFile} (advance : Advance store.record updated)
      (logged : DispatchLog store.record log) (moved : Moved store log updated ledger resultFile t)
      (cause : MoveCause printable store updated ledger resultFile t)
      (ends : ∀ next, outcome = .ok next → next = updated) : PassEffect printable store t outcome

/-- After its save a pass may still be cut short. -/
theorem PassEffect.interrupted {printable : Char → Bool} {store t : RunStore}
    {outcome : Except Halt RunRecord} {halt : Halt} (effect : PassEffect printable store t outcome) :
    PassEffect printable store t (.error halt) := by
  cases effect with
  | stopped kept logged attempt => exact .stopped kept logged attempt
  | moved advance logged moved cause ends => exact .moved advance logged moved cause fun _ own => by cases own

/-- A stage that is still running is an effect of the attempt. -/
theorem Running.effect {printable : Char → Bool} {store t : RunStore} {log : List DriveEvent}
    (running : Running store log t) : AttemptEffect printable store t := by
  obtain ⟨attempt, attempted, started⟩ := running.attempt
  exact .running attempted started

section Pass

variable {sha256 : Sha256} {printable : Char → Bool} {runPath : String} {pass : Pass} {store : RunStore}
  {record : RunRecord} {log : List DriveEvent}

/-- A dispatch of an active state, and the decision it may make. -/
theorem dispatchOnce_active {stage : StageDispatch} {owner : StageAttempt} {phase : AttemptPhase} {s t : RunStore}
    {outcome : Except Halt StageDecision} (same : store.record = record)
    (active : phaseForActiveState record.state = some phase)
    (newest : owner.sequence = store.ledger.nextSequence) (running : Running store [] s)
    (h : dispatchOnce sha256 printable stage record (some owner) s = (outcome, t)) :
    (∃ log, DispatchLog record log ∧ Running store log t) ∧
      ∀ decision, outcome = .ok decision → HandlerDecision record record (some owner) decision ∧
        ∀ completion, decision.completion = some completion → record.state ≠ .reporting →
          StageEvidence printable record (t.resultFile store.ledger.nextSequence) completion.outcome := by
  have dispatched := running.logged (.dispatched record)
  rw [dispatchOnce, modify_bind] at h
  rcases bind_cases h with ⟨halt, ran, rfl⟩ | ⟨environment, s₁, ran, h⟩
  · exact ⟨performStage_effect same newest ran dispatched, fun _ other => by cases other⟩
  have after := performStage_effect same newest ran dispatched
  obtain ⟨log, logged, inside⟩ := after
  have loaded : s₁.record = record := inside.record.trans same
  have start : (s.log (.dispatched record)).record = record := dispatched.record.trans same
  rw [get_bind, loaded] at h
  cases decided : dispatchStage sha256 environment record record (some owner) with
  | error error =>
    rw [decided] at h
    cases h
    exact ⟨⟨log, logged, inside⟩, fun _ other => by cases other⟩
  | ok decision =>
    rw [decided] at h
    cases h
    refine ⟨⟨log, logged, inside⟩, fun _ own => ?_⟩
    cases own
    refine ⟨dispatchStage_ok decided, fun completion completed notReporting => ?_⟩
    rw [← newest]
    exact performStage_evidence ran start active notReporting decided completed

/-- The completion of the newest attempt, before or after its write. -/
theorem completePass_effect {P : RunStore → Prop} {started attempt : AttemptRecord} {completion : StageCompletion}
    {s t : RunStore} {outcome : Except Halt Unit} (newest : started.sequence = store.ledger.nextSequence)
    (evidence : store.record.state ≠ .reporting →
      StageEvidence printable store.record (s.resultFile store.ledger.nextSequence) completion.outcome)
    (attempted : Attempted store s attempt) (began : attempt.status = .started)
    (keep : ∀ updated, P (s.replaceAttempt updated)) (holds : P s)
    (h : completePass pass started completion s = (outcome, t)) :
    P t ∧ AttemptEffect printable store t ∧
      (∀ u, outcome = .ok u → ∃ attempt, Finished printable store t completion.outcome attempt) := by
  have halted {halt : Halt} (stop : outcome = .error halt) (rest : t = s) :
      P t ∧ AttemptEffect printable store t ∧
        (∀ u, outcome = .ok u → ∃ attempt, Finished printable store t completion.outcome attempt) := by
    rw [rest, stop]
    exact ⟨holds, .running attempted began, fun u other => by cases other⟩
  rcases call_bind_cases h with ⟨_, _, stop, rest⟩ | ⟨metadata, _, h⟩
  · exact halted stop rest
  have found : s.ledger.find (StageAttempt.fromRecord started.toAttemptFields).sequence = some attempt := by
    rw [← attempted.found, ← newest]
    rfl
  rw [completeStageAttempt, get_bind] at h
  dsimp only at h
  rw [found] at h
  rcases call_bind_cases h with ⟨_, _, stop, rest⟩ | ⟨update, prepared, h⟩
  · exact halted stop rest
  obtain ⟨expected, _, status⟩ := prepareCompletion_ok prepared
  have identity := update.identity
  rw [expected] at identity
  have attempted := attempted.replaced identity
  have ended : Finished printable store (s.replaceAttempt update.updated) completion.outcome update.updated :=
    ⟨attempted, status, fun notReporting => by rw [attempted.sequence]; exact evidence notReporting⟩
  cases write : pass.completeOutcome with
  | written =>
    rw [write] at h
    cases h
    exact ⟨keep _, .finished ended, fun _ _ => ⟨_, ended⟩⟩
  | lost halt =>
    rw [write] at h
    cases h
    exact halted rfl rfl
  | late halt =>
    rw [write] at h
    cases h
    exact ⟨keep _, .finished ended, fun u other => by cases other⟩

/-- The save at the end of a pass. -/
theorem saveLifecycleRun_cases {write : WriteOutcome} {updated : RunRecord} {s t : RunStore}
    {outcome : Except Halt Unit} (h : saveLifecycleRun write updated s = (outcome, t)) :
    (∃ halt, outcome = .error halt) ∧ t = s ∨ t = s.save updated := by
  cases write with
  | written =>
    cases h
    exact .inr rfl
  | lost halt =>
    cases h
    exact .inl ⟨⟨halt, rfl⟩, rfl⟩
  | late halt =>
    cases h
    exact .inr rfl

/-- A pass that changed nothing but the log, and then saves the run. -/
theorem Framed.saved {s : RunStore} (kept : Framed store log s) (updated : RunRecord) :
    Moved store log updated s.ledger s.resultFile (s.save updated) where
  record := rfl
  events := by rw [RunStore.save, kept.events, kept.record]
  results := kept.results
  executions := kept.executions

/-- A write to the result of the newest attempt changes no earlier artifact. -/
theorem Moved.writeResult {updated : RunRecord} {ledger : AttemptLedger} {resultFile : Nat → ArtifactFile}
    {s : RunStore} (moved : Moved store log updated ledger resultFile s) (value : Json) :
    Moved store log updated ledger resultFile (s.writeResult store.ledger.nextSequence value) where
  record := moved.record
  events := moved.events
  results n below := by
    rw [RunStore.writeResult]
    dsimp only
    rw [if_neg (by omega)]
    exact moved.results n below
  executions := moved.executions

theorem Moved.replaced {updated : RunRecord} {ledger : AttemptLedger} {resultFile : Nat → ArtifactFile}
    {s : RunStore} (moved : Moved store log updated ledger resultFile s) (attempt : AttemptRecord) :
    Moved store log updated ledger resultFile (s.replaceAttempt attempt) :=
  ⟨moved.record, moved.events, moved.results, moved.executions⟩

theorem Attempted.writeResult {s : RunStore} {attempt : AttemptRecord} (attempted : Attempted store s attempt)
    (sequence : Nat) (value : Json) : Attempted store (s.writeResult sequence value) attempt :=
  ⟨attempted.phase, attempted.sequence, attempted.records⟩

theorem Attempted.saved {s : RunStore} {attempt : AttemptRecord} (attempted : Attempted store s attempt)
    (updated : RunRecord) : Attempted store (s.save updated) attempt :=
  ⟨attempted.phase, attempted.sequence, attempted.records⟩

/-- No stage asks for a correction to start; the plan does. -/
theorem Requested.not_correcting {source next : WorkflowState} {outcome : StageOutcome}
    (requested : Requested source outcome next) : next ≠ .correcting := by
  rintro rfl
  cases requested with
  | completed edge => cases source <;> cases edge

/-- The verification is asked for by stages that completed. -/
theorem Requested.verifying {source next : WorkflowState} {outcome : StageOutcome}
    (requested : Requested source outcome next) (verifying : next = .verifying) : outcome = .completed := by
  subst verifying
  cases requested
  rfl

/-- After the report the run ends. -/
theorem Requested.reporting {source next : WorkflowState} {outcome : StageOutcome}
    (requested : Requested source outcome next) (reporting : source = .reporting) : next.terminal = true := by
  subst reporting
  cases requested with
  | completed edge =>
    cases edge
    rfl
  | correction source => simp at source
  | humanRequired => rfl
  | failed => rfl

/-- A decision of a handler advances the run. -/
theorem HandlerDecision.advance {attempt : Option StageAttempt} {decision : StageDecision} {timestamp : String}
    {updated : RunRecord} (decided : HandlerDecision record record attempt decision)
    (applied : applyStageDecision record decision timestamp = .ok updated) : Advance record updated := by
  obtain ⟨state, correction, review, policy, branch, baseline⟩ := applyStageDecision_ok applied
  have legal : updated.state ∈ legalWorkflowTransitions record.state := by
    obtain ⟨_, applied⟩ := check_bind_ok.mp applied
    rw [state]
    exact (RunRecord.transitionTo_ok applied).1
  cases decided with
  | implement source =>
    exact
      { legal, policy, branch, baseline
        review := by rw [review]; simp [source, immediateTransition]
        correction := .inl correction
        corrected := by simp [source]
        planned := by simp [state, immediateTransition] }
  | correct source limit =>
    exact
      { legal, policy, branch, baseline
        review := by rw [review]; simp [source, immediateTransition]
        correction := .inl correction
        corrected := by simp [source]
        planned := fun _ => limit }
  | exhausted source =>
    exact
      { legal, policy, branch, baseline
        review := by rw [review]; simp [source]
        correction := .inl correction
        corrected := by simp [source]
        planned := by simp [state] }
  | executed active owned executed named =>
    have next : updated.state ≠ .correcting := by
      rw [state]
      exact executed.requested.not_correcting
    have counted : record.state = .correcting →
        updated.currentCorrectionRound = record.currentCorrectionRound ∧ updated.state ≠ .verifying ∨
          record.currentCorrectionRound < record.maxCorrectionRounds ∧
            updated.currentCorrectionRound = record.currentCorrectionRound + 1 := by
      intro source
      obtain ⟨round, counter, kind⟩ := named.correction source
      rw [executed.correctionRound, counter] at correction
      rcases kind with ⟨rfl, incomplete⟩ | ⟨rfl, limit⟩
      · refine .inl ⟨correction, fun verifying => ?_⟩
        rw [state] at verifying
        exact incomplete (executed.requested.verifying verifying)
      · exact .inr ⟨limit, correction⟩
    refine
      { legal, policy, branch, baseline
        review := ?_
        correction := ?_
        corrected := fun source verifying => ?_
        planned := fun correcting => absurd correcting next }
    · rw [review, executed.reviewRound, named.review]
      split <;> rfl
    · by_cases source : record.state = .correcting
      · rcases counted source with ⟨same, _⟩ | ⟨limit, moved⟩
        · exact .inl same
        · exact .inr ⟨source, limit, moved⟩
      · rw [executed.correctionRound, named.noCorrection source] at correction
        exact .inl correction
    · rcases counted source with ⟨_, other⟩ | ⟨_, moved⟩
      · exact absurd verifying other
      · exact moved

/-- The writes at the end of a pass over an active state. -/
theorem persistDecision_active {attempt : AttemptRecord} {decision : StageDecision} {updated : RunRecord}
    {timestamp : String} {s t : RunStore} {outcome : Except Halt Unit} (same : store.record = record)
    (active : phaseForActiveState record.state = some attempt.phase)
    (newest : attempt.sequence = store.ledger.nextSequence)
    (logged : DispatchLog record log) (running : Running store log s)
    (decided : HandlerDecision record record (some (StageAttempt.fromRecord attempt.toAttemptFields)) decision)
    (evidence : ∀ completion, decision.completion = some completion → record.state ≠ .reporting →
      StageEvidence printable record (s.resultFile store.ledger.nextSequence) completion.outcome)
    (applied : applyStageDecision record decision timestamp = .ok updated)
    (h : persistDecision pass (some attempt) decision updated s = (outcome, t)) :
    PassEffect printable store t (outcome.map fun _ => updated) := by
  have advance := decided.advance applied
  have requested := (applyStageDecision_ok applied).1
  subst same
  cases decided with
  | implement state =>
    rw [state] at active
    cases active
  | correct state =>
    rw [state] at active
    cases active
  | exhausted state =>
    rw [state] at active
    cases active
  | @executed _ _ result options _ _ _ executed named =>
    have asked := executed.requested
    rw [← requested] at asked
    unfold persistDecision at h
    rw [executed.completion] at h
    have evidence := evidence _ executed.completion
    obtain ⟨current, attempted, began⟩ := running.attempt
    have ends {outcome : Except Halt Unit} : ∀ next, outcome.map (fun _ => updated) = .ok next → next = updated := by
      intro next own
      cases outcome <;> cases own
      rfl
    cases reporting : options.reportingEvidence with
    | some item =>
      -- Reporting saves first; its attempt is completed after that.
      have state : store.record.state = .reporting := named.evidence.mp (by rw [reporting]; rfl)
      have reported {s' : RunStore} {outcome : Except Halt Unit}
          (inside : Moved store log updated s.ledger s.resultFile s') (attempt : AttemptEffect printable store s') :
          PassEffect printable store s' (outcome.map fun _ => updated) :=
        .moved advance logged inside (.reported state (asked.reporting state) attempt) ends
      rw [reporting] at h
      rcases bind_cases h with ⟨halt, ran, rfl⟩ | ⟨_, s₁, ran, h⟩
      · rcases saveLifecycleRun_cases ran with ⟨_, rfl⟩ | rfl
        · exact .stopped running.toFramed logged running.effect
        · exact reported (running.toFramed.saved updated) (.running (attempted.saved updated) began)
      rcases saveLifecycleRun_cases ran with ⟨⟨_, other⟩, _⟩ | rfl
      · cases other
      have inside := running.toFramed.saved updated
      have attempted := attempted.saved updated
      rcases call_bind_cases h with ⟨_, _, rfl, rfl⟩ | ⟨_, _, h⟩
      · exact reported inside (.running attempted began)
      have written {value : Json} := inside.writeResult value
      have attempted' {value : Json} := attempted.writeResult attempt.sequence value
      rw [← newest] at written
      rcases bind_cases h with ⟨halt, ran, rfl⟩ | ⟨_, s₂, ran, h⟩
      · rcases persist_error ran with rfl | rfl
        · exact reported inside (.running attempted began)
        · exact reported written (.running attempted' began)
      obtain rfl := persist_ok ran
      obtain ⟨kept, effect, _⟩ := completePass_effect newest (fun other => absurd state other) attempted' began
        (fun next => written.replaced next) written h
      exact reported kept effect
    | none =>
      have state : store.record.state ≠ .reporting := by
        intro state
        have present := named.evidence.mpr state
        rw [reporting] at present
        cases present
      have complete {halt : Except Halt Unit} {s₁ : RunStore}
          (ran : completePass pass attempt _ s = (halt, s₁)) :=
        completePass_effect newest (fun _ => evidence state) attempted began
          (fun next => running.toFramed.replaced next) running.toFramed ran
      rw [reporting] at h
      rcases bind_cases h with ⟨halt, ran, rfl⟩ | ⟨_, s₁, ran, h⟩
      · obtain ⟨kept, effect, _⟩ := complete ran
        exact .stopped kept logged effect
      · obtain ⟨kept, effect, ended⟩ := complete ran
        obtain ⟨final, ended⟩ := ended _ rfl
        rcases saveLifecycleRun_cases h with ⟨⟨halt, rfl⟩, rfl⟩ | rfl
        · exact .stopped kept logged effect
        · exact .moved advance logged (kept.saved updated)
            (.executed state asked ⟨ended.toAttempted.saved updated, ended.status, ended.evidence⟩ ⟨rfl, rfl⟩) ends

/-- A pass over an active state, from its dispatch on. -/
theorem finishPass_active {attempt : AttemptRecord} {s t : RunStore} {outcome : Except Halt RunRecord}
    (same : store.record = record) (active : phaseForActiveState record.state = some attempt.phase)
    (newest : attempt.sequence = store.ledger.nextSequence) (running : Running store [] s)
    (h : finishPass sha256 printable pass record (some attempt) s = (outcome, t)) :
    PassEffect printable store t outcome := by
  have stopped {log : List DriveEvent} {halt : Halt} {s : RunStore} (logged : DispatchLog record log)
      (running : Running store log s) : PassEffect printable store s (.error halt) :=
    .stopped running.toFramed (by rw [same]; exact logged) running.effect
  have newestOwner : (StageAttempt.fromRecord attempt.toAttemptFields).sequence = store.ledger.nextSequence := newest
  rcases bind_cases h with ⟨halt, dispatched, rfl⟩ | ⟨decision, s₁, dispatched, h⟩
  · obtain ⟨⟨log, logged, running⟩, _⟩ := dispatchOnce_active same active newestOwner running dispatched
    exact stopped logged running
  obtain ⟨⟨log, logged, running⟩, decided⟩ := dispatchOnce_active same active newestOwner running dispatched
  obtain ⟨decided, evidence⟩ := decided _ rfl
  rcases call_bind_cases h with ⟨_, _, rfl, rfl⟩ | ⟨_, _, h⟩
  · exact stopped logged running
  rcases call_bind_cases h with ⟨_, _, rfl, rfl⟩ | ⟨_, _, h⟩
  · exact stopped logged running
  rcases call_bind_cases h with ⟨_, _, rfl, rfl⟩ | ⟨timestamp, _, h⟩
  · exact stopped logged running
  rcases call_bind_cases h with ⟨_, _, rfl, rfl⟩ | ⟨updated, applied, h⟩
  · exact stopped logged running
  have persisted {outcome : Except Halt Unit} {s₂ : RunStore}
      (ran : persistDecision pass (some attempt) decision updated s₁ = (outcome, s₂)) :=
    persistDecision_active same active newest logged running decided evidence applied ran
  rcases bind_cases h with ⟨halt, ran, rfl⟩ | ⟨_, s₂, ran, h⟩
  · exact persisted ran
  · have effect := persisted ran
    rcases call_bind_cases h with ⟨_, _, rfl, rfl⟩ | ⟨_, _, h⟩
    · exact effect.interrupted
    · cases h
      exact effect

/-- A pass without an attempt, from its dispatch on. -/
theorem finishPass_inactive {t : RunStore} {outcome : Except Halt RunRecord}
    (same : store.record = record) (inactive : phaseForActiveState record.state = none)
    (h : finishPass sha256 printable pass record none store = (outcome, t)) :
    PassEffect printable store t outcome := by
  subst same
  have logged : DispatchLog store.record [.dispatched store.record] := .stage
  have kept : Framed store [.dispatched store.record] (store.log (.dispatched store.record)) :=
    (Framed.refl store).logged _
  have stopped {halt : Halt} :
      PassEffect printable store (store.log (.dispatched store.record)) (.error halt) :=
    .stopped kept logged (.none rfl)
  have idle : dispatchOnce sha256 printable pass.toStageDispatch store.record none store =
      call (dispatchStage sha256 pass.environment store.record store.record none)
        (store.log (.dispatched store.record)) := by
    unfold dispatchOnce performStage
    cases store.record.state <;> rfl
  rw [finishPass, Option.map_none, bind_apply, idle] at h
  cases dispatched : dispatchStage sha256 pass.environment store.record store.record none with
  | error error =>
    rw [dispatched] at h
    cases h
    exact stopped
  | ok decision =>
    rw [dispatched] at h
    have decided := dispatchStage_ok dispatched
    have immediate : decision.completion = none := by
      cases decided with
      | implement => rfl
      | correct => rfl
      | exhausted => rfl
      | executed _ owned => cases owned
    rcases call_bind_cases h with ⟨_, _, rfl, rfl⟩ | ⟨_, _, h⟩
    · exact stopped
    rcases call_bind_cases h with ⟨_, _, rfl, rfl⟩ | ⟨timestamp, _, h⟩
    · exact stopped
    rcases call_bind_cases h with ⟨_, _, rfl, rfl⟩ | ⟨updated, applied, h⟩
    · exact stopped
    unfold persistDecision at h
    rw [immediate] at h
    have moved {outcome : Except Halt RunRecord} (ends : ∀ next, outcome = .ok next → next = updated) :
        PassEffect printable store ((store.log (.dispatched store.record)).save updated) outcome :=
      .moved (decided.advance applied) logged (kept.saved updated) (.immediate inactive ⟨rfl, rfl⟩ ⟨rfl, rfl⟩) ends
    rcases bind_cases h with ⟨halt, ran, rfl⟩ | ⟨_, s₂, ran, h⟩
    · rcases saveLifecycleRun_cases ran with ⟨_, rfl⟩ | rfl
      · exact stopped
      · exact moved fun next own => by cases own
    · rcases saveLifecycleRun_cases ran with ⟨⟨_, other⟩, _⟩ | rfl
      · cases other
      · rcases call_bind_cases h with ⟨_, _, rfl, rfl⟩ | ⟨_, _, h⟩
        · exact moved fun next own => by cases own
        · cases h
          exact moved fun next own => by
            cases own
            rfl

/-- The start of an attempt of a phase. -/
theorem startAttempt_cases {phase : AttemptPhase} {before : Option String} {startedAt : Timestamp}
    {write : WriteOutcome} {t : RunStore} {outcome : Except Halt AttemptRecord}
    (active : phaseForActiveState store.record.state = some phase)
    (h : startAttempt runPath phase before startedAt write store = (outcome, t)) :
    (∃ halt, outcome = .error halt) ∧ (t = store ∨ Running store [] t) ∨
      ∃ attempt, outcome = .ok attempt ∧ attempt.phase = phase ∧
        attempt.sequence = store.ledger.nextSequence ∧ Running store [] t := by
  rw [startAttempt, get_bind] at h
  rcases call_bind_cases h with ⟨_, _, rfl, rfl⟩ | ⟨attempt, made, h⟩
  · exact .inl ⟨⟨_, rfl⟩, .inl rfl⟩
  have fields := AttemptRecord.ofFields_ok.mp made
  have started : attempt.status = .started := by rw [fields]; rfl
  have sequence : attempt.sequence = store.ledger.nextSequence := by rw [fields]; rfl
  have phase : attempt.phase = phase := by rw [fields]; rfl
  have running : Running store [] (store.appendAttempt attempt) :=
    ⟨⟨rfl, (List.append_nil _).symm, fun _ _ => rfl, fun _ _ => rfl⟩, attempt,
      ⟨by rw [phase]; exact active, sequence, AttemptLedger.append_records sequence⟩, started⟩
  rcases bind_cases h with ⟨halt, ran, rfl⟩ | ⟨_, s₁, ran, h⟩
  · rcases persist_error ran with rfl | rfl
    · exact .inl ⟨⟨halt, rfl⟩, .inl rfl⟩
    · exact .inl ⟨⟨halt, rfl⟩, .inr running⟩
  · obtain rfl := persist_ok ran
    cases h
    exact .inr ⟨attempt, rfl, phase, sequence, running⟩

/-- The pass has an attempt with the next number, or it ends before it has done more than start
one. -/
theorem startStageAttempt_cases {phase : AttemptPhase} {t : RunStore}
    {outcome : Except Halt (Option AttemptRecord)} (same : store.record = record)
    (active : phaseForActiveState record.state = some phase)
    (h : startStageAttempt sha256 runPath pass record store = (outcome, t)) :
    (∃ halt, outcome = .error halt) ∧ (t = store ∨ Running store [] t) ∨
      ∃ attempt, outcome = .ok (some attempt) ∧ phaseForActiveState record.state = some attempt.phase ∧
        attempt.sequence = store.ledger.nextSequence ∧ Running store [] t := by
  have begun {before : Option String} (ran : (do
      let attempt ← startAttempt runPath phase before pass.startedAt pass.startOutcome
      pure (some attempt)) store = (outcome, t)) :
      (∃ halt, outcome = .error halt) ∧ (t = store ∨ Running store [] t) ∨
        ∃ attempt, outcome = .ok (some attempt) ∧ phaseForActiveState record.state = some attempt.phase ∧
          attempt.sequence = store.ledger.nextSequence ∧ Running store [] t := by
    rcases bind_cases ran with ⟨halt, start, rfl⟩ | ⟨attempt, s, start, ran⟩
    · rcases startAttempt_cases (by rw [same]; exact active) start with ⟨_, rest⟩ | ⟨_, other, _⟩
      · exact .inl ⟨⟨halt, rfl⟩, rest⟩
      · cases other
    · rcases startAttempt_cases (by rw [same]; exact active) start with ⟨⟨_, other⟩, _⟩ | ⟨_, made, own, newest, running⟩
      · cases other
      · cases made
        cases ran
        exact .inr ⟨attempt, rfl, by rw [own]; exact active, newest, running⟩
  unfold startStageAttempt at h
  rw [active] at h
  dsimp only at h
  split at h
  · rcases call_bind_cases h with ⟨_, _, rfl, rfl⟩ | ⟨before, _, h⟩
    · exact .inl ⟨⟨_, rfl⟩, .inl rfl⟩
    · exact begun h
  · exact begun h

/-- **Effect of a pass.** -/
theorem drivePass_effect {t : RunStore} {outcome : Except Halt RunRecord} (same : store.record = record)
    (h : drivePass sha256 printable runPath pass record store = (outcome, t)) :
    PassEffect printable store t outcome := by
  have idle {halt : Halt} : PassEffect printable store store (.error halt) :=
    .stopped (.refl store) .idle (.none rfl)
  rcases call_bind_cases h with ⟨_, _, rfl, rfl⟩ | ⟨_, _, h⟩
  · exact idle
  rcases call_bind_cases h with ⟨_, _, rfl, rfl⟩ | ⟨_, _, h⟩
  · exact idle
  cases active : phaseForActiveState record.state with
  | none =>
    rw [bind_apply] at h
    unfold startStageAttempt at h
    rw [active] at h
    exact finishPass_inactive same active h
  | some phase =>
    rcases bind_cases h with ⟨halt, start, rfl⟩ | ⟨attempt, s, start, h⟩
    · rcases startStageAttempt_cases same active start with ⟨_, rfl | running⟩ | ⟨_, other, _⟩
      · exact idle
      · exact .stopped running.toFramed .idle running.effect
      · cases other
    · rcases startStageAttempt_cases same active start with ⟨⟨_, other⟩, _⟩ | ⟨started, made, own, newest, running⟩
      · cases other
      · cases made
        exact finishPass_active same own newest running h

end Pass

end SprintTicket
