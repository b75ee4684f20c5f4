import SprintTicket.Guarded.Stages
import SprintTicket.Lifecycle.Contracts

/-!
# Stage handlers

`dispatchStage` selects the handler of the current state. What a handler meets
outside the controller is a `StageEnvironment`: the results of the read-only
stages are arbitrary, the two writable stages are the real ones, run on the
record that they reload from disk.

`dispatchStage_ok` says what the decision of any handler may be, and in
particular when a round counter moves.
-/

set_option autoImplicit false

namespace SprintTicket

open Checks

/-- The part of `VerificationStageResult` the handlers read. -/
structure VerificationStageResult where
  outcome : StageOutcome
  controllerMessage : String
  afterWorkspaceFingerprint : Option String
  processStarted : Bool
  safetyViolations : List StageViolation

/-- The part of `ReviewStageResult` the handlers read. -/
structure ReviewStageResult where
  outcome : StageOutcome
  controllerMessage : String
  afterWorkspaceFingerprint : Option String
  agentExecution : Option AgentExecution
  safetyViolations : List StageViolation

/-- `process_started`, as `_finish` of the review computes it. -/
def ReviewStageResult.processStarted (result : ReviewStageResult) : Bool :=
  result.agentExecution.any fun execution => execution.invocationStart = .started

/-- `HandoffAccepted` and `HandoffRejected`, with the fingerprint of the final workspace. -/
inductive HandoffAcceptanceResult
  | accepted (reason : String) (finalFingerprint : String)
  | rejected (stopCategory : StopCategory) (reason : String) (finalFingerprint : Option String)

/-- What the handlers meet in one dispatch. -/
structure StageEnvironment where
  preparation : Except Raised VerificationStageResult
  implementation : StageRun
  verification : Except Raised VerificationStageResult
  review : Except Raised ReviewStageResult
  /-- `plan_pending_correction`. -/
  correctionPlan : Except Raised Unit
  correction : CorrectionRun
  handoff : Except Raised HandoffAcceptanceResult

/-- The stage runs on the record it reloads, for the attempt it was given. -/
def StageRun.forAttempt (run : StageRun) (disk : RunRecord) (attempt : StageAttempt) : StageRun :=
  { run with record := .ok disk, requireAttempt := run.requireAttempt.map fun _ => attempt }

def CorrectionRun.forAttempt (run : CorrectionRun) (disk : RunRecord) (attempt : StageAttempt) :
    CorrectionRun :=
  { run with toStageRun := run.toStageRun.forAttempt disk attempt }

/-- `StageContext.require_attempt`. -/
def requireAttempt (state : WorkflowState) (attempt : Option StageAttempt) : Except Raised StageAttempt :=
  match attempt with
  | some attempt => .ok attempt
  | none => .error ⟨.runError, "Lifecycle state " ++ state.value ++ " requires an attempt."⟩

@[simp] theorem requireAttempt_ok {state : WorkflowState} {attempt : Option StageAttempt}
    {found : StageAttempt} : requireAttempt state attempt = .ok found ↔ attempt = some found := by
  cases attempt <;> simp [requireAttempt]

def VerificationStageResult.stageResult (result : VerificationStageResult) (sourceState : WorkflowState) :
    StageResult :=
  ⟨sourceState, result.outcome, result.controllerMessage, result.afterWorkspaceFingerprint,
    result.processStarted⟩

def ReviewStageResult.stageResult (result : ReviewStageResult) : StageResult :=
  ⟨.reviewing, result.outcome, result.controllerMessage, result.afterWorkspaceFingerprint,
    result.processStarted⟩

def StageFinish.stageResult (finish : StageFinish) (sourceState : WorkflowState) : StageResult :=
  ⟨sourceState, finish.outcome, finish.controllerMessage, finish.afterWorkspaceFingerprint,
    finish.processStarted⟩

/-- `PreparationFailureResult`. -/
def preparationFailureResult (error : Raised) : StageResult :=
  ⟨.preparing, .humanRequired, "Clean baseline verification could not be completed: " ++ error.describe,
    none, false⟩

/-- `_stop_category` of the verification and the review handler. -/
def readOnlyStopCategory (outcome : StageOutcome) (violations : List StageViolation)
    (otherwise : StopCategory) : Option StopCategory :=
  if outcome ≠ .humanRequired then none
  else if violations ≠ [] then some .safetyViolation
  else some otherwise

/-- `_stop_category` of the implementation and the correction handler. -/
def writableStopCategory (finish : StageFinish) : Option StopCategory :=
  if finish.outcome ≠ .humanRequired then none
  else if finish.execution.any fun execution => execution.failureCategory.isSome then
    some .repositoryUncertain
  else if finish.safetyViolations ≠ [] ∨ finish.workspaceGuard.hasViolation = true then
    some .safetyViolation
  else if finish.agentResult.isSome then some .humanJudgmentRequired
  else some .repositoryUncertain

section Handlers

variable (sha256 : Sha256) (environment : StageEnvironment) (disk record : RunRecord)
  (attempt : Option StageAttempt)

/-- `PreparationStageHandler.handle`. -/
def handlePreparation : Except Raised StageDecision := do
  let _ ← requireAttempt record.state attempt
  match environment.preparation with
  | .ok result =>
    decisionForStageResult record.state (result.stageResult .preparing)
      { stopCategory := if result.outcome = .humanRequired then some .baselineFailure else none }
  | .error error =>
    if error.isinstance .osError || error.isinstance .runError then
      decisionForStageResult record.state (preparationFailureResult error)
        { stopCategory := some .baselineFailure }
    else .error error

/-- `ImplementationStageHandler.handle`. -/
def handleImplementation : Except Raised StageDecision :=
  if record.state = .prepared then .ok (immediateTransition .prepared .implementing)
  else do
    let attempt ← requireAttempt record.state attempt
    let result ← runImplementationStage sha256 (environment.implementation.forAttempt disk attempt)
    decisionForStageResult record.state (result.toStageFinish.stageResult .implementing)
      { stopCategory := writableStopCategory result.toStageFinish }

/-- `VerificationStageHandler.handle`. -/
def handleVerification : Except Raised StageDecision := do
  let _ ← requireAttempt record.state attempt
  let result ← environment.verification
  decisionForStageResult record.state (result.stageResult .verifying)
    { stopCategory := readOnlyStopCategory result.outcome result.safetyViolations .verificationInfrastructure }

/-- `ReviewStageHandler.handle`. -/
def handleReview : Except Raised StageDecision := do
  let _ ← requireAttempt record.state attempt
  let result ← environment.review
  decisionForStageResult record.state result.stageResult
    { stopCategory := readOnlyStopCategory result.outcome result.safetyViolations .humanJudgmentRequired
      currentReviewRound := some (record.currentReviewRound + 1) }

/-- The stop of a correction without rounds left. -/
def exhaustedStop : TerminalStop where
  state := .humanRequired
  reason :=
    { category := .humanJudgmentRequired
      message := "Maximum corrective rounds exhausted; human intervention is required."
      retryable := false
      message_nonblank := by decide }

/-- `CorrectionStageHandler.handle` in CORRECTION_PENDING. -/
def planCorrection : Except Raised StageDecision :=
  if record.maxCorrectionRounds ≤ record.currentCorrectionRound then
    immediateTerminalStop .correctionPending exhaustedStop
  else .ok (immediateTransition .correctionPending .correcting)

/-- `CorrectionStageHandler.handle`. -/
def handleCorrection : Except Raised StageDecision :=
  if record.state = .correctionPending then planCorrection record
  else do
    environment.correctionPlan
    let attempt ← requireAttempt record.state attempt
    let result ← runCorrectionStage sha256 (environment.correction.forAttempt disk attempt)
    decisionForStageResult record.state (result.toStageFinish.stageResult .correcting)
      { stopCategory := writableStopCategory result.toStageFinish
        currentCorrectionRound := some
          (if result.advanceCorrectionRound then result.correctionRound
          else record.currentCorrectionRound) }

/-- The decision of a handoff result. -/
def handoffDecision (outcome : StageOutcome) (reason : String) (fingerprint : Option String)
    (stopCategory : Option StopCategory) : Except Raised StageDecision := do
  let evidence ← ReportingEvidence.ofFields outcome reason
  decisionForStageResult record.state ⟨.reporting, outcome, reason, fingerprint, false⟩
    { stopCategory, reportingEvidence := some evidence }

/-- `ReportingStageHandler.handle`. -/
def handleReporting : Except Raised StageDecision := do
  let _ ← requireAttempt record.state attempt
  match ← environment.handoff with
  | .accepted reason fingerprint => handoffDecision record .completed reason (some fingerprint) none
  | .rejected category reason fingerprint =>
    handoffDecision record .humanRequired reason fingerprint (some category)

/-- `dispatch_stage` over the mapping of `build_active_stage_handlers`. -/
def dispatchStage : Except Raised StageDecision :=
  match record.state with
  | .preparing => handlePreparation environment record attempt
  | .prepared | .implementing => handleImplementation sha256 environment disk record attempt
  | .verifying => handleVerification environment record attempt
  | .reviewing => handleReview environment record attempt
  | .correctionPending | .correcting => handleCorrection sha256 environment disk record attempt
  | .reporting => handleReporting environment record attempt
  | state => .error ⟨.runError,
      "Lifecycle reached an unsupported non-terminal state: " ++ state.value ++ "."⟩

end Handlers

/-! ## What a handler decides -/

/-- The rounds and the evidence an executed decision of a handler names. -/
structure StageOptions (disk record : RunRecord) (outcome : StageOutcome) (options : DecisionOptions) :
    Prop where
  evidence : options.reportingEvidence.isSome = true ↔ record.state = .reporting
  review : options.currentReviewRound =
    if record.state = .reviewing then some (record.currentReviewRound + 1) else none
  noCorrection : record.state ≠ .correcting → options.currentCorrectionRound = none
  correction : record.state = .correcting → ∃ round, options.currentCorrectionRound = some round ∧
    (round = record.currentCorrectionRound ∧ outcome ≠ .completed ∨
      round = disk.currentCorrectionRound + 1 ∧ disk.currentCorrectionRound < disk.maxCorrectionRounds)

/-- The decisions of the handlers, one constructor for each transition without
an attempt and one for all stages that ran. -/
inductive HandlerDecision (disk record : RunRecord) (attempt : Option StageAttempt) : StageDecision → Prop
  | implement (state : record.state = .prepared) :
    HandlerDecision disk record attempt (immediateTransition .prepared .implementing)
  | correct (state : record.state = .correctionPending)
      (limit : record.currentCorrectionRound < record.maxCorrectionRounds) :
    HandlerDecision disk record attempt (immediateTransition .correctionPending .correcting)
  | exhausted (state : record.state = .correctionPending) :
    HandlerDecision disk record attempt
      ⟨.correctionPending, .humanRequired, none, some exhaustedStop, none, none⟩
  | executed {phase : AttemptPhase} {owner : StageAttempt} {result : StageResult} {options : DecisionOptions}
      {decision : StageDecision} (active : phaseForActiveState record.state = some phase)
      (owned : attempt = some owner) (decided : ExecutedDecision record.state result options decision)
      (named : StageOptions disk record result.outcome options) :
    HandlerDecision disk record attempt decision

section Decided

variable {sha256 : Sha256} {environment : StageEnvironment} {disk record : RunRecord}
  {attempt : Option StageAttempt} {decision : StageDecision}

/-- A stage that neither reports nor counts rounds. -/
theorem StageOptions.plain {outcome : StageOutcome} {category : Option StopCategory}
    (state : record.state = .preparing ∨ record.state = .implementing ∨ record.state = .verifying) :
    StageOptions disk record outcome { stopCategory := category } := by
  rcases state with state | state | state <;>
    exact ⟨by simp [state], by simp [state], fun _ => rfl, by simp [state]⟩

/-- Each handler in the states it is dispatched for. -/
theorem handlePreparation_ok (state : record.state = .preparing)
    (h : handlePreparation environment record attempt = .ok decision) :
    HandlerDecision disk record attempt decision := by
  have active : phaseForActiveState record.state = some .preparing := by rw [state]; decide
  obtain ⟨owner, owned, h⟩ := bind_ok_iff.mp h
  have owned := requireAttempt_ok.mp owned
  cases prepared : environment.preparation with
  | ok result =>
    rw [prepared] at h
    exact .executed active owned (decisionForStageResult_ok h) (.plain (.inl state))
  | error error =>
    rw [prepared] at h
    dsimp only at h
    split at h
    · exact .executed active owned (decisionForStageResult_ok h) (.plain (.inl state))
    · cases h

theorem handleImplementation_ok (state : record.state = .prepared ∨ record.state = .implementing)
    (h : handleImplementation sha256 environment disk record attempt = .ok decision) :
    HandlerDecision disk record attempt decision := by
  unfold handleImplementation at h
  rcases state with state | state
  · rw [if_pos state] at h
    cases h
    exact .implement state
  · rw [if_neg (by simp [state])] at h
    have active : phaseForActiveState record.state = some .implementing := by rw [state]; decide
    obtain ⟨owner, owned, h⟩ := bind_ok_iff.mp h
    obtain ⟨result, _, h⟩ := bind_ok_iff.mp h
    exact .executed active (requireAttempt_ok.mp owned) (decisionForStageResult_ok h)
      (.plain (.inr (.inl state)))

theorem handleVerification_ok (state : record.state = .verifying)
    (h : handleVerification environment record attempt = .ok decision) :
    HandlerDecision disk record attempt decision := by
  have active : phaseForActiveState record.state = some .verifying := by rw [state]; decide
  obtain ⟨owner, owned, h⟩ := bind_ok_iff.mp h
  obtain ⟨result, _, h⟩ := bind_ok_iff.mp h
  exact .executed active (requireAttempt_ok.mp owned) (decisionForStageResult_ok h)
    (.plain (.inr (.inr state)))

theorem handleReview_ok (state : record.state = .reviewing)
    (h : handleReview environment record attempt = .ok decision) :
    HandlerDecision disk record attempt decision := by
  have active : phaseForActiveState record.state = some .reviewing := by rw [state]; decide
  obtain ⟨owner, owned, h⟩ := bind_ok_iff.mp h
  obtain ⟨result, _, h⟩ := bind_ok_iff.mp h
  exact .executed active (requireAttempt_ok.mp owned) (decisionForStageResult_ok h)
    ⟨by simp [state], by simp [state], fun _ => rfl, by simp [state]⟩

theorem planCorrection_ok (state : record.state = .correctionPending)
    (h : planCorrection record = .ok decision) : HandlerDecision disk record attempt decision := by
  unfold planCorrection at h
  split at h
  · obtain ⟨_, h⟩ := check_bind_ok.mp h
    obtain ⟨_, h⟩ := check_bind_ok.mp h
    cases h
    exact .exhausted state
  · rename_i below
    cases h
    exact .correct state (not_le.mp below)

theorem handleCorrection_ok (state : record.state = .correctionPending ∨ record.state = .correcting)
    (h : handleCorrection sha256 environment disk record attempt = .ok decision) :
    HandlerDecision disk record attempt decision := by
  unfold handleCorrection at h
  rcases state with state | state
  · rw [if_pos state] at h
    exact planCorrection_ok state h
  · rw [if_neg (by simp [state])] at h
    have active : phaseForActiveState record.state = some .correcting := by rw [state]; decide
    obtain ⟨_, h⟩ := check_bind_ok.mp h
    obtain ⟨owner, owned, h⟩ := bind_ok_iff.mp h
    obtain ⟨result, ran, h⟩ := bind_ok_iff.mp h
    -- The stage counted from the record on disk, which may differ from the one in memory.
    obtain ⟨loaded, same, moved⟩ := runCorrectionStage_moved ran
    obtain rfl : disk = loaded := Except.ok.inj same
    refine .executed active (requireAttempt_ok.mp owned) (decisionForStageResult_ok h)
      ⟨by simp [state], by simp [state], fun other => absurd state other, fun _ => ⟨_, rfl, ?_⟩⟩
    by_cases advanced : result.advanceCorrectionRound = true
    · rw [if_pos advanced]
      exact .inr ⟨moved.round, moved.limit advanced⟩
    · rw [if_neg advanced]
      exact .inl ⟨rfl, fun completed => advanced (moved.completed completed)⟩

/-- The decision on the handoff needs the attempt that reports it. -/
theorem handoffDecision_ok {outcome : StageOutcome} {reason : String} {fingerprint : Option String}
    {category : Option StopCategory} (state : record.state = .reporting) {owner : StageAttempt}
    (owned : attempt = some owner)
    (h : handoffDecision record outcome reason fingerprint category = .ok decision) :
    HandlerDecision disk record attempt decision := by
  have active : phaseForActiveState record.state = some .reporting := by rw [state]; decide
  obtain ⟨evidence, _, h⟩ := bind_ok_iff.mp h
  exact .executed active owned (decisionForStageResult_ok h)
    ⟨by simp [state], by simp [state], fun _ => rfl, by simp [state]⟩

theorem handleReporting_ok (state : record.state = .reporting)
    (h : handleReporting environment record attempt = .ok decision) :
    HandlerDecision disk record attempt decision := by
  obtain ⟨owner, owned, h⟩ := bind_ok_iff.mp h
  have owned := requireAttempt_ok.mp owned
  obtain ⟨handoff, _, h⟩ := bind_ok_iff.mp h
  cases handoff with
  | accepted => exact handoffDecision_ok state owned h
  | rejected => exact handoffDecision_ok state owned h

/-- **Decisions of the handlers.** -/
theorem dispatchStage_ok (h : dispatchStage sha256 environment disk record attempt = .ok decision) :
    HandlerDecision disk record attempt decision := by
  unfold dispatchStage at h
  cases state : record.state <;> rw [state] at h
  case preparing => exact handlePreparation_ok state h
  case prepared => exact handleImplementation_ok (.inl state) h
  case implementing => exact handleImplementation_ok (.inr state) h
  case verifying => exact handleVerification_ok state h
  case reviewing => exact handleReview_ok state h
  case correctionPending => exact handleCorrection_ok (.inl state) h
  case correcting => exact handleCorrection_ok (.inr state) h
  case reporting => exact handleReporting_ok state h
  all_goals cases h

end Decided

end SprintTicket
