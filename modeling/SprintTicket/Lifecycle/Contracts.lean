import SprintTicket.Runs

/-!
# Stage decisions

A stage handler does not change the run record. It returns a `StageDecision`,
built by one of the decision factories, and the controller applies it with
`applyStageDecision`. `DecisionCause` is what the factories guarantee about a
decision, and `applyStageDecision_ok` what the next record owes to it.
-/

set_option autoImplicit false

namespace SprintTicket

open Checks

structure TerminalStop where
  state : WorkflowState
  reason : StopReason
deriving DecidableEq

def StageOutcome.value : StageOutcome → String
  | .completed => "COMPLETED"
  | .correctionRequired => "CORRECTION_REQUIRED"
  | .humanRequired => "HUMAN_REQUIRED"
  | .failed => "FAILED"

/-- `outcome in {StageOutcome.HUMAN_REQUIRED, StageOutcome.FAILED}`. -/
def StageOutcome.stops : StageOutcome → Bool
  | .humanRequired | .failed => true
  | _ => false

/-- `classify_stage_stop`. -/
def classifyStageStop (outcome : StageOutcome) (message : String) (category : Option StopCategory) :
    Except Raised TerminalStop :=
  match outcome with
  | .failed => do
    let reason ← StopReason.ofMessage .externalToolFailure message true
    pure ⟨.failed, reason⟩
  | .humanRequired => do
    let reason ← StopReason.ofMessage (category.getD .humanJudgmentRequired) message false
    pure ⟨.humanRequired, reason⟩
  | outcome => .error ⟨.valueError, "Outcome does not stop the workflow: " ++ outcome.value ++ "."⟩

/-- The text of `_repository_uncertain_stop` when the process start is unknown. -/
def uncertainStartText (message : String) : String :=
  message ++ " Writable process start could not be established."

/-- `classify_unexpected_controller_failure`. -/
def classifyUnexpectedControllerFailure (state : WorkflowState) (message : String) :
    Except Raised TerminalStop := do
  if state = .implementing ∨ state = .correcting then
    let reason ← StopReason.ofMessage .repositoryUncertain (uncertainStartText message) false
    pure ⟨.humanRequired, reason⟩
  else
    let reason ← StopReason.ofMessage .controllerFailure message false
    pure ⟨.failed, reason⟩

@[ext]
structure ReportingEvidence where
  status : StageOutcome
  message : String
  message_nonblank : isBlank message = false

instance : DecidableEq ReportingEvidence := fun _ _ => decidable_of_iff _ ReportingEvidence.ext_iff.symm

/-- The constructor of `ReportingEvidence`. -/
def ReportingEvidence.ofFields (status : StageOutcome) (message : String) :
    Except Raised ReportingEvidence :=
  if h : isBlank message = false then .ok ⟨status, message, h⟩
  else .error ⟨.valueError, "Reporting evidence message must be non-empty."⟩

/-- `StageResult`: the part of a stage's result the controller reads. -/
structure StageResult where
  sourceState : WorkflowState
  outcome : StageOutcome
  controllerMessage : String
  afterWorkspaceFingerprint : Option String
  processStarted : Bool

structure StageCompletion where
  outcome : StageOutcome
  message : String
  afterWorkspaceFingerprint : Option String
  processStarted : Bool
  reportingEvidence : Option ReportingEvidence

/-- `StageDecision`; an immediate one has no completion. -/
structure StageDecision where
  sourceState : WorkflowState
  requestedState : WorkflowState
  completion : Option StageCompletion
  terminalStop : Option TerminalStop
  currentCorrectionRound : Option Nat
  currentReviewRound : Option Nat

/-- `_COMPLETED_TRANSITIONS`. -/
def completedTransitions : WorkflowState → Option WorkflowState
  | .preparing => some .prepared
  | .implementing => some .verifying
  | .verifying => some .reviewing
  | .reviewing => some .reporting
  | .correcting => some .verifying
  | .reporting => some .readyForHuman
  | _ => none

/-- `immediate_transition`. -/
def immediateTransition (sourceState requestedState : WorkflowState) : StageDecision :=
  ⟨sourceState, requestedState, none, none, none, none⟩

/-- `immediate_terminal_stop`. -/
def immediateTerminalStop (sourceState : WorkflowState) (stop : TerminalStop) :
    Except Raised StageDecision := do
  raiseIf (sourceState ≠ .correctionPending)
    ⟨.valueError, "Only correction planning may stop without an attempt."⟩
  raiseIf (stop.state ≠ .humanRequired)
    ⟨.valueError, "Correction planning must stop in HUMAN_REQUIRED."⟩
  pure ⟨sourceState, stop.state, none, some stop, none, none⟩

/-- `_validate_stage_result`. -/
def validateStageResult (state : WorkflowState) (result : StageResult) : Except Raised Unit := do
  raiseIf (result.sourceState ≠ state) ⟨.runError, "Stage result does not belong to the current run state."⟩
  raiseIf (isBlank result.controllerMessage)
    ⟨.valueError, "Stage result controller_message must be non-empty."⟩

/-- The checks of `decision_for_stage_result` on the reporting evidence. -/
def validateReportingEvidence (state : WorkflowState) (result : StageResult)
    (evidence : Option ReportingEvidence) : Except Raised Unit := do
  raiseIf (evidence ≠ none ∧ state ≠ .reporting)
    ⟨.valueError, "Only reporting decisions may carry reporting evidence."⟩
  raiseIf (∃ item ∈ evidence, item.message ≠ result.controllerMessage)
    ⟨.valueError, "Reporting evidence must describe the stage result message."⟩
  raiseIf (∃ item ∈ evidence, item.status ≠ result.outcome)
    ⟨.valueError, "Reporting evidence status must match the stage outcome."⟩

/-- The stop of a result, when its outcome is one. -/
def stageStop (result : StageResult) (category : Option StopCategory) :
    Except Raised (Option TerminalStop) :=
  if result.outcome.stops then
    some <$> classifyStageStop result.outcome result.controllerMessage category
  else .ok none

/-- `_requested_state_for_outcome`. -/
def requestedStateForOutcome (sourceState : WorkflowState) (outcome : StageOutcome)
    (stop : Option TerminalStop) : Except Raised WorkflowState :=
  match outcome, stop with
  | .humanRequired, some stop | .failed, some stop => .ok stop.state
  | .humanRequired, none | .failed, none =>
    .error ⟨.valueError, "Terminal stage outcomes require a classified stop."⟩
  | _, some _ => .error ⟨.valueError, "Non-terminal stage outcomes cannot carry a terminal stop."⟩
  | .correctionRequired, none =>
    if sourceState = .verifying ∨ sourceState = .reviewing then .ok .correctionPending
    else .error ⟨.runError, "Stage outcome CORRECTION_REQUIRED is not valid from workflow state " ++
      sourceState.value ++ "."⟩
  | .completed, none =>
    match completedTransitions sourceState with
    | some state => .ok state
    | none => .error ⟨.runError,
        "Stage completion is not valid from workflow state " ++ sourceState.value ++ "."⟩

/-- `_validate_round_updates`. -/
def validateRoundUpdates (sourceState : WorkflowState) (currentCorrectionRound currentReviewRound : Option Nat) :
    Except Raised Unit := do
  raiseIf (currentCorrectionRound ≠ none ∧ sourceState ≠ .correcting)
    ⟨.valueError, "Only correction decisions may update correction rounds."⟩
  raiseIf (currentReviewRound ≠ none ∧ sourceState ≠ .reviewing)
    ⟨.valueError, "Only review decisions may update review rounds."⟩

/-- The optional arguments of `decision_for_stage_result`. -/
structure DecisionOptions where
  stopCategory : Option StopCategory := none
  reportingEvidence : Option ReportingEvidence := none
  currentCorrectionRound : Option Nat := none
  currentReviewRound : Option Nat := none

/-- `decision_for_stage_result`. -/
def decisionForStageResult (state : WorkflowState) (result : StageResult) (options : DecisionOptions) :
    Except Raised StageDecision := do
  validateStageResult state result
  validateReportingEvidence state result options.reportingEvidence
  let stop ← stageStop result options.stopCategory
  let requested ← requestedStateForOutcome state result.outcome stop
  validateRoundUpdates state options.currentCorrectionRound options.currentReviewRound
  pure
    { sourceState := state
      requestedState := requested
      completion := some
        { outcome := result.outcome
          message := result.controllerMessage
          afterWorkspaceFingerprint := result.afterWorkspaceFingerprint
          processStarted := result.processStarted
          reportingEvidence := options.reportingEvidence }
      terminalStop := stop
      currentCorrectionRound := options.currentCorrectionRound
      currentReviewRound := options.currentReviewRound }

/-- `_apply_stage_decision`. -/
def applyStageDecision (record : RunRecord) (decision : StageDecision) (timestamp : String) :
    Except Raised RunRecord := do
  raiseIf (decision.sourceState ≠ record.state)
    ⟨.runError, "Stage decision source state does not match the run record."⟩
  let reason := decision.terminalStop.map TerminalStop.reason
  record.transitionTo decision.requestedState timestamp
    { currentCorrectionRound := decision.currentCorrectionRound
      currentReviewRound := decision.currentReviewRound
      terminalReason := reason.map StopReason.message
      stopReason := reason }

/-! ## What the factories guarantee -/

/-- How the requested state follows from an outcome. -/
inductive Requested (sourceState : WorkflowState) : StageOutcome → WorkflowState → Prop
  | completed {next : WorkflowState} (edge : completedTransitions sourceState = some next) :
    Requested sourceState .completed next
  | correction (source : sourceState = .verifying ∨ sourceState = .reviewing) :
    Requested sourceState .correctionRequired .correctionPending
  | humanRequired : Requested sourceState .humanRequired .humanRequired
  | failed : Requested sourceState .failed .failed

/-- A failed stage fails the run, one that asks for a human stops it. -/
theorem classifyStageStop_ok {outcome : StageOutcome} {message : String} {category : Option StopCategory}
    {stop : TerminalStop} (h : classifyStageStop outcome message category = .ok stop) :
    outcome = .failed ∧ stop.state = .failed ∨ outcome = .humanRequired ∧ stop.state = .humanRequired := by
  unfold classifyStageStop at h
  split at h
  · obtain ⟨reason, _, h⟩ := bind_ok_iff.mp h
    cases h
    exact .inl ⟨rfl, rfl⟩
  · obtain ⟨reason, _, h⟩ := bind_ok_iff.mp h
    cases h
    exact .inr ⟨rfl, rfl⟩
  · cases h

/-- The state that is asked for follows from the outcome and its classification. -/
theorem requestedStateForOutcome_ok {sourceState requested : WorkflowState} {result : StageResult}
    {category : Option StopCategory} {stop : Option TerminalStop}
    (classified : stageStop result category = .ok stop)
    (h : requestedStateForOutcome sourceState result.outcome stop = .ok requested) :
    Requested sourceState result.outcome requested := by
  unfold stageStop at classified
  cases outcome : result.outcome with
  | completed =>
    rw [outcome] at classified h
    cases classified
    unfold requestedStateForOutcome at h
    dsimp only at h
    split at h
    · rename_i next edge
      cases h
      exact .completed edge
    · cases h
  | correctionRequired =>
    rw [outcome] at classified h
    cases classified
    unfold requestedStateForOutcome at h
    dsimp only at h
    split at h
    · rename_i source
      cases h
      exact .correction source
    · cases h
  | humanRequired =>
    rw [outcome] at classified h
    obtain ⟨found, stopped, rfl⟩ := map_ok_iff.mp classified
    rcases classifyStageStop_ok stopped with ⟨other, _⟩ | ⟨_, state⟩
    · cases other
    · cases h
      rw [state]
      exact .humanRequired
  | failed =>
    rw [outcome] at classified h
    obtain ⟨found, stopped, rfl⟩ := map_ok_iff.mp classified
    rcases classifyStageStop_ok stopped with ⟨_, state⟩ | ⟨other, _⟩
    · cases h
      rw [state]
      exact .failed
    · cases other

/-- What an executed decision says about its result. -/
structure ExecutedDecision (state : WorkflowState) (result : StageResult) (options : DecisionOptions)
    (decision : StageDecision) : Prop where
  source : decision.sourceState = state
  owner : result.sourceState = state
  message : isBlank result.controllerMessage = false
  requested : Requested state result.outcome decision.requestedState
  completion : decision.completion = some ⟨result.outcome, result.controllerMessage,
    result.afterWorkspaceFingerprint, result.processStarted, options.reportingEvidence⟩
  correctionRound : decision.currentCorrectionRound = options.currentCorrectionRound
  reviewRound : decision.currentReviewRound = options.currentReviewRound

/-- The decision carries the result it was made for. -/
theorem decisionForStageResult_ok {state : WorkflowState} {result : StageResult} {options : DecisionOptions}
    {decision : StageDecision} (h : decisionForStageResult state result options = .ok decision) :
    ExecutedDecision state result options decision := by
  obtain ⟨valid, h⟩ := check_bind_ok.mp h
  obtain ⟨_, h⟩ := check_bind_ok.mp h
  obtain ⟨stop, classified, h⟩ := bind_ok_iff.mp h
  obtain ⟨requested, asked, h⟩ := bind_ok_iff.mp h
  obtain ⟨_, h⟩ := check_bind_ok.mp h
  cases h
  simp only [validateStageResult, check_bind_ok, raiseIf_ok, not_not] at valid
  exact
    { source := rfl, owner := valid.1, message := by simpa using valid.2
      requested := requestedStateForOutcome_ok classified asked
      completion := rfl, correctionRound := rfl, reviewRound := rfl }

/-- A decision moves the record along a legal edge and changes nothing else but
the rounds it names. -/
theorem applyStageDecision_ok {record next : RunRecord} {decision : StageDecision} {timestamp : String}
    (h : applyStageDecision record decision timestamp = .ok next) :
    next.state = decision.requestedState ∧
      next.currentCorrectionRound = decision.currentCorrectionRound.getD record.currentCorrectionRound ∧
      next.currentReviewRound = decision.currentReviewRound.getD record.currentReviewRound ∧
      next.resolvedPolicy = record.resolvedPolicy ∧ next.startingBranch = record.startingBranch ∧
      next.baselineSha = record.baselineSha := by
  obtain ⟨_, h⟩ := check_bind_ok.mp h
  obtain ⟨_, fields⟩ := RunRecord.transitionTo_ok h
  rw [fields]
  exact ⟨rfl, rfl, rfl, rfl, rfl, rfl⟩

end SprintTicket
