import SprintTicket.Logic.Checks
import SprintTicket.Errors
import SprintTicket.Text

/-!
# Lifecycle vocabulary and phase policy

The enumerations of `models.py` with their persisted tokens, the phase table,
and the legal workflow transitions. `WorkflowState.legal` is the transition
table; `validateWorkflowTransition` is the only gate through which a saved
state changes.
-/

set_option autoImplicit false

namespace SprintTicket

open Checks

inductive WorkflowState
  | preparing | prepared | implementing | verifying | reviewing | correctionPending
  | correcting | reporting | readyForHuman | humanRequired | failed
deriving DecidableEq, Repr

inductive AttemptPhase
  | preparing | implementing | verifying | reviewing | correcting | reporting
deriving DecidableEq, Repr

inductive AttemptStatus
  | started | completed | humanRequired | failed
deriving DecidableEq, Repr

inductive StageOutcome
  | completed | correctionRequired | humanRequired | failed
deriving DecidableEq, Repr

inductive VerificationStatus
  | pass | fail | error
deriving DecidableEq, Repr

inductive StopCategory
  | preparationRejected | baselineFailure | externalToolFailure | verificationInfrastructure
  | safetyViolation | repositoryUncertain | humanJudgmentRequired | controllerFailure
deriving DecidableEq, Repr

inductive ResultArtifactRole
  | baselineVerification | implementationResult | verificationRound | reviewResult
  | correctionResult | handoffResult
deriving DecidableEq, Repr

def WorkflowState.value : WorkflowState → String
  | .preparing => "PREPARING"
  | .prepared => "PREPARED"
  | .implementing => "IMPLEMENTING"
  | .verifying => "VERIFYING"
  | .reviewing => "REVIEWING"
  | .correctionPending => "CORRECTION_PENDING"
  | .correcting => "CORRECTING"
  | .reporting => "REPORTING"
  | .readyForHuman => "READY_FOR_HUMAN"
  | .humanRequired => "HUMAN_REQUIRED"
  | .failed => "FAILED"

def AttemptPhase.value : AttemptPhase → String
  | .preparing => "PREPARING"
  | .implementing => "IMPLEMENTING"
  | .verifying => "VERIFYING"
  | .reviewing => "REVIEWING"
  | .correcting => "CORRECTING"
  | .reporting => "REPORTING"

def AttemptStatus.value : AttemptStatus → String
  | .started => "STARTED"
  | .completed => "COMPLETED"
  | .humanRequired => "HUMAN_REQUIRED"
  | .failed => "FAILED"

def VerificationStatus.value : VerificationStatus → String
  | .pass => "PASS"
  | .fail => "FAIL"
  | .error => "ERROR"

structure PhaseDefinition where
  activeState : WorkflowState
  writesTargetRepository : Bool
  automaticallyRetryInterrupted : Bool
  resultArtifactRole : ResultArtifactRole
  resultArtifactName : String
  displayName : String
  slug : String
  resultArtifactName_nonblank : isBlank resultArtifactName = false := by decide
  displayName_nonblank : isBlank displayName = false := by decide
  slug_nonblank : isBlank slug = false := by decide

def attemptResultArtifactName : String := "result.json"

/-- `PHASE_DEFINITIONS`. -/
def phaseDefinition : AttemptPhase → PhaseDefinition
  | .preparing =>
    { activeState := .preparing, writesTargetRepository := false
      automaticallyRetryInterrupted := true, resultArtifactRole := .baselineVerification
      resultArtifactName := attemptResultArtifactName
      displayName := "preparation", slug := "preparation" }
  | .implementing =>
    { activeState := .implementing, writesTargetRepository := true
      automaticallyRetryInterrupted := false, resultArtifactRole := .implementationResult
      resultArtifactName := attemptResultArtifactName
      displayName := "implementation", slug := "implementation" }
  | .verifying =>
    { activeState := .verifying, writesTargetRepository := false
      automaticallyRetryInterrupted := true, resultArtifactRole := .verificationRound
      resultArtifactName := attemptResultArtifactName
      displayName := "verification", slug := "verification" }
  | .reviewing =>
    { activeState := .reviewing, writesTargetRepository := false
      automaticallyRetryInterrupted := true, resultArtifactRole := .reviewResult
      resultArtifactName := attemptResultArtifactName
      displayName := "review", slug := "review" }
  | .correcting =>
    { activeState := .correcting, writesTargetRepository := true
      automaticallyRetryInterrupted := false, resultArtifactRole := .correctionResult
      resultArtifactName := attemptResultArtifactName
      displayName := "correction", slug := "correction" }
  | .reporting =>
    { activeState := .reporting, writesTargetRepository := false
      automaticallyRetryInterrupted := true, resultArtifactRole := .handoffResult
      resultArtifactName := attemptResultArtifactName
      displayName := "reporting", slug := "reporting" }

/-- The iteration order of `AttemptPhase`. -/
def AttemptPhase.all : List AttemptPhase :=
  [.preparing, .implementing, .verifying, .reviewing, .correcting, .reporting]

/-- The phase's `writes_target_repository`. -/
def AttemptPhase.writable (phase : AttemptPhase) : Bool :=
  (phaseDefinition phase).writesTargetRepository

/-- Every phase is an active workflow state, and no two phases share one. -/
def phaseForActiveState (state : WorkflowState) : Option AttemptPhase :=
  AttemptPhase.all.find? fun phase => (phaseDefinition phase).activeState = state

/-- `ATTEMPT_STATUS_BY_STAGE_OUTCOME`. -/
def attemptStatusByStageOutcome : StageOutcome → AttemptStatus
  | .completed => .completed
  | .correctionRequired => .completed
  | .humanRequired => .humanRequired
  | .failed => .failed

/-- `TERMINAL_WORKFLOW_STATES`. -/
def WorkflowState.terminal : WorkflowState → Bool
  | .readyForHuman | .humanRequired | .failed => true
  | _ => false

/-- Persisted explanation for a non-successful terminal workflow state. -/
structure StopReason where
  category : StopCategory
  message : String
  retryable : Bool
  message_nonblank : isBlank message = false
deriving DecidableEq

/-- The constructor of `StopReason`. -/
def StopReason.ofMessage (category : StopCategory) (message : String) (retryable : Bool) :
    Except Raised StopReason :=
  if h : isBlank message = false then .ok ⟨category, message, retryable, h⟩
  else .error ⟨.valueError, "Stop reason message must be a non-empty string."⟩

theorem StopReason.ofMessage_nonblank {category : StopCategory} {message : String} {retryable : Bool}
    (nonblank : isBlank message = false) :
    StopReason.ofMessage category message retryable = .ok ⟨category, message, retryable, nonblank⟩ := by
  simp [StopReason.ofMessage, nonblank]

def StopCategory.value : StopCategory → String
  | .preparationRejected => "PREPARATION_REJECTED"
  | .baselineFailure => "BASELINE_FAILURE"
  | .externalToolFailure => "EXTERNAL_TOOL_FAILURE"
  | .verificationInfrastructure => "VERIFICATION_INFRASTRUCTURE"
  | .safetyViolation => "SAFETY_VIOLATION"
  | .repositoryUncertain => "REPOSITORY_UNCERTAIN"
  | .humanJudgmentRequired => "HUMAN_JUDGMENT_REQUIRED"
  | .controllerFailure => "CONTROLLER_FAILURE"

/-! ## Legal transitions -/

/-- `_LEGAL_WORKFLOW_TRANSITIONS`. -/
def legalWorkflowTransitions : WorkflowState → List WorkflowState
  | .preparing => [.prepared, .humanRequired, .failed]
  | .prepared => [.implementing, .humanRequired, .failed]
  | .implementing => [.verifying, .humanRequired, .failed]
  | .verifying => [.reviewing, .correctionPending, .humanRequired, .failed]
  | .reviewing => [.reporting, .correctionPending, .humanRequired, .failed]
  | .correctionPending => [.correcting, .humanRequired, .failed]
  | .correcting => [.verifying, .humanRequired, .failed]
  | .reporting => [.readyForHuman, .humanRequired, .failed]
  | .readyForHuman => []
  | .humanRequired => []
  | .failed => []

/-- `validate_workflow_transition`. -/
def validateWorkflowTransition (current requested : WorkflowState) : Except Raised Unit :=
  raiseIf (requested ∉ legalWorkflowTransitions current)
    ⟨.valueError, s!"Invalid workflow transition: {current.value} -> {requested.value}."⟩

/-- A transition is accepted when it is in the table. -/
theorem validateWorkflowTransition_ok {current requested : WorkflowState} :
    validateWorkflowTransition current requested = .ok () ↔
      requested ∈ legalWorkflowTransitions current := by
  simp [validateWorkflowTransition]

/-- Every other state can be stopped. -/
theorem stop_legal {state : WorkflowState} (active : state.terminal = false) :
    .humanRequired ∈ legalWorkflowTransitions state ∧ .failed ∈ legalWorkflowTransitions state := by
  cases state <;> revert active <;> decide

end SprintTicket
