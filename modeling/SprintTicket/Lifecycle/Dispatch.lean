import SprintTicket.CorrectionPlanner
import SprintTicket.Lifecycle.Handlers
import SprintTicket.Lifecycle.Store

/-!
# One dispatch

A dispatched stage writes below its attempt while it runs, and its result
artifact before its handler decides. `performStage` makes these writes and
gives the handlers of `dispatchStage` the results they see.
-/

set_option autoImplicit false

namespace SprintTicket

open Checks Effects Effects.Effect

/-- `write_stage_message`. -/
def stageMessage (status : StageOutcome) (message : String) : Except Raised Json := do
  raiseIf (isBlank message) ⟨.persistenceCodecError, "stage message must be non-empty."⟩
  pure (.obj [("status", .str status.value), ("message", .str message)])

/-- `WorkspaceSnapshot.capture(..).fingerprint`, or `None` when it fails. -/
def capturedFingerprint (sha256 : Sha256) (capture : Except Raised WorkspaceSnapshot) :
    Except Raised (Option String) :=
  handling [.osError, .runtimeError, .valueError]
    (capture.map fun snapshot => some (snapshot.fingerprint sha256)) fun _ => none

/-- What a verification stage meets, for the clean baseline or for a round. -/
structure VerificationRun where
  /-- The attempt, the baseline and the result path. -/
  load : Except Raised Unit
  violations : Except Raised (List VerificationSafetyViolation)
  now : Int
  round : RoundRun
  cwd : String
  resultPath : String
  resultPath_text : ResultPathText resultPath
  outcome : WriteOutcome
  revalidate : Except Raised Unit
  after : Except Raised WorkspaceSnapshot

section Verification

variable (sha256 : Sha256) (printable : Char → Bool)

/-- The state that `_run_baseline_verification_stage` and `_run_verification_stage` require. -/
def requireVerificationState (record : RunRecord) (baseline : Bool) : Except Raised Unit :=
  if baseline then
    raiseIf (record.state ≠ .preparing)
      ⟨.verificationError, "Baseline verification requires PREPARING state."⟩
  else raiseIf (record.state ≠ .verifying) ⟨.verificationError, "Verification requires VERIFYING state."⟩

/-- The round that the stage writes. -/
def verificationRound (record : RunRecord) (baseline : Bool) (run : VerificationRun) :
    Except Raised VerificationRound := do
  requireVerificationState record baseline
  run.load
  let violations ← run.violations
  let index := if baseline then 0 else record.currentCorrectionRound
  if violations ≠ [] then do
    run.round.write
    pure (controllerErrorRound index run.now violations)
  else
    runRound printable record.resolvedPolicy.verificationCommands run.cwd index run.resultPath (!baseline)
      run.round

def VerificationSafetyViolation.toStage (violation : VerificationSafetyViolation) : StageViolation :=
  ⟨violation.name, violation.expected, violation.actual, violation.message⟩

/-- `_finish_stage`. -/
def finishVerification (round : VerificationRound) (baseline : Bool) (after : Option String) :
    VerificationStageResult where
  outcome := (finishOutcome round baseline).1
  controllerMessage := (finishOutcome round baseline).2
  afterWorkspaceFingerprint := after
  processStarted := roundProcessStarted round.commands
  safetyViolations := round.safetyViolations.map VerificationSafetyViolation.toStage

/-- `_run_baseline_verification_stage` and `_run_verification_stage`. -/
def runVerificationStage (baseline : Bool) (attempt : StageAttempt) (run : VerificationRun) :
    Controlled VerificationStageResult := do
  let store ← get
  let round ← call (verificationRound printable store.record baseline run)
  persist run.outcome (RunStore.writeResult attempt.sequence (.obj (encodeRound round)))
  call run.revalidate
  let after ← call (capturedFingerprint sha256 run.after)
  pure (finishVerification round baseline after)

end Verification

/-- How a review ends before its result is written. -/
inductive ReviewEnding
  /-- Every `_finish` with a fixed outcome; a result may already be there. -/
  | stopped (outcome : StageOutcome) (stops : outcome.stops = true) (message : String)
      (execution : Option AgentExecution) (result : Option ReviewResult) (violations : List StageViolation)
  /-- `_finish_valid_review_result`. -/
  | valid (result : ReviewResult) (execution : AgentExecution)

structure ReviewRun where
  progress : List (StageWrite × WriteOutcome)
  ending : Except Raised ReviewEnding
  outcome : WriteOutcome
  after : Except Raised WorkspaceSnapshot

namespace ReviewEnding

def outcome : ReviewEnding → StageOutcome
  | stopped outcome _ _ _ _ _ => outcome
  | valid result _ => (validReviewOutcome result).1

def message : ReviewEnding → String
  | stopped _ _ message _ _ _ => message
  | valid result _ => (validReviewOutcome result).2

def execution : ReviewEnding → Option AgentExecution
  | stopped _ _ _ execution _ _ => execution
  | valid _ execution => some execution

def violations : ReviewEnding → List StageViolation
  | stopped _ _ _ _ _ violations => violations
  | valid _ _ => []

/-- What `_write_review_result` writes. -/
def written : ReviewEnding → Except Raised Json
  | stopped _ _ _ _ (some result) _ => .ok (encodeReviewResult result)
  | stopped outcome _ message _ none _ => stageMessage outcome message
  | valid result _ => .ok (encodeReviewResult result)

end ReviewEnding

/-- `_run_review_stage` from the start of the agent on, with its `_finish`. -/
def runReviewStage (sha256 : Sha256) (attempt : StageAttempt) (run : ReviewRun) :
    Controlled ReviewStageResult := do
  stageProgress attempt.sequence run.progress
  let ending ← call run.ending
  let value ← call ending.written
  persist run.outcome (RunStore.writeResult attempt.sequence value)
  let after ← call (capturedFingerprint sha256 run.after)
  pure
    { outcome := ending.outcome
      controllerMessage := ending.message
      afterWorkspaceFingerprint := after
      agentExecution := ending.execution
      safetyViolations := ending.violations }

/-- What a writable stage does besides its guarded write: `invokes` tells
whether it comes to call its agent. -/
structure WritableRun where
  invokes : Bool
  progress : List (StageWrite × WriteOutcome)
  outcome : WriteOutcome

/-- What `_write_agent_result` writes. -/
def StageFinish.written (finish : StageFinish) : Except Raised Json :=
  match finish.agentResult with
  | some (.implementation result) => .ok (encodeImplementationResult result)
  | some (.review _) => .error ⟨.resultValidationError, "value must be an ImplementationResult."⟩
  | none => stageMessage finish.outcome finish.controllerMessage

/-- The writes of a writable stage; the agent is called only where it may be. -/
def performWritable (kind : AgentTaskKind) (allowed : RunRecord → Bool) (attempt : StageAttempt)
    (run : WritableRun) (finish : RunRecord → Except Raised StageFinish) : Controlled Unit := do
  let store ← get
  if run.invokes && allowed store.record then modify (RunStore.log (.invoked kind store.record))
  stageProgress attempt.sequence run.progress
  let finished ← call (finish store.record)
  let value ← call finished.written
  persist run.outcome (RunStore.writeResult attempt.sequence value)

/-- The limit that the correction stage checks before it calls the agent. -/
def correctionAllowed (record : RunRecord) : Bool := record.currentCorrectionRound < record.maxCorrectionRounds

/-! ## The dispatch -/

structure StageDispatch where
  environment : StageEnvironment
  verification : VerificationRun
  review : ReviewRun
  writable : WritableRun
  /-- The ownership checks of the correction planner. -/
  plannerOwned : Except Raised Unit

section Dispatch

variable (sha256 : Sha256) (printable : Char → Bool) (stage : StageDispatch) (record : RunRecord)

/-- The stage of the current state runs; the answer is what its handler sees. -/
def performStage (attempt : Option StageAttempt) : Controlled StageEnvironment :=
  match record.state, attempt with
  | .preparing, some attempt => do
    let outcome ← caught (runVerificationStage sha256 printable true attempt stage.verification)
    pure { stage.environment with preparation := outcome }
  | .implementing, some attempt => do
    performWritable .implementation (fun _ => true) attempt stage.writable fun disk =>
      (runImplementationStage sha256 (stage.environment.implementation.forAttempt disk attempt)).map
        fun result => result.toStageFinish
    pure stage.environment
  | .verifying, some attempt => do
    let result ← runVerificationStage sha256 printable false attempt stage.verification
    pure { stage.environment with verification := .ok result }
  | .reviewing, some attempt => do
    let result ← runReviewStage sha256 attempt stage.review
    pure { stage.environment with review := .ok result }
  | .correcting, some attempt => do
    let store ← get
    let _ ← call (planPendingCorrection stage.plannerOwned store.directory)
    performWritable .correction correctionAllowed attempt stage.writable fun disk =>
      (runCorrectionStage sha256 (stage.environment.correction.forAttempt disk attempt)).map
        fun result => result.toStageFinish
    pure { stage.environment with correctionPlan := .ok () }
  | _, _ => pure stage.environment

/-- `dispatch_stage`. -/
def dispatchOnce (attempt : Option StageAttempt) : Controlled StageDecision := do
  modify (RunStore.log (.dispatched record))
  let environment ← performStage sha256 printable stage record attempt
  let store ← get
  call (dispatchStage sha256 environment store.record record attempt)

end Dispatch

end SprintTicket
