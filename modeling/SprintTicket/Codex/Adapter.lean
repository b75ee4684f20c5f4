import Mathlib.Data.List.Infix
import SprintTicket.Codex.Runner
import SprintTicket.ExecutionEvidence
import SprintTicket.Logic.Canonical
import SprintTicket.Policy.Resolved

/-!
# The Codex adapter

`CodexCliAgentExecutor.execute` turns the end of a process into an `AgentExecution`.
Whatever it meets is a field of `CodexCalls`; it follows the source statement by
statement, and every way out that is not a success goes through `failure`.
-/

set_option autoImplicit false

namespace SprintTicket

open Checks

inductive CodexFailureReason
  | executableUnavailable | processStartFailed | timeout | nonZeroExit | transportFailure | finalizationFailed
  | missingStructuredResult | invalidStructuredResult | authenticationOrService | projectConfigurationRejected
  | capabilityRejected | policyRejected
deriving DecidableEq, Repr

def CodexFailureReason.value : CodexFailureReason → String
  | .executableUnavailable => "EXECUTABLE_UNAVAILABLE"
  | .processStartFailed => "PROCESS_START_FAILED"
  | .timeout => "TIMEOUT"
  | .nonZeroExit => "NON_ZERO_EXIT"
  | .transportFailure => "TRANSPORT_FAILURE"
  | .finalizationFailed => "FINALIZATION_FAILED"
  | .missingStructuredResult => "MISSING_STRUCTURED_RESULT"
  | .invalidStructuredResult => "INVALID_STRUCTURED_RESULT"
  | .authenticationOrService => "AUTHENTICATION_OR_SERVICE"
  | .projectConfigurationRejected => "PROJECT_CONFIGURATION_REJECTED"
  | .capabilityRejected => "CAPABILITY_REJECTED"
  | .policyRejected => "POLICY_REJECTED"

/-- `_FAILURE_CATEGORIES`. -/
def failureCategories : CodexFailureReason → AgentFailureCategory
  | .executableUnavailable => .providerUnavailable
  | .processStartFailed => .invocationStartFailure
  | .timeout => .timeout
  | .nonZeroExit | .transportFailure | .finalizationFailed => .nonSuccessfulExecution
  | .missingStructuredResult => .missingResult
  | .invalidStructuredResult => .invalidResult
  | .authenticationOrService => .providerRejectionOrServiceFailure
  | .projectConfigurationRejected | .capabilityRejected | .policyRejected => .capabilityOrConfigurationFailure

/-- `map_failure`. -/
def mapFailure (reason : CodexFailureReason) (treeTerminationConfirmed : Option Bool) : AgentFailureCategory :=
  if treeTerminationConfirmed = some false ∧ reason ≠ .timeout then .invocationCleanupUncertain
  else failureCategories reason

/-- `invocation_start_for`. -/
def invocationStartFor (reason : CodexFailureReason) : InvocationStart :=
  if reason ∈ [.executableUnavailable, .processStartFailed, .projectConfigurationRejected, .capabilityRejected,
      .policyRejected] then .notStarted
  else .started

/-- `looks_like_authentication_or_service_failure`; `lower` is `str.lower`. -/
def looksLikeAuthenticationOrServiceFailure (lower : String → String) (stderr : String) : Bool :=
  ["auth", "api key", "unauthorized", "forbidden", "rate limit", "service unavailable", "temporarily unavailable",
    "network"].any fun marker => decide (marker.toList <:+: (lower stderr).toList)

/-- `CAPABILITIES`. -/
def codexCapabilities : Finset AgentCapability :=
  {.readOnlyExecution, .workspaceWriteExecution, .structuredResult, .isolatedInvocation,
    .diagnosticArtifactCapture, .networkPolicyControl}

/-- `PROVIDER_ID`. -/
def codexProvider : ProviderId := ⟨"codex-cli", codexCli_nonblank, codexCli_stripped⟩

/-- What `_read_scratch_result` finds. -/
inductive ScratchResult
  | unreadable (error : Raised)
  | undecodable (error : Raised)
  | text (value : String)

def ScratchResult.present : ScratchResult → Bool
  | .unreadable _ => false
  | .undecodable _ | .text _ => true

/-- What `execute` meets. -/
structure CodexCalls where
  request : AgentExecutionRequest
  policy : AgentExecutionPolicy
  /-- The executable, the model and the reasoning effort of the settings. -/
  configuredExecutable : String
  model : String
  reasoningEffort : String
  /-- The resolved paths that the metadata name. -/
  repositoryPath : String
  outputSchemaPath : String
  projectConfigPath : String
  /-- The arguments as configured and as launched. -/
  configuredArgv : List String
  argv : List String
  started : AwareDatetime
  clock : AwareDatetime
  /-- `CodexArtifactPaths.create` and `prepare`. -/
  prepared : Except Raised Unit
  projectConfig : Bool
  executable : Option String
  outputWritten : Except Raised Unit
  /-- What entering and leaving the contexts of the scratch directory and of the captures do. -/
  contextsOpened : Except Raised Unit
  contextsClosed : Except Raised Unit
  process : Except RunnerStop CodexProcessResult
  /-- Whether the start of the process was reported. -/
  processStarted : Bool
  transportSeconds : Rat
  publication : Except Raised ProcessOutputPublication
  scratch : ScratchResult
  diagnosticWritten : Except Raised Unit
  loads : String → Except Raised Json
  /-- `error.msg` of a `JSONDecodeError`. -/
  decodeProblem : Raised → String
  lower : String → String
  /-- The format `g` of seconds. -/
  formatSeconds : Rat → String
  resultWritten : Except Raised Unit
  references : Except Raised (List ArtifactReference)
  executionWritten : Except Raised Unit

/-- `_ended_at`. -/
def endedAt (candidate started : AwareDatetime) : AwareDatetime :=
  if candidate.before started then started else candidate

/-- `_policy_problem`. -/
def policyProblem (request : AgentExecutionRequest) (policy : AgentExecutionPolicy) : Option String :=
  let expected : RepositoryAccess := if request.taskKind = .review then .readOnly else .workspaceWrite
  if request.repositoryAccess ≠ expected then
    some (request.taskKind.value ++ " requires " ++ expected.value ++ " repository access.")
  else if request.repositoryAccess = .readOnly ∧ policy.networkAccess = .allowed then
    some "Codex read-only execution cannot guarantee requested network access."
  else none

def MetadataValue.ofText (value : Option String) : MetadataValue := (value.map .str).getD .null

def MetadataValue.ofSeconds (value : Option Rat) : MetadataValue := (value.map .float).getD .null

/-- `_process_evidence_metadata`. -/
def processEvidenceMetadata (evidence : CodexProcessEvidence) (configuredTimeout : Option Rat) :
    List (String × MetadataValue) :=
  [("work_timeout_seconds", .ofSeconds (evidence.workTimeoutSeconds.or configuredTimeout)),
    ("work_elapsed_seconds", .float evidence.workElapsedSeconds),
    ("total_elapsed_seconds", .float evidence.totalElapsedSeconds),
    ("terminal_event_type", .ofText evidence.terminalEventType),
    ("terminal_event_elapsed_seconds", .ofSeconds evidence.terminalEventElapsedSeconds),
    ("completion_before_deadline", .bool evidence.completionBeforeDeadline),
    ("structured_message_observed", .bool evidence.structuredMessage.isSome),
    ("structured_message_elapsed_seconds", .ofSeconds evidence.structuredMessageElapsedSeconds),
    ("structured_message_before_deadline", .bool evidence.structuredMessageBeforeDeadline),
    ("deadline_outcome", .str evidence.deadlineOutcome),
    ("finalization_outcome", .str evidence.finalizationOutcome),
    ("cleanup_outcome", .str evidence.cleanupOutcome),
    ("termination_method", .ofText evidence.terminationMethod),
    ("tree_termination_confirmed", (evidence.treeTerminationConfirmed.map .bool).getD .null),
    ("cleanup_duration_seconds", .float evidence.cleanupDurationSeconds),
    ("output_draining_truncated", .bool evidence.outputDrainingTruncated),
    ("event_stream_problem", .ofText evidence.eventStreamProblem),
    ("structured_result_validated", .bool false),
    ("structured_result_accepted", .bool false)]

/-- The metadata of a process with those of its publication. -/
def processMetadata (evidence : CodexProcessEvidence) (configuredTimeout : Option Rat)
    (publication : ProcessOutputPublication) : List (String × MetadataValue) :=
  processEvidenceMetadata evidence configuredTimeout ++
    [("output_publication_truncated", .bool (publication.stdoutTruncated || publication.stderrTruncated)),
      ("output_publication_deadline_exhausted", .bool publication.deadlineExhausted)]

/-- `metadata.update(extra)`. -/
def updateMetadata (metadata extra : List (String × MetadataValue)) : List (String × MetadataValue) :=
  extra.foldl (fun metadata entry => Canonical.assign entry.1 entry.2 metadata) metadata

/-- `cast(bool | None, metadata.get("tree_termination_confirmed"))`. -/
def confirmedIn (metadata : List (String × MetadataValue)) : Option Bool :=
  match metadata.lookup "tree_termination_confirmed" with
  | some (.bool confirmed) => some confirmed
  | _ => none

/-- What `_failure` and `_metadata` are called with. -/
structure FailureDetails where
  reason : CodexFailureReason
  message : String
  argv : List String := []
  exitCode : Option Int := none
  timedOut : Bool := false
  timeoutSeconds : Option Rat := none
  structuredResultPresent : Bool := false
  extraMetadata : List (String × MetadataValue) := []

namespace CodexCalls

variable (calls : CodexCalls)

/-- `_metadata`. -/
def metadata (argv : List String) (exitCode : Option Int) (reason : Option CodexFailureReason) (timedOut : Bool)
    (timeoutSeconds : Option Rat) (structuredResultPresent : Bool) (extra : List (String × MetadataValue)) :
    List (String × MetadataValue) :=
  updateMetadata
    [("argv", .tuple (argv.map .str)), ("process_exit_code", (exitCode.map .int).getD .null),
      ("timed_out", .bool timedOut), ("timeout_seconds", .ofSeconds timeoutSeconds),
      ("native_failure_reason", .ofText (reason.map CodexFailureReason.value)),
      ("sandbox", .str calls.request.repositoryAccess.value), ("model", .str calls.model),
      ("reasoning_effort", .str calls.reasoningEffort), ("repository_path", .str calls.repositoryPath),
      ("output_schema_path", .str calls.outputSchemaPath),
      ("structured_result_present", .bool structuredResultPresent)] extra

/-- The fields of both executions. -/
def fields (status : AgentExecutionStatus) (start : InvocationStart) (artifacts : List ArtifactReference)
    (metadata : List (String × MetadataValue)) : AgentExecutionFields where
  providerId := codexProvider
  taskKind := calls.request.taskKind
  status := status
  invocationStart := start
  startedAt := calls.started
  endedAt := endedAt calls.clock calls.started
  durationSeconds := (endedAt calls.clock calls.started).sub calls.started / 1000000
  result := none
  failureCategory := none
  failureMessage := none
  artifacts := artifacts
  providerMetadata := metadata

/-- The fields of the execution that `_failure` returns. -/
def failureFields (details : FailureDetails) (artifacts : List ArtifactReference) : AgentExecutionFields :=
  { calls.fields .failed (invocationStartFor details.reason) artifacts
      (calls.metadata details.argv details.exitCode (some details.reason) details.timedOut details.timeoutSeconds
        details.structuredResultPresent details.extraMetadata) with
    failureCategory := some (mapFailure details.reason (confirmedIn details.extraMetadata))
    failureMessage := some details.message }

/-- `_failure`. -/
def failure (details : FailureDetails) : Except Raised AgentExecution := do
  let artifacts ← calls.references
  let execution ← AgentExecution.ofFields (calls.failureFields details artifacts)
  calls.executionWritten
  pure execution

/-- The failure of an invocation without a process. -/
def unlaunched (reason : CodexFailureReason) (message : String) (argv : List String) : Except Raised AgentExecution := do
  calls.outputWritten
  calls.failure { reason, message, argv }

def diagnoseScratch : Except Raised Unit :=
  if calls.scratch.present then calls.diagnosticWritten else .ok ()

def timeoutDetails (timeout : CodexProcessTimeout) (publication : ProcessOutputPublication) : FailureDetails where
  reason := .timeout
  message := "Codex process timed out after " ++ calls.formatSeconds timeout.timeoutSeconds ++ " seconds."
  argv := calls.argv
  timedOut := true
  timeoutSeconds := some timeout.timeoutSeconds
  structuredResultPresent := calls.scratch.present
  extraMetadata := processMetadata timeout.evidence (some timeout.timeoutSeconds) publication

/-- The branch for `CodexProcessTimedOut`. -/
def timedOut (timeout : CodexProcessTimeout) : Except Raised AgentExecution := do
  let publication ← calls.publication
  calls.diagnoseScratch
  calls.failure (calls.timeoutDetails timeout publication)

/-- The evidence of a transport that raised after the start of its process. -/
def transportEvidence : CodexProcessEvidence where
  workTimeoutSeconds := calls.policy.timeoutSeconds
  workElapsedSeconds := max 0 calls.transportSeconds
  totalElapsedSeconds := max 0 calls.transportSeconds
  deadlineOutcome := "transport-exception"
  finalizationOutcome := "failed"
  cleanupOutcome := "unknown"
  treeTerminationConfirmed := some false
  outputDrainingTruncated := true

def transportDetails (error : Raised) (publication : ProcessOutputPublication) : FailureDetails where
  reason := .transportFailure
  message := "Agent provider transport failed: " ++ error.message
  argv := calls.argv
  timeoutSeconds := calls.policy.timeoutSeconds
  structuredResultPresent := calls.scratch.present
  extraMetadata := processMetadata calls.transportEvidence calls.policy.timeoutSeconds publication

/-- The branch for an exception after the start of the process. -/
def transportRaised (error : Raised) : Except Raised AgentExecution := do
  let publication ← calls.publication
  calls.diagnoseScratch
  calls.failure (calls.transportDetails error publication)

/-- The branch for an exception before it. -/
def startRaised (error : Raised) : Except Raised AgentExecution :=
  if error.isinstance .fileNotFoundError then
    calls.unlaunched .executableUnavailable
      ("Agent provider executable is unavailable: " ++ (calls.argv.head?.getD "")) calls.argv
  else
    calls.unlaunched .processStartFailed ("Could not start agent provider process: " ++ error.message) calls.argv

/-- What the contexts are left with: an execution, or a process to judge. -/
inductive Invoked
  | execution (execution : AgentExecution)
  | process (process : CodexProcessResult) (publication : ProcessOutputPublication)

/-- A raw result that is not a text is kept as a diagnostic. -/
def diagnoseBytes : Except Raised Unit :=
  match calls.scratch with
  | .undecodable _ => calls.diagnosticWritten
  | _ => .ok ()

/-- The body of the contexts. -/
def invocation : Except Raised Invoked :=
  match calls.process with
  | .ok process => do
    calls.diagnoseBytes
    let publication ← calls.publication
    pure (.process process publication)
  | .error (.observerRaised error) => .error error
  | .error (.timedOut timeout) => .execution <$> calls.timedOut timeout
  | .error (.raised error) =>
    if error.isinstance .exception = false then .error error
    else if calls.processStarted then .execution <$> calls.transportRaised error
    else .execution <$> calls.startRaised error

def processDetails (process : CodexProcessResult) (publication : ProcessOutputPublication)
    (reason : CodexFailureReason) (message : String) : FailureDetails where
  reason := reason
  message := message
  argv := calls.argv
  exitCode := some process.returncode
  timeoutSeconds := calls.policy.timeoutSeconds
  structuredResultPresent := calls.scratch.present
  extraMetadata := processMetadata process.evidence calls.policy.timeoutSeconds publication

/-- The failure of a process that has ended. -/
def processFailure (process : CodexProcessResult) (publication : ProcessOutputPublication)
    (reason : CodexFailureReason) (message : String) : Except Raised AgentExecution :=
  calls.failure (calls.processDetails process publication reason message)

/-- A raw result is kept as a diagnostic. -/
def diagnoseResult : Except Raised Unit :=
  match calls.scratch with
  | .text _ => calls.diagnosticWritten
  | _ => .ok ()

/-- `decode_result`. -/
def decodeResult (kind : AgentTaskKind) (value : Json) : Except Raised TaskResult :=
  match kind with
  | .review => .review <$> decodeReviewResult value
  | _ => .implementation <$> decodeImplementationResult value

def mismatchedResult : Raised :=
  ⟨.resultValidationError, "Canonical result did not match the timely final agent message."⟩

/-- The `try` block that decodes the result. -/
def acceptedResult (raw message : String) : Except Raised TaskResult := do
  let value ← calls.loads raw
  let expected ← calls.loads message
  raiseIf (expected.pyEq value = false) mismatchedResult
  decodeResult calls.request.taskKind value

/-- The successful execution. -/
def success (process : CodexProcessResult) (publication : ProcessOutputPublication) (result : TaskResult) :
    Except Raised AgentExecution := do
  calls.resultWritten
  let artifacts ← calls.references
  let execution ← AgentExecution.ofFields
    { calls.fields .success .started artifacts
        (calls.metadata calls.argv (some process.returncode) none false calls.policy.timeoutSeconds true
          (updateMetadata (processMetadata process.evidence calls.policy.timeoutSeconds publication)
            [("structured_result_validated", .bool true), ("structured_result_accepted", .bool true)])) with
      result := some result }
  calls.executionWritten
  pure execution

/-- The part of `execute` after the result was read. -/
def judgeResult (process : CodexProcessResult) (publication : ProcessOutputPublication) (message : String) :
    Except Raised AgentExecution :=
  match calls.scratch with
  | .unreadable error =>
    calls.processFailure process publication .missingStructuredResult
      (if error.isinstance .fileNotFoundError then "Agent provider did not write the required typed result."
        else "Agent provider typed result could not be read: " ++ error.message ++ ".")
  | .undecodable error =>
    calls.processFailure process publication .missingStructuredResult
      ("Agent provider typed result could not be read: " ++ error.message ++ ".")
  | .text raw =>
    match calls.acceptedResult raw message with
    | .ok result => calls.success process publication result
    | .error error =>
      if error.isinstance .jsonDecodeError then do
        calls.diagnosticWritten
        calls.processFailure process publication .invalidStructuredResult
          ("Agent typed result was not valid JSON: " ++ calls.decodeProblem error ++ ".")
      else if error.isinstance .resultValidationError || error.isinstance .typeError then do
        calls.diagnosticWritten
        calls.processFailure process publication .invalidStructuredResult error.message
      else .error error

/-- The message that a process has observed in time together with its completion. -/
def timelyMessage (evidence : CodexProcessEvidence) : Option String :=
  if evidence.completionBeforeDeadline && evidence.structuredMessageBeforeDeadline then evidence.structuredMessage
  else none

/-- `execute` after the contexts. -/
def judge (process : CodexProcessResult) (publication : ProcessOutputPublication) : Except Raised AgentExecution :=
  match process.transportFailure with
  | some failure => do
    calls.diagnoseResult
    calls.processFailure process publication
      (if process.evidence.finalizationOutcome = "expired" then .finalizationFailed else .transportFailure) failure
  | none =>
    if process.returncode ≠ 0 then do
      calls.diagnoseResult
      calls.processFailure process publication
        (if looksLikeAuthenticationOrServiceFailure calls.lower process.stderr then .authenticationOrService
          else .nonZeroExit)
        ("Agent provider exited with code " ++ toString process.returncode ++ ".")
    else
      match timelyMessage process.evidence with
      | none => do
        calls.diagnoseResult
        calls.processFailure process publication .transportFailure
          ("Agent provider exited without a terminal success and final structured message observed before " ++
            "the work deadline.")
      | some message => calls.judgeResult process publication message

/-- `execute` once the executable is found. A `CodexScratchDirectoryError` is raised
nowhere but on the way into the contexts. -/
def launch : Except Raised AgentExecution :=
  match calls.contextsOpened with
  | .error error =>
    if error.isinstance .codexScratchDirectoryError then
      calls.unlaunched .processStartFailed error.message calls.configuredArgv
    else .error error
  | .ok _ =>
    match calls.contextsClosed >>= fun _ => calls.invocation with
    | .error error => .error error
    | .ok (.execution execution) => .ok execution
    | .ok (.process process publication) => calls.judge process publication

def rejectConfiguration : Except Raised AgentExecution :=
  calls.unlaunched .projectConfigurationRejected
    ("Target repository contains .codex/config.toml; project provider configuration cannot be isolated " ++
      "reliably.") calls.configuredArgv

def rejectCapabilities (missing : Finset AgentCapability) : Except Raised AgentExecution :=
  let names := (AgentCapability.sorted.filter (· ∈ missing)).map AgentCapability.value
  calls.failure
    { reason := .capabilityRejected
      message := "Provider does not support required capabilities: " ++ ", ".intercalate names ++ "."
      extraMetadata := [("missing_capabilities", .tuple (names.map .str))] }

/-- `CodexCliAgentExecutor.execute`. -/
def execute : Except Raised AgentExecution := do
  calls.prepared
  if calls.request.missingCapabilities codexCapabilities ≠ ∅ then
    calls.rejectCapabilities (calls.request.missingCapabilities codexCapabilities)
  else
    match policyProblem calls.request calls.policy with
    | some problem => calls.failure { reason := .policyRejected, message := problem }
    | none =>
      if calls.projectConfig then calls.rejectConfiguration
      else
        match calls.executable with
        | none =>
          calls.unlaunched .executableUnavailable
            ("Agent provider executable is unavailable: " ++ calls.configuredExecutable) calls.configuredArgv
        | some _ => calls.launch

end CodexCalls

/-! ## What a failure is -/

/-- The metadata of a process repeats whether its tree was confirmed dead. -/
theorem confirmedIn_process {evidence : CodexProcessEvidence} {timeout : Option Rat}
    {publication : ProcessOutputPublication} :
    confirmedIn (processMetadata evidence timeout publication) = evidence.treeTerminationConfirmed := by
  have found : (processMetadata evidence timeout publication).lookup "tree_termination_confirmed" =
      some ((evidence.treeTerminationConfirmed.map .bool).getD .null) := rfl
  rw [confirmedIn, found]
  cases evidence.treeTerminationConfirmed <;> rfl

/-- The start of an invocation fits the category of its failure, unless a cleanup was
not confirmed of one that did not start. -/
theorem mapFailure_apt {reason : CodexFailureReason} {confirmed : Option Bool}
    (apt : confirmed = some false → invocationStartFor reason = .started) :
    ((mapFailure reason confirmed).preInvocation = true → invocationStartFor reason = .notStarted) ∧
      ((mapFailure reason confirmed).preInvocation = false → mapFailure reason confirmed ≠ .timeout →
        invocationStartFor reason ≠ .notStarted) := by
  unfold mapFailure
  split
  · rename_i uncertain
    rw [apt uncertain.1]
    exact ⟨fun early => absurd early (by decide), fun _ _ => by decide⟩
  · cases reason <;> decide

/-- The constructor raises on nothing that passes `__post_init__`. -/
theorem AgentExecution.ofFields_valid {fields : AgentExecutionFields} (valid : validateAgentExecution fields = .ok ()) :
    AgentExecution.ofFields fields = .ok ⟨fields, valid⟩ := by
  unfold AgentExecution.ofFields
  split
  · rfl
  · rename_i error refused
    rw [valid] at refused
    cases refused

/-- An execution never ends before it started: `max` of the two readings. -/
theorem endedAt_not_before (candidate started : AwareDatetime) : ¬ (endedAt candidate started).before started := by
  unfold endedAt
  split
  · show ¬ started.sub started < 0
    rw [AwareDatetime.sub, if_pos rfl]
    omega
  · assumption

namespace CodexCalls

variable {calls : CodexCalls} {details : FailureDetails}

/-- The constructor accepts every failure with a message that is not blank and a
start that fits. -/
theorem failureFields_valid (filled : isBlank details.message = false)
    (apt : confirmedIn details.extraMetadata = some false → invocationStartFor details.reason = .started)
    (artifacts : List ArtifactReference) : validateAgentExecution (calls.failureFields details artifacts) = .ok () := by
  have later : 0 ≤ (endedAt calls.clock calls.started).sub calls.started :=
    not_lt.mp (endedAt_not_before calls.clock calls.started)
  have duration : (calls.failureFields details artifacts).durationSeconds =
      ((endedAt calls.clock calls.started).sub calls.started : Rat) / 1000000 := rfl
  obtain ⟨pre, post⟩ := mapFailure_apt apt
  simp only [validateAgentExecution, check_bind_ok, raiseIf_ok]
  refine ⟨endedAt_not_before calls.clock calls.started, ?_, ?_, ?_, ?_⟩
  · rw [duration, not_lt]
    exact div_nonneg (by exact_mod_cast later) (by norm_num)
  · rw [not_not, durationMatches, duration]
    show |_ - ((endedAt calls.clock calls.started).sub calls.started : Rat) / 1000000| ≤ _
    rw [sub_self, abs_zero]
    norm_num
  · exact raiseIf_ok.mpr (by simp [failureFields, fields])
  · exact validateExecutionSemantics_failed.mpr ⟨_, _, rfl, rfl, filled, pre, post⟩

/-- What `_failure` returns. -/
theorem failure_ok {execution : AgentExecution} (h : calls.failure details = .ok execution) :
    ∃ artifacts, execution.toAgentExecutionFields = calls.failureFields details artifacts := by
  obtain ⟨artifacts, _, h⟩ := bind_ok_iff.mp h
  obtain ⟨built, constructed, h⟩ := bind_ok_iff.mp h
  obtain ⟨_, h⟩ := check_bind_ok.mp h
  cases h
  exact ⟨artifacts, AgentExecution.ofFields_ok constructed⟩

/-- A failure is reported when its message is not blank and its files can be written. -/
theorem failure_returns (filled : isBlank details.message = false)
    (apt : confirmedIn details.extraMetadata = some false → invocationStartFor details.reason = .started)
    {artifacts : List ArtifactReference} (found : calls.references = .ok artifacts)
    (written : calls.executionWritten = .ok ()) : ∃ execution, calls.failure details = .ok execution := by
  have valid : validateAgentExecution (calls.failureFields details artifacts) = .ok () :=
    failureFields_valid filled apt artifacts
  have constructed : AgentExecution.ofFields (calls.failureFields details artifacts) =
      .ok ⟨calls.failureFields details artifacts, valid⟩ := AgentExecution.ofFields_valid valid
  refine ⟨⟨calls.failureFields details artifacts, valid⟩, ?_⟩
  rw [failure, ok_bind found, ok_bind constructed, ok_bind written]
  rfl

end CodexCalls

def exampleExecutionPolicy : AgentExecutionPolicy := ⟨some 10, .denied, by decide⟩

end SprintTicket
