import SprintTicket.Codex.Adapter
import SprintTicket.Guarded.Stages

/-!
# Unconfirmed cleanup

A process whose tree may still be running must not be followed by anything that
writes. The runner gives it a transport failure or a timeout, the adapter a failure
with a category of its own, the guarded write does not trust the repository after
it, and the stage stops. `unconfirmed_cleanup_stops` follows it through.
-/

set_option autoImplicit false

namespace SprintTicket

open Checks

namespace CodexCalls

variable {calls : CodexCalls} {execution : AgentExecution}

/-- The invocation gets as far as its process. -/
structure Launched (calls : CodexCalls) : Prop where
  prepared : calls.prepared = .ok ()
  capable : calls.request.missingCapabilities codexCapabilities = ∅
  allowed : policyProblem calls.request calls.policy = none
  unconfigured : calls.projectConfig = false
  found : calls.executable.isSome = true
  opened : calls.contextsOpened = .ok ()

/-- The evidence of the process says that its tree may still be running. Where the
transport raised, the adapter writes that evidence itself. -/
def Unconfirmed (calls : CodexCalls) : Prop :=
  match calls.process with
  | .ok process => process.evidence.treeTerminationConfirmed = some false
  | .error (.timedOut timeout) => timeout.evidence.treeTerminationConfirmed = some false
  | .error (.raised error) => error.isinstance .exception = true ∧ calls.processStarted = true
  | .error (.observerRaised _) => False

/-- What the adapter calls around the process succeeds. -/
structure Works (calls : CodexCalls) : Prop where
  published : ∃ publication, calls.publication = .ok publication
  diagnosed : calls.diagnosticWritten = .ok ()
  closed : calls.contextsClosed = .ok ()
  referenced : ∃ artifacts, calls.references = .ok artifacts
  written : calls.executionWritten = .ok ()

/-- Past the checks before it, `execute` is the launch. -/
theorem execute_launched (launched : calls.Launched) : calls.execute = calls.launch := by
  rw [execute, ok_bind launched.prepared, if_neg (not_not.mpr launched.capable), launched.allowed]
  dsimp only
  rw [launched.unconfigured]
  obtain ⟨executable, found⟩ := Option.isSome_iff_exists.mp launched.found
  rw [found]
  rfl

/-- A failure that says of a started invocation that its tree may still be running. -/
structure Uncertain (details : FailureDetails) : Prop where
  filled : isBlank details.message = false
  confirmed : confirmedIn details.extraMetadata = some false
  started : invocationStartFor details.reason = .started

theorem diagnoseScratch_works (works : calls.Works) : calls.diagnoseScratch = .ok () := by
  unfold diagnoseScratch
  split
  · exact works.diagnosed
  · rfl

theorem diagnoseBytes_works (works : calls.Works) : calls.diagnoseBytes = .ok () := by
  unfold diagnoseBytes
  split
  · exact works.diagnosed
  · rfl

theorem diagnoseResult_works (works : calls.Works) : calls.diagnoseResult = .ok () := by
  unfold diagnoseResult
  split
  · exact works.diagnosed
  · rfl

/-- An uncertain failure is reported when the calls work. -/
theorem Uncertain.returns {details : FailureDetails} (uncertain : Uncertain details) (works : calls.Works) :
    ∃ execution, calls.failure details = .ok execution := by
  obtain ⟨artifacts, referenced⟩ := works.referenced
  exact failure_returns uncertain.filled (fun _ => uncertain.started) referenced works.written

/-- The three ways to a failure without a confirmed cleanup. -/
theorem timedOut_uncertain {timeout : CodexProcessTimeout} {publication : ProcessOutputPublication}
    (unconfirmed : timeout.evidence.treeTerminationConfirmed = some false) :
    Uncertain (calls.timeoutDetails timeout publication) :=
  ⟨filled_append (filled_append (by decide)), confirmedIn_process.trans unconfirmed, rfl⟩

theorem transportRaised_uncertain {error : Raised} {publication : ProcessOutputPublication} :
    Uncertain (calls.transportDetails error publication) :=
  ⟨filled_append (by decide), confirmedIn_process, rfl⟩

theorem processFailure_uncertain {process : CodexProcessResult} {publication : ProcessOutputPublication} {text : String}
    (filled : isBlank text = false) (unconfirmed : process.evidence.treeTerminationConfirmed = some false) :
    Uncertain (calls.processDetails process publication
      (if process.evidence.finalizationOutcome = "expired" then .finalizationFailed else .transportFailure) text) := by
  refine ⟨filled, confirmedIn_process.trans unconfirmed, ?_⟩
  show invocationStartFor (if _ then _ else _) = _
  split <;> rfl

/-- The failure of a process that was not cleaned up for certain. -/
theorem launch_uncertain (troubled : ∀ process, calls.process = .ok process → process.Troubled)
    (unconfirmed : calls.Unconfirmed) (launched : calls.Launched) (h : calls.launch = .ok execution) :
    ∃ details, Uncertain details ∧ calls.failure details = .ok execution := by
  rw [launch, launched.opened] at h
  dsimp only at h
  split at h
  · cases h
  · rename_i returned invoked
    cases h
    obtain ⟨_, invoked⟩ := check_bind_ok.mp invoked
    unfold invocation at invoked
    unfold Unconfirmed at unconfirmed
    split at invoked
    · obtain ⟨_, invoked⟩ := check_bind_ok.mp invoked
      obtain ⟨_, _, invoked⟩ := bind_ok_iff.mp invoked
      cases invoked
    · cases invoked
    · rename_i timeout ended
      rw [ended] at unconfirmed
      obtain ⟨_, failed, same⟩ := map_ok_iff.mp invoked
      cases same
      obtain ⟨publication, _, failed⟩ := bind_ok_iff.mp failed
      exact ⟨_, timedOut_uncertain unconfirmed, (check_bind_ok.mp failed).2⟩
    · rename_i error ended
      rw [ended] at unconfirmed
      rw [if_neg (by rw [unconfirmed.1]; decide), if_pos unconfirmed.2] at invoked
      obtain ⟨_, failed, same⟩ := map_ok_iff.mp invoked
      cases same
      obtain ⟨publication, _, failed⟩ := bind_ok_iff.mp failed
      exact ⟨_, transportRaised_uncertain, (check_bind_ok.mp failed).2⟩
  · rename_i process publication invoked
    obtain ⟨_, invoked⟩ := check_bind_ok.mp invoked
    unfold invocation at invoked
    unfold Unconfirmed at unconfirmed
    split at invoked
    · rename_i ended
      obtain ⟨_, invoked⟩ := check_bind_ok.mp invoked
      obtain ⟨_, _, invoked⟩ := bind_ok_iff.mp invoked
      cases invoked
      rw [ended] at unconfirmed
      obtain ⟨text, failure, filled⟩ := troubled _ ended unconfirmed
      rw [judge, failure] at h
      exact ⟨_, processFailure_uncertain filled unconfirmed, (check_bind_ok.mp h).2⟩
    · cases invoked
    · obtain ⟨_, _, same⟩ := map_ok_iff.mp invoked
      cases same
    · split at invoked
      · cases invoked
      · split at invoked <;> obtain ⟨_, _, same⟩ := map_ok_iff.mp invoked <;> cases same

theorem launch_returns (troubled : ∀ process, calls.process = .ok process → process.Troubled)
    (unconfirmed : calls.Unconfirmed) (launched : calls.Launched) (works : calls.Works) :
    ∃ execution, calls.launch = .ok execution := by
  obtain ⟨publication, published⟩ := works.published
  rw [launch, launched.opened]
  dsimp only
  rw [ok_bind works.closed]
  unfold Unconfirmed at unconfirmed
  cases ended : calls.process with
  | ok process =>
    rw [ended] at unconfirmed
    obtain ⟨text, failure, filled⟩ := troubled _ ended unconfirmed
    have invoked : calls.invocation = .ok (.process process publication) := by
      rw [invocation, ended]
      dsimp only
      rw [ok_bind (diagnoseBytes_works works), ok_bind published]
      rfl
    rw [invoked]
    dsimp only
    rw [judge, failure]
    dsimp only
    rw [ok_bind (diagnoseResult_works works)]
    exact (processFailure_uncertain filled unconfirmed).returns works
  | error stop =>
    cases stop with
    | observerRaised error =>
      rw [ended] at unconfirmed
      exact unconfirmed.elim
    | timedOut timeout =>
      rw [ended] at unconfirmed
      have uncertain : Uncertain (calls.timeoutDetails timeout publication) := timedOut_uncertain unconfirmed
      obtain ⟨execution, returned⟩ := uncertain.returns works
      have invoked : calls.invocation = .ok (.execution execution) := by
        rw [invocation, ended]
        dsimp only
        rw [timedOut, ok_bind published, ok_bind (diagnoseScratch_works works), returned]
        rfl
      rw [invoked]
      exact ⟨execution, rfl⟩
    | raised error =>
      rw [ended] at unconfirmed
      have uncertain : Uncertain (calls.transportDetails error publication) := transportRaised_uncertain
      obtain ⟨execution, returned⟩ := uncertain.returns works
      have invoked : calls.invocation = .ok (.execution execution) := by
        rw [invocation, ended]
        dsimp only
        rw [unconfirmed.1, if_neg (by decide), unconfirmed.2, if_pos rfl, transportRaised, ok_bind published,
          ok_bind (diagnoseScratch_works works), returned]
        rfl
      rw [invoked]
      exact ⟨execution, rfl⟩

end CodexCalls

/-! ## From the execution to the stage -/

/-- A writable stage that is given the execution ends for a human. -/
structure StopsWritableWork (execution : AgentExecution) : Prop where
  failed : execution.status = .failed
  semantics : validateExecutionSemantics execution.status execution.invocationStart execution.failureCategory
    execution.failureMessage = .ok ()
  category : execution.failureCategory = some .invocationCleanupUncertain ∨ execution.failureCategory = some .timeout
  implementation : ∀ (sha256 : Sha256) (run : StageRun) (result : ImplementationStageResult),
    runImplementationStage sha256 run = .ok result → result.execution = some execution → result.outcome = .humanRequired
  correction : ∀ (sha256 : Sha256) (run : CorrectionRun) (result : CorrectionStageResult),
    runCorrectionStage sha256 run = .ok result → result.execution = some execution → result.outcome = .humanRequired

/-- A started failure of an untrusted category leaves a stage only one way out. -/
theorem FinishCause.untrusted {kind : AgentTaskKind} {run : GuardedRun} {finish : StageFinish}
    {execution : AgentExecution} (cause : FinishCause kind run finish) (recorded : finish.execution = some execution)
    (failed : execution.status = .failed) (started : execution.invocationStart = .started)
    (untrusted : execution.failureCategory.any untrustedCategory = true) : finish.outcome = .humanRequired := by
  cases cause with
  | completed _ other found success =>
    rw [recorded] at found
    cases found
    rw [failed] at success
    cases success
  | stopped outcome => exact outcome
  | failed _ cause =>
    rcases cause.cause with ⟨none, _⟩ | ⟨other, found, invocation⟩
    · rw [recorded] at none
      cases none
    · rw [recorded] at found
      cases found
      rcases invocation.trusted with ⟨_, early⟩ | trusted
      · rw [started] at early
        cases early
      · rw [untrusted] at trusted
        cases trusted

/-- The reported failure stops writable work. -/
theorem CodexCalls.Uncertain.stops {calls : CodexCalls} {details : FailureDetails} {execution : AgentExecution}
    (uncertain : CodexCalls.Uncertain details) (h : calls.failure details = .ok execution) :
    StopsWritableWork execution := by
  obtain ⟨artifacts, same⟩ := CodexCalls.failure_ok h
  have failed : execution.status = .failed := by rw [same]; rfl
  have started : execution.invocationStart = .started := by rw [same]; exact uncertain.started
  have category : execution.failureCategory = some .invocationCleanupUncertain ∨
      execution.failureCategory = some .timeout := by
    rw [same]
    show some (mapFailure _ _) = _ ∨ some (mapFailure _ _) = _
    rw [uncertain.confirmed, mapFailure]
    by_cases late : details.reason = .timeout
    · exact .inr (by rw [late]; rfl)
    · exact .inl (by rw [if_pos ⟨rfl, late⟩])
  have untrusted : execution.failureCategory.any untrustedCategory = true := by
    rcases category with found | found <;> rw [found] <;> rfl
  refine ⟨failed, execution.semantics, category, fun sha256 run result h recorded => ?_, fun sha256 run result h recorded => ?_⟩
  · exact (runImplementationStage_cause h).untrusted recorded failed started untrusted
  · exact (runCorrectionStage_cause h).untrusted recorded failed started untrusted

/-- **An unconfirmed cleanup stops writable work.** Whatever the runner does and
whatever the adapter meets, the execution of a process whose tree may still be
running stops every stage that is given it; and where the calls of the adapter
succeed there is such an execution. -/
theorem unconfirmed_cleanup_stops (runner : RunnerCalls) (calls : CodexCalls) (ran : runner.run = some calls.process)
    (launched : calls.Launched) (unconfirmed : calls.Unconfirmed) :
    (∀ execution, calls.execute = .ok execution → StopsWritableWork execution) ∧
      (calls.Works → ∃ execution, calls.execute = .ok execution) := by
  have troubled : ∀ process, calls.process = .ok process → process.Troubled := by
    intro process ended
    rw [ended] at ran
    exact (RunnerCalls.run_ended ran).troubled
  rw [CodexCalls.execute_launched launched]
  constructor
  · intro execution h
    obtain ⟨details, uncertain, failed⟩ := CodexCalls.launch_uncertain troubled unconfirmed launched h
    exact uncertain.stops failed
  · exact CodexCalls.launch_returns troubled unconfirmed launched

/-- The termination has failed, and the process group is still there. -/
def strayReadings : CleanupReadings where
  method := "posix-process-group"
  terminated := false
  probes := [some true]
  terminatedAgain := some false
  forcedOutputClose := true
  outputError := true
  outputAlive := false
  workersStopped := true
  cancellations := [true, true, true]
  streamsClosed := true
  reaped := false
  active := some true
  duration := 15

def strayWorkers : WorkerReadings := ⟨"", "", .absent, .absent⟩

/-- Nothing has happened, and the workers are still running. -/
def quietLook (now : Rat) : MonitorLook := ⟨.start, false, false, .start, true, now⟩

def quietSample (now : Rat) : MonitorSample := ⟨quietLook now, quietLook now, false, none, none, none, none⟩

/-- The standard output of a process fails after a second. -/
def strayRunner : RunnerCalls where
  limits := ⟨exactArithmetic, 0, some 10⟩
  stdoutOpened := .ok ()
  stderrOpened := .ok ()
  launched := .ok ()
  contained := .ok ()
  streams := true
  single := false
  workersCreated := .ok ()
  readersStarted := .ok ()
  notice := .given
  inputStarted := .ok ()
  samples := [.ok { quietSample 1 with stdoutError := some "connection reset" }]
  ending := ⟨.ok true, false, .ok strayReadings, true, 0, .ok none, ⟨.start, 16⟩, strayWorkers⟩
  timeout := ⟨.ok strayReadings, ⟨.start, 16⟩, strayWorkers⟩
  communication := .finished 0 "" ""
  communicationSeconds := 1
  emergency := .ok strayReadings
  cleanup := .ok strayReadings
  startObserver := none
  capturesClosed := .ok true
  closedSeconds := 0
  returncode := none
  evidence := ⟨.start, 16⟩
  outcomeSeconds := 1
  workers := strayWorkers
  closed := .ok ()

def strayCalls : CodexCalls where
  request := exampleWriteRequest.executionRequest
  policy := exampleExecutionPolicy
  configuredExecutable := "codex"
  model := "gpt-5.5"
  reasoningEffort := "xhigh"
  repositoryPath := "/repo"
  outputSchemaPath := "/schemas/implementation-result.schema.json"
  projectConfigPath := "/repo/.codex/config.toml"
  configuredArgv := ["codex"]
  argv := ["/usr/bin/codex"]
  started := .utc 0 epoch_isInstant
  clock := .utc 16000000 (by decide)
  prepared := .ok ()
  projectConfig := false
  executable := some "/usr/bin/codex"
  outputWritten := .ok ()
  contextsOpened := .ok ()
  contextsClosed := .ok ()
  process := strayRunner.run.getD (.error (.raised ⟨.runtimeError, "the process goes on"⟩))
  processStarted := true
  transportSeconds := 0
  publication := .ok ⟨true, false, false⟩
  scratch := .unreadable ⟨.fileNotFoundError, "result.json"⟩
  diagnosticWritten := .ok ()
  loads _ := .error ⟨.jsonDecodeError, "Expecting value"⟩
  decodeProblem := Raised.message
  lower := id
  formatSeconds _ := "10"
  resultWritten := .ok ()
  references := .ok []
  executionWritten := .ok ()

/-- An implementation whose workspace is the same before and after. -/
def strayStage : StageRun :=
  let stage := exampleStageRun (exampleFailure .timeout .started (by decide))
  { stage with guarded := { stage.guarded with execution := strayCalls.execute } }

theorem unconfirmed_cleanup_stops_example :
    (∃ execution, strayCalls.execute = .ok execution ∧ StopsWritableWork execution) ∧
      (runImplementationStage exampleSha256 strayStage).map (fun result => result.outcome) = .ok .humanRequired := by
  obtain ⟨stops, returns⟩ := unconfirmed_cleanup_stops strayRunner strayCalls rfl
    ⟨rfl, by decide, rfl, rfl, rfl, rfl⟩ rfl
  obtain ⟨execution, returned⟩ := returns ⟨⟨_, rfl⟩, rfl, rfl, ⟨_, rfl⟩, rfl⟩
  exact ⟨⟨execution, returned, stops execution returned⟩, by decide +kernel⟩

end SprintTicket
