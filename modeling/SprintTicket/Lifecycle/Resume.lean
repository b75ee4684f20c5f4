import SprintTicket.Baseline
import SprintTicket.HandoffSoundness
import SprintTicket.Lifecycle.Contracts

/-!
# The resume gate

A resumed run is driven only when `resumePreflightProblem` and `resumeProblem`
both return no problem. The two functions inspect the workspace on their own,
and so does the baseline check with the ledger: `ResumeGate` collects what all
of them establish together.
-/

set_option autoImplicit false

namespace SprintTicket

open Checks

/-- `if problem is None: problem = next`. -/
def orProblem (problem next : Except Raised (Option String)) : Except Raised (Option String) := do
  match ← problem with
  | some text => pure (some text)
  | none => next

@[simp] theorem orProblem_none {problem next : Except Raised (Option String)} :
    orProblem problem next = .ok none ↔ problem = .ok none ∧ next = .ok none := by
  unfold orProblem
  rw [bind_ok_iff]
  constructor
  · rintro ⟨found, evaluated, rest⟩
    cases found with
    | some text => cases rest
    | none => exact ⟨evaluated, rest⟩
  · rintro ⟨evaluated, rest⟩
    exact ⟨none, evaluated, rest⟩

/-- The run directory and the target repository as a resume meets them. The two
captures are made one after the other. -/
structure ResumeSources extends BaselineSources where
  runPath : String
  baselineIsFile : Except Raised Bool
  ticketIsFile : Except Raised Bool
  baselineFile : ArtifactFile
  repositoryExists : Except Raised Bool
  isRepository : Except Raised Bool
  /-- `WorkspaceSnapshot.capture` in `resume_preflight_problem`. -/
  preflightCapture : Except Raised WorkspaceSnapshot
  /-- `WorkspaceSnapshot.capture` in `_workspace_fingerprint_problem`. -/
  resumeCapture : Except Raised WorkspaceSnapshot

def ResumeSources.baselinePath (sources : ResumeSources) : String := sources.runPath ++ "/baseline.json"

def ResumeSources.ticketPath (sources : ResumeSources) : String := sources.runPath ++ "/ticket.md"

/-- `load_baseline_record_for_owner`. -/
def ResumeSources.loadBaseline (sources : ResumeSources) : Except Raised BaselineRecord :=
  sources.readDescendant (loadBaselineRecord sources.baselineFile)

section Gate

variable (sha256 : Sha256) (ticketDigest : TicketDigest) (resolve : PathResolver)
  (commands : List VerificationCommand) (sources : ResumeSources) (record : RunRecord)

/-- The baseline and the ticket are there, and the baseline can be read. -/
def checkBaselineArtifacts : Except ProblemStop BaselineRecord := do
  unguarded sources.owned
  let baselineExists ← unguarded (sources.readDescendant sources.baselineIsFile)
  problemIf (baselineExists = false) ("Required baseline artifact is missing: " ++ sources.baselinePath)
  let ticketExists ← unguarded (sources.readDescendant sources.ticketIsFile)
  problemIf (ticketExists = false)
    ("Required snapshotted ticket artifact is missing: " ++ sources.ticketPath)
  problemOn [.runError] (fun error => "Baseline artifact is not internally consistent: " ++ error.message)
    sources.loadBaseline

/-- The record, the ticket and the configuration agree with the baseline. -/
def checkBaselineAgreement (baseline : BaselineRecord) : Except ProblemStop Unit := do
  problemIf (baseline.branch ≠ record.startingBranch)
    "Run record and baseline artifact disagree on starting branch."
  problemIf (baseline.headSha ≠ record.baselineSha)
    "Run record and baseline artifact disagree on baseline HEAD."
  problemIf (baseline.cleanWorktree = false ∨ baseline.hasStagedFiles = true)
    "Recorded repository baseline is not clean."
  let contents ← problemOn [.osError]
    (fun error => "Could not inspect snapshotted ticket artifact: " ++ error.message)
    (sources.readDescendant sources.ticketContents)
  problemIf (ticketDigest contents ≠ baseline.ticketSha256)
    "Snapshotted ticket no longer matches the recorded ticket baseline."
  problemIf (verificationCommandsFingerprint sha256 commands ≠ baseline.verificationCommandsFingerprint)
    ("Configured verification_commands_fingerprint no longer matches the " ++ "recorded baseline.")

/-- The repository is there, on the recorded branch and HEAD with nothing staged. -/
def checkRepository (baseline : BaselineRecord) : Except ProblemStop Unit := do
  let path := pathString record.targetRepositoryPath
  let found ← unguarded sources.repositoryExists
  problemIf (found = false) ("Target repository no longer exists: " ++ path)
  let isRepository ← problemOn [.osError]
    (fun error => "Could not inspect target repository: " ++ error.message) sources.isRepository
  problemIf (isRepository = false) ("Target path is no longer a Git repository: " ++ path)
  let snapshot ← problemOn [.gitCommandError, .osError, .runtimeError, .valueError]
    (fun error => "Could not inspect current workspace for safe resume: " ++ error.message)
    sources.preflightCapture
  problemIf (snapshot.inspectionComplete = false)
    "Could not inspect current workspace for safe resume completely."
  problemIf (snapshot.branch ≠ some record.startingBranch)
    "Current branch no longer matches the recorded run baseline."
  problemIf (snapshot.headSha ≠ some record.baselineSha)
    "Current HEAD no longer matches the recorded run baseline."
  problemIf (snapshot.stagedPaths ≠ [])
    "Current workspace has staged files; human inspection is required."
  problemIf ((record.state = .preparing ∨ record.state = .prepared) ∧
      snapshot.matchesFingerprint sha256 baseline.workspaceFingerprint = false)
    "Current workspace no longer matches the recorded clean baseline."

/-- The baseline verification, which a run that is still preparing does not have. -/
def checkBaselineEvidence (baseline : BaselineRecord) : Except ProblemStop Unit :=
  if record.state = .preparing then .ok ()
  else do
    let problem ← unguarded (baselineVerificationEvidenceProblem sha256 ticketDigest resolve
      sources.toBaselineSources baseline commands)
    match problem with
    | some text => .error (.problem text)
    | none => .ok ()

/-- The body of `resume_preflight_problem`. -/
def checkResumePreflight : Except ProblemStop Unit := do
  unguarded sources.owned
  let _ ← problemOn [.attemptError] (fun error => "Attempt evidence is invalid: " ++ error.message)
    sources.directory.ledger
  let baseline ← checkBaselineArtifacts sources
  checkBaselineAgreement sha256 ticketDigest commands sources record baseline
  checkRepository sha256 sources record baseline
  checkBaselineEvidence sha256 ticketDigest resolve commands sources record baseline

/-- `resume_preflight_problem`. -/
def resumePreflightProblem : Except Raised (Option String) :=
  returnedProblem (checkResumePreflight sha256 ticketDigest resolve commands sources record)

/-- `_workspace_fingerprint_problem`. -/
def checkWorkspaceFingerprint (expected description : String) : Except ProblemStop Unit := do
  let current ← problemOn [.osError, .runtimeError, .valueError]
    (fun error => "Could not inspect current workspace for safe resume: " ++ error.message)
    sources.resumeCapture
  problemIf (current.inspectionComplete = false)
    "Could not inspect current workspace for safe resume completely."
  problemIf (current.matchesFingerprint sha256 expected = false)
    ("Current workspace no longer matches " ++ description ++ ".")

/-- The newest writable attempt that was started and never finished. -/
def interruptedWritable (ledger : AttemptLedger) : Option AttemptRecord :=
  latestAttempt AttemptPhase.writable (fun status => status = .started) ledger.records

/-- The checks on writable work that a crash may have cut short. -/
def checkInterruptedWritable (ledger : AttemptLedger) : Except ProblemStop Unit := do
  match interruptedWritable ledger with
  | some attempt =>
    .error (.problem ("Writable " ++ (phaseDefinition attempt.phase).displayName ++ " attempt " ++
      toString attempt.sequence ++ " was interrupted before completion; " ++
      "the working tree may contain partial source modifications."))
  | none =>
    match phaseForActiveState record.state with
    | some phase =>
      problemIf ((phaseDefinition phase).automaticallyRetryInterrupted = false)
        ("Writable " ++ (phaseDefinition phase).displayName ++ " was interrupted before completion; the " ++
          "working tree may contain partial source modifications.")
    | none => .ok ()

/-- The fingerprint the last completed writable attempt left. -/
def completedWritableFingerprint (ledger : AttemptLedger) : Option String := do
  let attempt ← latestWritableAttempt ledger.records
  attempt.afterWorkspaceFingerprint

/-- The body of `resume_problem`. -/
def checkResume : Except ProblemStop Unit := do
  unguarded sources.owned
  let ledger ← unguarded sources.directory.ledger
  checkInterruptedWritable record ledger
  if record.state = .preparing ∨ record.state = .prepared then
    let baseline ← unguarded sources.loadBaseline
    checkWorkspaceFingerprint sha256 sources baseline.workspaceFingerprint "the recorded clean baseline"
  else if (phaseForActiveState record.state).any
      (fun phase => (phaseDefinition phase).automaticallyRetryInterrupted) ∨
      record.state = .correctionPending then
    match completedWritableFingerprint ledger with
    | none => .error (.problem "No completed writable attempt has a workspace fingerprint.")
    | some expected =>
      checkWorkspaceFingerprint sha256 sources expected "the most recent completed writable attempt"
  else .error (.problem ("Run state is not resumable in V1: " ++ record.state.value))

/-- `resume_problem`. -/
def resumeProblem : Except Raised (Option String) := returnedProblem (checkResume sha256 sources record)

/-- How `_resume_ticket_lifecycle_locked` goes on. -/
inductive ResumeOutcome
  | ownershipLost (error : Raised)
  | alreadyTerminal
  /-- `_mark_human_required`. -/
  | humanRequired (reason : String)
  /-- `_controller_failure_result`. -/
  | controllerFailure (message : String)
  /-- `drive_safely`: only here stages are dispatched. -/
  | driven
deriving DecidableEq

/-- The `try` block that looks for a problem. -/
def findResumeProblem (compatibilityProblem : Except Raised (Option String)) : Except Raised (Option String) := do
  let problem ← orProblem compatibilityProblem
    (orProblem (resumePreflightProblem sha256 ticketDigest resolve commands sources record)
      (resumeProblem sha256 sources record))
  sources.owned
  pure problem

/-- The `try` block around `create_executors`; what `drive_safely` returns is
not looked at here. -/
def resumeDrive (createExecutors : Except Raised Unit) : Except Raised ResumeOutcome :=
  match createExecutors with
  | .ok () => .ok .driven
  | .error error =>
    if error.isinstance .configError then .ok (.humanRequired error.message)
    else if error.isinstance .runError then .ok (.controllerFailure error.message)
    else if error.isinstance .exception then
      .ok (.controllerFailure ("Internal TicketAutomation exception during resume: " ++ error.cls.name ++ ": " ++
        error.message))
    else .error error

/-- The decision after the first ownership check. -/
def resumeActive (compatibilityProblem : Except Raised (Option String)) (createExecutors : Except Raised Unit) :
    Except Raised ResumeOutcome :=
  match findResumeProblem sha256 ticketDigest resolve commands sources record compatibilityProblem with
  | .error error =>
    if error.isinstance .runOwnershipError then .ok (.ownershipLost error) else .error error
  | .ok (some problem) => .ok (.humanRequired problem)
  | .ok none => resumeDrive createExecutors

/-- `_resume_ticket_lifecycle_locked`. -/
def resumeTicketLifecycleLocked (compatibilityProblem : Except Raised (Option String))
    (createExecutors : Except Raised Unit) : Except Raised ResumeOutcome :=
  match sources.owned with
  | .error error =>
    if error.isinstance .runOwnershipError then .ok (.ownershipLost error) else .error error
  | .ok () =>
    if record.state.terminal then .ok .alreadyTerminal
    else resumeActive sha256 ticketDigest resolve commands sources record compatibilityProblem createExecutors

end Gate

/-! ## What a driven resume found -/

section Found

variable {sha256 : Sha256} {ticketDigest : TicketDigest} {resolve : PathResolver}
  {commands : List VerificationCommand} {sources : ResumeSources} {record : RunRecord}

/-- The baseline fixes the ticket, the commands, the branch and HEAD. -/
structure BaselineAgrees (sha256 : Sha256) (ticketDigest : TicketDigest) (commands : List VerificationCommand)
    (sources : ResumeSources) (record : RunRecord) (baseline : BaselineRecord) : Prop where
  branch : record.startingBranch = baseline.branch
  head : record.baselineSha = baseline.headSha
  ticket : ∃ contents, sources.ticketContents = .ok contents ∧ ticketDigest contents = baseline.ticketSha256
  commands : verificationCommandsFingerprint sha256 commands = baseline.verificationCommandsFingerprint

/-- The captured workspace is complete and on the baseline's branch and HEAD,
with nothing staged. -/
structure OnBaseline (baseline : BaselineRecord) (snapshot : WorkspaceSnapshot) : Prop where
  complete : snapshot.inspectionComplete = true
  branch : snapshot.branch = some baseline.branch
  head : snapshot.headSha = some baseline.headSha
  staging : snapshot.stagedPaths = []

/-- The baseline is loaded before anything is compared with it. -/
theorem checkBaselineArtifacts_ok {baseline : BaselineRecord}
    (h : checkBaselineArtifacts sources = .ok baseline) : sources.loadBaseline = .ok baseline := by
  obtain ⟨_, h⟩ := check_bind_ok.mp h
  obtain ⟨baselineExists, _, h⟩ := bind_ok_iff.mp h
  obtain ⟨_, h⟩ := check_bind_ok.mp h
  obtain ⟨ticketExists, _, h⟩ := bind_ok_iff.mp h
  obtain ⟨_, h⟩ := check_bind_ok.mp h
  exact problemOn_ok.mp h

/-- Each part of the gate, as the facts it establishes. -/
theorem checkBaselineAgreement_ok {baseline : BaselineRecord}
    (h : checkBaselineAgreement sha256 ticketDigest commands sources record baseline = .ok ()) :
    BaselineAgrees sha256 ticketDigest commands sources record baseline := by
  obtain ⟨branch, h⟩ := check_bind_ok.mp h
  obtain ⟨head, h⟩ := check_bind_ok.mp h
  obtain ⟨_, h⟩ := check_bind_ok.mp h
  obtain ⟨contents, read, h⟩ := bind_ok_iff.mp h
  obtain ⟨ticket, h⟩ := check_bind_ok.mp h
  simp only [problemIf_ok, not_not] at branch head ticket h
  have read : sources.ticketContents = .ok contents := (BaselineSources.readDescendant_ok.mp (problemOn_ok.mp read)).2
  exact { branch := branch.symm, head := head.symm, ticket := ⟨contents, read, ticket⟩, commands := h }

theorem checkRepository_ok {baseline : BaselineRecord}
    (agrees : BaselineAgrees sha256 ticketDigest commands sources record baseline)
    (h : checkRepository sha256 sources record baseline = .ok ()) :
    ∃ snapshot, sources.preflightCapture = .ok snapshot ∧ OnBaseline baseline snapshot ∧
      (record.state = .preparing ∨ record.state = .prepared →
        snapshot.fingerprint sha256 = baseline.workspaceFingerprint) := by
  obtain ⟨found, _, h⟩ := bind_ok_iff.mp h
  obtain ⟨_, h⟩ := check_bind_ok.mp h
  obtain ⟨isRepository, _, h⟩ := bind_ok_iff.mp h
  obtain ⟨_, h⟩ := check_bind_ok.mp h
  obtain ⟨snapshot, captured, h⟩ := bind_ok_iff.mp h
  simp only [check_bind_ok, problemIf_ok, not_not, Bool.not_eq_false, not_and] at h
  obtain ⟨complete, branch, head, staging, clean⟩ := h
  refine ⟨snapshot, problemOn_ok.mp captured, ⟨complete, ?_, ?_, staging⟩, fun state => ?_⟩
  · rw [branch, agrees.branch]
  · rw [head, agrees.head]
  · exact ((WorkspaceSnapshot.matchesFingerprint_iff sha256).mp (clean state)).2

theorem checkBaselineEvidence_ok {baseline : BaselineRecord}
    (h : checkBaselineEvidence sha256 ticketDigest resolve commands sources record baseline = .ok ())
    (state : record.state ≠ .preparing) :
    ∃ ledger attempt data, sources.directory.ledger = .ok ledger ∧
      BaselineVerified sources.directory ledger baseline commands attempt data := by
  unfold checkBaselineEvidence at h
  rw [if_neg state] at h
  obtain ⟨problem, evaluated, h⟩ := bind_ok_iff.mp h
  cases problem with
  | some text => cases h
  | none => exact baselineVerificationEvidenceProblem_none (unguarded_ok.mp evaluated)

/-- The workspace is inspected completely and has the expected fingerprint. -/
theorem checkWorkspaceFingerprint_ok {expected description : String}
    (h : checkWorkspaceFingerprint sha256 sources expected description = .ok ()) :
    ∃ current, sources.resumeCapture = .ok current ∧ current.inspectionComplete = true ∧
      current.fingerprint sha256 = expected := by
  obtain ⟨current, captured, h⟩ := bind_ok_iff.mp h
  obtain ⟨_, h⟩ := check_bind_ok.mp h
  rw [problemIf_ok, Bool.not_eq_false, WorkspaceSnapshot.matchesFingerprint_iff] at h
  exact ⟨current, problemOn_ok.mp captured, h.1, h.2⟩

/-- No writable attempt is left started, and the state does not write. -/
theorem checkInterruptedWritable_ok {ledger : AttemptLedger}
    (h : checkInterruptedWritable record ledger = .ok ()) :
    (∀ attempt ∈ ledger.records, attempt.phase.writable = true → attempt.status ≠ .started) ∧
      record.state ≠ .implementing ∧ record.state ≠ .correcting := by
  unfold checkInterruptedWritable at h
  cases found : interruptedWritable ledger with
  | some attempt =>
    rw [found] at h
    cases h
  | none =>
    rw [found] at h
    constructor
    · intro attempt member writable started
      have absent := Latest.latest_eq_none.mp found attempt member
      simp [writable, started] at absent
    · constructor <;> intro state <;> simp [state, phaseForActiveState, AttemptPhase.all, phaseDefinition] at h

/-- The states in which a run is resumed, and what each asks of the workspace. -/
structure WorkspaceExpected (sha256 : Sha256) (record : RunRecord) (baseline : BaselineRecord)
    (ledger : AttemptLedger) (current : WorkspaceSnapshot) : Prop where
  resumable : record.state ∈ [.preparing, .prepared, .verifying, .reviewing, .reporting, .correctionPending]
  complete : current.inspectionComplete = true
  clean : record.state = .preparing ∨ record.state = .prepared →
    current.fingerprint sha256 = baseline.workspaceFingerprint
  written : record.state ∈ [.verifying, .reviewing, .reporting, .correctionPending] →
    ∃ attempt, IsLatest (fun item => item.phase.writable = true ∧ item.status = .completed) ledger.records attempt ∧
      attempt.afterWorkspaceFingerprint = some (current.fingerprint sha256)

theorem latestWritableAttempt_iff {ledger : AttemptLedger} {attempt : AttemptRecord} :
    latestWritableAttempt ledger.records = some attempt ↔
      IsLatest (fun item => item.phase.writable = true ∧ item.status = .completed) ledger.records attempt := by
  rw [latestWritableAttempt, latestAttempt, ledger.isLatest_iff]
  constructor
  · intro h
    exact h.congr fun other => by simp
  · intro h
    exact h.congr fun other => by simp

theorem completedWritableFingerprint_some {ledger : AttemptLedger} {expected : String}
    (h : completedWritableFingerprint ledger = some expected) :
    ∃ attempt, IsLatest (fun item => item.phase.writable = true ∧ item.status = .completed) ledger.records attempt ∧
      attempt.afterWorkspaceFingerprint = some expected := by
  obtain ⟨attempt, latest, recorded⟩ := Option.bind_eq_some_iff.mp h
  exact ⟨attempt, latestWritableAttempt_iff.mp latest, recorded⟩

theorem checkResume_ok {baseline : BaselineRecord} (loaded : sources.loadBaseline = .ok baseline)
    (h : checkResume sha256 sources record = .ok ()) :
    ∃ ledger current, sources.directory.ledger = .ok ledger ∧ sources.resumeCapture = .ok current ∧
      (∀ attempt ∈ ledger.records, attempt.phase.writable = true → attempt.status ≠ .started) ∧
      WorkspaceExpected sha256 record baseline ledger current := by
  obtain ⟨_, h⟩ := check_bind_ok.mp h
  obtain ⟨ledger, read, h⟩ := bind_ok_iff.mp h
  obtain ⟨interrupted, h⟩ := check_bind_ok.mp h
  obtain ⟨finished, notImplementing, notCorrecting⟩ := checkInterruptedWritable_ok interrupted
  by_cases early : record.state = .preparing ∨ record.state = .prepared
  · rw [if_pos early] at h
    obtain ⟨again, reloaded, h⟩ := bind_ok_iff.mp h
    obtain rfl : baseline = again := Except.ok.inj (loaded.symm.trans (unguarded_ok.mp reloaded))
    obtain ⟨current, captured, complete, same⟩ := checkWorkspaceFingerprint_ok h
    refine ⟨ledger, current, unguarded_ok.mp read, captured, finished, ?_, complete, fun _ => same, ?_⟩
    · rcases early with state | state <;> simp [state]
    · rcases early with state | state <;> simp [state]
  · rw [if_neg early] at h
    split at h
    · rename_i resumable
      cases found : completedWritableFingerprint ledger with
      | none =>
        rw [found] at h
        cases h
      | some expected =>
        rw [found] at h
        obtain ⟨current, captured, complete, rfl⟩ := checkWorkspaceFingerprint_ok h
        refine ⟨ledger, current, unguarded_ok.mp read, captured, finished, ?_, complete,
          fun state => absurd state early, fun _ => completedWritableFingerprint_some found⟩
        cases state : record.state <;>
          simp_all [phaseForActiveState, AttemptPhase.all, phaseDefinition]
    · cases h

/-- **The resume gate.** What the run directory and the workspace contain when
a resume goes on to dispatch stages. -/
structure ResumeGate (sha256 : Sha256) (ticketDigest : TicketDigest) (commands : List VerificationCommand)
    (sources : ResumeSources) (record : RunRecord) (ledger : AttemptLedger) (baseline : BaselineRecord)
    (snapshot current : WorkspaceSnapshot) : Prop where
  loaded : sources.directory.ledger = .ok ledger
  finished : ∀ attempt ∈ ledger.records, attempt.phase.writable = true → attempt.status ≠ .started
  decoded : loadBaselineRecord sources.baselineFile = .ok baseline
  agrees : BaselineAgrees sha256 ticketDigest commands sources record baseline
  preflight : sources.preflightCapture = .ok snapshot
  resume : sources.resumeCapture = .ok current
  onBaseline : OnBaseline baseline snapshot
  cleanBefore : record.state = .preparing ∨ record.state = .prepared →
    snapshot.fingerprint sha256 = baseline.workspaceFingerprint
  workspace : WorkspaceExpected sha256 record baseline ledger current
  verified : record.state ≠ .preparing →
    ∃ attempt data, BaselineVerified sources.directory ledger baseline commands attempt data

/-- Both functions together find no problem only at the gate. -/
theorem resumeGate_of_noProblem
    (preflight : checkResumePreflight sha256 ticketDigest resolve commands sources record = .ok ())
    (resume : checkResume sha256 sources record = .ok ()) :
    ∃ ledger baseline snapshot current,
      ResumeGate sha256 ticketDigest commands sources record ledger baseline snapshot current := by
  obtain ⟨_, h⟩ := check_bind_ok.mp preflight
  obtain ⟨first, readFirst, h⟩ := bind_ok_iff.mp h
  obtain ⟨baseline, artifacts, h⟩ := bind_ok_iff.mp h
  obtain ⟨agreement, h⟩ := check_bind_ok.mp h
  obtain ⟨repository, evidence⟩ := check_bind_ok.mp h
  have loaded := checkBaselineArtifacts_ok artifacts
  have agrees := checkBaselineAgreement_ok agreement
  obtain ⟨snapshot, captured, onBaseline, cleanBefore⟩ := checkRepository_ok agrees repository
  obtain ⟨ledger, current, read, again, finished, workspace⟩ := checkResume_ok loaded resume
  refine ⟨ledger, baseline, snapshot, current,
    { loaded := read, finished := finished, decoded := (BaselineSources.readDescendant_ok.mp loaded).2
      agrees := agrees, preflight := captured, resume := again, onBaseline := onBaseline
      cleanBefore := cleanBefore, workspace := workspace, verified := fun state => ?_ }⟩
  obtain ⟨other, attempt, data, same, verified⟩ := checkBaselineEvidence_ok evidence state
  obtain rfl : ledger = other := Except.ok.inj (read.symm.trans same)
  exact ⟨attempt, data, verified⟩

/-- No problem was found when every check passed. -/
theorem findResumeProblem_none {compatibilityProblem : Except Raised (Option String)}
    (h : findResumeProblem sha256 ticketDigest resolve commands sources record compatibilityProblem = .ok none) :
    checkResumePreflight sha256 ticketDigest resolve commands sources record = .ok () ∧
      checkResume sha256 sources record = .ok () := by
  obtain ⟨problem, found, h⟩ := bind_ok_iff.mp h
  obtain ⟨_, h⟩ := check_bind_ok.mp h
  obtain rfl : problem = none := pure_ok.mp h
  obtain ⟨_, found⟩ := orProblem_none.mp found
  obtain ⟨preflight, resume⟩ := orProblem_none.mp found
  exact ⟨returnedProblem_none.mp preflight, returnedProblem_none.mp resume⟩

/-- A run that is driven on had no problem of either check. -/
theorem driven_noProblem {compatibilityProblem : Except Raised (Option String)} {createExecutors : Except Raised Unit}
    (h : resumeTicketLifecycleLocked sha256 ticketDigest resolve commands sources record compatibilityProblem
      createExecutors = .ok .driven) :
    checkResumePreflight sha256 ticketDigest resolve commands sources record = .ok () ∧
      checkResume sha256 sources record = .ok () := by
  unfold resumeTicketLifecycleLocked at h
  split at h
  · split at h <;> cases h
  · split at h
    · cases h
    · unfold resumeActive at h
      split at h
      · split at h <;> cases h
      · cases h
      · rename_i noProblem
        exact findResumeProblem_none noProblem

/-- **Soundness of the resume gate.** -/
theorem driven_resume_passed_gate {compatibilityProblem : Except Raised (Option String)}
    {createExecutors : Except Raised Unit}
    (h : resumeTicketLifecycleLocked sha256 ticketDigest resolve commands sources record compatibilityProblem
      createExecutors = .ok .driven) :
    ∃ ledger baseline snapshot current,
      ResumeGate sha256 ticketDigest commands sources record ledger baseline snapshot current := by
  obtain ⟨preflight, resume⟩ := driven_noProblem h
  exact resumeGate_of_noProblem preflight resume

end Found

/-- SHA-256 on the texts of the example run. -/
def exampleRunSha256 : Sha256 where
  hexdigest text :=
    if text = dumpsList (examplePolicy.verificationCommands.map dumpsCommand) then exampleCommandsDigest
    else exampleSha256.hexdigest text
  hexdigest_isSha256 text := by
    split
    · decide
    · exact exampleSha256.hexdigest_isSha256 text

/-- SHA-256 on the bytes of the example ticket. -/
def exampleTicketDigest (contents : List UInt8) : String :=
  if contents = [65, 80, 80, 45, 49] then exampleTicketSha256 else emptySha256

/-- A verification cut short after a completed preparation and implementation. -/
def exampleInterruptedLedger : AttemptLedger where
  records :=
    [⟨exampleAttempt 1 .preparing .completed (some exampleCleanFingerprint) (some exampleCleanFingerprint) false,
        by decide⟩,
      ⟨exampleAttempt 2 .implementing .completed (some exampleCleanFingerprint) (some exampleFingerprint) true,
        by decide⟩,
      ⟨exampleAttempt 3 .verifying .started (some exampleFingerprint) none false, by decide⟩]
  increasing := by decide

def exampleInterruptedRecord : RunRecord :=
  { exampleRecord with
    state := .verifying
    currentReviewRound := 0
    valid := by decide }

/-- The example run as a resume finds it. -/
def exampleResumeSources : ResumeSources where
  directory :=
    { exampleDirectory with
      ledger := .ok exampleInterruptedLedger
      resultFile
        | 1 => .json (.obj exampleRound)
        | _ => .missing ⟨.osError, "No such file or directory"⟩ }
  owned := .ok ()
  ticketContents := .ok [65, 80, 80, 45, 49]
  runPath := "/runs/r1"
  baselineIsFile := .ok true
  ticketIsFile := .ok true
  baselineFile := .json (.obj
    [("schema_version", .int 2), ("format", .str "ticket_automation.baseline"), ("repository_path", .str "/repo"),
      ("branch", .str "main"), ("head_sha", .str "4b825dc642cb6eb9a060e54bf8d69288fbee4904"),
      ("clean_worktree", .bool true), ("has_staged_files", .bool false), ("staging_status", .str "clean"),
      ("ticket_sha256", .str exampleTicketSha256),
      ("verification_commands_fingerprint", .str exampleCommandsDigest),
      ("workspace_fingerprint", .str exampleCleanFingerprint),
      ("snapshot_timestamp", .str "2026-01-01T00:00:00Z")])
  repositoryExists := .ok true
  isRepository := .ok true
  preflightCapture := .ok exampleWorkspace
  resumeCapture := .ok exampleWorkspace

/-- The example run is driven on, through the gate. -/
theorem driven_resume_passed_gate_example :
    ∃ ledger baseline snapshot current,
      ResumeGate exampleRunSha256 exampleTicketDigest examplePolicy.verificationCommands exampleResumeSources
        exampleInterruptedRecord ledger baseline snapshot current := by
  have driven : resumeTicketLifecycleLocked exampleRunSha256 exampleTicketDigest .ok
      examplePolicy.verificationCommands exampleResumeSources exampleInterruptedRecord (.ok none) (.ok ()) =
      .ok .driven := by decide +kernel
  exact driven_resume_passed_gate driven

end SprintTicket
