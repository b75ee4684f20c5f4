import SprintTicket.Attempts.Update
import SprintTicket.HandoffAcceptance

/-!
# Soundness of the handoff

`readPolicyRequest` is the reader behind the policy: it loads the ledger,
checks the execution evidence of every completed agent attempt, and reads the
verification and the review of the attempts it selects. The verification comes
through `readVerificationSourceFingerprint`, which selects its attempt by its
own search of the ledger.

`handoff_sound`: a request that this reader builds and the policy accepts says
the same thing about one ledger, `HandoffSound`.
-/

set_option autoImplicit false

namespace SprintTicket

open Checks Latest

/-- `_AGENT_TASK_BY_PHASE`. -/
def agentTaskByPhase : AttemptPhase → Option AgentTaskKind
  | .implementing => some .implementation
  | .reviewing => some .review
  | .correcting => some .correction
  | _ => none

/-- The fields `_handoff_attempt_evidence` copies. -/
def evidenceOf (record : AttemptRecord) : HandoffAttemptEvidence :=
  ⟨record.sequence, record.phase, record.status, record.beforeWorkspaceFingerprint,
    record.afterWorkspaceFingerprint⟩

/-- `_handoff_attempt_evidence`, with the constructor's text checks. -/
def handoffAttemptEvidence (record : AttemptRecord) : Except Raised HandoffAttemptEvidence := do
  raiseIf (record.beforeWorkspaceFingerprint = some "")
    ⟨.valueError, "attempt before_workspace_fingerprint must be a non-empty string or None."⟩
  raiseIf (record.afterWorkspaceFingerprint = some "")
    ⟨.valueError, "attempt after_workspace_fingerprint must be a non-empty string or None."⟩
  pure (evidenceOf record)

/-- The stage result of an agent attempt, as the type of its task. -/
def readTaskResult (kind : AgentTaskKind) (directory : RunDirectory) (attempt : AttemptRecord) :
    Except Raised (Option TaskResult) :=
  match kind with
  | .review => (readReviewResult directory attempt).map fun result => result.map .review
  | _ => (readImplementationResult directory attempt).map fun result => result.map .implementation

/-- A required optional value. -/
def orRaise {α : Type} (value : Option α) (error : Raised) : Except Raised α :=
  match value with
  | some a => .ok a
  | none => .error error

@[simp] theorem orRaise_ok {α : Type} {value : Option α} {error : Raised} {a : α} :
    orRaise value error = .ok a ↔ value = some a := by
  cases value <;> simp [orRaise]

/-- The checks `_agent_execution_evidence_problem` makes of one completed agent attempt. -/
def checkAgentAttempt (directory : RunDirectory) (policy : ResolvedRunPolicy) (kind : AgentTaskKind)
    (attempt : AttemptRecord) : Except Raised Unit := do
  raiseIf (attempt.executionPath ≠ some executionEvidenceFile)
    ⟨.valueError, "attempt does not reference neutral execution evidence"⟩
  directory.confined attempt.sequence
  let evidence ← directory.execution attempt.sequence
  let expected := policy.taskPolicy kind
  raiseIf (evidence.providerId ≠ expected.providerId)
    ⟨.valueError, "provider identity does not match resolved policy"⟩
  raiseIf (evidence.taskKind ≠ kind) ⟨.valueError, "task kind does not match the attempt phase"⟩
  raiseIf (evidence.repositoryAccess ≠ expected.repositoryAccess)
    ⟨.valueError, "repository access does not match resolved policy"⟩
  raiseIf (evidence.requiredCapabilities ≠ expected.requiredCapabilities)
    ⟨.valueError, "capabilities do not match resolved policy"⟩
  raiseIf (evidence.status ≠ .success ∨ evidence.invocationStart ≠ .started ∨ attempt.processStarted = false)
    ⟨.valueError, "completed agent attempt is not a started success"⟩
  let artifact ← orRaise evidence.typedResultArtifact
    ⟨.valueError, "typed result artifact reference is missing"⟩
  directory.artifactExists attempt.sequence artifact
  let stageResult ← readTaskResult kind directory attempt
  raiseIf (stageResult = none ∨ stageResult ≠ evidence.typedResult)
    ⟨.valueError, "typed stage result does not match neutral execution evidence"⟩

/-- `_agent_execution_evidence_problem`. -/
def agentExecutionEvidenceProblem (directory : RunDirectory) (policy : ResolvedRunPolicy) :
    List AttemptRecord → Except Raised (Option String)
  | [] => .ok none
  | attempt :: rest =>
    match agentTaskByPhase attempt.phase, attempt.status with
    | some kind, .completed => do
      let problem ← handling [.attemptError, .osError, .runtimeError, .typeError, .valueError]
        ((checkAgentAttempt directory policy kind attempt).map fun _ => none)
        (fun error => some
          s!"Agent execution evidence is invalid for attempt {attempt.sequence}: {error.message}")
      match problem with
      | some text => pure (some text)
      | none => agentExecutionEvidenceProblem directory policy rest
    | _, _ => agentExecutionEvidenceProblem directory policy rest

/-- The first part of `_read_policy_request`: the records, their evidence and
the problem of the attempts. -/
def readAttempts (directory : RunDirectory) (policy : ResolvedRunPolicy) :
    Except Raised (List AttemptRecord × List HandoffAttemptEvidence × Option String) :=
  handling [.attemptError, .osError, .typeError, .valueError]
    (do
      let ledger ← directory.ledger
      let attempts ← ledger.records.mapM handoffAttemptEvidence
      let problem ← agentExecutionEvidenceProblem directory policy ledger.records
      pure (ledger.records, attempts, problem))
    (fun error => ([], [], some ("Attempt evidence is invalid before human handoff: " ++ error.message)))

/-- The constructor of `VerificationHandoffEvidence`. -/
def VerificationHandoffEvidence.ofFields (sequence : Nat) (before : Option String) (after : String) :
    Except Raised VerificationHandoffEvidence :=
  match before with
  | some text =>
    if h : isSha256 text = true ∧ isSha256 after = true then .ok ⟨sequence, text, after, h⟩
    else .error ⟨.valueError, (if isSha256 text then "after" else "before") ++
      "_workspace_fingerprint must be a lowercase SHA-256 digest."⟩
  | none => .error ⟨.valueError, "before_workspace_fingerprint must be a lowercase SHA-256 digest."⟩

/-- The constructor of `ReviewHandoffEvidence`. -/
def ReviewHandoffEvidence.ofFields (sequence : Nat) (before after : Option String)
    (verdict : ReviewVerdict) : Except Raised ReviewHandoffEvidence :=
  if h : before.all isSha256 = true ∧ after.all isSha256 = true then
    .ok ⟨sequence, before, after, verdict, h⟩
  else .error ⟨.valueError, (if before.all isSha256 then "after" else "before") ++
    "_workspace_fingerprint must be a lowercase SHA-256 digest."⟩

/-- What the handoff requires of the verification result. -/
def handoffExpectation (record : RunFields) (cwd : String) : VerificationExpectation where
  expectedStatuses := [.pass]
  verificationCommands := record.resolvedPolicy.verificationCommands
  requireAllCommandsPass := true
  requireAuthoritativePass := true
  expectedCommandCwd := some cwd
  expectedRoundIndex := some record.currentCorrectionRound

/-- The verification part of `_read_policy_request`. -/
def readVerification (resolve : PathResolver) (directory : RunDirectory) (record : RunFields)
    (attempts : List HandoffAttemptEvidence) :
    Except Raised (Option VerificationHandoffEvidence × Option String) :=
  match latestEvidence attempts .verifying with
  | none =>
    .ok (none, some "Deterministic verification evidence is not passing: missing evidence.")
  | some attempt =>
    if attempt.status ≠ .completed then
      .ok (none, some "Deterministic verification evidence is incomplete.")
    else
      handling [.typeError, .valueError]
        (do
          let cwd ← resolve record.targetRepositoryPath
          let fingerprint ← readVerificationSourceFingerprint resolve directory
            (handoffExpectation record cwd) (some attempt.sequence)
          let evidence ← VerificationHandoffEvidence.ofFields attempt.sequence
            attempt.beforeWorkspaceFingerprint fingerprint
          pure (some evidence, none))
        (fun error =>
          (none, some ("Deterministic verification evidence is not passing: " ++ error.message)))

/-- The review part of `_read_policy_request`. -/
def readReview (directory : RunDirectory) (records : List AttemptRecord)
    (attempts : List HandoffAttemptEvidence) :
    Except Raised (Option ReviewHandoffEvidence × Option String) :=
  match latestEvidence attempts .reviewing with
  | none => .ok (none, some "Final independent review evidence is missing.")
  | some attempt =>
    if attempt.status ≠ .completed then
      .ok (none, some "Final independent review evidence is incomplete.")
    else
      handling [.attemptError, .osError, .persistenceCodecError, .resultValidationError, .typeError,
          .valueError]
        (do
          let source ← orRaise (records.find? fun item => item.sequence = attempt.sequence)
            ⟨.exception, ""⟩
          let result ← readReviewResult directory source
          let review ← orRaise result
            ⟨.persistenceCodecError, "Final independent review result artifact is missing."⟩
          let evidence ← ReviewHandoffEvidence.ofFields attempt.sequence
            attempt.beforeWorkspaceFingerprint attempt.afterWorkspaceFingerprint review.verdict
          pure (some evidence, none))
        (fun error => (none, some ("Final independent review evidence is invalid: " ++ error.message)))

/-- The checks of the `HandoffPolicyRequest` constructor. -/
def validatePolicyRequest (request : HandoffPolicyRequest) : Except Raised Unit := do
  raiseIf (request.expectedBranch = "") ⟨.valueError, "expected_branch must be a non-empty string."⟩
  raiseIf (request.expectedHeadSha = "") ⟨.valueError, "expected_head_sha must be a non-empty string."⟩
  raiseIf (request.attemptProblem.any isBlank)
    ⟨.valueError, "attempt_problem must be a non-empty string or None."⟩
  raiseIf (request.verificationProblem.any isBlank)
    ⟨.valueError, "verification_problem must be a non-empty string or None."⟩
  raiseIf (request.reviewProblem.any isBlank)
    ⟨.valueError, "review_problem must be a non-empty string or None."⟩

/-- Verification and review are read only when the attempts have no problem. -/
def unlessProblem {α : Type} (attemptProblem : Option String)
    (evidence : Except Raised (Option α × Option String)) : Except Raised (Option α × Option String) :=
  if attemptProblem = none then evidence else .ok (none, none)

/-- `_read_policy_request`. -/
def readPolicyRequest (resolve : PathResolver) (directory : RunDirectory) (record : RunFields)
    (workspace : WorkspaceSnapshot) : Except Raised HandoffPolicyRequest := do
  let (records, attempts, attemptProblem) ← readAttempts directory record.resolvedPolicy
  let (verification, verificationProblem) ←
    unlessProblem attemptProblem (readVerification resolve directory record attempts)
  let (review, reviewProblem) ← unlessProblem attemptProblem (readReview directory records attempts)
  let repositoryPath ← resolve record.targetRepositoryPath
  let request : HandoffPolicyRequest :=
    { repositoryPath, expectedBranch := record.startingBranch, expectedHeadSha := record.baselineSha
      currentCorrectionRound := record.currentCorrectionRound
      maxCorrectionRounds := record.maxCorrectionRounds
      currentReviewRound := record.currentReviewRound
      workspace := some workspace, attempts, verification, review, attemptProblem
      verificationProblem, reviewProblem }
  validatePolicyRequest request
  pure request

variable {resolve : PathResolver} {directory : RunDirectory}

/-- The evidence of an attempt repeats its record, with fingerprints that are not empty. -/
theorem handoffAttemptEvidence_ok {record : AttemptRecord} {evidence : HandoffAttemptEvidence} :
    handoffAttemptEvidence record = .ok evidence ↔
      record.beforeWorkspaceFingerprint ≠ some "" ∧ record.afterWorkspaceFingerprint ≠ some "" ∧
        evidence = evidenceOf record := by
  simp only [handoffAttemptEvidence, check_bind_ok, raiseIf_ok, pure_ok]
  constructor
  · rintro ⟨before, after, rfl⟩
    exact ⟨before, after, rfl⟩
  · rintro ⟨before, after, rfl⟩
    exact ⟨before, after, rfl⟩

theorem mapM_handoffAttemptEvidence {records : List AttemptRecord} {attempts : List HandoffAttemptEvidence}
    (h : records.mapM handoffAttemptEvidence = .ok attempts) : attempts = records.map evidenceOf := by
  induction records generalizing attempts with
  | nil => cases h; rfl
  | cons record records ih =>
    rw [List.mapM_cons, bind_ok_iff] at h
    obtain ⟨first, copied, h⟩ := h
    obtain ⟨others, rest, h⟩ := bind_ok_iff.mp h
    obtain ⟨_, _, rfl⟩ := handoffAttemptEvidence_ok.mp copied
    rw [← pure_ok.mp h, ih rest, List.map_cons]

/-- The attempts are those of the ledger, in its order. -/
theorem readAttempts_ok {policy : ResolvedRunPolicy} {records : List AttemptRecord}
    {attempts : List HandoffAttemptEvidence}
    (h : readAttempts directory policy = .ok (records, attempts, none)) :
    ∃ ledger, directory.ledger = .ok ledger ∧ records = ledger.records ∧
      attempts = ledger.records.map evidenceOf := by
  rcases handling_ok h with read | ⟨_, _, same⟩
  · obtain ⟨ledger, loaded, read⟩ := bind_ok_iff.mp read
    obtain ⟨copied, mapped, read⟩ := bind_ok_iff.mp read
    obtain ⟨problem, _, read⟩ := bind_ok_iff.mp read
    cases pure_ok.mp read
    exact ⟨ledger, loaded, rfl, mapM_handoffAttemptEvidence mapped⟩
  · cases same

/-- The verification that is read is the document of the latest verification. -/
theorem readVerification_ok {record : RunFields} {attempts : List HandoffAttemptEvidence}
    {evidence : VerificationHandoffEvidence}
    (h : readVerification resolve directory record attempts = .ok (some evidence, none)) :
    ∃ attempt cwd, latestEvidence attempts .verifying = some attempt ∧ attempt.status = .completed ∧
      readVerificationSourceFingerprint resolve directory (handoffExpectation record cwd)
        (some attempt.sequence) = .ok evidence.afterWorkspaceFingerprint := by
  unfold readVerification at h
  split at h
  · cases h
  · rename_i attempt found
    split at h
    · cases h
    · rename_i completed
      rcases handling_ok h with read | ⟨_, _, same⟩
      · obtain ⟨cwd, _, read⟩ := bind_ok_iff.mp read
        obtain ⟨fingerprint, source, read⟩ := bind_ok_iff.mp read
        obtain ⟨built, made, read⟩ := bind_ok_iff.mp read
        cases pure_ok.mp read
        refine ⟨attempt, cwd, found, not_not.mp completed, ?_⟩
        unfold VerificationHandoffEvidence.ofFields at made
        split at made
        · split at made
          · cases made; exact source
          · cases made
        · cases made
      · cases same

theorem readReview_ok {records : List AttemptRecord} {attempts : List HandoffAttemptEvidence}
    {evidence : ReviewHandoffEvidence}
    (h : readReview directory records attempts = .ok (some evidence, none)) :
    ∃ attempt source result, latestEvidence attempts .reviewing = some attempt ∧
      source ∈ records ∧ source.sequence = attempt.sequence ∧
      readReviewResult directory source = .ok (some result) ∧ result.verdict = evidence.verdict := by
  unfold readReview at h
  split at h
  · cases h
  · rename_i attempt found
    split at h
    · cases h
    · rcases handling_ok h with read | ⟨_, _, same⟩
      · obtain ⟨source, selected, read⟩ := bind_ok_iff.mp read
        obtain ⟨optional, loaded, read⟩ := bind_ok_iff.mp read
        obtain ⟨result, present, read⟩ := bind_ok_iff.mp read
        obtain ⟨built, made, read⟩ := bind_ok_iff.mp read
        cases pure_ok.mp read
        rw [orRaise_ok] at selected present
        rw [present] at loaded
        refine ⟨attempt, source, result, found, List.mem_of_find?_eq_some selected, ?_, loaded, ?_⟩
        · simpa using List.find?_some selected
        · unfold ReviewHandoffEvidence.ofFields at made
          split at made
          · cases made; rfl
          · cases made
      · cases same

/-- A request without an attempt problem, and where its parts come from. -/
structure RequestRead (resolve : PathResolver) (directory : RunDirectory) (record : RunFields)
    (workspace : WorkspaceSnapshot) (request : HandoffPolicyRequest) (ledger : AttemptLedger) : Prop where
  loaded : directory.ledger = .ok ledger
  attempts : request.attempts = ledger.records.map evidenceOf
  verification : readVerification resolve directory record (ledger.records.map evidenceOf) =
    .ok (request.verification, request.verificationProblem)
  review : readReview directory ledger.records (ledger.records.map evidenceOf) =
    .ok (request.review, request.reviewProblem)
  target : resolve record.targetRepositoryPath = .ok request.repositoryPath
  expected : request.expectedBranch = record.startingBranch ∧ request.expectedHeadSha = record.baselineSha
  rounds : request.currentCorrectionRound = record.currentCorrectionRound ∧
    request.maxCorrectionRounds = record.maxCorrectionRounds ∧
    request.currentReviewRound = record.currentReviewRound
  workspace : request.workspace = some workspace

theorem readPolicyRequest_ok {record : RunFields} {workspace : WorkspaceSnapshot}
    {request : HandoffPolicyRequest}
    (h : readPolicyRequest resolve directory record workspace = .ok request)
    (noProblem : request.attemptProblem = none) :
    ∃ ledger, RequestRead resolve directory record workspace request ledger := by
  obtain ⟨⟨records, attempts, attemptProblem⟩, readLedger, h⟩ := bind_ok_iff.mp h
  obtain ⟨⟨verification, verificationProblem⟩, verifying, h⟩ := bind_ok_iff.mp h
  obtain ⟨⟨review, reviewProblem⟩, reviewing, h⟩ := bind_ok_iff.mp h
  obtain ⟨target, resolved, h⟩ := bind_ok_iff.mp h
  obtain ⟨_, h⟩ := check_bind_ok.mp h
  obtain rfl := pure_ok.mp h
  obtain rfl : attemptProblem = none := noProblem
  rw [unlessProblem, if_pos rfl] at verifying reviewing
  obtain ⟨ledger, loaded, rfl, rfl⟩ := readAttempts_ok readLedger
  exact ⟨ledger, loaded, rfl, verifying, reviewing, resolved, ⟨rfl, rfl⟩, ⟨rfl, rfl, rfl⟩, rfl⟩

/-! ## Soundness -/

/-- What an accepted handoff establishes, about one ledger. -/
structure HandoffSound (sha256 : Sha256) (resolve : PathResolver) (directory : RunDirectory)
    (record : RunFields) (workspace : WorkspaceSnapshot) (ledger : AttemptLedger)
    (writable verified reviewed reporting : AttemptRecord) : Prop where
  loaded : directory.ledger = .ok ledger
  /-- The inspection is complete, on the recorded path, branch and HEAD, nothing staged. -/
  complete : workspace.inspectionComplete = true
  path : ∃ target, resolve record.targetRepositoryPath = .ok target ∧
    resolve target = .ok workspace.repositoryPath
  branch : workspace.branch = some record.startingBranch
  head : workspace.headSha = some record.baselineSha
  staging : workspace.stagedPaths = []
  /-- Every writable attempt is completed, and none that only reads ended badly. -/
  writableCompleted : ∀ attempt ∈ ledger.records, attempt.phase.writable = true →
    attempt.status = .completed
  readOnly : ∀ attempt ∈ ledger.records, attempt.phase.writable = false →
    attempt.status ≠ .failed ∧ attempt.status ≠ .humanRequired
  /-- The last writable, the latest verification and the latest review, in this order. -/
  isWritable : IsLatest (fun attempt => attempt.phase.writable = true) ledger.records writable
  isVerified : IsLatest (fun attempt => attempt.phase = .verifying) ledger.records verified
  isReviewed : IsLatest (fun attempt => attempt.phase = .reviewing) ledger.records reviewed
  isReporting : IsLatest (fun _ => True) ledger.records reporting
  reportingPhase : reporting.phase = .reporting
  statuses : verified.status = .completed ∧ reviewed.status = .completed ∧ reporting.status = .started
  order : writable.sequence < verified.sequence ∧ verified.sequence < reviewed.sequence ∧
    reviewed.sequence < reporting.sequence
  /-- All of them saw the current source. -/
  writableSource : writable.afterWorkspaceFingerprint = some (workspace.fingerprint sha256)
  verifiedSource : verified.beforeWorkspaceFingerprint = some (workspace.fingerprint sha256) ∧
    verified.afterWorkspaceFingerprint = some (workspace.fingerprint sha256)
  reviewedSource : reviewed.beforeWorkspaceFingerprint = some (workspace.fingerprint sha256) ∧
    reviewed.afterWorkspaceFingerprint = some (workspace.fingerprint sha256)
  /-- The result of that verification passes for the policy's commands in this round. -/
  verification : ∃ data, readVerificationResult directory verified = .ok data ∧
    PassingRound data record.resolvedPolicy.verificationCommands record.currentCorrectionRound
  /-- The result of that review is a pass. -/
  review : ∃ result, readReviewResult directory reviewed = .ok (some result) ∧ result.verdict = .pass
  corrections : (ledger.records.filter fun attempt => attempt.phase = .correcting).length =
    record.currentCorrectionRound
  rounds : record.currentCorrectionRound ≤ record.maxCorrectionRounds

theorem le_foldl_max (values : List Nat) (start : Nat) :
    start ≤ values.foldl max start ∧ ∀ value ∈ values, value ≤ values.foldl max start := by
  induction values generalizing start with
  | nil => simp
  | cons value values ih =>
    obtain ⟨larger, all⟩ := ih (max start value)
    rw [List.foldl_cons]
    refine ⟨by omega, fun other member => ?_⟩
    rcases List.mem_cons.mp member with rfl | member
    · omega
    · exact all other member

/-- No attempt is above the highest number. -/
theorem le_maxSequence {attempts : List HandoffAttemptEvidence} {attempt : HandoffAttemptEvidence}
    (member : attempt ∈ attempts) : attempt.sequence ≤ maxSequence attempts :=
  (le_foldl_max _ 0).2 _ (List.mem_map_of_mem member)

/-- A search over the copied evidence finds the record with the largest sequence. -/
theorem latest_evidence {ledger : AttemptLedger} {p : HandoffAttemptEvidence → Bool}
    {evidence : HandoffAttemptEvidence} (h : latest p (ledger.records.map evidenceOf) = some evidence) :
    ∃ record, IsLatest (fun r => p (evidenceOf r) = true) ledger.records record ∧
      evidenceOf record = evidence := by
  rw [latest_map, Option.map_eq_some_iff] at h
  obtain ⟨record, found, same⟩ := h
  exact ⟨record, ledger.isLatest_iff.mp found, same⟩

/-- The latest evidence of a phase is that of its latest attempt. -/
theorem latestEvidence_record {ledger : AttemptLedger} {phase : AttemptPhase}
    {evidence : HandoffAttemptEvidence}
    (h : latestEvidence (ledger.records.map evidenceOf) phase = some evidence) :
    ∃ record, IsLatest (fun r => r.phase = phase) ledger.records record ∧ evidenceOf record = evidence := by
  obtain ⟨record, isLatest, same⟩ := latest_evidence h
  exact ⟨record, isLatest.congr fun _ => decide_eq_true_iff, same⟩

/-- The verification reader searches the ledger on its own; an expected
sequence makes it find the same record. -/
theorem readVerification_source {record : RunFields} {ledger : AttemptLedger} {verified : AttemptRecord}
    {evidence : VerificationHandoffEvidence} (loaded : directory.ledger = .ok ledger)
    (isVerified : IsLatest (fun r => r.phase = .verifying) ledger.records verified)
    (found : latestEvidence (ledger.records.map evidenceOf) .verifying = some (evidenceOf verified))
    (h : readVerification resolve directory record (ledger.records.map evidenceOf) =
      .ok (some evidence, none)) :
    ∃ data, readVerificationResult directory verified = .ok data ∧
      PassingRound data record.resolvedPolicy.verificationCommands record.currentCorrectionRound := by
  obtain ⟨attempt, cwd, latestFound, _, source⟩ := readVerification_ok h
  obtain rfl : attempt = evidenceOf verified := Option.some.inj (latestFound.symm.trans found)
  obtain ⟨reloaded, chosen, data, again, selected, sameSequence, result, valid, _⟩ :=
    readVerificationSourceFingerprint_ok source
  obtain rfl := Except.ok.inj (loaded.symm.trans again)
  have same : chosen = verified :=
    ledger.sequence_injective (latest_some selected).1 isVerified.member (sameSequence _ rfl)
  rw [same] at result
  exact ⟨data, result, validateVerificationResult_ok rfl rfl rfl rfl valid⟩

/-- So does the review reader. -/
theorem readReview_source {ledger : AttemptLedger} {reviewed : AttemptRecord}
    {evidence : ReviewHandoffEvidence}
    (isReviewed : IsLatest (fun r => r.phase = .reviewing) ledger.records reviewed)
    (found : latestEvidence (ledger.records.map evidenceOf) .reviewing = some (evidenceOf reviewed))
    (h : readReview directory ledger.records (ledger.records.map evidenceOf) = .ok (some evidence, none)) :
    ∃ result, readReviewResult directory reviewed = .ok (some result) ∧
      result.verdict = evidence.verdict := by
  obtain ⟨attempt, source, result, latestFound, member, sameSequence, read, verdict⟩ := readReview_ok h
  obtain rfl : attempt = evidenceOf reviewed := Option.some.inj (latestFound.symm.trans found)
  have same : source = reviewed := ledger.sequence_injective member isReviewed.member sameSequence
  rw [same] at read
  exact ⟨result, read, verdict⟩

/-- **Handoff soundness.** A request that `readPolicyRequest` builds and the
policy accepts describes a ledger in which source, verification and review of
the current workspace follow each other. -/
theorem handoff_sound {sha256 : Sha256} {resolve : PathResolver} {directory : RunDirectory}
    {record : RunRecord} {workspace : WorkspaceSnapshot} {request : HandoffPolicyRequest}
    (read : readPolicyRequest resolve directory record.toRunFields workspace = .ok request)
    (accepted : evaluateHandoffPolicy sha256 resolve request = .ok none) :
    ∃ ledger writable verified reviewed reporting,
      HandoffSound sha256 resolve directory record.toRunFields workspace ledger writable verified
        reviewed reporting := by
  obtain ⟨snapshot, reportingEvidence, writableEvidence, verifiedEvidence, reviewedEvidence, verification,
    review, policy⟩ := checkHandoffPolicy_ok.mp ((evaluateHandoffPolicy_accepts sha256 resolve).mp accepted)
  obtain ⟨noProblem, workspaceOk, attemptsOk, verificationOk, reviewOk, _⟩ := policy
  obtain ⟨ledger, requested⟩ := readPolicyRequest_ok read noProblem
  obtain rfl : workspace = snapshot := Option.some.inj (requested.workspace.symm.trans workspaceOk.present)
  -- Positions in the copied evidence are records of the ledger.
  have copied : ∀ attempt ∈ ledger.records, evidenceOf attempt ∈ request.attempts := by
    rw [requested.attempts]
    exact fun attempt => List.mem_map_of_mem
  have foundVerified := requested.attempts ▸ verificationOk.attempt
  have foundReviewed := requested.attempts ▸ reviewOk.attempt
  obtain ⟨writable, isWritable, rfl⟩ := latest_evidence (requested.attempts ▸ attemptsOk.isWritable)
  obtain ⟨verified, isVerified, rfl⟩ := latestEvidence_record foundVerified
  obtain ⟨reviewed, isReviewed, rfl⟩ := latestEvidence_record foundReviewed
  obtain ⟨reporting, isReporting, rfl⟩ :=
    latestEvidence_record (requested.attempts ▸ attemptsOk.isReporting)
  -- The readers used the same records.
  have verificationRead := requested.verification
  rw [verificationOk.present, verificationOk.noProblem] at verificationRead
  have reviewRead := requested.review
  rw [reviewOk.present, reviewOk.noProblem] at reviewRead
  obtain ⟨reviewResult, readResult, sameVerdict⟩ := readReview_source isReviewed foundReviewed reviewRead
  -- All fingerprints are the one of the current workspace.
  obtain ⟨after, writableAfter, matchesWritable⟩ := attemptsOk.source
  obtain ⟨_, rfl⟩ := (workspace.matchesFingerprint_iff sha256).mp matchesWritable
  obtain ⟨_, beforeSource⟩ := (workspace.matchesFingerprint_iff sha256).mp verificationOk.matchesBefore
  obtain ⟨_, afterSource⟩ := (workspace.matchesFingerprint_iff sha256).mp verificationOk.matchesAfter
  have verifiedBefore := verificationOk.before
  have verifiedAfter := verificationOk.after
  have reviewedBefore := reviewOk.before.trans reviewOk.sourceBefore
  have reviewedAfter := reviewOk.after.trans reviewOk.sourceAfter
  rw [← beforeSource] at verifiedBefore
  rw [← afterSource] at verifiedAfter reviewedBefore reviewedAfter
  obtain ⟨sameBranch, sameHead⟩ := requested.expected
  obtain ⟨sameRound, sameLimit, _⟩ := requested.rounds
  refine ⟨ledger, writable, verified, reviewed, reporting,
    { loaded := requested.loaded, complete := workspaceOk.complete
      path := ⟨_, requested.target, workspaceOk.path⟩
      branch := sameBranch ▸ workspaceOk.branch, head := sameHead ▸ workspaceOk.head
      staging := workspaceOk.staging
      writableCompleted := fun attempt member => attemptsOk.writableCompleted _ (copied attempt member)
      readOnly := fun attempt member => attemptsOk.readOnly _ (copied attempt member)
      isWritable, isVerified, isReviewed, isReporting := ?_
      reportingPhase := isReporting.holds
      statuses := ⟨verificationOk.completed, reviewOk.completed, attemptsOk.reportingStarted⟩
      order := ⟨?_, ?_, ?_⟩
      writableSource := writableAfter, verifiedSource := ⟨verifiedBefore, verifiedAfter⟩
      reviewedSource := ⟨reviewedBefore, reviewedAfter⟩
      verification := readVerification_source requested.loaded isVerified foundVerified verificationRead
      review := ⟨reviewResult, readResult, sameVerdict.trans reviewOk.verdict⟩
      corrections := ?_
      rounds := by rw [← sameRound, ← sameLimit]; exact attemptsOk.rounds }⟩
  · refine ⟨isReporting.member, trivial, fun other member _ => ?_⟩
    have largest := le_maxSequence (copied other member)
    rw [← attemptsOk.reportingMax] at largest
    exact largest
  · have later := verificationOk.afterWritable
    rw [← verificationOk.sequence] at later
    exact later
  · have later := reviewOk.afterVerification
    rw [← verificationOk.sequence, ← reviewOk.sequence] at later
    exact later
  · have earlier := reviewOk.beforeReporting
    rw [← reviewOk.sequence] at earlier
    exact earlier
  · have counted := attemptsOk.corrections
    rw [requested.attempts, List.filter_map, List.length_map, sameRound] at counted
    exact counted

def exampleRecord : RunRecord where
  runId := "r1"
  ticketId := "APP-1"
  originalTicketPath := "/tickets/app-1.md"
  runTicketCopyPath := "/runs/r1/ticket.md"
  state := .reporting
  startingBranch := "main"
  baselineSha := "4b825dc642cb6eb9a060e54bf8d69288fbee4904"
  currentCorrectionRound := 0
  currentReviewRound := 1
  resolvedPolicy := examplePolicy
  terminalReason := none
  stopReason := none
  createdTimestamp := "2026-01-01T00:00:00Z"
  updatedTimestamp := "2026-01-01T00:10:00Z"
  valid := by decide

/-- An attempt of the example run; the finished ones saw the example workspace. -/
def exampleAttempt (sequence : Nat) (phase : AttemptPhase) (status : AttemptStatus)
    (before after : Option String) (agent : Bool) : AttemptFields where
  sequence
  phase
  status
  beforeWorkspaceFingerprint := before
  afterWorkspaceFingerprint := after
  processStarted := agent
  startedAt := ⟨"2026-01-01T00:01:00Z"⟩
  endedAt := if status = .started then none else some ⟨"2026-01-01T00:02:00Z"⟩
  resultPath := (phaseDefinition phase).resultArtifactName
  executionPath := if agent then some executionEvidenceFile else none
  metadata := .empty
  artifactDirectory := "/runs/r1/attempts/" ++ directoryName sequence phase

def exampleLedger : AttemptLedger where
  records :=
    [⟨exampleAttempt 1 .implementing .completed (some emptySha256) (some exampleFingerprint) true, by decide⟩,
      ⟨exampleAttempt 2 .verifying .completed (some exampleFingerprint) (some exampleFingerprint) false,
        by decide⟩,
      ⟨exampleAttempt 3 .reviewing .completed (some exampleFingerprint) (some exampleFingerprint) true,
        by decide⟩,
      ⟨exampleAttempt 4 .reporting .started (some exampleFingerprint) none false, by decide⟩]
  increasing := by decide

def exampleReview : ReviewResult := ⟨.pass, "Fine.", [], by decide, by simp⟩

/-- The evidence of one started and successful task. -/
def exampleEvidence (attemptId : String) (kind : AgentTaskKind) (result : TaskResult) :
    ExecutionEvidenceFields where
  executionId := attemptId ++ ":" ++ kind.value
  attemptId
  providerId := exampleProvider
  taskKind := kind
  repositoryAccess := taskRepositoryAccess kind
  requiredCapabilities := requiredExecutionCapabilities (taskRepositoryAccess kind)
  startedAt := .utc 0 epoch_isInstant
  endedAt := .utc 0 epoch_isInstant
  durationSeconds := 0
  status := .success
  invocationStart := .started
  typedResult := some result
  failureCategory := none
  failureMessage := none
  typedResultArtifact := some (exampleResultArtifact "attempts/result.json" (by decide))
  artifacts := []
  providerMetadata := []

/-- The verification round of the example run. -/
def exampleRound : List (String × Json) :=
  [("schema_version", .int 1), ("format", .str "ticket_automation.verification_round"),
    ("round_index", .int 0), ("status", .str "PASS"), ("started_at", .str "2026-01-01T00:01:00Z"),
    ("ended_at", .str "2026-01-01T00:02:00Z"), ("duration_seconds", .float 60),
    ("safety_violations", .arr []), ("correction_reasons", .arr []),
    ("commands", .arr [.obj [("name", .str "tests"), ("argv", .arr [.str "pytest", .str "-q"]),
      ("cwd", .str "/repo"), ("status", .str "PASS"), ("exit_code", .int 0), ("error_kind", .null),
      ("error_message", .null), ("started_at", .str "2026-01-01T00:01:00Z"),
      ("ended_at", .str "2026-01-01T00:02:00Z"), ("duration_seconds", .float 60), ("stdout", .str "ok"),
      ("stderr", .str "")]])]

def exampleDirectory : RunDirectory where
  ledger := .ok exampleLedger
  confined _ := .ok ()
  resultFile
    | 1 => .json (encodeImplementationResult exampleImplementation)
    | 2 => .json (.obj exampleRound)
    | 3 => .json (encodeReviewResult exampleReview)
    | _ => .missing ⟨.osError, "No such file or directory"⟩
  execution
    | 1 => ExecutionEvidence.ofFields
        (exampleEvidence "001-implementation" .implementation (.implementation exampleImplementation))
    | 3 => ExecutionEvidence.ofFields (exampleEvidence "003-review" .review (.review exampleReview))
    | _ => .error ⟨.osError, "No such file or directory"⟩
  artifactExists _ _ := .ok ()

/-- The example run is accepted, and its handoff is sound. -/
theorem handoff_sound_example :
    ∃ ledger writable verified reviewed reporting,
      HandoffSound exampleSha256 .ok exampleDirectory exampleRecord.toRunFields exampleWorkspace ledger
        writable verified reviewed reporting := by
  have outcome : (readPolicyRequest .ok exampleDirectory exampleRecord.toRunFields exampleWorkspace >>=
      evaluateHandoffPolicy exampleSha256 .ok) = .ok none := by
    decide +kernel
  obtain ⟨request, read, accepted⟩ := bind_ok_iff.mp outcome
  exact handoff_sound read accepted

end SprintTicket
