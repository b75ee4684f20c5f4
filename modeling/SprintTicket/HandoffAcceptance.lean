import SprintTicket.GitSafety
import SprintTicket.VerificationEvidence

/-!
# Final handoff acceptance

`readPolicyRequest` collects the evidence of a run in its REPORTING state, and
`evaluateHandoffPolicy` applies the ordered rejection rules to it. The rules
look at tuple positions (the last writable attempt, the latest verification);
`checkHandoffPolicy_ok` turns them into one conjunction over the collected
evidence, and `handoff_sound` reads that conjunction over the ledger, where
positions and sequence numbers agree.
-/

set_option autoImplicit false

namespace SprintTicket

open Checks Latest

structure VerificationHandoffEvidence where
  attemptSequence : Nat
  beforeWorkspaceFingerprint : String
  afterWorkspaceFingerprint : String
  fingerprints : isSha256 beforeWorkspaceFingerprint = true ∧ isSha256 afterWorkspaceFingerprint = true

structure ReviewHandoffEvidence where
  attemptSequence : Nat
  beforeWorkspaceFingerprint : Option String
  afterWorkspaceFingerprint : Option String
  verdict : ReviewVerdict
  fingerprints : beforeWorkspaceFingerprint.all isSha256 = true ∧ afterWorkspaceFingerprint.all isSha256 = true

structure HandoffAttemptEvidence where
  sequence : Nat
  phase : AttemptPhase
  status : AttemptStatus
  beforeWorkspaceFingerprint : Option String
  afterWorkspaceFingerprint : Option String
deriving DecidableEq, Repr

structure HandoffPolicyRequest where
  repositoryPath : String
  expectedBranch : String
  expectedHeadSha : String
  currentCorrectionRound : Nat
  maxCorrectionRounds : Nat
  currentReviewRound : Nat
  workspace : Option WorkspaceSnapshot
  attempts : List HandoffAttemptEvidence
  verification : Option VerificationHandoffEvidence
  review : Option ReviewHandoffEvidence
  attemptProblem : Option String
  verificationProblem : Option String
  reviewProblem : Option String

structure HandoffPolicyProblem where
  stopCategory : StopCategory
  reason : String
deriving DecidableEq

/-- Why a policy evaluation ends before its last rule. -/
inductive PolicyStop
  | raised (error : Raised)
  | rejected (reason : String)

/-- `if condition: return reject(reason)`. -/
def rejectIf (condition : Prop) [Decidable condition] (reason : String) : Except PolicyStop Unit :=
  raiseIf condition (.rejected reason)

/-- The rejection of a missing value. -/
def orReject {α : Type} (value : Option α) (reason : String) : Except PolicyStop α :=
  match value with
  | some a => .ok a
  | none => .error (.rejected reason)

@[simp] theorem rejectIf_ok {condition : Prop} [Decidable condition] {reason : String} {r : Unit} :
    rejectIf condition reason = .ok r ↔ ¬condition :=
  raiseIf_ok

@[simp] theorem orReject_ok {α : Type} {value : Option α} {reason : String} {a : α} :
    orReject value reason = .ok a ↔ value = some a := by
  cases value <;> simp [orReject]

/-- A pending problem of the evidence. -/
def rejectProblem (problem : Option String) : Except PolicyStop Unit :=
  match problem with
  | some reason => .error (.rejected reason)
  | none => .ok ()

@[simp] theorem rejectProblem_ok {problem : Option String} {r : Unit} :
    rejectProblem problem = .ok r ↔ problem = none := by
  cases problem <;> simp [rejectProblem]

/-- `_latest_attempt`. -/
def latestEvidence (attempts : List HandoffAttemptEvidence) (phase : AttemptPhase) :
    Option HandoffAttemptEvidence :=
  latest (fun item => item.phase = phase) attempts

/-- `max(item.sequence for item in attempts)`. -/
def maxSequence (attempts : List HandoffAttemptEvidence) : Nat :=
  (attempts.map HandoffAttemptEvidence.sequence).foldl max 0

def writableEvidence (attempts : List HandoffAttemptEvidence) : List HandoffAttemptEvidence :=
  attempts.filter fun item => item.phase.writable

section Policy

variable (sha256 : Sha256) (resolve : PathResolver)

/-- The workspace rules: a complete inspection on the recorded path, branch and
HEAD with nothing staged. -/
def checkWorkspace (request : HandoffPolicyRequest) : Except PolicyStop WorkspaceSnapshot := do
  let workspace ← orReject request.workspace
    "Repository safety invariants were violated before human handoff."
  rejectIf (workspace.inspectionComplete = false)
    "Repository safety invariants were violated before human handoff."
  let path ← (resolve request.repositoryPath).mapError .raised
  rejectIf (workspace.repositoryPath ≠ path) "Repository path changed before human handoff."
  rejectIf (workspace.branch ≠ some request.expectedBranch)
    "Repository branch changed before human handoff."
  rejectIf (workspace.headSha ≠ some request.expectedHeadSha)
    "Repository HEAD changed before human handoff."
  rejectIf (workspace.stagedPaths ≠ []) "Repository has staged changes before human handoff."
  pure workspace

/-- The rules about the reporting attempt, the writable attempts and the rounds. -/
def checkAttempts (request : HandoffPolicyRequest) (workspace : WorkspaceSnapshot) :
    Except PolicyStop (HandoffAttemptEvidence × HandoffAttemptEvidence) := do
  rejectIf (request.currentCorrectionRound > request.maxCorrectionRounds)
    "Correction-round evidence is contradictory before human handoff."
  let reporting ← orReject (latestEvidence request.attempts .reporting)
    "Final handoff attempt is missing or incomplete."
  rejectIf (reporting.status ≠ .started) "Final handoff attempt is missing or incomplete."
  rejectIf (reporting.sequence ≠ maxSequence request.attempts)
    "Final handoff attempt is not the current attempt."
  rejectIf (writableEvidence request.attempts = [])
    "No completed writable attempt has a workspace fingerprint."
  rejectIf (∃ item ∈ writableEvidence request.attempts, item.status ≠ .completed)
    "Writable attempt evidence is incomplete before human handoff."
  let writable ← orReject (writableEvidence request.attempts).getLast?
    "No completed writable attempt has a workspace fingerprint."
  rejectIf (writable.status ≠ .completed) "No completed writable attempt has a workspace fingerprint."
  let after ← orReject writable.afterWorkspaceFingerprint
    "No completed writable attempt has a workspace fingerprint."
  rejectIf (workspace.matchesFingerprint sha256 after = false)
    "Current workspace no longer matches the completed writable attempt."
  rejectIf (∃ item ∈ request.attempts,
      (item.status = .failed ∨ item.status = .humanRequired) ∧ item.phase.writable = false)
    "Read-only attempt evidence contains a terminal outcome before human handoff."
  rejectIf ((request.attempts.filter fun item => item.phase = .correcting).length ≠
      request.currentCorrectionRound)
    "Correction-round evidence is contradictory before human handoff."
  pure (reporting, writable)

/-- The rules about the verification evidence. -/
def checkVerification (request : HandoffPolicyRequest) (workspace : WorkspaceSnapshot)
    (writable : HandoffAttemptEvidence) : Except PolicyStop VerificationHandoffEvidence := do
  rejectProblem request.verificationProblem
  let verification ← orReject request.verification
    "Deterministic verification evidence is not passing: missing evidence."
  let attempt ← orReject (latestEvidence request.attempts .verifying)
    "Deterministic verification evidence is not passing: missing evidence."
  rejectIf (attempt.status ≠ .completed) "Deterministic verification evidence is incomplete."
  rejectIf (attempt.sequence ≠ verification.attemptSequence)
    "Deterministic verification evidence is stale for the final source."
  rejectIf (attempt.beforeWorkspaceFingerprint ≠ some verification.beforeWorkspaceFingerprint ∨
      attempt.afterWorkspaceFingerprint ≠ some verification.afterWorkspaceFingerprint)
    "Deterministic verification evidence is contradictory."
  rejectIf (verification.attemptSequence ≤ writable.sequence)
    "Deterministic verification evidence is stale for the final source."
  rejectIf (workspace.matchesFingerprint sha256 verification.beforeWorkspaceFingerprint = false ∨
      workspace.matchesFingerprint sha256 verification.afterWorkspaceFingerprint = false)
    "Deterministic verification evidence is stale for the final source."
  pure verification

/-- The rules about the review evidence. -/
def checkReview (request : HandoffPolicyRequest) (reporting : HandoffAttemptEvidence)
    (verification : VerificationHandoffEvidence) : Except PolicyStop ReviewHandoffEvidence := do
  rejectProblem request.reviewProblem
  let review ← orReject request.review "Final independent review evidence is missing."
  let attempt ← orReject (latestEvidence request.attempts .reviewing)
    "Final independent review evidence is missing."
  rejectIf (attempt.status ≠ .completed) "Final independent review evidence is incomplete."
  rejectIf (attempt.sequence ≠ review.attemptSequence) "Final independent review evidence is stale."
  rejectIf (attempt.beforeWorkspaceFingerprint ≠ review.beforeWorkspaceFingerprint ∨
      attempt.afterWorkspaceFingerprint ≠ review.afterWorkspaceFingerprint)
    "Final independent review evidence is contradictory."
  rejectIf (review.verdict ≠ .pass) "Final independent review did not pass."
  rejectIf (review.attemptSequence ≤ verification.attemptSequence)
    "Final independent review evidence is stale."
  rejectIf (review.attemptSequence ≥ reporting.sequence)
    "Final independent review evidence is contradictory."
  rejectIf (review.beforeWorkspaceFingerprint ≠ some verification.afterWorkspaceFingerprint ∨
      review.afterWorkspaceFingerprint ≠ some verification.afterWorkspaceFingerprint)
    "Final independent review did not pass for the verified final source."
  rejectIf (request.currentReviewRound < 1 ∨
      (request.attempts.filter fun item => item.phase = .reviewing && item.status = .completed).length <
        request.currentReviewRound)
    "Review-round evidence is contradictory before human handoff."
  pure review

/-- The rules of `evaluate_handoff_policy`, in the order of the source. -/
def checkHandoffPolicy (request : HandoffPolicyRequest) : Except PolicyStop Unit := do
  rejectProblem request.attemptProblem
  let workspace ← checkWorkspace resolve request
  let (reporting, writable) ← checkAttempts sha256 request workspace
  let verification ← checkVerification sha256 request workspace writable
  let review ← checkReview request reporting verification
  let latestNonReporting ← orReject (latest (fun item => item.phase ≠ .reporting) request.attempts)
    "Attempt completion evidence is stale or contradictory."
  rejectIf (latestNonReporting.sequence ≠ review.attemptSequence)
    "Attempt completion evidence is stale or contradictory."

/-- `evaluate_handoff_policy`; `none` accepts. -/
def evaluateHandoffPolicy (request : HandoffPolicyRequest) :
    Except Raised (Option HandoffPolicyProblem) :=
  match checkHandoffPolicy sha256 resolve request with
  | .ok () => .ok none
  | .error (.rejected reason) => .ok (some ⟨.safetyViolation, reason⟩)
  | .error (.raised error) => .error error

/-- The policy accepts when every check passes. -/
theorem evaluateHandoffPolicy_accepts {request : HandoffPolicyRequest} :
    evaluateHandoffPolicy sha256 resolve request = .ok none ↔
      checkHandoffPolicy sha256 resolve request = .ok () := by
  unfold evaluateHandoffPolicy
  split <;> simp_all

/-! ## What acceptance means -/

variable {sha256 resolve}

/-- The workspace rules passed. -/
structure WorkspaceAccepted (resolve : PathResolver) (request : HandoffPolicyRequest)
    (workspace : WorkspaceSnapshot) : Prop where
  present : request.workspace = some workspace
  complete : workspace.inspectionComplete = true
  path : resolve request.repositoryPath = .ok workspace.repositoryPath
  branch : workspace.branch = some request.expectedBranch
  head : workspace.headSha = some request.expectedHeadSha
  staging : workspace.stagedPaths = []

/-- Each check, as the facts it establishes. -/
theorem checkWorkspace_ok {request : HandoffPolicyRequest} {workspace : WorkspaceSnapshot} :
    checkWorkspace resolve request = .ok workspace ↔ WorkspaceAccepted resolve request workspace := by
  constructor
  · intro h
    obtain ⟨found, present, h⟩ := bind_ok_iff.mp h
    obtain ⟨complete, h⟩ := check_bind_ok.mp h
    obtain ⟨path, resolved, h⟩ := bind_ok_iff.mp h
    simp only [check_bind_ok, rejectIf_ok, not_not, pure_ok] at complete h
    obtain ⟨samePath, branch, head, staging, rfl⟩ := h
    refine ⟨orReject_ok.mp present, by simpa using complete, ?_, branch, head, staging⟩
    cases resolution : resolve request.repositoryPath with
    | error error => rw [resolution] at resolved; cases resolved
    | ok value => rw [resolution] at resolved; cases resolved; rw [samePath]
  · rintro ⟨present, complete, path, branch, head, staging⟩
    refine bind_ok_iff.mpr ⟨workspace, orReject_ok.mpr present, ?_⟩
    refine check_bind_ok.mpr ⟨by simp [complete], bind_ok_iff.mpr ⟨workspace.repositoryPath, ?_, ?_⟩⟩
    · rw [path]; rfl
    · simp only [check_bind_ok, rejectIf_ok, not_not, pure_ok]
      exact ⟨trivial, branch, head, staging, trivial⟩

/-- The rules about the reporting and the writable attempts passed. -/
structure AttemptsAccepted (sha256 : Sha256) (request : HandoffPolicyRequest)
    (workspace : WorkspaceSnapshot) (reporting writable : HandoffAttemptEvidence) : Prop where
  rounds : request.currentCorrectionRound ≤ request.maxCorrectionRounds
  isReporting : latestEvidence request.attempts .reporting = some reporting
  reportingStarted : reporting.status = .started
  reportingMax : reporting.sequence = maxSequence request.attempts
  writableCompleted : ∀ item ∈ request.attempts, item.phase.writable = true → item.status = .completed
  isWritable : latest (fun item => item.phase.writable) request.attempts = some writable
  source : ∃ after, writable.afterWorkspaceFingerprint = some after ∧
    workspace.matchesFingerprint sha256 after = true
  readOnly : ∀ item ∈ request.attempts, item.phase.writable = false →
    item.status ≠ .failed ∧ item.status ≠ .humanRequired
  corrections : (request.attempts.filter fun item => item.phase = .correcting).length =
    request.currentCorrectionRound

theorem checkAttempts_ok {request : HandoffPolicyRequest} {workspace : WorkspaceSnapshot}
    {reporting writable : HandoffAttemptEvidence} :
    checkAttempts sha256 request workspace = .ok (reporting, writable) ↔
      AttemptsAccepted sha256 request workspace reporting writable := by
  constructor
  · intro h
    obtain ⟨rounds, h⟩ := check_bind_ok.mp h
    obtain ⟨_, found, h⟩ := bind_ok_iff.mp h
    simp only [check_bind_ok, rejectIf_ok, not_not] at h
    obtain ⟨started, maximal, _, completed, h⟩ := h
    obtain ⟨last, lastWritable, h⟩ := bind_ok_iff.mp h
    obtain ⟨_, h⟩ := check_bind_ok.mp h
    obtain ⟨after, recorded, h⟩ := bind_ok_iff.mp h
    simp only [check_bind_ok, rejectIf_ok, not_not, pure_ok, Prod.mk.injEq, orReject_ok] at *
    obtain ⟨matching, readOnly, corrections, rfl, rfl⟩ := h
    rw [writableEvidence, getLast?_filter] at lastWritable
    refine
      { rounds := by omega, isReporting := found, reportingStarted := started, reportingMax := maximal
        writableCompleted := ?_, isWritable := lastWritable
        source := ⟨after, recorded, by simpa using matching⟩, readOnly := ?_, corrections }
    · intro item member isWritable
      by_contra other
      exact completed ⟨item, List.mem_filter.mpr ⟨member, isWritable⟩, other⟩
    · intro item member isReadOnly
      constructor
      · exact fun failed => readOnly ⟨item, member, .inl failed, isReadOnly⟩
      · exact fun human => readOnly ⟨item, member, .inr human, isReadOnly⟩
  · rintro ⟨rounds, found, started, maximal, completed, last, ⟨after, recorded, matching⟩, readOnly, corrections⟩
    have lastWritable : (writableEvidence request.attempts).getLast? = some writable := by
      rw [writableEvidence, getLast?_filter]
      exact last
    obtain ⟨member, isWritable⟩ := latest_some last
    refine check_bind_ok.mpr ⟨rejectIf_ok.mpr (by omega), bind_ok_iff.mpr ⟨reporting, orReject_ok.mpr found, ?_⟩⟩
    refine check_bind_ok.mpr ⟨rejectIf_ok.mpr (by simp [started]), ?_⟩
    refine check_bind_ok.mpr ⟨rejectIf_ok.mpr (by simp [maximal]), ?_⟩
    refine check_bind_ok.mpr ⟨rejectIf_ok.mpr ?_, ?_⟩
    · intro none
      rw [none] at lastWritable
      cases lastWritable
    refine check_bind_ok.mpr ⟨rejectIf_ok.mpr ?_, ?_⟩
    · rintro ⟨item, inside, incomplete⟩
      obtain ⟨member, isWritable⟩ := List.mem_filter.mp inside
      exact incomplete (completed item member isWritable)
    refine bind_ok_iff.mpr ⟨writable, orReject_ok.mpr lastWritable, ?_⟩
    refine check_bind_ok.mpr ⟨rejectIf_ok.mpr (by simp [completed writable member isWritable]), ?_⟩
    refine bind_ok_iff.mpr ⟨after, orReject_ok.mpr recorded, ?_⟩
    refine check_bind_ok.mpr ⟨rejectIf_ok.mpr (by simp [matching]), ?_⟩
    refine check_bind_ok.mpr ⟨rejectIf_ok.mpr ?_, ?_⟩
    · rintro ⟨item, inside, stopped | stopped, isReadOnly⟩
      · exact (readOnly item inside isReadOnly).1 stopped
      · exact (readOnly item inside isReadOnly).2 stopped
    exact check_bind_ok.mpr ⟨rejectIf_ok.mpr (by simpa using corrections), rfl⟩

/-- The rules about the verification evidence passed. -/
structure VerificationAccepted (sha256 : Sha256) (request : HandoffPolicyRequest)
    (workspace : WorkspaceSnapshot) (writable verified : HandoffAttemptEvidence)
    (verification : VerificationHandoffEvidence) : Prop where
  noProblem : request.verificationProblem = none
  present : request.verification = some verification
  attempt : latestEvidence request.attempts .verifying = some verified
  completed : verified.status = .completed
  sequence : verified.sequence = verification.attemptSequence
  before : verified.beforeWorkspaceFingerprint = some verification.beforeWorkspaceFingerprint
  after : verified.afterWorkspaceFingerprint = some verification.afterWorkspaceFingerprint
  afterWritable : writable.sequence < verification.attemptSequence
  matchesBefore : workspace.matchesFingerprint sha256 verification.beforeWorkspaceFingerprint = true
  matchesAfter : workspace.matchesFingerprint sha256 verification.afterWorkspaceFingerprint = true

theorem checkVerification_ok {request : HandoffPolicyRequest} {workspace : WorkspaceSnapshot}
    {writable : HandoffAttemptEvidence} {verification : VerificationHandoffEvidence} :
    checkVerification sha256 request workspace writable = .ok verification ↔
      ∃ verified, VerificationAccepted sha256 request workspace writable verified verification := by
  constructor
  · intro h
    obtain ⟨noProblem, h⟩ := check_bind_ok.mp h
    obtain ⟨_, present, h⟩ := bind_ok_iff.mp h
    obtain ⟨attempt, found, h⟩ := bind_ok_iff.mp h
    simp only [check_bind_ok, rejectIf_ok, not_or, not_not, Bool.not_eq_false, pure_ok, rejectProblem_ok,
      orReject_ok] at *
    obtain ⟨completed, sequence, ⟨before, after⟩, later, ⟨matchesBefore, matchesAfter⟩, rfl⟩ := h
    exact ⟨attempt, noProblem, present, found, completed, sequence, before, after, by omega,
      matchesBefore, matchesAfter⟩
  · rintro ⟨verified, accepted⟩
    refine check_bind_ok.mpr ⟨rejectProblem_ok.mpr accepted.noProblem, ?_⟩
    refine bind_ok_iff.mpr ⟨verification, orReject_ok.mpr accepted.present, ?_⟩
    refine bind_ok_iff.mpr ⟨verified, orReject_ok.mpr accepted.attempt, ?_⟩
    simp only [check_bind_ok, rejectIf_ok, not_or, not_not, Bool.not_eq_false, pure_ok, not_le]
    exact ⟨accepted.completed, accepted.sequence, ⟨accepted.before, accepted.after⟩,
      accepted.afterWritable, ⟨accepted.matchesBefore, accepted.matchesAfter⟩, trivial⟩

/-- The rules about the review evidence passed. -/
structure ReviewAccepted (request : HandoffPolicyRequest) (reporting reviewed : HandoffAttemptEvidence)
    (verification : VerificationHandoffEvidence) (review : ReviewHandoffEvidence) : Prop where
  noProblem : request.reviewProblem = none
  present : request.review = some review
  attempt : latestEvidence request.attempts .reviewing = some reviewed
  completed : reviewed.status = .completed
  sequence : reviewed.sequence = review.attemptSequence
  before : reviewed.beforeWorkspaceFingerprint = review.beforeWorkspaceFingerprint
  after : reviewed.afterWorkspaceFingerprint = review.afterWorkspaceFingerprint
  verdict : review.verdict = .pass
  afterVerification : verification.attemptSequence < review.attemptSequence
  beforeReporting : review.attemptSequence < reporting.sequence
  sourceBefore : review.beforeWorkspaceFingerprint = some verification.afterWorkspaceFingerprint
  sourceAfter : review.afterWorkspaceFingerprint = some verification.afterWorkspaceFingerprint
  round : 1 ≤ request.currentReviewRound
  reviews : request.currentReviewRound ≤
    (request.attempts.filter fun item => item.phase = .reviewing && item.status = .completed).length

theorem checkReview_ok {request : HandoffPolicyRequest} {reporting : HandoffAttemptEvidence}
    {verification : VerificationHandoffEvidence} {review : ReviewHandoffEvidence} :
    checkReview request reporting verification = .ok review ↔
      ∃ reviewed, ReviewAccepted request reporting reviewed verification review := by
  constructor
  · intro h
    obtain ⟨noProblem, h⟩ := check_bind_ok.mp h
    obtain ⟨_, present, h⟩ := bind_ok_iff.mp h
    obtain ⟨attempt, found, h⟩ := bind_ok_iff.mp h
    simp only [check_bind_ok, rejectIf_ok, not_or, not_not, not_le, not_lt, pure_ok, rejectProblem_ok,
      orReject_ok] at *
    obtain ⟨completed, sequence, ⟨before, after⟩, verdict, later, earlier, ⟨sourceBefore, sourceAfter⟩,
      ⟨round, reviews⟩, rfl⟩ := h
    exact ⟨attempt, noProblem, present, found, completed, sequence, before, after, verdict, later, by omega,
      sourceBefore, sourceAfter, round, reviews⟩
  · rintro ⟨reviewed, accepted⟩
    refine check_bind_ok.mpr ⟨rejectProblem_ok.mpr accepted.noProblem, ?_⟩
    refine bind_ok_iff.mpr ⟨review, orReject_ok.mpr accepted.present, ?_⟩
    refine bind_ok_iff.mpr ⟨reviewed, orReject_ok.mpr accepted.attempt, ?_⟩
    simp only [check_bind_ok, rejectIf_ok, not_or, not_not, not_le, not_lt, pure_ok]
    have earlier := accepted.beforeReporting
    exact ⟨accepted.completed, accepted.sequence, ⟨accepted.before, accepted.after⟩, accepted.verdict,
      accepted.afterVerification, by omega, ⟨accepted.sourceBefore, accepted.sourceAfter⟩,
      ⟨accepted.round, accepted.reviews⟩, trivial⟩

/-- All rules passed, on this evidence. -/
structure PolicyAccepted (sha256 : Sha256) (resolve : PathResolver) (request : HandoffPolicyRequest)
    (workspace : WorkspaceSnapshot) (reporting writable verified reviewed : HandoffAttemptEvidence)
    (verification : VerificationHandoffEvidence) (review : ReviewHandoffEvidence) : Prop where
  noProblem : request.attemptProblem = none
  workspaceOk : WorkspaceAccepted resolve request workspace
  attemptsOk : AttemptsAccepted sha256 request workspace reporting writable
  verificationOk : VerificationAccepted sha256 request workspace writable verified verification
  reviewOk : ReviewAccepted request reporting reviewed verification review
  current : ∃ last, latest (fun item => decide (item.phase ≠ .reporting)) request.attempts = some last ∧
    last.sequence = review.attemptSequence

/-- **The policy as one conjunction.** -/
theorem checkHandoffPolicy_ok {request : HandoffPolicyRequest} :
    checkHandoffPolicy sha256 resolve request = .ok () ↔
      ∃ workspace reporting writable verified reviewed verification review,
        PolicyAccepted sha256 resolve request workspace reporting writable verified reviewed
          verification review := by
  constructor
  · intro h
    obtain ⟨noProblem, h⟩ := check_bind_ok.mp h
    obtain ⟨workspace, workspaceOk, h⟩ := bind_ok_iff.mp h
    obtain ⟨⟨reporting, writable⟩, attemptsOk, h⟩ := bind_ok_iff.mp h
    obtain ⟨verification, verificationOk, h⟩ := bind_ok_iff.mp h
    obtain ⟨review, reviewOk, h⟩ := bind_ok_iff.mp h
    obtain ⟨last, found, h⟩ := bind_ok_iff.mp h
    obtain ⟨verified, verificationAccepted⟩ := checkVerification_ok.mp verificationOk
    obtain ⟨reviewed, reviewAccepted⟩ := checkReview_ok.mp reviewOk
    exact ⟨workspace, reporting, writable, verified, reviewed, verification, review,
      rejectProblem_ok.mp noProblem, checkWorkspace_ok.mp workspaceOk, checkAttempts_ok.mp attemptsOk,
      verificationAccepted, reviewAccepted, last, orReject_ok.mp found, by simpa using h⟩
  · rintro ⟨workspace, reporting, writable, verified, reviewed, verification, review, accepted⟩
    obtain ⟨last, found, same⟩ := accepted.current
    refine check_bind_ok.mpr ⟨rejectProblem_ok.mpr accepted.noProblem, ?_⟩
    refine bind_ok_iff.mpr ⟨workspace, checkWorkspace_ok.mpr accepted.workspaceOk, ?_⟩
    refine bind_ok_iff.mpr ⟨(reporting, writable), checkAttempts_ok.mpr accepted.attemptsOk, ?_⟩
    refine bind_ok_iff.mpr ⟨verification, checkVerification_ok.mpr ⟨verified, accepted.verificationOk⟩, ?_⟩
    refine bind_ok_iff.mpr ⟨review, checkReview_ok.mpr ⟨reviewed, accepted.reviewOk⟩, ?_⟩
    exact bind_ok_iff.mpr ⟨last, orReject_ok.mpr found, by simpa using same⟩

end Policy

end SprintTicket
