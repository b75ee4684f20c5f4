import SprintTicket.GitSafety
import SprintTicket.RunCodec
import SprintTicket.VerificationEvidence

/-!
# The recorded baseline

`baseline.json` fixes what a run started from: the branch, HEAD, ticket,
verification commands and workspace. A check against it ends with a problem
text that its caller returns, or with an exception that it does not catch.
-/

set_option autoImplicit false

namespace SprintTicket

open Checks Latest

/-- Why a check ends: an exception, or the problem its function returns. -/
inductive ProblemStop
  | raised (error : Raised)
  | problem (text : String)

/-- `if condition: return text`. -/
def problemIf (condition : Prop) [Decidable condition] (text : String) : Except ProblemStop Unit :=
  raiseIf condition (.problem text)

/-- `try: body / except classes as error: return text(error)`. -/
def problemOn {α : Type} (classes : List ExceptionClass) (text : Raised → String) (body : Except Raised α) :
    Except ProblemStop α :=
  body.mapError fun error => if classes.any error.isinstance then .problem (text error) else .raised error

/-- A call outside every `try`. -/
def unguarded {α : Type} (body : Except Raised α) : Except ProblemStop α := body.mapError .raised

/-- What the function of these checks returns. -/
def returnedProblem (checks : Except ProblemStop Unit) : Except Raised (Option String) :=
  match checks with
  | .ok () => .ok none
  | .error (.problem text) => .ok (some text)
  | .error (.raised error) => .error error

section Stops

variable {α : Type} {a : α}

@[simp] theorem problemIf_ok {condition : Prop} [Decidable condition] {text : String} {r : Unit} :
    problemIf condition text = .ok r ↔ ¬condition :=
  raiseIf_ok

@[simp] theorem problemOn_ok {classes : List ExceptionClass} {text : Raised → String}
    {body : Except Raised α} : problemOn classes text body = .ok a ↔ body = .ok a := by
  cases body <;> simp [problemOn, Except.mapError]

@[simp] theorem unguarded_ok {body : Except Raised α} : unguarded body = .ok a ↔ body = .ok a := by
  cases body <;> simp [unguarded, Except.mapError]

@[simp] theorem returnedProblem_none {checks : Except ProblemStop Unit} :
    returnedProblem checks = .ok none ↔ checks = .ok () := by
  cases checks with
  | ok r => simp [returnedProblem]
  | error stop => cases stop <;> simp [returnedProblem]

end Stops

/-- One character of a JSON string as `json.dumps` writes it by default. -/
def dumpsAsciiChar (c : Char) : List Char :=
  let n := c.toNat
  if n < 127 then dumpsChar c
  else if n < 65536 then '\\' :: 'u' :: hexDigits 4 n
  else '\\' :: 'u' :: hexDigits 4 (55296 + (n - 65536) / 1024) ++
    '\\' :: 'u' :: hexDigits 4 (56320 + (n - 65536) % 1024)

def dumpsAsciiString (text : String) : String :=
  "\"" ++ String.ofList (text.toList.flatMap dumpsAsciiChar) ++ "\""

/-- One entry of the payload, with the keys in sorted order. -/
def dumpsCommand (command : VerificationCommand) : String :=
  "\x7b\"argv\":" ++ dumpsList (command.argv.map dumpsAsciiString) ++ ",\"name\":" ++
    dumpsAsciiString command.name ++ ",\"timeout_seconds\":" ++ toString command.timeoutSeconds ++ "\x7d"

/-- `verification_commands_fingerprint`. -/
def verificationCommandsFingerprint (sha256 : Sha256) (commands : List VerificationCommand) : String :=
  sha256.hexdigest (dumpsList (commands.map dumpsCommand))

structure BaselineRecord where
  repositoryPath : String
  branch : String
  headSha : String
  cleanWorktree : Bool
  hasStagedFiles : Bool
  stagingStatus : String
  ticketSha256 : String
  verificationCommandsFingerprint : String
  workspaceFingerprint : String
  snapshotTimestamp : String

namespace BaselineCodec

/-- `_require_bool`. -/
def requireBool (data : List (String × Json)) (key : String) : Except Raised Bool :=
  match Json.get data key with
  | .bool value => .ok value
  | _ => .error (runError ("Run record field must be a boolean: " ++ key))

/-- `_require_sha256`. -/
def requireSha256 (data : List (String × Json)) (key : String) : Except Raised String := do
  let value ← RunCodec.requireString data key
  raiseIf (isSha256 value = false)
    (runError ("Run record field must be a lowercase SHA-256 digest: " ++ key))
  pure value

end BaselineCodec

open RunCodec BaselineCodec in
/-- `BaselineRecord.from_dict`. -/
def BaselineRecord.fromDict (data : List (String × Json)) : Except Raised BaselineRecord := do
  let version ← requireInt data "schema_version"
  raiseIf (version ≠ 2) (runError ("Unsupported schema_version: " ++ toString version ++ "; expected 2."))
  let format ← RunCodec.requireString data "format"
  raiseIf (format ≠ "ticket_automation.baseline")
    (runError ("Unsupported format: " ++ format ++ "; expected ticket_automation.baseline."))
  requireExactKeys .runError data
    ["schema_version", "format", "repository_path", "branch", "head_sha", "clean_worktree", "has_staged_files",
      "staging_status", "ticket_sha256", "verification_commands_fingerprint", "workspace_fingerprint",
      "snapshot_timestamp"] "Baseline record"
  let repositoryPath ← RunCodec.requireString data "repository_path"
  let branch ← RunCodec.requireString data "branch"
  let headSha ← RunCodec.requireString data "head_sha"
  let cleanWorktree ← requireBool data "clean_worktree"
  let hasStagedFiles ← requireBool data "has_staged_files"
  let stagingStatus ← RunCodec.requireString data "staging_status"
  let ticketSha256 ← requireSha256 data "ticket_sha256"
  let verificationCommandsFingerprint ← requireSha256 data "verification_commands_fingerprint"
  let workspaceFingerprint ← requireSha256 data "workspace_fingerprint"
  let snapshotTimestamp ← RunCodec.requireString data "snapshot_timestamp"
  pure
    { repositoryPath, branch, headSha, cleanWorktree, hasStagedFiles, stagingStatus, ticketSha256
      verificationCommandsFingerprint, workspaceFingerprint, snapshotTimestamp }

/-- `load_baseline_record`. -/
def loadBaselineRecord (file : ArtifactFile) : Except Raised BaselineRecord := do
  let data ← reraise .codecError (fun error => runError error.message) (readJsonObject file)
  BaselineRecord.fromDict data

/-- `hashlib.sha256(contents).hexdigest()` of the bytes of the ticket. -/
abbrev TicketDigest : Type := List UInt8 → String

/-- What the baseline checks read. -/
structure BaselineSources where
  directory : RunDirectory
  /-- `validate_run_path` and `validate_descendant` of the run ownership. -/
  owned : Except Raised Unit
  /-- `ticket_path.read_bytes()`. -/
  ticketContents : Except Raised (List UInt8)

/-- `read_descendant`: the ownership is checked around the read. -/
def BaselineSources.readDescendant {α : Type} (sources : BaselineSources) (body : Except Raised α) :
    Except Raised α := do
  sources.owned
  body

@[simp] theorem BaselineSources.readDescendant_ok {α : Type} {sources : BaselineSources}
    {body : Except Raised α} {a : α} :
    sources.readDescendant body = .ok a ↔ sources.owned = .ok () ∧ body = .ok a := by
  simp [readDescendant]

/-- The expectation of the clean-baseline verification. -/
def baselineExpectation (commands : List VerificationCommand) : VerificationExpectation where
  expectedStatuses := [.pass]
  verificationCommands := commands
  requireAllCommandsPass := true
  requireAuthoritativePass := false
  expectedCommandCwd := none
  expectedRoundIndex := none

/-- The completed preparation attempt with the largest sequence. -/
def latestPreparation (ledger : AttemptLedger) : Option AttemptRecord :=
  latestAttempt (fun phase => phase = .preparing) (fun status => status = .completed) ledger.records

section Problem

variable (sha256 : Sha256) (ticketDigest : TicketDigest) (resolve : PathResolver)
  (sources : BaselineSources) (baseline : BaselineRecord) (commands : List VerificationCommand)

/-- The checks on the attempt that verified the baseline. -/
def checkBaselineAttempt : Except ProblemStop Unit := do
  let ledger ← unguarded sources.directory.ledger
  match latestPreparation ledger with
  | none => .error (.problem "No completed clean-baseline verification attempt exists.")
  | some record =>
    problemIf (record.beforeWorkspaceFingerprint ≠ some baseline.workspaceFingerprint ∨
        record.afterWorkspaceFingerprint ≠ some baseline.workspaceFingerprint)
      "Clean-baseline verification does not match the recorded baseline workspace."
    let data ← unguarded (readVerificationResult sources.directory record)
    unguarded (validateVerificationResult resolve (baselineExpectation commands) data)

/-- `except (_VerificationArtifactError, AttemptError)` around those checks. -/
def guardBaselineAttempt (checks : Except ProblemStop Unit) : Except ProblemStop Unit :=
  match checks with
  | .error (.raised error) =>
    problemOn [.verificationArtifactError, .attemptError]
      (fun error => "Clean baseline verification evidence is invalid: " ++ error.message) (.error error)
  | checks => checks

/-- The body of `baseline_verification_evidence_problem`. -/
def checkBaselineVerification : Except ProblemStop Unit := do
  problemIf (baseline.verificationCommandsFingerprint ≠ verificationCommandsFingerprint sha256 commands)
    "Configured verification commands no longer match the recorded baseline."
  let contents ← problemOn [.osError]
    (fun error => "Could not inspect the snapshotted baseline ticket: " ++ error.message)
    (sources.readDescendant sources.ticketContents)
  problemIf (ticketDigest contents ≠ baseline.ticketSha256)
    "Snapshotted ticket no longer matches the recorded baseline."
  guardBaselineAttempt (checkBaselineAttempt resolve sources baseline commands)

/-- `baseline_verification_evidence_problem`. -/
def baselineVerificationEvidenceProblem : Except Raised (Option String) :=
  returnedProblem (checkBaselineVerification sha256 ticketDigest resolve sources baseline commands)

end Problem

/-! ## What an accepted baseline verification shows -/

/-- A round that passed for exactly these commands, in order. -/
structure PassingCommands (data : List (String × Json)) (commands : List VerificationCommand) : Prop where
  status : Json.get data "status" = .str VerificationStatus.pass.value
  commands : ∃ results, Json.get data "commands" = .arr results ∧
    List.Forall₂ PassingCommand results commands

/-- The latest completed preparation verified the baseline workspace, before
and after, and its round passed. -/
structure BaselineVerified (directory : RunDirectory) (ledger : AttemptLedger) (baseline : BaselineRecord)
    (commands : List VerificationCommand) (attempt : AttemptRecord) (data : List (String × Json)) : Prop where
  latest : IsLatest (fun record => record.phase = .preparing ∧ record.status = .completed) ledger.records attempt
  before : attempt.beforeWorkspaceFingerprint = some baseline.workspaceFingerprint
  after : attempt.afterWorkspaceFingerprint = some baseline.workspaceFingerprint
  read : readVerificationResult directory attempt = .ok data
  passing : PassingCommands data commands

/-- What the shape check of the baseline evidence establishes. -/
theorem baselineExpectation_ok {resolve : PathResolver} {commands : List VerificationCommand}
    {data : List (String × Json)}
    (h : validateVerificationResult resolve (baselineExpectation commands) data = .ok ()) :
    PassingCommands data commands := by
  rw [validateVerificationResult, check_bind_ok, check_bind_ok, bind_ok_iff] at h
  obtain ⟨_, _, status, token, h⟩ := h
  rw [check_bind_ok, raiseIf_ok, baselineExpectation, List.mem_singleton, not_not] at h
  obtain ⟨rfl, h⟩ := h
  split at h
  · rename_i results found
    obtain ⟨same, h⟩ := check_bind_ok.mp h
    obtain ⟨passed, _⟩ := check_bind_ok.mp h
    rw [raiseIf_ok, not_not] at same
    exact ⟨verificationStatus_ok token, results, found, validateCommands_ok rfl same passed⟩
  · cases h

theorem latestPreparation_iff {ledger : AttemptLedger} {attempt : AttemptRecord} :
    latestPreparation ledger = some attempt ↔
      IsLatest (fun record => record.phase = .preparing ∧ record.status = .completed) ledger.records attempt := by
  rw [latestPreparation, latestAttempt, ledger.isLatest_iff]
  constructor
  · intro h
    exact h.congr fun other => by simp
  · intro h
    exact h.congr fun other => by simp

/-- The checks together find a ledger and a document that verify the baseline. -/
theorem checkBaselineAttempt_ok {resolve : PathResolver} {sources : BaselineSources} {baseline : BaselineRecord}
    {commands : List VerificationCommand} (h : checkBaselineAttempt resolve sources baseline commands = .ok ()) :
    ∃ ledger attempt data, sources.directory.ledger = .ok ledger ∧
      BaselineVerified sources.directory ledger baseline commands attempt data := by
  obtain ⟨ledger, loaded, h⟩ := bind_ok_iff.mp h
  cases found : latestPreparation ledger with
  | none =>
    rw [found] at h
    cases h
  | some attempt =>
    rw [found] at h
    obtain ⟨fingerprints, h⟩ := check_bind_ok.mp h
    obtain ⟨data, read, h⟩ := bind_ok_iff.mp h
    rw [problemIf_ok, not_or, not_not, not_not] at fingerprints
    exact ⟨ledger, attempt, data, unguarded_ok.mp loaded,
      { latest := latestPreparation_iff.mp found, before := fingerprints.1, after := fingerprints.2
        read := unguarded_ok.mp read, passing := baselineExpectation_ok (unguarded_ok.mp h) }⟩

theorem guardBaselineAttempt_ok {checks : Except ProblemStop Unit}
    (h : guardBaselineAttempt checks = .ok ()) : checks = .ok () := by
  unfold guardBaselineAttempt at h
  split at h
  · exact absurd (problemOn_ok.mp h) (by simp)
  · exact h

/-- The baseline verification has no problem only when a passing verification of
the baseline workspace is on record. -/
theorem baselineVerificationEvidenceProblem_none {sha256 : Sha256} {ticketDigest : TicketDigest}
    {resolve : PathResolver} {sources : BaselineSources} {baseline : BaselineRecord}
    {commands : List VerificationCommand}
    (h : baselineVerificationEvidenceProblem sha256 ticketDigest resolve sources baseline commands = .ok none) :
    ∃ ledger attempt data, sources.directory.ledger = .ok ledger ∧
      BaselineVerified sources.directory ledger baseline commands attempt data := by
  obtain ⟨_, h⟩ := check_bind_ok.mp (returnedProblem_none.mp h)
  obtain ⟨contents, _, h⟩ := bind_ok_iff.mp h
  obtain ⟨_, h⟩ := check_bind_ok.mp h
  exact checkBaselineAttempt_ok (guardBaselineAttempt_ok h)

/-- The digest of the commands of the example policy. -/
def exampleCommandsDigest : String := "4bb6424d0f1a29ae35b955edd0773be5bca7888cde65bbe51e77a34d935d4a4b"

/-- The digest of the example ticket. -/
def exampleTicketSha256 : String := "9c60cfcbff79399a1aff52fd1079416f4f8c7e9328ff17d3b324f755c842c008"

def exampleBaseline : BaselineRecord where
  repositoryPath := "/repo"
  branch := "main"
  headSha := "4b825dc642cb6eb9a060e54bf8d69288fbee4904"
  cleanWorktree := true
  hasStagedFiles := false
  stagingStatus := "clean"
  ticketSha256 := exampleTicketSha256
  verificationCommandsFingerprint := exampleCommandsDigest
  workspaceFingerprint := exampleCleanFingerprint
  snapshotTimestamp := "2026-01-01T00:00:00Z"

end SprintTicket
