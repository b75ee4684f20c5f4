import SprintTicket.RunDirectory
import SprintTicket.Runs

/-!
# Verification evidence

The readers of `verification_evidence.py`. A verification round is read back
from raw JSON, with Python's `==` deciding most comparisons; `PassingRound` says
what an accepted authoritative round contains. `readVerificationSourceFingerprint`
selects its attempt itself, independently of its caller.
-/

set_option autoImplicit false

namespace SprintTicket

open Checks

/-- `Path(..).resolve(strict=False)`, which may fail. -/
abbrev PathResolver : Type := String → Except Raised String

/-- A `_VerificationArtifactError`. -/
def artifactError (message : String) : Raised := ⟨.verificationArtifactError, message⟩

/-- The keyword arguments of `_validate_verification_result`. -/
structure VerificationExpectation where
  expectedStatuses : List VerificationStatus
  verificationCommands : List VerificationCommand
  requireAllCommandsPass : Bool
  requireAuthoritativePass : Bool
  expectedCommandCwd : Option String
  expectedRoundIndex : Option Nat

/-- `_verification_status`. -/
def verificationStatus (value : Json) (source : String) : Except Raised VerificationStatus :=
  let unsupported := artifactError s!"Verification {source} has an unsupported status."
  match value with
  | .str text =>
    match [VerificationStatus.pass, .fail, .error].find? fun status => status.value = text with
    | some status => .ok status
    | none => .error unsupported
  | _ => .error unsupported

theorem verificationStatus_ok {value : Json} {source : String} {status : VerificationStatus}
    (h : verificationStatus value source = .ok status) : value = .str status.value := by
  unfold verificationStatus at h
  split at h
  · rename_i text
    split at h
    · rename_i found
      cases h
      have token := List.find?_some found
      simp only [decide_eq_true_eq] at token
      rw [token]
    · cases h
  · cases h

/-- `isinstance(value, str) and value`. -/
def Json.isText : Json → Bool
  | .str text => text ≠ ""
  | _ => false

def Json.isStr : Json → Bool
  | .str _ => true
  | _ => false

def Json.isNull : Json → Bool
  | .null => true
  | _ => false

/-- A number that is not a `bool` and not negative. -/
def Json.isDuration (value : Json) : Bool := value.properNumber?.any fun number => 0 ≤ number

/-- A timestamp field is a non-empty string. -/
def requireTextField (data : List (String × Json)) (message field : String) : Except Raised Unit :=
  raiseIf ((Json.get data field).isText = false) (artifactError (message ++ field ++ "."))

/-- `_validate_authoritative_command_evidence`. -/
def validateAuthoritativeCommandEvidence (resolve : PathResolver) (expectedCommandCwd : Option String)
    (data : List (String × Json)) : Except Raised Unit := do
  match Json.get data "cwd", expectedCommandCwd with
  | .str cwd, some expected =>
    raiseIf (cwd = "") (artifactError "Verification command evidence has no working directory.")
    let actual ← resolve cwd
    let wanted ← resolve expected
    raiseIf (actual ≠ wanted)
      (artifactError "Verification command evidence has an unexpected working directory.")
    requireTextField data "Verification command evidence has invalid " "started_at"
    requireTextField data "Verification command evidence has invalid " "ended_at"
    raiseIf ((Json.get data "duration_seconds").isDuration = false)
      (artifactError "Verification command evidence has invalid duration_seconds.")
    raiseIf ((Json.get data "stdout").isStr = false ∨ (Json.get data "stderr").isStr = false)
      (artifactError "Verification command evidence has invalid process output.")
  | .str "", none =>
    .error (artifactError "Verification command evidence has no working directory.")
  | .str _, none =>
    .error (artifactError "Authoritative verification requires an expected working directory.")
  | _, _ => .error (artifactError "Verification command evidence has no working directory.")

/-- `_validate_authoritative_round_evidence`. -/
def validateAuthoritativeRoundEvidence (expectedRoundIndex : Option Nat) (data : List (String × Json)) :
    Except Raised Unit := do
  match Json.get data "round_index" with
  | .int index =>
    raiseIf (index < 0) (artifactError "Verification result has an invalid round index.")
    raiseIf (expectedRoundIndex.all fun expected => index ≠ expected)
      (artifactError "Verification result round does not match the final correction round.")
    requireTextField data "Verification result has invalid " "started_at"
    requireTextField data "Verification result has invalid " "ended_at"
    raiseIf ((Json.get data "duration_seconds").isDuration = false)
      (artifactError "Verification result has invalid duration_seconds.")
    raiseIf ((Json.get data "safety_violations").pyEq (.arr []) = false)
      (artifactError "Verification result contains safety violations or invalid safety evidence.")
    raiseIf ((Json.get data "correction_reasons").pyEq (.arr []) = false)
      (artifactError "Verification result contains correction reasons or invalid correction evidence.")
  | _ => .error (artifactError "Verification result has an invalid round index.")

/-- The check that one command passed, when all must. -/
def validateCommandPass (expectation : VerificationExpectation) (result : List (String × Json)) :
    Except Raised Unit :=
  if expectation.requireAllCommandsPass then do
    let status ← verificationStatus (Json.get result "status") "command"
    raiseIf (status ≠ .pass ∨ (Json.get result "exit_code").pyEq (.int 0) = false ∨
        (Json.get result "error_kind").isNull = false ∨ (Json.get result "error_message").isNull = false)
      (artifactError (if expectation.requireAuthoritativePass
        then "Verification command evidence is not passing."
        else "Baseline verification command evidence is not passing."))
  else .ok ()

/-- One iteration of the loop over results and commands. -/
def validateCommandEvidence (resolve : PathResolver) (expectation : VerificationExpectation)
    (result : Json) (command : VerificationCommand) : Except Raised Unit :=
  match result with
  | .obj fields => do
    raiseIf ((Json.get fields "name").pyEq (.str command.name) = false ∨
        (Json.get fields "argv").pyEq (.arr (command.argv.map .str)) = false)
      (artifactError "Verification command evidence does not match configuration.")
    validateCommandPass expectation fields
    if expectation.requireAuthoritativePass then
      validateAuthoritativeCommandEvidence resolve expectation.expectedCommandCwd fields
    else .ok ()
  | _ => .error (artifactError "Verification command evidence must be an object.")

/-- The loop `for result, command in zip(commands, verification_commands, strict=True)`. -/
def validateCommands (resolve : PathResolver) (expectation : VerificationExpectation) :
    List Json → List VerificationCommand → Except Raised Unit
  | result :: results, command :: commands => do
    validateCommandEvidence resolve expectation result command
    validateCommands resolve expectation results commands
  | _, _ => .ok ()

/-- `_validate_verification_result`. -/
def validateVerificationResult (resolve : PathResolver) (expectation : VerificationExpectation)
    (data : List (String × Json)) : Except Raised Unit := do
  raiseIf ((Json.get data "schema_version").pyEq (.int 1) = false)
    (artifactError "Verification result has an unsupported schema version.")
  raiseIf ((Json.get data "format").pyEq (.str "ticket_automation.verification_round") = false)
    (artifactError "Verification result has an unsupported format.")
  let status ← verificationStatus (Json.get data "status") "result"
  raiseIf (status ∉ expectation.expectedStatuses)
    (artifactError "Verification result does not have an allowed status.")
  match Json.get data "commands" with
  | .arr commands =>
    raiseIf (commands.length ≠ expectation.verificationCommands.length)
      (artifactError "Verification result has an unexpected command set.")
    validateCommands resolve expectation commands expectation.verificationCommands
    if expectation.requireAuthoritativePass then
      validateAuthoritativeRoundEvidence expectation.expectedRoundIndex data
    else .ok ()
  | _ => .error (artifactError "Verification result has an unexpected command set.")

/-- One command's evidence shows that exactly this command passed. -/
structure PassingCommand (result : Json) (command : VerificationCommand) : Prop where
  fields : ∃ data, result = .obj data ∧ Json.get data "name" = .str command.name ∧
    Json.get data "argv" = .arr (command.argv.map .str) ∧
    Json.get data "status" = .str VerificationStatus.pass.value ∧
    (Json.get data "exit_code").number? = some 0 ∧
    Json.get data "error_kind" = .null ∧ Json.get data "error_message" = .null

/-- A passing round for exactly the given commands, in order, with this index. -/
structure PassingRound (data : List (String × Json)) (commands : List VerificationCommand)
    (round : Nat) : Prop where
  status : Json.get data "status" = .str VerificationStatus.pass.value
  commands : ∃ results, Json.get data "commands" = .arr results ∧
    List.Forall₂ PassingCommand results commands
  roundIndex : Json.get data "round_index" = .int round
  noViolations : Json.get data "safety_violations" = .arr []
  noCorrections : Json.get data "correction_reasons" = .arr []

theorem Json.isNull_iff {value : Json} : value.isNull = true ↔ value = .null := by
  cases value <;> simp [Json.isNull]

/-- A command whose evidence is accepted has passed, with the argv it was to run. -/
theorem validateCommandEvidence_ok {resolve : PathResolver} {expectation : VerificationExpectation}
    (all : expectation.requireAllCommandsPass = true) {result : Json} {command : VerificationCommand}
    (h : validateCommandEvidence resolve expectation result command = .ok ()) :
    PassingCommand result command := by
  unfold validateCommandEvidence at h
  split at h
  · rename_i fields
    simp only [check_bind_ok, raiseIf_ok, not_or, Bool.not_eq_false, Json.pyEq_str, Json.pyEq_strs] at h
    obtain ⟨⟨name, argv⟩, passed, _⟩ := h
    rw [validateCommandPass, if_pos all, bind_ok_iff] at passed
    obtain ⟨status, token, rest⟩ := passed
    simp only [raiseIf_ok, not_or, not_not, Bool.not_eq_false, Json.pyEq_int, Json.isNull_iff] at rest
    obtain ⟨rfl, exitCode, kind, message⟩ := rest
    exact ⟨fields, rfl, name, argv, verificationStatus_ok token, by simpa using exitCode, kind, message⟩
  · cases h

theorem validateCommands_ok {resolve : PathResolver} {expectation : VerificationExpectation}
    (all : expectation.requireAllCommandsPass = true) {results : List Json}
    {commands : List VerificationCommand} (same : results.length = commands.length)
    (h : validateCommands resolve expectation results commands = .ok ()) :
    List.Forall₂ PassingCommand results commands := by
  induction results generalizing commands with
  | nil =>
    have none : commands = [] := List.length_eq_zero_iff.mp same.symm
    rw [none]
    exact .nil
  | cons result results ih =>
    cases commands with
    | nil => cases same
    | cons command commands =>
      rw [validateCommands, check_bind_ok] at h
      exact .cons (validateCommandEvidence_ok all h.1) (ih (Nat.succ.inj same) h.2)

/-- An authoritative round that is accepted passes for exactly the expected
commands, in order, in the expected round. -/
theorem validateVerificationResult_ok {resolve : PathResolver} {expectation : VerificationExpectation}
    {data : List (String × Json)} {round : Nat}
    (statuses : expectation.expectedStatuses = [.pass])
    (all : expectation.requireAllCommandsPass = true)
    (authoritative : expectation.requireAuthoritativePass = true)
    (index : expectation.expectedRoundIndex = some round)
    (h : validateVerificationResult resolve expectation data = .ok ()) :
    PassingRound data expectation.verificationCommands round := by
  rw [validateVerificationResult, check_bind_ok, check_bind_ok, bind_ok_iff] at h
  obtain ⟨_, _, status, token, h⟩ := h
  rw [check_bind_ok, raiseIf_ok, statuses, List.mem_singleton, not_not] at h
  obtain ⟨rfl, h⟩ := h
  split at h
  · rename_i results found
    simp only [check_bind_ok, raiseIf_ok, not_not, authoritative, if_true] at h
    obtain ⟨same, commands, final⟩ := h
    unfold validateAuthoritativeRoundEvidence at final
    split at final
    · rename_i n roundIndex
      simp only [check_bind_ok, raiseIf_ok, Bool.not_eq_false, Json.pyEq_nil, index] at final
      obtain ⟨_, expected, _, _, _, violations, corrections⟩ := final
      refine
        { status := verificationStatus_ok token
          commands := ⟨results, found, validateCommands_ok all same commands⟩
          roundIndex := ?_, noViolations := violations, noCorrections := corrections }
      rw [roundIndex]
      simpa using expected
    · cases final
  · cases h

/-! ## The reader -/

/-- `_read_result`. -/
def readVerificationResult (directory : RunDirectory) (record : AttemptRecord) :
    Except Raised (List (String × Json)) := do
  directory.confined record.sequence
  reraise .codecError (fun error => artifactError ("Could not read verification result: " ++ error.message))
    (readJsonObject (directory.resultFile record.sequence))

/-- `record.after_workspace_fingerprint`, which must be recorded. -/
def requireAfterFingerprint (record : AttemptRecord) : Except Raised String :=
  match record.afterWorkspaceFingerprint with
  | some fingerprint => .ok fingerprint
  | none => .error (artifactError "Verification attempt has no post-verification workspace fingerprint.")

/-- The latest completed verification attempt. -/
def requireCompletedVerification (ledger : AttemptLedger) : Except Raised AttemptRecord :=
  match latestAttempt (fun phase => phase = .verifying) (fun status => status = .completed)
      ledger.records with
  | some record => .ok record
  | none => .error (artifactError "No completed verification attempt exists.")

/-- The body of `read_verification_source_fingerprint`. -/
def verificationSourceFingerprint (resolve : PathResolver) (directory : RunDirectory)
    (expectation : VerificationExpectation) (expectedAttemptSequence : Option Nat) :
    Except Raised String := do
  let ledger ← directory.ledger
  let record ← requireCompletedVerification ledger
  raiseIf (expectedAttemptSequence.any fun expected => record.sequence ≠ expected)
    (artifactError "Completed verification evidence is not the current verification attempt.")
  let data ← readVerificationResult directory record
  validateVerificationResult resolve expectation data
  requireAfterFingerprint record

/-- `read_verification_source_fingerprint`. -/
def readVerificationSourceFingerprint (resolve : PathResolver) (directory : RunDirectory)
    (expectation : VerificationExpectation) (expectedAttemptSequence : Option Nat) :
    Except Raised String :=
  reraise .attemptError (fun error => artifactError ("Attempt evidence is invalid: " ++ error.message))
    (verificationSourceFingerprint resolve directory expectation expectedAttemptSequence)

/-- The reader returns the after-fingerprint of the latest completed
verification, whose result it accepted. -/
theorem readVerificationSourceFingerprint_ok {resolve : PathResolver} {directory : RunDirectory}
    {expectation : VerificationExpectation} {expectedAttemptSequence : Option Nat} {fingerprint : String}
    (h : readVerificationSourceFingerprint resolve directory expectation expectedAttemptSequence =
      .ok fingerprint) :
    ∃ ledger record data, directory.ledger = .ok ledger ∧
      latestAttempt (fun phase => phase = .verifying) (fun status => status = .completed) ledger.records =
        some record ∧
      (∀ expected, expectedAttemptSequence = some expected → record.sequence = expected) ∧
      readVerificationResult directory record = .ok data ∧
      validateVerificationResult resolve expectation data = .ok () ∧
      record.afterWorkspaceFingerprint = some fingerprint := by
  rw [readVerificationSourceFingerprint, reraise_ok, verificationSourceFingerprint, bind_ok_iff] at h
  obtain ⟨ledger, loaded, h⟩ := h
  rw [bind_ok_iff] at h
  obtain ⟨record, required, h⟩ := h
  rw [check_bind_ok, raiseIf_ok, bind_ok_iff] at h
  obtain ⟨current, data, read, h⟩ := h
  rw [check_bind_ok] at h
  obtain ⟨valid, recorded⟩ := h
  refine ⟨ledger, record, data, loaded, ?_, ?_, read, valid, ?_⟩
  · unfold requireCompletedVerification at required
    split at required
    · cases required; assumption
    · cases required
  · rintro expected rfl
    simpa using current
  · unfold requireAfterFingerprint at recorded
    split at recorded
    · cases recorded; assumption
    · cases recorded

end SprintTicket
