import Mathlib.Algebra.Order.Field.Basic
import SprintTicket.GitSafety
import SprintTicket.Timestamps
import SprintTicket.VerificationEvidence

/-!
# The verification round

`runRound` executes the configured commands and builds the round that is
written as the result of the attempt; `finishOutcome` derives the outcome of
the stage from the same round. The reader of the handoff judges the written
JSON on its own (`validateVerificationResult`).

`round_accepted_iff`: the reader accepts the JSON of a round exactly when the
outcome is COMPLETED and no clock reading of the round went backwards.
-/

set_option autoImplicit false

namespace SprintTicket

open Checks

inductive VerificationErrorKind
  | executableUnavailable | processStartFailed | timeout
deriving DecidableEq, Repr

def VerificationErrorKind.value : VerificationErrorKind → String
  | .executableUnavailable => "EXECUTABLE_UNAVAILABLE"
  | .processStartFailed => "PROCESS_START_FAILED"
  | .timeout => "TIMEOUT"

structure VerificationSafetyViolation where
  name : String
  expected : String
  actual : String
  message : String
deriving DecidableEq, Repr

structure VerificationCommandResult where
  name : String
  argv : List String
  cwd : String
  startedAt : String
  endedAt : String
  durationSeconds : Rat
  status : VerificationStatus
  exitCode : Option Int
  stdout : String
  stderr : String
  errorKind : Option VerificationErrorKind
  errorMessage : Option String

/-- How the `try` block of `_run_command` ends; an exception it does not catch
leaves the round. -/
inductive ProcessOutcome
  | returned (returncode : Int) (stdout stderr : String)
  | fileNotFound (message : String)
  | timedOut (message stdout stderr : String)
  | osError (message : String)
  | raised (error : Raised)

/-- One command with the clock readings around it and the layout check after it. -/
structure CommandRun where
  startedAt : Int
  endedAt : Int
  outcome : ProcessOutcome
  revalidate : Except Raised Unit

/-- `(ended - started).total_seconds()`, before the rounding to a double, which
keeps the sign. -/
def totalSeconds (startedAt endedAt : Int) : Rat := ((endedAt - startedAt : Int) : Rat) / 1000000

section Command

variable (cwd : String) (command : VerificationCommand) (run : CommandRun)

/-- `_command_error`. -/
def commandError (kind : VerificationErrorKind) (message stdout stderr : String) : VerificationCommandResult where
  name := command.name
  argv := command.argv
  cwd
  startedAt := formatTimestamp run.startedAt
  endedAt := formatTimestamp run.endedAt
  durationSeconds := totalSeconds run.startedAt run.endedAt
  status := .error
  exitCode := none
  stdout
  stderr
  errorKind := some kind
  errorMessage := some message

/-- The result of a command whose process returned. -/
def commandReturned (returncode : Int) (stdout stderr : String) : VerificationCommandResult where
  name := command.name
  argv := command.argv
  cwd
  startedAt := formatTimestamp run.startedAt
  endedAt := formatTimestamp run.endedAt
  durationSeconds := totalSeconds run.startedAt run.endedAt
  status := if returncode = 0 then .pass else .fail
  exitCode := some returncode
  stdout
  stderr
  errorKind := none
  errorMessage := none

/-- `_run_command`. -/
def runCommand : Except Raised VerificationCommandResult :=
  match run.outcome with
  | .raised error => .error error
  | .returned returncode stdout stderr => do
    run.revalidate
    pure (commandReturned cwd command run returncode stdout stderr)
  | .fileNotFound message => do
    run.revalidate
    pure (commandError cwd command run .executableUnavailable message "" "")
  | .timedOut message stdout stderr => do
    run.revalidate
    pure (commandError cwd command run .timeout message stdout stderr)
  | .osError message => do
    run.revalidate
    pure (commandError cwd command run .processStartFailed message "" "")

/-- The loop over the commands. -/
def runCommands (runs : Nat → CommandRun) (index : Nat) :
    List VerificationCommand → Except Raised (List VerificationCommandResult)
  | [] => .ok []
  | command :: commands => do
    let result ← runCommand cwd command (runs index)
    let results ← runCommands runs (index + 1) commands
    pure (result :: results)

end Command

@[ext]
structure VerificationFailure where
  gateName : String
  command : List String
  failureSummary : String
  stdoutExcerpt : String
  stderrExcerpt : String
  exitCode : Option Int
  resultPath : String
  gate_nonblank : isBlank gateName = false
  command_nonempty : command ≠ [] ∧ "" ∉ command
  summary_nonblank : isBlank failureSummary = false

instance : DecidableEq VerificationFailure := fun _ _ => decidable_of_iff _ VerificationFailure.ext_iff.symm

/-- The constructor of `VerificationFailure`. -/
def VerificationFailure.ofFields (gateName : String) (command : List String)
    (failureSummary stdoutExcerpt stderrExcerpt : String) (exitCode : Option Int) (resultPath : String) :
    Except Raised VerificationFailure :=
  if hg : isBlank gateName = false then
    if hc : command ≠ [] ∧ "" ∉ command then
      if hs : isBlank failureSummary = false then
        .ok ⟨gateName, command, failureSummary, stdoutExcerpt, stderrExcerpt, exitCode, resultPath, hg, hc, hs⟩
      else .error ⟨.verificationError, "verification failure failure_summary must be non-empty."⟩
    else .error ⟨.verificationError, "verification failure command must be a non-empty string tuple."⟩
  else .error ⟨.verificationError, "verification failure gate_name must be non-empty."⟩

/-- `_excerpt`, with its default limit of 4000 characters. -/
def excerpt (value : String) : String :=
  if value.toList.length ≤ 4000 then value
  else String.ofList (value.toList.take 4000) ++ "\n... <truncated>"

/-- `failure_summary` of one failed command. -/
def failureSummary (printable : Char → Bool) (name : String) (exitCode : Option Int) : String :=
  "Verification gate " ++ pyRepr printable name ++ " exited with code " ++
    (match exitCode with
      | some code => toString code
      | none => "None") ++ "."

def VerificationCommandResult.failed (result : VerificationCommandResult) : Bool := result.status = .fail

def VerificationCommandResult.errored (result : VerificationCommandResult) : Bool := result.status = .error

section Failures

variable (printable : Char → Bool) (resultPath : String)

/-- The failure of one command. -/
def verificationFailure (result : VerificationCommandResult) : Except Raised VerificationFailure :=
  VerificationFailure.ofFields result.name result.argv (failureSummary printable result.name result.exitCode)
    (excerpt result.stdout) (excerpt result.stderr) result.exitCode resultPath

/-- `_verification_failures`. -/
def verificationFailures (commands : List VerificationCommandResult) :
    Except Raised (List VerificationFailure) :=
  (commands.filter VerificationCommandResult.failed).mapM (verificationFailure printable resultPath)

end Failures

structure VerificationRound where
  roundIndex : Nat
  startedAt : String
  endedAt : String
  durationSeconds : Rat
  status : VerificationStatus
  commands : List VerificationCommandResult
  safetyViolations : List VerificationSafetyViolation
  failures : List VerificationFailure

/-- `_round_status`. -/
def roundStatus (commands : List VerificationCommandResult)
    (violations : List VerificationSafetyViolation) : VerificationStatus :=
  if violations ≠ [] ∨ commands.any VerificationCommandResult.errored then .error
  else if commands.any VerificationCommandResult.failed then .fail
  else .pass

/-- What a round meets outside the controller. -/
structure RoundRun where
  startedAt : Int
  endedAt : Int
  command : Nat → CommandRun
  /-- `_after_violations`. -/
  violations : Except Raised (List VerificationSafetyViolation)
  /-- The layout check and the write of the result. -/
  write : Except Raised Unit

section Round

variable (printable : Char → Bool) (commands : List VerificationCommand) (cwd : String) (roundIndex : Nat)
  (resultPath : String) (includeFailures : Bool) (run : RoundRun)

/-- `_run_round`. -/
def runRound : Except Raised VerificationRound := do
  let results ← runCommands cwd run.command 0 commands
  let violations ← run.violations
  let failures ← if includeFailures then verificationFailures printable resultPath results else .ok []
  run.write
  pure
    { roundIndex
      startedAt := formatTimestamp run.startedAt
      endedAt := formatTimestamp run.endedAt
      durationSeconds := totalSeconds run.startedAt run.endedAt
      status := roundStatus results violations
      commands := results
      safetyViolations := violations
      failures }

end Round

/-- `_controller_error_round`. -/
def controllerErrorRound (roundIndex : Nat) (now : Int) (violations : List VerificationSafetyViolation) :
    VerificationRound where
  roundIndex
  startedAt := formatTimestamp now
  endedAt := formatTimestamp now
  durationSeconds := 0
  status := .error
  commands := []
  safetyViolations := violations
  failures := []

/-- `VerificationRound.passed`. -/
def VerificationRound.passed (round : VerificationRound) : Bool := round.status = .pass

/-- Outcome and message of `_finish_stage`. -/
def finishOutcome (round : VerificationRound) (baseline : Bool) : StageOutcome × String :=
  if round.safetyViolations ≠ [] ∨ round.commands.any VerificationCommandResult.errored then
    (.humanRequired, "Verification could not complete without a safety or infrastructure error.")
  else if baseline ∧ (round.commands.any VerificationCommandResult.failed ∨ round.passed = false) then
    (.humanRequired, "The clean repository baseline failed deterministic verification.")
  else if round.commands.any VerificationCommandResult.failed then
    (.correctionRequired, "Verification failed; corrective work is required.")
  else if baseline then (.completed, "Baseline verification passed.")
  else (.completed, "Verification passed; review can start.")

/-- `_round_process_started`. -/
def roundProcessStarted (commands : List VerificationCommandResult) : Bool :=
  commands.any fun command => command.status ≠ .error || command.errorKind = some .timeout

/-- A text or `None`. -/
def Json.ofOptional {α : Type} (encode : α → Json) : Option α → Json
  | some a => encode a
  | none => .null

def encodeSafetyViolation (violation : VerificationSafetyViolation) : Json :=
  .obj [("name", .str violation.name), ("expected", .str violation.expected),
    ("actual", .str violation.actual), ("message", .str violation.message)]

def encodeCommandResult (result : VerificationCommandResult) : List (String × Json) :=
  [("name", .str result.name), ("argv", .arr (result.argv.map .str)), ("cwd", .str result.cwd),
    ("started_at", .str result.startedAt), ("ended_at", .str result.endedAt),
    ("duration_seconds", .float result.durationSeconds), ("status", .str result.status.value),
    ("exit_code", .ofOptional .int result.exitCode), ("stdout", .str result.stdout),
    ("stderr", .str result.stderr),
    ("error_kind", .ofOptional (fun kind => .str kind.value) result.errorKind),
    ("error_message", .ofOptional .str result.errorMessage)]

/-- `VerificationFailure.to_dict`. -/
def encodeFailure (failure : VerificationFailure) : Json :=
  .obj [("kind", .str "VerificationFailure"), ("gate_name", .str failure.gateName),
    ("command", .arr (failure.command.map .str)), ("failure_summary", .str failure.failureSummary),
    ("stdout_excerpt", .str failure.stdoutExcerpt), ("stderr_excerpt", .str failure.stderrExcerpt),
    ("exit_code", .ofOptional .int failure.exitCode), ("result_path", .str failure.resultPath)]

/-- `VerificationRound.to_dict`. -/
def encodeRound (round : VerificationRound) : List (String × Json) :=
  [("schema_version", .int 1), ("format", .str "ticket_automation.verification_round"),
    ("round_index", .int round.roundIndex), ("started_at", .str round.startedAt),
    ("ended_at", .str round.endedAt), ("duration_seconds", .float round.durationSeconds),
    ("status", .str round.status.value),
    ("commands", .arr (round.commands.map fun result => .obj (encodeCommandResult result))),
    ("safety_violations", .arr (round.safetyViolations.map encodeSafetyViolation)),
    ("correction_reasons", .arr (round.failures.map encodeFailure))]

/-- The process returned zero. -/
def CommandRun.Passed (run : CommandRun) : Prop := ∃ stdout stderr, run.outcome = .returned 0 stdout stderr

/-- The clock did not go backwards. -/
def CommandRun.Forward (run : CommandRun) : Prop := run.startedAt ≤ run.endedAt

section Commands

variable {cwd : String} {command : VerificationCommand} {run : CommandRun} {result : VerificationCommandResult}

/-- A command that was run has its result from how it ended. -/
theorem runCommand_ok (h : runCommand cwd command run = .ok result) :
    (∃ returncode stdout stderr, run.outcome = .returned returncode stdout stderr ∧
        result = commandReturned cwd command run returncode stdout stderr) ∨
      ¬run.Passed ∧ ∃ kind message stdout stderr, result = commandError cwd command run kind message stdout stderr := by
  unfold runCommand at h
  cases outcome : run.outcome with
  | raised error =>
    rw [outcome] at h
    cases h
  | returned returncode stdout stderr =>
    rw [outcome] at h
    obtain ⟨_, h⟩ := check_bind_ok.mp h
    exact .inl ⟨returncode, stdout, stderr, rfl, (pure_ok.mp h).symm⟩
  | fileNotFound | timedOut | osError =>
    rw [outcome] at h
    obtain ⟨_, h⟩ := check_bind_ok.mp h
    exact .inr ⟨by simp [CommandRun.Passed, outcome], _, _, _, _, (pure_ok.mp h).symm⟩

/-- A command passes exactly when its process returned zero. -/
theorem runCommand_status (h : runCommand cwd command run = .ok result) :
    result.status = .pass ↔ run.Passed := by
  rcases runCommand_ok h with ⟨returncode, stdout, stderr, outcome, rfl⟩ | ⟨failed, kind, message, out, err, rfl⟩
  · simp only [commandReturned, CommandRun.Passed, outcome, ProcessOutcome.returned.injEq]
    by_cases zero : returncode = 0 <;> simp [zero]
  · simp [commandError, failed]

/-- The duration is negative exactly when the clock went back. -/
theorem totalSeconds_nonneg {startedAt endedAt : Int} :
    0 ≤ totalSeconds startedAt endedAt ↔ startedAt ≤ endedAt := by
  unfold totalSeconds
  rw [div_nonneg_iff]
  constructor
  · rintro (⟨positive, _⟩ | ⟨_, negative⟩)
    · have := Int.cast_nonneg_iff.mp positive
      omega
    · norm_num at negative
  · intro forward
    exact .inl ⟨Int.cast_nonneg_iff.mpr (by omega), by norm_num⟩

end Commands

/-- The authoritative flags of the handoff. -/
def authoritativeExpectation (commands : List VerificationCommand) (cwd : String) (roundIndex : Nat) :
    VerificationExpectation where
  expectedStatuses := [.pass]
  verificationCommands := commands
  requireAllCommandsPass := true
  requireAuthoritativePass := true
  expectedCommandCwd := some cwd
  expectedRoundIndex := some roundIndex

theorem formatTimestamp_nonempty (instant : Int) : formatTimestamp instant ≠ "" := by
  intro empty
  have chars := congrArg String.toList empty
  simp [formatTimestamp] at chars

/-- A number field is a duration when it is not negative. -/
theorem isDuration_float {value : Rat} : (Json.float value).isDuration = true ↔ 0 ≤ value := by
  simp [Json.isDuration, Json.properNumber?]

theorem requireTextField_timestamp {data : List (String × Json)} {message field : String} {instant : Int}
    (found : Json.get data field = .str (formatTimestamp instant)) :
    requireTextField data message field = .ok () := by
  unfold requireTextField
  rw [found]
  exact raiseIf_ok.mpr (by simp [Json.isText, formatTimestamp_nonempty])

theorem verificationStatus_value (status : VerificationStatus) (source : String) :
    verificationStatus (.str status.value) source = .ok status := by
  cases status <;> rfl

section Reader

variable {resolve : PathResolver} {commands : List VerificationCommand} {cwd expected target : String}
  {roundIndex : Nat} {command : VerificationCommand} {run : CommandRun} {result : VerificationCommandResult}

/-- The evidence of the working directory, the readings and the output. -/
theorem validateAuthoritativeCommandEvidence_iff (text : cwd ≠ "") (here : resolve cwd = .ok target)
    (there : resolve expected = .ok target) (h : runCommand cwd command run = .ok result) :
    validateAuthoritativeCommandEvidence resolve (some expected) (encodeCommandResult result) = .ok () ↔
      run.Forward := by
  obtain ⟨directory, started, ended, seconds⟩ : result.cwd = cwd ∧
      result.startedAt = formatTimestamp run.startedAt ∧ result.endedAt = formatTimestamp run.endedAt ∧
      result.durationSeconds = totalSeconds run.startedAt run.endedAt := by
    rcases runCommand_ok h with ⟨_, _, _, _, rfl⟩ | ⟨_, _, _, _, _, rfl⟩ <;> exact ⟨rfl, rfl, rfl, rfl⟩
  have cwdField : Json.get (encodeCommandResult result) "cwd" = .str cwd := congrArg Json.str directory
  have startField : Json.get (encodeCommandResult result) "started_at" = .str (formatTimestamp run.startedAt) :=
    congrArg Json.str started
  have endField : Json.get (encodeCommandResult result) "ended_at" = .str (formatTimestamp run.endedAt) :=
    congrArg Json.str ended
  have durationField : Json.get (encodeCommandResult result) "duration_seconds" =
      .float (totalSeconds run.startedAt run.endedAt) := congrArg Json.float seconds
  have output : (Json.get (encodeCommandResult result) "stdout").isStr = true ∧
      (Json.get (encodeCommandResult result) "stderr").isStr = true := ⟨rfl, rfl⟩
  unfold validateAuthoritativeCommandEvidence
  rw [cwdField]
  rw [check_bind_ok, raiseIf_ok, bind_ok_iff]
  simp only [here, there, bind_ok_iff (α := String), Except.ok.injEq, exists_eq_left']
  simp only [check_bind_ok, raiseIf_ok, text, not_false_eq_true, true_and, ne_eq, not_true_eq_false,
    requireTextField_timestamp startField, requireTextField_timestamp endField, durationField,
    Bool.not_eq_false, isDuration_float, totalSeconds_nonneg, output.1, output.2, Bool.true_eq_false,
    or_self, and_true, CommandRun.Forward]

/-- The evidence of one command is accepted exactly when it passed and the clock
went forward. -/
theorem validateCommandEvidence_iff (text : cwd ≠ "") (here : resolve cwd = .ok target)
    (there : resolve expected = .ok target) (h : runCommand cwd command run = .ok result) :
    validateCommandEvidence resolve (authoritativeExpectation commands expected roundIndex)
        (.obj (encodeCommandResult result)) command = .ok () ↔ run.Passed ∧ run.Forward := by
  have identity : result.name = command.name ∧ result.argv = command.argv := by
    rcases runCommand_ok h with ⟨_, _, _, _, rfl⟩ | ⟨_, _, _, _, _, rfl⟩ <;> exact ⟨rfl, rfl⟩
  have nameField : Json.get (encodeCommandResult result) "name" = .str command.name :=
    congrArg Json.str identity.1
  have argvField : Json.get (encodeCommandResult result) "argv" = .arr (command.argv.map .str) :=
    congrArg (fun argv : List String => Json.arr (argv.map Json.str)) identity.2
  have statusField : Json.get (encodeCommandResult result) "status" = .str result.status.value := rfl
  have passed : validateCommandPass (authoritativeExpectation commands expected roundIndex)
      (encodeCommandResult result) = .ok () ↔ run.Passed := by
    unfold validateCommandPass
    rw [if_pos (show (authoritativeExpectation commands expected roundIndex).requireAllCommandsPass = true from rfl),
      statusField, verificationStatus_value, ← runCommand_status h]
    simp only [bind_ok_iff, Except.ok.injEq, exists_eq_left', raiseIf_ok, not_or, not_not, Bool.not_eq_false]
    constructor
    · exact fun checks => checks.1
    · intro pass
      rcases runCommand_ok h with ⟨returncode, _, _, _, rfl⟩ | ⟨_, _, _, _, _, rfl⟩
      · have zero : returncode = 0 := by
          by_contra other
          simp [commandReturned, other] at pass
        refine ⟨pass, ?_, rfl, rfl⟩
        rw [zero]
        exact Json.pyEq_int.mpr rfl
      · simp [commandError] at pass
  unfold validateCommandEvidence
  simp only [check_bind_ok, raiseIf_ok, not_or, Bool.not_eq_false, Json.pyEq_str, Json.pyEq_strs, nameField,
    argvField, true_and, passed]
  exact and_congr_right fun _ => validateAuthoritativeCommandEvidence_iff text here there h

/-- The runs from an index on are the run at the index and those after it. -/
theorem forall_shifted {p : Nat → Prop} {index n : Nat} :
    (∀ i < n + 1, p (index + i)) ↔ p index ∧ ∀ i < n, p (index + 1 + i) := by
  rw [Nat.forall_lt_succ_left]
  simp only [Nat.add_zero, Nat.add_assoc, Nat.add_comm 1]

/-- Every command gets a result. -/
theorem runCommands_length {runs : Nat → CommandRun} {index : Nat} {results : List VerificationCommandResult}
    (h : runCommands cwd runs index commands = .ok results) : results.length = commands.length := by
  induction commands generalizing index results with
  | nil =>
    cases h
    rfl
  | cons command commands ih =>
    obtain ⟨result, _, h⟩ := bind_ok_iff.mp h
    obtain ⟨rest, ran, h⟩ := bind_ok_iff.mp h
    rw [← pure_ok.mp h, List.length_cons, List.length_cons, ih ran]

/-- The evidence of all commands is accepted exactly when each of them passed and
the clock went forward around it. -/
theorem validateCommands_iff (configured : List VerificationCommand) (roundIndex : Nat) {runs : Nat → CommandRun} {index : Nat}
    {results : List VerificationCommandResult} (text : cwd ≠ "") (here : resolve cwd = .ok target)
    (there : resolve expected = .ok target) (h : runCommands cwd runs index commands = .ok results) :
    validateCommands resolve (authoritativeExpectation configured expected roundIndex)
        (results.map fun result => .obj (encodeCommandResult result)) commands = .ok () ↔
      ∀ i < commands.length, (runs (index + i)).Passed ∧ (runs (index + i)).Forward := by
  induction commands generalizing index results with
  | nil =>
    cases h
    simp [validateCommands]
  | cons command commands ih =>
    obtain ⟨result, one, h⟩ := bind_ok_iff.mp h
    obtain ⟨rest, ran, h⟩ := bind_ok_iff.mp h
    rw [← pure_ok.mp h, List.map_cons, validateCommands, check_bind_ok,
      validateCommandEvidence_iff text here there one, ih ran, List.length_cons]
    exact (forall_shifted (p := fun i => (runs i).Passed ∧ (runs i).Forward)).symm

/-- No result failed or erred exactly when every process returned zero. -/
theorem runCommands_clean {runs : Nat → CommandRun} {index : Nat} {results : List VerificationCommandResult}
    (h : runCommands cwd runs index commands = .ok results) :
    (∀ result ∈ results, result.status = .pass) ↔ ∀ i < commands.length, (runs (index + i)).Passed := by
  induction commands generalizing index results with
  | nil =>
    cases h
    simp
  | cons command commands ih =>
    obtain ⟨result, one, h⟩ := bind_ok_iff.mp h
    obtain ⟨rest, ran, h⟩ := bind_ok_iff.mp h
    rw [← pure_ok.mp h, List.forall_mem_cons, runCommand_status one, ih ran, List.length_cons]
    exact (forall_shifted (p := fun i => (runs i).Passed)).symm

end Reader

/-! ## Writer, outcome and reader -/

section Agreement

variable {printable : Char → Bool} {resolve : PathResolver} {commands : List VerificationCommand}
  {cwd expected target resultPath : String} {roundIndex : Nat} {run : RoundRun} {round : VerificationRound}

/-- Every command passed and the workspace was left alone. -/
def RoundRun.Clean (run : RoundRun) (commands : List VerificationCommand) : Prop :=
  run.violations = .ok [] ∧ ∀ i < commands.length, (run.command i).Passed

/-- No duration of the round is negative. -/
def RoundRun.Forward (run : RoundRun) (commands : List VerificationCommand) : Prop :=
  run.startedAt ≤ run.endedAt ∧ ∀ i < commands.length, (run.command i).Forward

/-- The parts of a written round. -/
theorem runRound_ok (h : runRound printable commands cwd roundIndex resultPath true run = .ok round) :
    ∃ results violations failures, runCommands cwd run.command 0 commands = .ok results ∧
      run.violations = .ok violations ∧ verificationFailures printable resultPath results = .ok failures ∧
      round =
        { roundIndex
          startedAt := formatTimestamp run.startedAt
          endedAt := formatTimestamp run.endedAt
          durationSeconds := totalSeconds run.startedAt run.endedAt
          status := roundStatus results violations
          commands := results
          safetyViolations := violations
          failures } := by
  obtain ⟨results, ran, h⟩ := bind_ok_iff.mp h
  obtain ⟨violations, inspected, h⟩ := bind_ok_iff.mp h
  obtain ⟨failures, listed, h⟩ := bind_ok_iff.mp h
  obtain ⟨_, h⟩ := check_bind_ok.mp h
  exact ⟨results, violations, failures, ran, inspected, listed, (pure_ok.mp h).symm⟩

/-- Every status of a clean list of results is PASS. -/
theorem all_pass_iff {results : List VerificationCommandResult} :
    (∀ result ∈ results, result.status = .pass) ↔
      results.any VerificationCommandResult.errored = false ∧
        results.any VerificationCommandResult.failed = false := by
  rw [List.any_eq_false, List.any_eq_false, ← forall₂_and]
  refine forall₂_congr fun result _ => ?_
  cases status : result.status <;>
    simp [VerificationCommandResult.errored, VerificationCommandResult.failed, status]

/-- The stage completes exactly when every process returned zero and nothing
else touched the workspace. -/
theorem finishOutcome_completed_iff
    (h : runRound printable commands cwd roundIndex resultPath true run = .ok round) :
    (finishOutcome round false).1 = .completed ↔ run.Clean commands := by
  obtain ⟨results, violations, failures, ran, inspected, _, rfl⟩ := runRound_ok h
  have passed := runCommands_clean ran
  rw [all_pass_iff] at passed
  unfold RoundRun.Clean
  simp only [Nat.zero_add] at passed
  rw [← passed, inspected, Except.ok.injEq]
  unfold finishOutcome
  by_cases violated : violations = []
  · cases erred : results.any VerificationCommandResult.errored <;>
      cases failed : results.any VerificationCommandResult.failed <;> simp [violated]
  · simp [violated]

/-- A round passes when every command did and nothing was violated. -/
theorem roundStatus_pass_iff {results : List VerificationCommandResult}
    {violations : List VerificationSafetyViolation} :
    roundStatus results violations = .pass ↔
      violations = [] ∧ ∀ result ∈ results, result.status = .pass := by
  rw [all_pass_iff]
  unfold roundStatus
  by_cases violated : violations = []
  · cases erred : results.any VerificationCommandResult.errored <;>
      cases failed : results.any VerificationCommandResult.failed <;> simp [violated]
  · simp [violated]

/-- Passing results need no correction. -/
theorem verificationFailures_pass {results : List VerificationCommandResult}
    (passed : ∀ result ∈ results, result.status = .pass) :
    verificationFailures printable resultPath results = .ok [] := by
  have none : results.filter VerificationCommandResult.failed = [] := by
    rw [List.filter_eq_nil_iff]
    intro result member
    simp [VerificationCommandResult.failed, passed result member]
  unfold verificationFailures
  rw [none]
  rfl

/-- The checks the reader makes on the JSON of any round. -/
theorem validateVerificationResult_encodeRound (started : (Json.str round.startedAt).isText = true)
    (ended : (Json.str round.endedAt).isText = true) (same : round.commands.length = commands.length)
    (index : round.roundIndex = roundIndex) :
    validateVerificationResult resolve (authoritativeExpectation commands expected roundIndex)
        (encodeRound round) = .ok () ↔
      round.status = .pass ∧
        validateCommands resolve (authoritativeExpectation commands expected roundIndex)
          (round.commands.map fun result => .obj (encodeCommandResult result)) commands = .ok () ∧
        0 ≤ round.durationSeconds ∧ round.safetyViolations = [] ∧ round.failures = [] := by
  have schema : (Json.get (encodeRound round) "schema_version").pyEq (.int 1) = true := Json.pyEq_int.mpr rfl
  have format : (Json.get (encodeRound round) "format").pyEq (.str "ticket_automation.verification_round") = true :=
    Json.pyEq_str.mpr rfl
  have statusField : Json.get (encodeRound round) "status" = .str round.status.value := rfl
  have commandsField : Json.get (encodeRound round) "commands" =
      .arr (round.commands.map fun result => .obj (encodeCommandResult result)) := rfl
  have indexField : Json.get (encodeRound round) "round_index" = .int roundIndex := index ▸ rfl
  have durationField : Json.get (encodeRound round) "duration_seconds" = .float round.durationSeconds := rfl
  have violationsField : Json.get (encodeRound round) "safety_violations" =
      .arr (round.safetyViolations.map encodeSafetyViolation) := rfl
  have reasonsField : Json.get (encodeRound round) "correction_reasons" =
      .arr (round.failures.map encodeFailure) := rfl
  have startText : ∀ message, requireTextField (encodeRound round) message "started_at" = .ok () := by
    intro message
    exact raiseIf_ok.mpr (Bool.not_eq_false _ ▸ started)
  have endText : ∀ message, requireTextField (encodeRound round) message "ended_at" = .ok () := by
    intro message
    exact raiseIf_ok.mpr (Bool.not_eq_false _ ▸ ended)
  have final : validateAuthoritativeRoundEvidence (some roundIndex) (encodeRound round) = .ok () ↔
      0 ≤ round.durationSeconds ∧ round.safetyViolations = [] ∧ round.failures = [] := by
    unfold validateAuthoritativeRoundEvidence
    rw [indexField]
    simp only [check_bind_ok, raiseIf_ok, startText, endText, durationField, violationsField, reasonsField,
      Bool.not_eq_false, isDuration_float, Json.pyEq_nil, Json.arr.injEq, List.map_eq_nil_iff, not_lt,
      Int.natCast_nonneg, true_and]
    simp
  unfold validateVerificationResult
  rw [check_bind_ok, raiseIf_ok, check_bind_ok, raiseIf_ok, statusField, verificationStatus_value, commandsField]
  simp only [bind_ok_iff (α := VerificationStatus), Except.ok.injEq, exists_eq_left', check_bind_ok, raiseIf_ok,
    schema, format, Bool.true_eq_false, not_false_eq_true, true_and, List.length_map, same, not_not,
    authoritativeExpectation, if_true, List.mem_singleton, ne_eq, not_true_eq_false]
  exact and_congr_right fun _ => and_congr_right fun _ => final

/-- The reader accepts the JSON of a round exactly when the round is clean and
none of its durations is negative. -/
theorem round_accepted_iff (text : cwd ≠ "") (here : resolve cwd = .ok target)
    (there : resolve expected = .ok target)
    (h : runRound printable commands cwd roundIndex resultPath true run = .ok round) :
    validateVerificationResult resolve (authoritativeExpectation commands expected roundIndex)
        (encodeRound round) = .ok () ↔ run.Clean commands ∧ run.Forward commands := by
  obtain ⟨results, violations, failures, ran, inspected, listed, rfl⟩ := runRound_ok h
  have passed := runCommands_clean ran
  have evidence := validateCommands_iff commands roundIndex text here there ran
  simp only [Nat.zero_add] at passed evidence
  have started : (Json.str (formatTimestamp run.startedAt)).isText = true := by
    simp [Json.isText, formatTimestamp_nonempty]
  have ended : (Json.str (formatTimestamp run.endedAt)).isText = true := by
    simp [Json.isText, formatTimestamp_nonempty]
  refine (validateVerificationResult_encodeRound started ended (runCommands_length ran) rfl).trans ?_
  rw [evidence, totalSeconds_nonneg, roundStatus_pass_iff, passed]
  unfold RoundRun.Clean RoundRun.Forward
  rw [inspected, Except.ok.injEq]
  constructor
  · rintro ⟨⟨clean, _⟩, all, forward, _⟩
    exact ⟨⟨clean, fun i below => (all i below).1⟩, forward, fun i below => (all i below).2⟩
  · rintro ⟨⟨clean, pass⟩, forward, forwards⟩
    have none : failures = [] := by
      rw [verificationFailures_pass (passed.mpr pass)] at listed
      exact (Except.ok.inj listed).symm
    exact ⟨⟨clean, pass⟩, fun i below => ⟨pass i below, forwards i below⟩, forward, clean, none⟩

/-- The reader and the outcome of the stage agree on a written round exactly when
a clean round has no negative duration: the reader refuses the durations that a
clock going backwards leaves in the round of a stage that completed. -/
theorem verification_reader_agrees_iff (text : cwd ≠ "") (here : resolve cwd = .ok target)
    (there : resolve expected = .ok target)
    (h : runRound printable commands cwd roundIndex resultPath true run = .ok round) :
    ((validateVerificationResult resolve (authoritativeExpectation commands expected roundIndex)
        (encodeRound round) = .ok ()) ↔ (finishOutcome round false).1 = .completed) ↔
      (run.Clean commands → run.Forward commands) := by
  rw [round_accepted_iff text here there h, finishOutcome_completed_iff h]
  constructor
  · intro agree clean
    exact (agree.mpr clean).2
  · intro forward
    exact ⟨fun both => both.1, fun clean => ⟨clean, forward clean⟩⟩

/-- One passing command between two readings, and the round around it. -/
def passingRun (startedAt endedAt : Int) : RoundRun where
  startedAt := 1790000000000000
  endedAt := 1790000009000000
  command := fun _ => ⟨startedAt, endedAt, .returned 0 "1 passed\n" "", .ok ()⟩
  violations := .ok []
  write := .ok ()

theorem passingRun_written (startedAt endedAt : Int) :
    ∃ round, runRound (fun _ => false) [⟨"tests", ["pytest"], 600⟩] "/repo" 1 "result.json" true
      (passingRun startedAt endedAt) = .ok round := ⟨_, rfl⟩

/-- A command of two seconds. -/
theorem verification_reader_agrees_iff_example :
    ∃ round, runRound (fun _ => false) [⟨"tests", ["pytest"], 600⟩] "/repo" 1 "result.json" true
        (passingRun 1790000001000000 1790000003000000) = .ok round ∧
      (((validateVerificationResult .ok (authoritativeExpectation [⟨"tests", ["pytest"], 600⟩] "/repo" 1)
          (encodeRound round) = .ok ()) ↔ (finishOutcome round false).1 = .completed) ↔
        ((passingRun 1790000001000000 1790000003000000).Clean [⟨"tests", ["pytest"], 600⟩] →
          (passingRun 1790000001000000 1790000003000000).Forward [⟨"tests", ["pytest"], 600⟩])) := by
  obtain ⟨round, written⟩ := passingRun_written 1790000001000000 1790000003000000
  exact ⟨round, written, verification_reader_agrees_iff (by decide) rfl rfl written⟩

/-- The clock is set back by one second while the only command runs: the stage
completes and the reader refuses its round. -/
theorem backward_clock_refused :
    ∃ round, runRound (fun _ => false) [⟨"tests", ["pytest"], 600⟩] "/repo" 1 "result.json" true
        (passingRun 1790000002000000 1790000001000000) = .ok round ∧
      (finishOutcome round false).1 = .completed ∧
      validateVerificationResult .ok (authoritativeExpectation [⟨"tests", ["pytest"], 600⟩] "/repo" 1)
        (encodeRound round) ≠ .ok () := by
  obtain ⟨round, written⟩ := passingRun_written 1790000002000000 1790000001000000
  refine ⟨round, written, ?_, ?_⟩
  · exact (finishOutcome_completed_iff written).mpr ⟨rfl, fun _ _ => ⟨_, _, rfl⟩⟩
  · rw [ne_eq, round_accepted_iff (by decide) rfl rfl written]
    rintro ⟨_, _, forward⟩
    have backward : (1790000002000000 : Int) ≤ 1790000001000000 := forward 0 (by decide)
    omega

end Agreement

end SprintTicket
