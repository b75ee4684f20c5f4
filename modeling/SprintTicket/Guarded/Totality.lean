import SprintTicket.Guarded.Failure

/-!
# What a guarded write raises

`execute` is meant to end with an outcome, or because ownership of the run or of
the attempt directory was lost. `execute_raises` follows an exception through the
operation; the last rows of evidence are where another one can come from: a
violation refuses a blank text, and the whole text of a row may be the name of one
file. A fingerprint refuses a name that UTF-8 does not encode.
`guarded_write_settles_iff` says which texts these are.
-/

set_option autoImplicit false

namespace SprintTicket

open Checks Effects Effects.Effect

/-- Joined texts are blank when each part of the result is. -/
theorem isBlank_intercalate {separator first : String} {rest : List String} :
    isBlank (separator.intercalate (first :: rest)) =
      (isBlank first && rest.all fun text => isBlank separator && isBlank text) := by
  induction rest generalizing first with
  | nil => simp
  | cons text rest ih =>
    rw [String.intercalate_cons_cons, isBlank_append, isBlank_append, ih, List.all_cons]
    simp only [Bool.and_assoc]

/-- Joined texts that are not blank are not blank. -/
theorem filled_intercalate {separator : String} {texts : List String} (filled : ∀ text ∈ texts, isBlank text = false)
    (some : texts ≠ []) : isBlank (separator.intercalate texts) = false := by
  cases texts with
  | nil => exact absurd rfl some
  | cons first rest => rw [isBlank_intercalate, filled first List.mem_cons_self, Bool.false_and]

/-- A list of file names is a blank text when it is one blank name. -/
theorem isBlank_names {names : List String} :
    isBlank (", ".intercalate names) = true ↔ names = [] ∨ ∃ name, names = [name] ∧ isBlank name = true := by
  have comma : isBlank ", " = false := by decide
  cases names with
  | nil => simp [String.intercalate, isBlank]
  | cons name rest =>
    rw [isBlank_intercalate]
    cases rest with
    | nil => simp
    | cons second rest => simp [comma]

/-- The description of an exception names at least its class. -/
theorem Raised.describe_filled (error : Raised) : isBlank error.describe = false := by
  have name : isBlank error.cls.name = false := by
    cases error.cls <;> decide
  exact filled_append (filled_append name)

/-- Ownership of the run or of the attempt directory was lost: a check of them
raised the exception, or its class says so. -/
def LostOwnership (run : GuardedRun) (error : Raised) : Prop :=
  (∃ point, run.check point = .error error) ∨ error.isinstance .runOwnershipError = true

/-- The texts of a change that a violation checks. -/
structure WorkspaceChange.Shown (change : WorkspaceChange) : Prop where
  name : isBlank change.name = false
  expected : isBlank change.expected = false
  actual : isBlank change.actual = false

/-- What is relied on outside the handlers of the operation: paths resolve, a
listing fails with one of the exceptions `_changed_files` names, and neither the
clock nor `_path_identity` raises an exception of the agent contract. -/
structure SystemCalls (run : GuardedRun) (request : GuardedWritableRequest) : Prop where
  directory : ∃ path, run.resolve request.executionRequest.artifactDirectory = .ok path
  expected : ∃ path, run.expectedPath = .ok path
  expectedAfter : ∃ path, run.expectedPathAfter = .ok path
  listing : ∀ error, run.changedFiles = .error error →
    [.osError, .runtimeError, .valueError].any error.isinstance = true
  stamped : ∀ error, run.guardTimestamp = .error error → error.isinstance .agentContractError = false
  identified : ∀ path error, run.pathIdentity path = .error error → error.isinstance .agentContractError = false

/-- An update of the tracked attempt returns: it is saved, or its failure becomes
an entry of the evidence errors. -/
def UpdateReturns (run : GuardedRun) (point : LedgerPoint) (propagate : Bool) : Prop :=
  run.check (.ledger point) = .ok () ∧ ∀ error, run.saveAttempt point = .error error →
    error.isinstance .runOwnershipError = false ∧ run.check (.ledgerFailed point) = .ok () ∧
      (propagate = true → error.isinstance .exception = true)

/-- The invocation ended without an exception and with a success. -/
structure InvocationAccepted (run : GuardedRun) (request : AgentExecutionRequest) (execution : AgentExecution) :
    Prop where
  checks : ∀ point ∈ [.beforeInvocation, .invocationReturned, .evidenceWritten], run.check point = .ok ()
  returned : run.execution = .ok execution
  success : execution.status = .success
  task : execution.taskKind = request.taskKind
  /-- A start the executor did not report is recorded when it returns. -/
  start : run.startReports = 0 → UpdateReturns run .invocationStart true
  evidence : ∃ evidence, evidenceFromExecution request execution = .ok evidence ∧
    run.writeExecutionEvidence evidence = .ok ()
  saved : UpdateReturns run .executionEvidence false

section Condition

variable (sha256 : Sha256) (run : GuardedRun) (request : GuardedWritableRequest)

/-- The changes of `_starting_violations`. -/
def startingChanges (snapshot : WorkspaceSnapshot) (path : String) (baseline : WritableBaseline) :
    List WorkspaceChange :=
  workspaceSafetyChanges snapshot path baseline.branch baseline.headSha true baseline.requireCleanWorktree ++
    changeWhen (baseline.expectedWorkspaceFingerprint.any fun expected =>
        !snapshot.matchesFingerprint sha256 expected)
      ⟨"workspace-fingerprint", baseline.expectedWorkspaceFingerprint.getD "", snapshot.fingerprint sha256,
        "Workspace no longer matches the authorized starting state."⟩

/-- The write reaches the executor: everything around the capture before it
passed, and the workspace is the authorised one. -/
structure StartReached (snapshot : WorkspaceSnapshot) (environment : WorkspaceEnvironmentSnapshot) : Prop where
  captured : BeforeCaptured run request.phase request.executionRequest.artifactDirectory snapshot environment
  authorized : ∃ path, run.expectedPath = .ok path ∧ startingChanges sha256 snapshot path request.baseline = []

/-- The texts `execute` makes evidence of can be encoded and are not blank, and the
executor's capabilities are not asked for in vain by an interruption. -/
structure EvidenceShown : Prop where
  encoded : ∀ snapshot, run.workspaceBefore = .ok snapshot ∨ run.workspaceAfter = .ok snapshot →
    run.encodes snapshot = true
  starting : ∀ snapshot path, run.workspaceBefore = .ok snapshot → run.expectedPath = .ok path →
    ∀ change ∈ startingChanges sha256 snapshot path request.baseline, change.Shown
  inspection : ∀ snapshot, run.workspaceBefore = .ok snapshot →
    isBlank (orDefault (some ("; ".intercalate snapshot.inspectionErrors)) "incomplete") = false
  post : ∀ snapshot path, run.workspaceAfter = .ok snapshot → run.expectedPathAfter = .ok path →
    ∀ change ∈ workspaceSafetyChanges snapshot path request.baseline.branch request.baseline.headSha true false,
      change.Shown
  capabilities : ∀ snapshot environment, StartReached sha256 run request snapshot environment →
    ∀ error, run.capabilities = .error error → error.isinstance .exception = true
  /-- The changed files are listed only after a write that did not succeed. -/
  worktree : ∀ snapshot environment, StartReached sha256 run request snapshot environment →
    executorCapabilityProblem run request.executionRequest = .ok none →
    (∀ execution, ¬InvocationAccepted run request.executionRequest execution) →
    ∀ listed, run.changedFiles = .ok listed → listed.1 ≠ [] →
      workspaceUnchanged (some snapshot) (captureWorkspace run.workspaceAfter).snapshot = false →
        isBlank (formatFiles listed.1) = false

end Condition

section Refused

variable {error : Raised}

/-- A violation is refused for a blank text alone. -/
theorem WritableSafetyViolation.ofFields_error {name expected actual message : String}
    (h : WritableSafetyViolation.ofFields name expected actual message = .error error) :
    error.cls = .valueError ∧ ∃ text ∈ [name, expected, actual, message], isBlank text = true := by
  unfold WritableSafetyViolation.ofFields at h
  dsimp only at h
  split at h
  · rename_i field found
    cases h
    have blank : isBlank field.2 = true := by simpa using List.find?_some found
    refine ⟨rfl, field.2, ?_, blank⟩
    have member := List.mem_of_find?_eq_some found
    simp only [List.mem_cons, List.not_mem_nil, or_false] at member ⊢
    rcases member with rfl | rfl | rfl | rfl <;> simp
  · cases h

theorem WritableSafetyViolation.ofFields_filled {name expected actual message : String}
    {violation : WritableSafetyViolation}
    (h : WritableSafetyViolation.ofFields name expected actual message = .ok violation) :
    ∀ text ∈ [name, expected, actual, message], isBlank text = false := by
  have nonblank := violation.nonblank
  unfold WritableSafetyViolation.ofFields at h
  dsimp only at h
  split at h
  · cases h
  · cases h
    exact nonblank

/-- A violation with four filled texts is not refused. -/
theorem WritableSafetyViolation.ofFields_accepted {name expected actual message : String}
    (filled : ∀ text ∈ [name, expected, actual, message], isBlank text = false)
    (h : WritableSafetyViolation.ofFields name expected actual message = .error error) : False := by
  obtain ⟨_, text, member, blank⟩ := WritableSafetyViolation.ofFields_error h
  rw [filled text member] at blank
  cases blank

theorem safetyViolations_error {changes : List WorkspaceChange} {point : String}
    (h : safetyViolations changes point = .error error) :
    error.cls = .valueError ∧ ∃ change ∈ changes, ¬change.Shown := by
  obtain ⟨before, change, after, split, _, refused⟩ := mapM_error_iff.mp h
  obtain ⟨cls, text, member, blank⟩ := WritableSafetyViolation.ofFields_error refused
  refine ⟨cls, change, split ▸ List.mem_append_right before List.mem_cons_self, ?_⟩
  rintro ⟨name, expected, actual⟩
  have message : isBlank (stripDots change.message ++ " " ++ point ++ ".") = false := append_filled (by decide)
  simp only [List.mem_cons, List.not_mem_nil, or_false] at member
  rcases member with rfl | rfl | rfl | rfl <;> simp_all

theorem safetyViolations_shown {changes : List WorkspaceChange} {point : String}
    {violations : List WritableSafetyViolation} (h : safetyViolations changes point = .ok violations) :
    ∀ change ∈ changes, change.Shown := by
  intro change member
  obtain ⟨violation, built⟩ := mapM_ok_each h member
  have filled := WritableSafetyViolation.ofFields_filled built
  simp only [List.forall_mem_cons] at filled
  exact ⟨filled.1, filled.2.1, filled.2.2.1⟩

/-- The capture of a workspace that could not be inspected is always shown;
otherwise the inspection errors are. -/
theorem inspectionViolation_error {point : String} {captured : Except Raised WorkspaceSnapshot}
    (h : inspectionViolation point (captureWorkspace captured) = .error error) :
    error.cls = .valueError ∧ ∃ snapshot, captured = .ok snapshot ∧
      isBlank (orDefault (some ("; ".intercalate snapshot.inspectionErrors)) "incomplete") = true := by
  obtain ⟨cls, text, member, blank⟩ := WritableSafetyViolation.ofFields_error h
  refine ⟨cls, ?_⟩
  have expected : isBlank ("complete " ++ point ++ "-call canonical workspace snapshot") = false :=
    append_filled (by decide)
  have message : isBlank ("Could not establish workspace safety " ++ point ++ " writable execution.") = false :=
    append_filled (by decide)
  simp only [List.mem_cons, List.not_mem_nil, or_false] at member
  rcases member with rfl | rfl | actual | rfl
  · exact absurd blank (by decide)
  · rw [expected] at blank
    cases blank
  · rw [actual] at blank
    cases captured with
    | ok snapshot => exact ⟨snapshot, rfl, blank⟩
    | error failed =>
      have filled : isBlank (orDefault (some failed.describe) "unavailable") = false := by
        unfold orDefault
        dsimp only
        split
        · decide
        · exact failed.describe_filled
      exact absurd (filled.symm.trans blank) Bool.false_ne_true
  · rw [message] at blank
    cases blank

/-- The entries of the evidence errors can be shown. -/
def AttemptTracker.Evident (tracker : AttemptTracker) : Prop :=
  ∀ text ∈ tracker.evidenceErrors, isBlank text = false

/-- Evidence errors are never blank, so their violations are accepted. -/
theorem attemptEvidenceViolations_accepted {tracker : AttemptTracker} (evident : tracker.Evident)
    (h : attemptEvidenceViolations tracker = .error error) : False := by
  unfold attemptEvidenceViolations at h
  split at h
  · cases h
  · rename_i some
    rcases bind_error_iff.mp h with refused | ⟨_, _, h⟩
    · refine WritableSafetyViolation.ofFields_accepted ?_ refused
      simp only [List.forall_mem_cons]
      exact ⟨by decide, by decide, filled_intercalate evident some, by decide, by simp⟩
    · cases h

theorem listingViolation_accepted {run : GuardedRun} {files : List String} {changeError : Option String}
    {point : String} (listed : listChangedFiles run = .ok (files, changeError))
    (h : listingViolation changeError point = .error error) : False := by
  unfold listingViolation at h
  split at h
  · cases h
  · rename_i text
    have filled : isBlank text = false := by
      rcases handling_ok listed with mapped | ⟨failed, _, same⟩
      · cases found : run.changedFiles <;> rw [found] at mapped <;> cases mapped
      · cases same
        exact failed.describe_filled
    rcases bind_error_iff.mp h with refused | ⟨_, _, h⟩
    · refine WritableSafetyViolation.ofFields_accepted ?_ refused
      have message : isBlank ("Could not inspect source changes " ++ point ++ ".") = false :=
        append_filled (by decide)
      simp only [List.forall_mem_cons]
      exact ⟨by decide, by decide, filled, message, by simp⟩
    · cases h

/-- The violation about the worktree is refused for a file without a name. -/
theorem worktreeViolation_error {execution : Option AgentExecution} {executionError : Option Raised}
    {files : List String} {unchanged : Bool}
    (h : worktreeViolation execution executionError files unchanged = .error error) :
    error.cls = .valueError ∧ (executionError.isSome ∨ execution.all fun execution => !execution.successful) ∧
      files ≠ [] ∧ unchanged = false ∧ isBlank (formatFiles files) = true := by
  unfold worktreeViolation at h
  split at h
  · rename_i failed
    rcases bind_error_iff.mp h with refused | ⟨_, _, h⟩
    · obtain ⟨cls, text, member, blank⟩ := WritableSafetyViolation.ofFields_error refused
      refine ⟨cls, failed.1, failed.2.1, failed.2.2, ?_⟩
      simp only [List.mem_cons, List.not_mem_nil, or_false] at member
      rcases member with rfl | rfl | rfl | rfl
      · exact absurd blank (by decide)
      · exact absurd blank (by decide)
      · exact blank
      · exact absurd blank (by decide)
    · cases h
  · cases h

theorem worktreeViolation_shown {execution : Option AgentExecution} {executionError : Option Raised}
    {files : List String} {unchanged : Bool} {violations : List WritableSafetyViolation}
    (h : worktreeViolation execution executionError files unchanged = .ok violations)
    (failed : executionError.isSome ∨ execution.all fun execution => !execution.successful) (some : files ≠ [])
    (changed : unchanged = false) : isBlank (formatFiles files) = false := by
  unfold worktreeViolation at h
  rw [if_pos ⟨failed, some, changed⟩] at h
  obtain ⟨violation, built, _⟩ := bind_ok_iff.mp h
  have filled := WritableSafetyViolation.ofFields_filled built
  simp only [List.forall_mem_cons] at filled
  exact filled.2.2.1

end Refused

/-- Exceptions that may leave the operation: those of the checks, lost ownership,
and what `_build_and_persist_guard_evidence` raises again. -/
structure Covers (run : GuardedRun) (request : AgentExecutionRequest) (Q : Raised → Prop) : Prop where
  checks : ∀ point error, run.check point = .error error → Q error
  saves : ∀ point error, run.saveAttempt point = .error error → error.isinstance .runOwnershipError = true → Q error
  matched : ∀ expected error, matchingAttempts run expected = .error error →
    error.isinstance .runOwnershipError = true → Q error
  compared : ∀ phase before after error, compareEnvironment run phase before after = .error error →
    (error.isinstance .agentContractError || error.isinstance .runOwnershipError) = true → Q error
  invoked : ∀ tracker execution error later, tracker.Evident →
    invoke run request tracker = (.ok (execution, some error), later) →
      error.isinstance .runOwnershipError = true → Q error

section Walk

variable {sha256 : Sha256} {run : GuardedRun} {Q : Raised → Prop}

theorem addError_evident {text : String} (filled : isBlank text = false) (tracker : AttemptTracker)
    (evident : tracker.Evident) : (tracker.addError text).Evident := by
  intro entry member
  rcases List.mem_append.mp member with before | last
  · exact evident entry before
  · rw [List.mem_singleton.mp last]
    exact filled

/-- What a failed update can raise: the check's error, a lost ownership, or what it is to
propagate. -/
theorem updateFailed_raises {point : LedgerPoint} {propagate : Bool} {error : Raised}
    (checks : ∀ point error, run.check point = .error error → Q error)
    (owned : error.isinstance .runOwnershipError = true → Q error)
    (interrupted : propagate = true → Q error) :
    Raises AttemptTracker.Evident Q (AttemptTracker.updateFailed run point propagate error) := by
  unfold AttemptTracker.updateFailed
  split
  · rename_i ownership
    exact raises_raise (owned ownership)
  · refine raises_bind (raises_lift (checks _)) fun _ => ?_
    refine raises_bind (raises_modify (addError_evident (filled_append (by decide)))) fun _ => ?_
    split
    · rename_i propagated
      exact raises_raise (interrupted (Bool.and_eq_true_iff.mp propagated).1)
    · exact raises_pure

theorem update_raises {point : LedgerPoint} {propagate : Bool} {changes : AttemptChanges}
    (checks : ∀ point error, run.check point = .error error → Q error) (plain : changes.Plain)
    (saves : ∀ point error, run.saveAttempt point = .error error → error.isinstance .runOwnershipError = true → Q error)
    (interrupted : propagate = true → ∀ error, run.saveAttempt point = .error error → Q error) :
    Raises AttemptTracker.Evident Q (AttemptTracker.update run point propagate changes) := by
  unfold AttemptTracker.update
  refine raises_get_bind fun tracker evident => ?_
  split
  · exact raises_pure
  · rename_i record found
    refine raises_bind (raises_lift (checks _)) fun _ => ?_
    obtain ⟨updated, prepared⟩ := updateAttempt_eq run point record (plain.withStart tracker.processStarted)
    rw [prepared]
    cases saved : run.saveAttempt point with
    | ok _ => exact raises_modify fun _ evident => evident
    | error error =>
      exact updateFailed_raises checks (saves point error saved) fun propagated => interrupted propagated error saved

/-- What may leave an operation that only records evidence. -/
theorem Covers.recorded {request : AgentExecutionRequest} (covers : Covers run request Q) {point : LedgerPoint}
    {changes : AttemptChanges} (plain : changes.Plain) :
    Raises AttemptTracker.Evident Q (AttemptTracker.update run point false changes) :=
  update_raises covers.checks plain covers.saves (by simp)

/-- The tracker's errors stay texts that can be shown. -/
theorem recordStarted_evident (value : Bool) :
    Keeps AttemptTracker.Evident (AttemptTracker.recordStarted run value) := by
  have updated : Raises AttemptTracker.Evident (fun _ => True) (AttemptTracker.update run .invocationStart true {}) :=
    update_raises (fun _ _ _ => trivial) AttemptChanges.plain_empty (fun _ _ _ _ => trivial) fun _ _ _ => trivial
  unfold AttemptTracker.recordStarted
  refine keeps_bind keeps_get fun tracker => ?_
  split
  · split
    · exact keeps_modify (addError_evident (by decide))
    · exact keeps_pure
  · split
    · exact keeps_pure
    · exact keeps_bind (keeps_modify fun _ evident => evident) fun _ => updated.keeps

theorem reportStarts_raises (count : Nat) : Raises AttemptTracker.Evident Q (reportStarts run count) := by
  induction count with
  | zero => exact raises_pure
  | succ count ih => exact raises_bind (raises_attempt (recordStarted_evident true)) fun _ => ih

theorem acceptExecution_evident (request : AgentExecutionRequest) (execution : AgentExecution) :
    Keeps AttemptTracker.Evident (acceptExecution run request execution) := by
  have updated : Raises AttemptTracker.Evident (fun _ => True)
      (AttemptTracker.update run .executionEvidence false { executionPath := some executionEvidenceFile }) :=
    update_raises (fun _ _ _ => trivial) ⟨rfl, rfl, .inr rfl⟩ (fun _ _ _ _ => trivial) (by simp)
  have started : Keeps AttemptTracker.Evident (recordReturnedStart run execution) := by
    unfold recordReturnedStart
    split
    · exact keeps_pure
    · exact recordStarted_evident _
  unfold acceptExecution
  refine keeps_bind started fun _ => ?_
  exact keeps_bind keeps_lift fun _ => keeps_bind keeps_lift fun _ => keeps_bind keeps_lift fun _ =>
    keeps_bind keeps_lift fun _ => keeps_bind keeps_lift fun _ => updated.keeps

/-- The invocation raises nothing: what goes wrong in it is handed on. -/
theorem invoke_raises (request : AgentExecutionRequest) :
    Raises AttemptTracker.Evident Q (invoke run request) := by
  unfold invoke
  split
  · exact raises_pure
  · refine raises_bind (reportStarts_raises _) fun _ => ?_
    split
    · exact raises_pure
    · refine raises_bind (raises_attempt (acceptExecution_evident request _)) fun outcome => ?_
      cases outcome <;> exact raises_pure

/-- What the fingerprint of a capture raises may leave. -/
def FingerprintCovered (sha256 : Sha256) (run : GuardedRun) (Q : Raised → Prop)
    (captured : Except Raised WorkspaceSnapshot) : Prop :=
  ∀ snapshot error, captured = .ok snapshot → run.fingerprint sha256 snapshot = .error error → Q error

/-- The record of the capture afterwards raises what the fingerprint and the update raise. -/
theorem recordAfter_raises {request : AgentExecutionRequest} (covers : Covers run request Q)
    {captured : Except Raised WorkspaceSnapshot} (encoded : FingerprintCovered sha256 run Q captured) :
    Raises AttemptTracker.Evident Q (AttemptTracker.recordAfter run sha256 (captureWorkspace captured).snapshot
      (captureWorkspace captured).error) := by
  unfold AttemptTracker.recordAfter
  cases captured with
  | ok snapshot =>
    exact raises_bind (raises_lift (encoded snapshot · rfl)) fun _ => covers.recorded ⟨rfl, rfl, .inl rfl⟩
  | error failed =>
    refine raises_get_bind fun tracker _ => ?_
    split
    · exact raises_pure
    · rename_i record found
      refine raises_bind (raises_lift ?_) fun _ => covers.recorded ⟨rfl, rfl, .inl rfl⟩
      intro error refused
      have filled : isBlank (Option.getD (captureWorkspace (.error failed)).error
          "Could not capture a post-call canonical workspace snapshot.") = false := failed.describe_filled
      unfold AttemptMetadata.withAfterWorkspaceError at refused
      rw [dif_pos filled] at refused
      cases refused

theorem persistGuardEvidence_raises {request : AgentExecutionRequest} (covers : Covers run request Q)
    (directory : String) (inspection : WorkspaceGuardInspection) :
    Raises AttemptTracker.Evident Q (persistGuardEvidence run directory inspection) := by
  unfold persistGuardEvidence
  refine raises_get_bind fun tracker _ => ?_
  split
  · exact raises_pure
  · refine raises_bind (raises_lift (covers.checks _)) fun _ => ?_
    dsimp only
    split
    · exact raises_pure
    · refine raises_bind (raises_lift (covers.checks _)) fun _ => ?_
      refine raises_bind (raises_modify (addError_evident (filled_append (by decide)))) fun _ => ?_
      exact raises_get_bind fun _ _ => raises_pure

theorem buildAndPersistGuardEvidence_raises {request : AgentExecutionRequest} (covers : Covers run request Q)
    (phase : AttemptPhase) (directory : String) (before after : WorkspaceEnvironmentSnapshot) :
    Raises AttemptTracker.Evident Q (buildAndPersistGuardEvidence run phase directory before after) := by
  unfold buildAndPersistGuardEvidence
  refine raises_bind (raises_lift (covers.checks _)) fun _ => ?_
  cases compared : compareAndRevalidate run phase before after with
  | ok inspection => exact persistGuardEvidence_raises covers directory inspection
  | error error =>
    dsimp only
    split
    · rename_i passed
      refine raises_raise ?_
      rcases bind_error_iff.mp compared with failed | ⟨inspection, _, h⟩
      · exact covers.compared phase before after error failed passed
      · rcases bind_error_iff.mp h with failed | ⟨_, _, h⟩
        · exact covers.checks _ _ failed
        · cases h
    · refine raises_bind (raises_modify (addError_evident (filled_append (by decide)))) fun _ => ?_
      exact persistGuardEvidence_raises covers directory _

theorem captureAfter_raises {request : AgentExecutionRequest} (covers : Covers run request Q)
    (encoded : FingerprintCovered sha256 run Q run.workspaceAfter) (path directory : String) (phase : AttemptPhase)
    (before : WorkspaceEnvironmentSnapshot) :
    Raises AttemptTracker.Evident Q (captureAfter sha256 run path directory phase before) := by
  unfold captureAfter
  refine raises_bind (raises_lift (covers.checks _)) fun _ => raises_bind (raises_lift (covers.checks _)) fun _ => ?_
  refine raises_bind (raises_lift (covers.checks _)) fun _ => raises_bind (recordAfter_raises covers encoded) fun _ => ?_
  exact raises_bind (buildAndPersistGuardEvidence_raises covers phase directory before _) fun _ => raises_pure

/-- The reason for a missing attempt is never blank. -/
theorem associatedAttempt_filled {directory : String} {phase : AttemptPhase} {record : Option AttemptRecord}
    {association : Option String} (h : associatedAttempt run directory phase = .ok (record, association)) :
    ∀ text ∈ association, isBlank text = false := by
  obtain ⟨expected, _, h⟩ := bind_ok_iff.mp h
  split at h
  · split at h
    · cases h
    · cases h
      rintro _ ⟨⟩
      exact filled_append (by decide)
  · split at h
    · cases h
      rintro _ ⟨⟩
      decide
    · split at h
      · cases h
        rintro _ ⟨⟩
        decide
      · cases h
        rintro _ ⟨⟩
  · cases h
    rintro _ ⟨⟩
    decide

/-- The snapshot and its error from before the write are those of the capture. -/
theorem captureBefore_capture {path directory : String} {phase : AttemptPhase} {tracker : AttemptTracker}
    {environment : WorkspaceEnvironmentSnapshot}
    (h : captureBefore sha256 run path directory phase = .ok (tracker, environment)) :
    (⟨tracker.beforeSnapshot, tracker.beforeError⟩ : WorkspaceCapture) = captureWorkspace run.workspaceBefore := by
  have stays : ∀ error : Option String, Stable fun tracker => tracker.beforeError = error :=
    fun _ => ⟨fun _ _ h => h, fun _ _ h => h, fun _ h => h⟩
  have snapshot := captureBefore_snapshot h
  obtain ⟨_, h⟩ := check_bind_ok.mp h
  obtain ⟨⟨record, association⟩, _, h⟩ := bind_ok_iff.mp h
  obtain ⟨_, h⟩ := check_bind_ok.mp h
  obtain ⟨_, h⟩ := check_bind_ok.mp h
  obtain ⟨_, h⟩ := check_bind_ok.mp h
  obtain ⟨metadata, _, h⟩ := bind_ok_iff.mp h
  obtain ⟨_, _, h⟩ := bind_ok_iff.mp h
  obtain ⟨_, h⟩ := check_bind_ok.mp h
  obtain ⟨rfl, _⟩ := Prod.mk.inj (pure_ok.mp h)
  rw [snapshot, (stays (captureWorkspace run.workspaceBefore).error).update run _ _ _ _ rfl]

theorem beforeMetadata_accepted {record : Option AttemptRecord} {captured : Except Raised WorkspaceSnapshot}
    {error : Raised} : beforeMetadata record (captureWorkspace captured).error ≠ .error error := by
  intro refused
  cases record with
  | none => cases refused
  | some record =>
    cases captured with
    | ok snapshot => cases refused
    | error failed =>
      have filled : isBlank failed.describe = false := failed.describe_filled
      simp only [beforeMetadata, captureWorkspace, AttemptMetadata.withBeforeWorkspaceError, dif_pos filled,
        reduceCtorEq] at refused

/-- What may leave the capture before the write, and the evidence it keeps. -/
theorem captureBefore_raises {request : GuardedWritableRequest} {path : String} {phase : AttemptPhase}
    (covers : Covers run request.executionRequest Q) (calls : SystemCalls run request)
    (encoded : FingerprintCovered sha256 run Q run.workspaceBefore) :
    (∀ error, captureBefore sha256 run path request.executionRequest.artifactDirectory phase = .error error →
      Q error) ∧
      ∀ tracker environment,
        captureBefore sha256 run path request.executionRequest.artifactDirectory phase = .ok (tracker, environment) →
          tracker.Evident := by
  have recorded : ∀ record association fingerprint metadata, (∀ text ∈ association, isBlank text = false) →
      (∀ error, (AttemptTracker.update run .captureBefore false (beforeChanges fingerprint metadata)
        (.start record association (captureWorkspace run.workspaceBefore))).1 = .error error → Q error) ∧
      (AttemptTracker.update run .captureBefore false (beforeChanges fingerprint metadata)
        (.start record association (captureWorkspace run.workspaceBefore))).2.Evident := by
    intro record association fingerprint metadata filled
    have starts : (AttemptTracker.start record association (captureWorkspace run.workspaceBefore)).Evident := by
      intro text member
      exact filled text (Option.mem_toList.mp member)
    obtain ⟨evident, raised⟩ := covers.recorded (beforeChanges_plain fingerprint metadata) _ starts
    exact ⟨raised, evident⟩
  constructor
  · intro error h
    rcases bind_error_iff.mp h with failed | ⟨_, _, h⟩
    · exact covers.checks _ _ failed
    rcases bind_error_iff.mp h with failed | ⟨⟨record, association⟩, associated, h⟩
    · obtain ⟨directory, resolved⟩ := calls.directory
      rcases bind_error_iff.mp failed with unresolved | ⟨expected, _, failed⟩
      · rw [resolved] at unresolved
        cases unresolved
      · split at failed
        · rename_i matching
          split at failed
          · rename_i ownership
            cases failed
            exact covers.matched expected _ matching ownership
          · cases failed
        · split at failed
          · cases failed
          · split at failed <;> cases failed
        · cases failed
    rcases bind_error_iff.mp h with failed | ⟨_, _, h⟩
    · exact covers.checks _ _ failed
    rcases bind_error_iff.mp h with failed | ⟨_, _, h⟩
    · exact covers.checks _ _ failed
    rcases bind_error_iff.mp h with failed | ⟨_, _, h⟩
    · exact covers.checks _ _ failed
    rcases bind_error_iff.mp h with refused | ⟨metadata, _, h⟩
    · exact absurd refused beforeMetadata_accepted
    rcases bind_error_iff.mp h with failed | ⟨fingerprint, _, h⟩
    · unfold WorkspaceCapture.fingerprint at failed
      split at failed
      · cases failed
      · rename_i snapshot found
        have captured := captureWorkspace_snapshot.mp found
        cases hashed : run.fingerprint sha256 snapshot with
        | ok text =>
          rw [hashed] at failed
          cases failed
        | error raised =>
          rw [hashed] at failed
          cases failed
          exact encoded snapshot _ captured hashed
    rcases bind_error_iff.mp h with failed | ⟨_, _, h⟩
    · exact (recorded record association fingerprint metadata (associatedAttempt_filled associated)).1 error failed
    · cases h
  · intro tracker environment h
    obtain ⟨_, h⟩ := check_bind_ok.mp h
    obtain ⟨⟨record, association⟩, associated, h⟩ := bind_ok_iff.mp h
    obtain ⟨_, h⟩ := check_bind_ok.mp h
    obtain ⟨_, h⟩ := check_bind_ok.mp h
    obtain ⟨_, h⟩ := check_bind_ok.mp h
    obtain ⟨metadata, _, h⟩ := bind_ok_iff.mp h
    obtain ⟨fingerprint, _, h⟩ := bind_ok_iff.mp h
    obtain ⟨_, h⟩ := check_bind_ok.mp h
    obtain ⟨rfl, _⟩ := Prod.mk.inj (pure_ok.mp h)
    exact (recorded record association fingerprint metadata (associatedAttempt_filled associated)).2

end Walk

section Audit

variable {sha256 : Sha256} {run : GuardedRun} {request : GuardedWritableRequest} {error : Raised}

/-- The violations afterwards are refused for a change that cannot be shown. -/
theorem postViolations_error (calls : SystemCalls run request)
    (h : postViolations run (captureWorkspace run.workspaceAfter) request.baseline = .error error) :
    error.cls = .valueError ∧ ∃ snapshot path, run.workspaceAfter = .ok snapshot ∧ run.expectedPathAfter = .ok path ∧
      ∃ change ∈ workspaceSafetyChanges snapshot path request.baseline.branch request.baseline.headSha true false,
        ¬change.Shown := by
  obtain ⟨path, resolved⟩ := calls.expectedAfter
  unfold postViolations at h
  split at h
  · rename_i missing
    rcases bind_error_iff.mp h with refused | ⟨_, _, h⟩
    · obtain ⟨_, snapshot, captured, _⟩ := inspectionViolation_error refused
      rw [captured] at missing
      cases missing
    · cases h
  · rename_i snapshot found
    rcases bind_error_iff.mp h with unresolved | ⟨expected, reached, h⟩
    · rw [resolved] at unresolved
      cases unresolved
    · obtain ⟨cls, change, member, hidden⟩ := safetyViolations_error h
      exact ⟨cls, snapshot, expected, captureWorkspace_snapshot.mp found, reached, change, member, hidden⟩

/-- The listing of the changed files catches what git raises. -/
theorem listChangedFiles_error (calls : SystemCalls run request) : listChangedFiles run ≠ .error error := by
  intro h
  unfold listChangedFiles handling at h
  cases listed : run.changedFiles with
  | ok files =>
    rw [listed] at h
    cases h
  | error failed =>
    rw [listed] at h
    simp only [Except.map, calls.listing failed listed, if_true, reduceCtorEq] at h

theorem listChangedFiles_files {files : List String} {changeError : Option String}
    (h : listChangedFiles run = .ok (files, changeError)) : "" ∉ files := by
  rcases handling_ok h with mapped | ⟨failed, _, same⟩
  · cases listed : run.changedFiles with
    | ok found =>
      rw [listed] at mapped
      cases mapped
      exact found.2
    | error failed =>
      rw [listed] at mapped
      cases mapped
  · cases same
    exact List.not_mem_nil

/-- The audit is refused for a blank failure message or a file without a name. -/
theorem WritableAudit.ofFields_error {execution : Option AgentExecution} {before after : Option WorkspaceSnapshot}
    {guard : WorkspaceGuardInspection} {violations : List WritableSafetyViolation} {files : List String}
    {start : InvocationStart} {message : Option String} (listed : "" ∉ files) (filled : message.any isBlank = false) :
    WritableAudit.ofFields execution before after guard violations files start message ≠ .error error := by
  intro h
  unfold WritableAudit.ofFields at h
  rw [dif_pos listed, dif_pos filled] at h
  cases h

/-- An outcome that is valid for its audit is accepted. -/
theorem GuardedWritableOutcome.ofAudit_error {kind : WritableOutcomeKind} {audit : WritableAudit}
    (valid : validateOutcome audit kind = .ok ()) : GuardedWritableOutcome.ofAudit kind audit ≠ .error error := by
  intro h
  unfold GuardedWritableOutcome.ofAudit at h
  split at h
  · cases h
  · rename_i found
    rw [valid] at found
    cases found

/-- After a capture without violations the guard is on disk and the second
snapshot is complete. -/
theorem captureAfter_safe {path directory : String} {phase : AttemptPhase} {before : WorkspaceEnvironmentSnapshot}
    {tracker later : AttemptTracker} {capture : WorkspaceCapture} {guard : WorkspaceGuardInspection}
    {baseline : WritableBaseline} (tracked : tracker.record.isSome = true)
    (h : captureAfter sha256 run path directory phase before tracker = (.ok (capture, guard), later))
    (post : postViolations run capture baseline = .ok []) (evidence : later.evidenceErrors = [])
    (guarded : guard.requiresHuman = false) :
    capture.snapshot.any WorkspaceSnapshot.inspectionComplete = true ∧ guard.artifactPath ≠ none := by
  obtain ⟨snapshot, expected, found, _, safe⟩ := postViolations_nil.mp post
  have clean := not_not.mp
    ((stable_evidenceErrors.captureAfter sha256 run _ _ _ _).before h (not_not.mpr evidence))
  obtain ⟨_, _, scanned⟩ := WorkspaceGuardInspection.requiresHuman_false.mp guarded
  obtain ⟨after, captured⟩ := (captureAfter_clean path tracked clean safe.complete).mp
    ⟨capture, later, h, evidence, found, scanned⟩
  obtain ⟨timestamp, new, _, _, rfl⟩ := captured.persisted.compared
  refine ⟨by rw [found]; exact safe.complete, ?_⟩
  intro absent
  cases absent

theorem invocationStartOf_success {execution : AgentExecution} {tracker : AttemptTracker}
    {executionError : Option Raised} (success : execution.status = .success) :
    invocationStartOf (some execution) tracker executionError = .started := by
  unfold invocationStartOf
  split
  · rfl
  · exact execution.success_started success

/-- The failure message of an audit is never blank. -/
theorem failureMessageOf_filled {execution : Option AgentExecution} {executionError : Option Raised} :
    (failureMessageOf execution executionError).any isBlank = false := by
  cases executionError with
  | some error => exact error.describe_filled
  | none =>
    cases execution with
    | none => rfl
    | some execution =>
      have semantics := execution.semantics
      show execution.failureMessage.any isBlank = false
      cases status : execution.status with
      | success =>
        rw [status] at semantics
        rw [(validateExecutionSemantics_success.mp semantics).2.2]
        rfl
      | failed =>
        rw [status] at semantics
        obtain ⟨category, text, _, found, filled, _⟩ := validateExecutionSemantics_failed.mp semantics
        rw [found]
        exact filled

/-- What did not succeed has a message. -/
theorem failureMessageOf_some {execution : AgentExecution} (failed : execution.status = .failed) :
    ∃ text, failureMessageOf (some execution) none = some text := by
  have semantics := execution.semantics
  rw [failed] at semantics
  obtain ⟨category, text, _, found, _⟩ := validateExecutionSemantics_failed.mp semantics
  exact ⟨text, found⟩

/-- A message that is not blank is one. -/
theorem uncertain_valid {audit : WritableAudit} {text : String} (found : audit.failureMessage = some text) :
    validateOutcome audit .failedUncertain = .ok () := by
  have filled := audit.failureMessage_nonblank
  rw [found] at filled
  have present : text ≠ "" := by
    rintro rfl
    exact absurd filled (by decide)
  simp [validateOutcome, found, present]

theorem stopped_valid {audit : WritableAudit}
    (insecure : ¬(audit.safetyViolations = [] ∧ audit.workspaceGuard.requiresHuman = false)) :
    validateOutcome audit .safetyStopped = .ok () :=
  raiseIf_ok.mpr insecure

/-- The audit of an invocation passes the checks of the outcome it is given. -/
theorem classifyOutcome_valid {audit : WritableAudit} {execution : Option AgentExecution}
    {executionError : Option Raised} {tracker : AttemptTracker} (same : audit.execution = execution)
    (start : audit.invocationStart = invocationStartOf execution tracker executionError)
    (message : audit.failureMessage = failureMessageOf execution executionError)
    (present : executionError = none → execution.isSome = true)
    (before : audit.beforeWorkspace.any WorkspaceSnapshot.inspectionComplete = true)
    (safe : audit.safetyViolations = [] → audit.workspaceGuard.requiresHuman = false →
      audit.afterWorkspace.any WorkspaceSnapshot.inspectionComplete = true ∧ audit.workspaceGuard.artifactPath ≠ none) :
    validateOutcome audit (classifyOutcome audit executionError
      (workspaceUnchanged audit.beforeWorkspace audit.afterWorkspace)) = .ok () := by
  cases executionError with
  | some error =>
    have uncertain : classifyOutcome audit (some error)
        (workspaceUnchanged audit.beforeWorkspace audit.afterWorkspace) = .failedUncertain := by
      simp [classifyOutcome]
    rw [uncertain]
    exact uncertain_valid message
  | none =>
    obtain ⟨found, rfl⟩ := Option.isSome_iff_exists.mp (present rfl)
    unfold classifyOutcome
    rw [if_neg (by simp)]
    cases status : found.status with
    | success =>
      have successful : audit.execution.any AgentExecution.successful = true := by
        simp [same, AgentExecution.successful, status]
      rw [if_pos successful]
      split
      · rename_i secure
        obtain ⟨after, persisted⟩ := safe secure.1 secure.2
        have started := start.trans (invocationStartOf_success status)
        simp only [validateOutcome, check_bind_ok, raiseIf_ok, requirePersistedGuard, completeSnapshots, before, after]
        simp [same, AgentExecution.successful, status, started, secure.1, secure.2, persisted]
      · rename_i insecure
        exact stopped_valid insecure
    | failed =>
      have failed : ¬audit.execution.any AgentExecution.successful = true := by
        simp [same, AgentExecution.successful, status]
      obtain ⟨text, told⟩ := failureMessageOf_some status
      rw [if_neg failed]
      split
      · rename_i rejected
        obtain ⟨notStarted, unchanged, secure⟩ := rejected
        obtain ⟨after, persisted⟩ := safe secure.1 secure.2
        simp only [validateOutcome, check_bind_ok, raiseIf_ok, requirePersistedGuard, completeSnapshots, before, after]
        simp [same, AgentExecution.successful, status, notStarted, secure.1, secure.2, persisted]
      · split
        · rename_i unchangedFailure
          obtain ⟨begun, unchanged, _, secure⟩ := unchangedFailure
          obtain ⟨_, persisted⟩ := safe secure.1 secure.2
          simp only [validateOutcome, check_bind_ok, raiseIf_ok, requirePersistedGuard]
          simp [same, AgentExecution.successful, status, begun, unchanged, secure.1, secure.2, persisted]
        · exact uncertain_valid (message.trans told)

end Audit

section Invocation

variable {run : GuardedRun} {tracker : AttemptTracker}

/-- When an update returns, exactly. -/
theorem update_returns {point : LedgerPoint} {propagate : Bool} {changes : AttemptChanges}
    (tracked : tracker.record.isSome = true) (plain : changes.Plain) :
    (∃ after, AttemptTracker.update run point propagate changes tracker = (.ok (), after)) ↔
      UpdateReturns run point propagate := by
  obtain ⟨record, found⟩ := Option.isSome_iff_exists.mp tracked
  unfold UpdateReturns
  cases checked : run.check (.ledger point) with
  | error error =>
    rw [update_unchecked tracked checked]
    simp
  | ok _ =>
    rw [update_eq found checked]
    obtain ⟨updated, prepared⟩ := updateAttempt_eq run point record (plain.withStart tracker.processStarted)
    rw [prepared]
    cases saved : run.saveAttempt point with
    | ok _ => simp [Except.map]
    | error error =>
      simp only [Except.map, Except.error.injEq, forall_eq', true_and]
      unfold AttemptTracker.updateFailed
      cases owned : error.isinstance .runOwnershipError with
      | true => simp
      | false =>
        simp only [Bool.false_eq_true, if_false, lift_bind_ok, modify_bind, true_and]
        cases checkedFailure : run.check (.ledgerFailed point) with
        | error later => simp
        | ok _ =>
          cases propagate <;> cases exception : error.isinstance .exception <;> simp

/-- The invocation is accepted exactly when it leaves no exception and a success. -/
theorem invoke_accepted {request : AgentExecutionRequest} {execution : AgentExecution}
    (tracked : tracker.record.isSome = true) (fresh : tracker.processStarted = false) :
    (∃ later, invoke run request tracker = (.ok (some execution, none), later)) ∧ execution.status = .success ↔
      InvocationAccepted run request execution := by
  have plain : ({ executionPath := some executionEvidenceFile } : AttemptChanges).Plain := ⟨rfl, rfl, .inr rfl⟩
  unfold invoke
  constructor
  · rintro ⟨⟨later, done⟩, success⟩
    have started := execution.success_started success
    cases before : run.check .beforeInvocation with
    | error error =>
      rw [before] at done
      cases done
    | ok _ =>
      rw [before] at done
      obtain ⟨_, middle, reported, done⟩ := bind_ok.mp done
      cases returned : run.execution with
      | error error =>
        rw [returned] at done
        cases done
      | ok found =>
        rw [returned] at done
        obtain ⟨outcome, final, accepted, done⟩ := bind_ok.mp done
        cases outcome with
        | error error => cases done
        | ok _ =>
          cases done
          rw [attempt_apply, Prod.mk.injEq, Except.ok.injEq] at accepted
          have accepted : acceptExecution run request execution middle = (.ok (), later) :=
            Prod.ext accepted.1 accepted.2
          obtain ⟨_, recorded, start, accepted⟩ := bind_ok.mp accepted
          obtain ⟨_, revalidated, accepted⟩ := lift_bind_ok.mp accepted
          obtain ⟨_, contract, accepted⟩ := lift_bind_ok.mp accepted
          obtain ⟨evidence, built, accepted⟩ := lift_bind_ok.mp accepted
          obtain ⟨_, written, accepted⟩ := lift_bind_ok.mp accepted
          obtain ⟨_, checked, updated⟩ := lift_bind_ok.mp accepted
          have trackedStart := (stable_record.recordReturnedStart run execution).after start
            ((stable_record.reportStarts run _).after reported tracked)
          refine ⟨?_, returned, success, ?_, ?_, ⟨evidence, built, written⟩,
            (update_returns trackedStart plain).mp ⟨later, updated⟩⟩
          · simp [before, revalidated, checked]
          · rw [raiseIf_ok, Bool.not_eq_true, executionContractProblem_none success] at contract
            exact contract
          · intro none
            rw [none] at reported
            cases reported
            rw [recordReturnedStart_started started, recordStarted_first fresh] at start
            exact (update_returns (by exact tracked) AttemptChanges.plain_empty).mp ⟨recorded, start⟩
  · rintro ⟨checks, returned, success, task, start, ⟨evidence, built, written⟩, saved⟩
    refine ⟨?_, success⟩
    simp only [List.forall_mem_cons] at checks
    obtain ⟨before, revalidated, checked, _⟩ := checks
    have started := execution.success_started success
    obtain ⟨middle, recorded, reported, startDone⟩ : ∃ middle recorded,
        reportStarts run run.startReports tracker = (.ok (), middle) ∧
          recordReturnedStart run execution middle = (.ok (), recorded) := by
      cases reports : run.startReports with
      | zero =>
        have trackedStart : ({ tracker with processStarted := true } : AttemptTracker).record.isSome = true := tracked
        obtain ⟨recorded, done⟩ := (update_returns trackedStart AttemptChanges.plain_empty).mpr (start reports)
        refine ⟨tracker, recorded, rfl, ?_⟩
        rw [recordReturnedStart_started started, recordStarted_first fresh]
        exact done
      | succ count =>
        have again : (AttemptTracker.update run .invocationStart true {}
            { tracker with processStarted := true }).2.processStarted = true :=
          stable_processStarted.update run _ _ _ _ rfl
        exact ⟨_, _, reportStarts_first fresh count,
          (recordReturnedStart_started started).trans (recordStarted_again again)⟩
    have trackedStart := (stable_record.recordReturnedStart run execution).after startDone
      ((stable_record.reportStarts run _).after reported tracked)
    obtain ⟨later, done⟩ := (update_returns trackedStart plain).mpr saved
    have contract : raiseIf ((executionContractProblem execution request).isSome = true)
        (⟨.valueError, (executionContractProblem execution request).getD ""⟩ : Raised) = .ok () := by
      rw [raiseIf_ok, Bool.not_eq_true, executionContractProblem_none success]
      exact task
    have accepted : acceptExecution run request execution middle = (.ok (), later) := by
      refine bind_ok.mpr ⟨(), recorded, startDone, lift_bind_ok.mpr ⟨(), revalidated, ?_⟩⟩
      refine lift_bind_ok.mpr ⟨(), contract, lift_bind_ok.mpr ⟨evidence, built, ?_⟩⟩
      exact lift_bind_ok.mpr ⟨(), written, lift_bind_ok.mpr ⟨(), checked, done⟩⟩
    refine ⟨later, ?_⟩
    rw [before]
    refine bind_ok.mpr ⟨(), middle, reported, ?_⟩
    rw [returned]
    refine bind_ok.mpr ⟨.ok (), later, ?_, rfl⟩
    rw [attempt_apply, accepted]

end Invocation

/-! ## The whole operation -/

section Execute

variable {sha256 : Sha256} {run : GuardedRun} {request : GuardedWritableRequest} {Q : Raised → Prop}

/-- The texts are shown, or the operation may leave with what refuses them. -/
def ShownOr (sha256 : Sha256) (run : GuardedRun) (request : GuardedWritableRequest) (Q : Raised → Prop) : Prop :=
  EvidenceShown sha256 run request ∨ (∀ error, error.cls = .valueError ∨ error.cls = .unicodeEncodeError → Q error) ∧
    ∀ error, run.capabilities = .error error → error.isinstance .exception = false → Q error

/-- The condition covers the fingerprints of both snapshots. -/
theorem ShownOr.fingerprint {captured : Except Raised WorkspaceSnapshot} (shown : ShownOr sha256 run request Q)
    (own : run.workspaceBefore = captured ∨ run.workspaceAfter = captured) :
    FingerprintCovered sha256 run Q captured := by
  intro snapshot error found failed
  obtain ⟨refused, rfl⟩ := GuardedRun.fingerprint_error.mp failed
  rcases shown with shown | ⟨raised, _⟩
  · have encoded := shown.encoded snapshot (own.imp (·.trans found) (·.trans found))
    rw [refused] at encoded
    cases encoded
  · exact raised _ (.inr rfl)

/-- The violations afterwards raise only what the condition covers. -/
theorem post_raises {error : Raised} (calls : SystemCalls run request) (shown : ShownOr sha256 run request Q)
    (h : postViolations run (captureWorkspace run.workspaceAfter) request.baseline = .error error) : Q error := by
  obtain ⟨cls, snapshot, path, captured, resolved, change, member, hidden⟩ := postViolations_error calls h
  rcases shown with shown | ⟨refused, _⟩
  · exact absurd (shown.post snapshot path captured resolved change member) hidden
  · exact refused error (.inl cls)

theorem auditWithoutInvocation_raises {tracker : AttemptTracker} {environment : WorkspaceEnvironmentSnapshot}
    {message : String} {starting : List WritableSafetyViolation} {error : Raised}
    (covers : Covers run request.executionRequest Q) (calls : SystemCalls run request)
    (shown : ShownOr sha256 run request Q) (filled : isBlank message = false) (evident : tracker.Evident)
    (h : (auditWithoutInvocation sha256 run request.executionRequest.artifactDirectory request.phase request.baseline
      environment message starting tracker).1 = .error error) : Q error := by
  have done : auditWithoutInvocation sha256 run request.executionRequest.artifactDirectory request.phase
    request.baseline environment message starting tracker = (.error error, _) := Prod.ext h rfl
  rcases bind_error.mp done with failed | ⟨⟨capture, guard⟩, later, captured, done⟩
  · exact (captureAfter_raises covers (shown.fingerprint (.inr rfl)) _ _ _ _).raised evident failed
  have evidentLater := (captureAfter_raises covers (shown.fingerprint (.inr rfl)) _ _ _ _).keeps.after captured evident
  obtain rfl := captureAfter_capture captured
  rcases lift_bind_error.mp done with ⟨failed, _⟩ | ⟨post, _, done⟩
  · exact post_raises calls shown failed
  rw [get_bind] at done
  rcases lift_bind_error.mp done with ⟨failed, _⟩ | ⟨evidence, _, done⟩
  · exact (attemptEvidenceViolations_accepted evidentLater failed).elim
  rcases lift_bind_error.mp done with ⟨failed, _⟩ | ⟨⟨files, changeError⟩, listed, done⟩
  · exact absurd failed (listChangedFiles_error calls)
  rcases lift_bind_error.mp done with ⟨failed, _⟩ | ⟨_, _, done⟩
  · exact covers.checks _ _ failed
  rcases lift_bind_error.mp done with ⟨failed, _⟩ | ⟨listing, _, done⟩
  · exact (listingViolation_accepted listed failed).elim
  · exact absurd (Prod.mk.inj done).1 (WritableAudit.ofFields_error (listChangedFiles_files listed) filled)

/-- The audit of a rejection passes the checks of its outcome. -/
theorem stoppedOrRejected_valid {tracker : AttemptTracker} {before : WorkspaceSnapshot}
    {environment : WorkspaceEnvironmentSnapshot} {directory message : String} {phase : AttemptPhase}
    {baseline : WritableBaseline} {starting : List WritableSafetyViolation} {audit : WritableAudit}
    (ready : tracker.Ready before) (inspected : before.inspectionComplete = true)
    (h : (auditWithoutInvocation sha256 run directory phase baseline environment message starting tracker).1 =
      .ok audit) : validateOutcome audit (stoppedOrRejected audit) = .ok () := by
  have done : auditWithoutInvocation sha256 run directory phase baseline environment message starting tracker =
    (.ok audit, _) := Prod.ext h rfl
  unfold stoppedOrRejected
  split
  · rename_i safe
    obtain ⟨⟨capture, guard⟩, later, captured, done⟩ := bind_ok.mp done
    obtain ⟨post, posted, done⟩ := lift_bind_ok.mp done
    rw [get_bind] at done
    obtain ⟨evidence, evidenced, done⟩ := lift_bind_ok.mp done
    obtain ⟨⟨files, changeError⟩, _, done⟩ := lift_bind_ok.mp done
    obtain ⟨_, _, done⟩ := lift_bind_ok.mp done
    obtain ⟨listing, _, done⟩ := lift_bind_ok.mp done
    obtain ⟨noExecution, first, second, sameGuard, violations, notStarted, _⟩ :=
      WritableAudit.ofFields_ok (lift_ok.mp done).1
    have none := safe.1
    rw [violations, List.append_eq_nil_iff, mergeViolations_nil, mergeViolations_nil] at none
    obtain ⟨⟨⟨_, rfl⟩, rfl⟩, _⟩ := none
    have kept : later.beforeSnapshot = some before :=
      ((stable_beforeSnapshot _).captureAfter sha256 run _ _ _ _).after captured ready.before
    obtain ⟨complete, persisted⟩ := captureAfter_safe ready.tracked captured posted
      (attemptEvidenceViolations_nil.mp evidenced) (sameGuard ▸ safe.2)
    rw [← sameGuard] at persisted
    rw [← second] at complete
    have inspectedFirst : audit.beforeWorkspace.any WorkspaceSnapshot.inspectionComplete = true := by
      rw [first, kept]
      exact inspected
    simp only [validateOutcome, check_bind_ok, raiseIf_ok, requirePersistedGuard, completeSnapshots, inspectedFirst,
      complete]
    simp [noExecution, notStarted, safe.1, safe.2, persisted]
  · rename_i insecure
    exact stopped_valid insecure

/-- An audit without violations started without any. -/
theorem auditWithoutInvocation_starting {tracker : AttemptTracker} {environment : WorkspaceEnvironmentSnapshot}
    {directory message : String} {phase : AttemptPhase} {baseline : WritableBaseline}
    {starting : List WritableSafetyViolation} {audit : WritableAudit}
    (h : (auditWithoutInvocation sha256 run directory phase baseline environment message starting tracker).1 =
      .ok audit) (none : audit.safetyViolations = []) : starting = [] := by
  have done : auditWithoutInvocation sha256 run directory phase baseline environment message starting tracker =
    (.ok audit, _) := Prod.ext h rfl
  obtain ⟨_, _, _, done⟩ := bind_ok.mp done
  obtain ⟨_, _, done⟩ := lift_bind_ok.mp done
  rw [get_bind] at done
  obtain ⟨_, _, done⟩ := lift_bind_ok.mp done
  obtain ⟨_, _, done⟩ := lift_bind_ok.mp done
  obtain ⟨_, _, done⟩ := lift_bind_ok.mp done
  obtain ⟨_, _, done⟩ := lift_bind_ok.mp done
  obtain ⟨_, _, _, _, violations, _, _⟩ := WritableAudit.ofFields_ok (lift_ok.mp done).1
  rw [violations, List.append_eq_nil_iff, mergeViolations_nil, mergeViolations_nil] at none
  exact none.1.1.1

theorem executeInvocation_raises {tracker : AttemptTracker} {before : WorkspaceSnapshot}
    {environment : WorkspaceEnvironmentSnapshot} {error : Raised} (covers : Covers run request.executionRequest Q)
    (calls : SystemCalls run request) (shown : ShownOr sha256 run request Q) (evident : tracker.Evident)
    (ready : tracker.Ready before) (inspected : before.inspectionComplete = true)
    (reached : StartReached sha256 run request before environment)
    (capable : executorCapabilityProblem run request.executionRequest = .ok none)
    (h : (executeInvocation sha256 run request environment tracker).1 = .error error) : Q error := by
  have done : executeInvocation sha256 run request environment tracker = (.error error, _) := Prod.ext h rfl
  rcases bind_error.mp done with failed | ⟨⟨execution, executionError⟩, invoked, invocation, done⟩
  · exact (invoke_raises _).raised evident failed
  have keeps : Raises AttemptTracker.Evident Q (invoke run request.executionRequest) := invoke_raises _
  have evidentInvoked := keeps.keeps.after invocation evident
  rcases bind_error.mp done with failed | ⟨⟨capture, guard⟩, later, captured, done⟩
  · exact (captureAfter_raises covers (shown.fingerprint (.inr rfl)) _ _ _ _).raised evidentInvoked failed
  have evidentLater := (captureAfter_raises covers (shown.fingerprint (.inr rfl)) _ _ _ _).keeps.after captured evidentInvoked
  have tracked := (stable_record.invoke run _).after invocation ready.tracked
  have first : later.beforeSnapshot = some before :=
    ((stable_beforeSnapshot _).captureAfter sha256 run _ _ _ _).after captured
      (((stable_beforeSnapshot _).invoke run _).after invocation ready.before)
  obtain rfl := captureAfter_capture captured
  obtain ⟨returned, present⟩ := invoke_returned invocation
  rcases lift_bind_error.mp done with ⟨failed, _⟩ | ⟨_, _, done⟩
  · cases executionError with
    | none => cases failed
    | some raised =>
      dsimp only [Option.forM] at failed
      split at failed
      · rename_i ownership
        cases failed
        exact covers.invoked _ _ _ _ evident invocation ownership
      · cases failed
  rcases lift_bind_error.mp done with ⟨failed, _⟩ | ⟨post, posted, done⟩
  · exact post_raises calls shown failed
  rw [get_bind] at done
  rcases lift_bind_error.mp done with ⟨failed, _⟩ | ⟨evidence, evidenced, done⟩
  · exact (attemptEvidenceViolations_accepted evidentLater failed).elim
  rcases lift_bind_error.mp done with ⟨failed, _⟩ | ⟨⟨files, changeError⟩, listed, done⟩
  · exact absurd failed (listChangedFiles_error calls)
  rcases lift_bind_error.mp done with ⟨failed, _⟩ | ⟨_, _, done⟩
  · exact covers.checks _ _ failed
  rcases lift_bind_error.mp done with ⟨failed, _⟩ | ⟨listing, _, done⟩
  · exact (listingViolation_accepted listed failed).elim
  rcases lift_bind_error.mp done with ⟨failed, _⟩ | ⟨worktree, _, done⟩
  · obtain ⟨cls, unsuccessful, some, changed, blank⟩ := worktreeViolation_error failed
    rcases shown with shown | ⟨refused, _⟩
    · have notAccepted : ∀ execution, ¬InvocationAccepted run request.executionRequest execution := by
        intro found accepted
        obtain ⟨⟨_, done⟩, success⟩ := (invoke_accepted ready.tracked ready.fresh).mpr accepted
        rw [done] at invocation
        cases invocation
        simp [AgentExecution.successful, success] at unsuccessful
      obtain ⟨found, sameFiles⟩ : ∃ found, run.changedFiles = .ok found ∧ found.1 = files := by
        rcases handling_ok listed with mapped | ⟨_, _, same⟩
        · cases found : run.changedFiles with
          | ok found =>
            rw [found] at mapped
            cases mapped
            exact ⟨_, rfl, rfl⟩
          | error failed =>
            rw [found] at mapped
            cases mapped
        · cases same
          exact absurd rfl some
      rw [first] at changed
      have filled := shown.worktree before environment reached capable notAccepted found sameFiles.1
        (sameFiles.2 ▸ some) changed
      rw [sameFiles.2, blank] at filled
      cases filled
    · exact refused error (.inl cls)
  rcases lift_bind_error.mp done with ⟨failed, _⟩ | ⟨audit, audited, done⟩
  · exact absurd failed (WritableAudit.ofFields_error (listChangedFiles_files listed) failureMessageOf_filled)
  obtain ⟨sameExecution, sameBefore, sameAfter, sameGuard, violations, sameStart, sameMessage⟩ :=
    WritableAudit.ofFields_ok audited
  have valid := classifyOutcome_valid sameExecution sameStart sameMessage present
    (by rw [sameBefore, first]; exact inspected) (by
      intro none guarded
      rw [violations, List.append_eq_nil_iff, List.append_eq_nil_iff, mergeViolations_nil] at none
      obtain ⟨⟨⟨rfl, rfl⟩, _⟩, _⟩ := none
      rw [sameAfter, sameGuard]
      exact captureAfter_safe tracked captured posted (attemptEvidenceViolations_nil.mp evidenced)
        (sameGuard ▸ guarded))
  rw [sameBefore, sameAfter] at valid
  exact absurd (Prod.mk.inj done).1 (GuardedWritableOutcome.ofAudit_error valid)

/-- Asking for the capabilities lets interrupts through and nothing else. -/
theorem executorCapabilityProblem_raised {error : Raised}
    (h : executorCapabilityProblem run request.executionRequest = .error error) :
    run.capabilities = .error error ∧ error.isinstance .exception = false := by
  unfold executorCapabilityProblem at h
  split at h
  · rename_i failed found
    split at h
    · cases h
    · rename_i interruption
      cases h
      exact ⟨found, Bool.eq_false_iff.mpr interruption⟩
  · split at h <;> cases h

theorem executorCapabilityProblem_filled {problem : String}
    (h : executorCapabilityProblem run request.executionRequest = .ok (some problem)) : isBlank problem = false := by
  unfold executorCapabilityProblem at h
  split at h
  · split at h
    · cases h
      exact filled_append (by decide)
    · cases h
  · split at h
    · cases h
    · cases h
      exact filled_append (filled_append (by decide))

/-- The workspace of a write without starting violations is the authorised one. -/
theorem startingViolations_authorized {snapshot : WorkspaceSnapshot}
    (h : startingViolations sha256 run (some snapshot) request.baseline = .ok []) :
    ∃ path, run.expectedPath = .ok path ∧ startingChanges sha256 snapshot path request.baseline = [] := by
  obtain ⟨path, resolved, h⟩ := bind_ok_iff.mp h
  exact ⟨path, resolved, safetyViolations_nil.mp h⟩

/-- A write that is started saw a complete inspection. -/
theorem StartReached.inspected {snapshot : WorkspaceSnapshot} {environment : WorkspaceEnvironmentSnapshot}
    (reached : StartReached sha256 run request snapshot environment) : snapshot.inspectionComplete = true := by
  obtain ⟨path, _, authorized⟩ := reached.authorized
  exact (workspaceSafetyChanges_nil.mp (List.append_eq_nil_iff.mp authorized).1).complete

/-- Without starting violations the write reaches the executor. -/
theorem reached_of_clean {tracker : AttemptTracker} {environment : WorkspaceEnvironmentSnapshot}
    (captured : captureBefore sha256 run request.baseline.repositoryPath request.executionRequest.artifactDirectory
      request.phase = .ok (tracker, environment))
    (safety : startingViolations sha256 run tracker.beforeSnapshot request.baseline = .ok [])
    (incomplete : incompleteBefore tracker environment = .ok [])
    (evidence : attemptEvidenceViolations tracker = .ok []) :
    ∃ before, tracker.Ready before ∧ before.inspectionComplete = true ∧
      StartReached sha256 run request before environment := by
  obtain ⟨complete, scanned⟩ := incompleteBefore_nil.mp incomplete
  obtain ⟨before, found, inspected⟩ : ∃ before, tracker.beforeSnapshot = some before ∧
      before.inspectionComplete = true := by
    unfold AttemptTracker.beforeComplete at complete
    cases found : tracker.beforeSnapshot with
    | none =>
      rw [found] at complete
      cases complete
    | some before =>
      rw [found] at complete
      exact ⟨before, rfl, complete⟩
  rw [found] at safety
  obtain ⟨ready, tracks⟩ := captureBefore_clean inspected captured (attemptEvidenceViolations_nil.mp evidence) found
    scanned
  exact ⟨before, tracks, inspected, ready, startingViolations_authorized safety⟩

/-- **What may leave the operation.** -/
theorem execute_raises {error : Raised} (covers : Covers run request.executionRequest Q)
    (calls : SystemCalls run request) (shown : ShownOr sha256 run request Q)
    (h : execute sha256 run request = .error error) : Q error := by
  rcases bind_error_iff.mp h with failed | ⟨_, _, h⟩
  · exact covers.checks _ _ failed
  rcases bind_error_iff.mp h with failed | ⟨⟨tracker, environment⟩, captured, h⟩
  · exact (captureBefore_raises covers calls (shown.fingerprint (.inl rfl))).1 error failed
  have evident := (captureBefore_raises covers calls (shown.fingerprint (.inl rfl))).2 tracker environment captured
  have capture := captureBefore_capture captured
  rcases bind_error_iff.mp h with failed | ⟨safety, authorized, h⟩
  · rw [captureBefore_snapshot captured] at failed
    unfold startingViolations at failed
    split at failed
    · cases failed
    · rename_i snapshot found
      obtain ⟨path, resolved⟩ := calls.expected
      rcases bind_error_iff.mp failed with unresolved | ⟨expected, reached, failed⟩
      · rw [resolved] at unresolved
        cases unresolved
      · obtain ⟨cls, change, member, hidden⟩ := safetyViolations_error failed
        rcases shown with shown | ⟨refused, _⟩
        · exact absurd (shown.starting snapshot expected (captureWorkspace_snapshot.mp found) reached change member)
            hidden
        · exact refused error (.inl cls)
  rcases bind_error_iff.mp h with failed | ⟨incomplete, inspected, h⟩
  · unfold incompleteBefore at failed
    split at failed
    · rw [capture] at failed
      rcases bind_error_iff.mp failed with failed | ⟨_, _, failed⟩
      · obtain ⟨cls, snapshot, found, blank⟩ := inspectionViolation_error failed
        rcases shown with shown | ⟨refused, _⟩
        · rw [shown.inspection snapshot found] at blank
          cases blank
        · exact refused error (.inl cls)
      · cases failed
    · cases failed
  rcases bind_error_iff.mp h with failed | ⟨evidence, evidenced, h⟩
  · exact (attemptEvidenceViolations_accepted evident failed).elim
  dsimp only at h
  by_cases starting : mergeViolations (mergeViolations safety incomplete) evidence ≠ []
  · rw [if_pos starting] at h
    rcases bind_error_iff.mp h with failed | ⟨audit, audited, h⟩
    · exact auditWithoutInvocation_raises covers calls shown (by decide) evident failed
    · refine absurd h (GuardedWritableOutcome.ofAudit_error (stopped_valid ?_))
      rintro ⟨none, _⟩
      exact starting (auditWithoutInvocation_starting audited none)
  · rw [if_neg starting] at h
    rw [not_not, mergeViolations_nil, mergeViolations_nil] at starting
    obtain ⟨before, ready, complete, reached⟩ := reached_of_clean captured (starting.1.1 ▸ authorized)
      (starting.1.2 ▸ inspected) (starting.2 ▸ evidenced)
    rcases bind_error_iff.mp h with failed | ⟨problem, found, h⟩
    · obtain ⟨raised, interruption⟩ := executorCapabilityProblem_raised failed
      rcases shown with shown | ⟨_, interrupted⟩
      · rw [shown.capabilities before environment reached error raised] at interruption
        cases interruption
      · exact interrupted error raised interruption
    cases problem with
    | none => exact executeInvocation_raises covers calls shown evident ready complete reached found h
    | some problem =>
      rcases bind_error_iff.mp h with failed | ⟨audit, audited, h⟩
      · exact auditWithoutInvocation_raises covers calls shown (executorCapabilityProblem_filled found) evident failed
      · exact absurd h (GuardedWritableOutcome.ofAudit_error (stoppedOrRejected_valid ready complete audited))

end Execute

/-- The run and the attempt directory stay owned: every check passes, and nothing
that is called reports that ownership was lost. -/
structure Owned (run : GuardedRun) : Prop where
  checks : ∀ point, run.check point = .ok ()
  saves : ∀ point error, run.saveAttempt point = .error error → error.isinstance .runOwnershipError = false
  attempts : ∀ error, run.attempts = .error error → error.isinstance .runOwnershipError = false
  resolves : ∀ path error, run.resolve path = .error error → error.isinstance .runOwnershipError = false
  executor : ∀ error, run.execution = .error error → error.isinstance .runOwnershipError = false
  written : ∀ evidence error, run.writeExecutionEvidence evidence = .error error →
    error.isinstance .runOwnershipError = false
  stamped : ∀ error, run.guardTimestamp = .error error → error.isinstance .runOwnershipError = false
  identified : ∀ path error, run.pathIdentity path = .error error → error.isinstance .runOwnershipError = false

/-- The inner calls raise what git or the file system raises, one lemma each. -/
theorem newEnvironments_error {identity : PathResolver} {before after : WorkspaceEnvironmentSnapshot} {error : Raised}
    (h : newEnvironments identity before after = .error error) : ∃ path, identity path = .error error := by
  rcases bind_error_iff.mp h with failed | ⟨roots, _, h⟩
  · obtain ⟨_, environment, _, _, _, failed⟩ := mapM_error_iff.mp failed
    exact ⟨_, failed⟩
  · obtain ⟨environment, _, failed⟩ := filterM_error h
    rcases bind_error_iff.mp failed with failed | ⟨_, _, failed⟩
    · exact ⟨_, failed⟩
    · cases failed

theorem compareEnvironment_error {run : GuardedRun} {phase : AttemptPhase}
    {before after : WorkspaceEnvironmentSnapshot} {error : Raised}
    (h : compareEnvironment run phase before after = .error error) :
    run.guardTimestamp = .error error ∨ ∃ path, run.pathIdentity path = .error error := by
  rcases bind_error_iff.mp h with failed | ⟨_, _, h⟩
  · exact .inl failed
  rcases bind_error_iff.mp h with failed | ⟨_, _, h⟩
  · exact .inr (newEnvironments_error failed)
  · cases h

theorem matchingAttempts_error {run : GuardedRun} {expected : String} {error : Raised}
    (h : matchingAttempts run expected = .error error) :
    run.attempts = .error error ∨ ∃ path, run.resolve path = .error error := by
  rcases bind_error_iff.mp h with failed | ⟨ledger, _, h⟩
  · exact .inl failed
  · obtain ⟨record, _, failed⟩ := filterM_error h
    rcases bind_error_iff.mp failed with failed | ⟨_, _, failed⟩
    · exact .inr ⟨_, failed⟩
    · cases failed

/-- A check at the head of a constructor raises its own class. -/
theorem raised_cls {p : Prop} [Decidable p] {raised error : Raised} {rest : Unit → Except Raised Unit}
    {cls : ExceptionClass} (own : raised.cls = cls) (later : rest () = .error error → error.cls = cls)
    (h : (raiseIf p raised >>= rest) = .error error) : error.cls = cls := by
  rcases bind_error_iff.mp h with failed | ⟨_, _, h⟩
  · rw [← (raiseIf_error.mp failed).2]
    exact own
  · exact later h

/-- Evidence that does not fit the execution is refused by the codec. -/
theorem evidenceFromExecution_error {request : AgentExecutionRequest} {execution : AgentExecution} {error : Raised}
    (h : evidenceFromExecution request execution = .error error) : error.cls = .codecError := by
  unfold evidenceFromExecution ExecutionEvidence.ofFields at h
  split at h
  · cases h
  · rename_i refused
    cases h
    unfold validateExecutionEvidence at refused
    iterate 9 refine raised_cls rfl (fun refused => ?_) refused
    rcases bind_error_iff.mp refused with failed | ⟨_, _, refused⟩
    · unfold validateEvidenceResult at failed
      split at failed
      · refine raised_cls rfl (fun failed => ?_) failed
        rw [← (raiseIf_error.mp failed).2]
      · rw [← (raiseIf_error.mp failed).2]
    · unfold asCodecError Except.mapError at refused
      split at refused
      · cases refused
        rfl
      · cases refused

section Kept

variable {run : GuardedRun} {request : GuardedWritableRequest}

theorem covers_lost (calls : SystemCalls run request) :
    Covers run request.executionRequest (LostOwnership run) where
  checks point error failed := .inl ⟨point, failed⟩
  saves _ _ _ ownership := .inr ownership
  matched _ _ _ ownership := .inr ownership
  compared phase before after error failed passed := by
    have contract : error.isinstance .agentContractError = false := by
      rcases compareEnvironment_error failed with stamped | ⟨path, identified⟩
      · exact calls.stamped error stamped
      · exact calls.identified path error identified
    rw [contract, Bool.false_or] at passed
    exact .inr passed
  invoked _ _ _ _ _ _ ownership := .inr ownership

/-- With the ownership kept, no step raises its loss. -/
theorem Owned.recordStarted (owned : Owned run) (value : Bool) :
    Raises AttemptTracker.Evident (fun error => error.isinstance .runOwnershipError = false)
      (AttemptTracker.recordStarted run value) := by
  have checks : ∀ point error, run.check point = .error error → error.isinstance .runOwnershipError = false := by
    intro point error failed
    rw [owned.checks point] at failed
    cases failed
  unfold AttemptTracker.recordStarted
  refine raises_bind (fun _ evident => ⟨evident, fun _ raised => by cases raised⟩) fun tracker => ?_
  split
  · split
    · exact raises_modify (addError_evident (by decide))
    · exact raises_pure
  · split
    · exact raises_pure
    · refine raises_bind (raises_modify fun _ evident => evident) fun _ => ?_
      exact update_raises checks AttemptChanges.plain_empty (fun point error failed _ => owned.saves point error failed)
        fun _ error failed => owned.saves _ error failed

theorem Owned.acceptExecution (owned : Owned run) (executionRequest : AgentExecutionRequest)
    (execution : AgentExecution) :
    Raises AttemptTracker.Evident (fun error => error.isinstance .runOwnershipError = false)
      (acceptExecution run executionRequest execution) := by
  have checks : ∀ point error, run.check point = .error error → error.isinstance .runOwnershipError = false := by
    intro point error failed
    rw [owned.checks point] at failed
    cases failed
  have started : Raises AttemptTracker.Evident (fun error => error.isinstance .runOwnershipError = false)
      (recordReturnedStart run execution) := by
    unfold recordReturnedStart
    split
    · exact raises_pure
    · exact owned.recordStarted _
  unfold SprintTicket.acceptExecution
  refine raises_bind started fun _ => raises_bind (raises_lift (checks _)) fun _ => ?_
  refine raises_bind (raises_lift fun error refused => ?_) fun _ => raises_bind (raises_lift fun error refused => ?_)
    fun evidence => raises_bind (raises_lift (owned.written evidence)) fun _ => ?_
  · rw [← (raiseIf_error.mp refused).2]
    rfl
  · rw [Raised.isinstance, evidenceFromExecution_error refused]
    rfl
  · refine raises_bind (raises_lift (checks _)) fun _ => ?_
    exact update_raises checks ⟨rfl, rfl, .inr rfl⟩ (fun point error failed _ => owned.saves point error failed)
      (by simp)

theorem covers_kept (owned : Owned run) :
    Covers run request.executionRequest fun error => error.isinstance .runOwnershipError = false where
  checks point error failed := by
    rw [owned.checks point] at failed
    cases failed
  saves point error failed _ := owned.saves point error failed
  matched expected error failed _ := by
    rcases matchingAttempts_error failed with unread | ⟨path, unresolved⟩
    · exact owned.attempts error unread
    · exact owned.resolves path error unresolved
  compared phase before after error failed _ := by
    rcases compareEnvironment_error failed with stamped | ⟨path, identified⟩
    · exact owned.stamped error stamped
    · exact owned.identified path error identified
  invoked tracker execution error later evident invocation _ := by
    unfold invoke at invocation
    rw [owned.checks .beforeInvocation] at invocation
    obtain ⟨_, middle, reported, invocation⟩ := bind_ok.mp invocation
    cases returned : run.execution with
    | error failed =>
      rw [returned] at invocation
      cases invocation
      exact owned.executor _ returned
    | ok found =>
      rw [returned] at invocation
      obtain ⟨outcome, final, accepted, invocation⟩ := bind_ok.mp invocation
      have keeps : Raises AttemptTracker.Evident (fun _ => True) (reportStarts run run.startReports) :=
        reportStarts_raises _
      have evidentMiddle := keeps.keeps.after reported evident
      cases outcome with
      | ok _ => cases invocation
      | error raised =>
        cases invocation
        rw [attempt_apply, Prod.mk.injEq, Except.ok.injEq] at accepted
        exact (owned.acceptExecution request.executionRequest found).raised evidentMiddle
          (Prod.ext accepted.1 accepted.2)

/-- While ownership is kept nothing says that it was lost. -/
theorem Owned.execute {sha256 : Sha256} {error : Raised} (owned : Owned run) (calls : SystemCalls run request)
    (h : execute sha256 run request = .error error) : ¬LostOwnership run error := by
  have kept : error.isinstance .runOwnershipError = false := by
    refine execute_raises (covers_kept owned) calls (.inr ⟨?_, ?_⟩) h
    · rintro error (cls | cls) <;> rw [Raised.isinstance, cls] <;> rfl
    · intro error _ interruption
      have cls : error.cls = .keyboardInterrupt := by
        by_contra other
        rw [Raised.isinstance_exception.mpr other] at interruption
        cases interruption
      rw [Raised.isinstance, cls]
      rfl
  rintro (⟨point, failed⟩ | ownership)
  · rw [owned.checks point] at failed
    cases failed
  · rw [kept] at ownership
    cases ownership

end Kept

/-! ## The condition is exact -/

/-- The write ends with an outcome, or because ownership was lost. -/
def Settles (sha256 : Sha256) (run : GuardedRun) (request : GuardedWritableRequest) : Prop :=
  (∃ outcome, execute sha256 run request = .ok outcome) ∨
    ∃ error, execute sha256 run request = .error error ∧ LostOwnership run error

section Exact

variable {sha256 : Sha256} {run : GuardedRun} {request : GuardedWritableRequest}

/-- The capture after the write was encoded, the checks of it were made and none of
their violations refused. -/
structure Audited (run : GuardedRun) (request : GuardedWritableRequest) : Prop where
  encoded : ∀ snapshot, run.workspaceAfter = .ok snapshot → run.encodes snapshot = true
  posted : ∃ violations, postViolations run (captureWorkspace run.workspaceAfter) request.baseline = .ok violations

/-- A capture before the write that returns has encoded its texts. -/
theorem captureBefore_encoded {path directory : String} {phase : AttemptPhase} {tracker : AttemptTracker}
    {environment : WorkspaceEnvironmentSnapshot}
    (h : captureBefore sha256 run path directory phase = .ok (tracker, environment)) :
    ∀ snapshot, run.workspaceBefore = .ok snapshot → run.encodes snapshot = true := by
  intro snapshot found
  obtain ⟨_, h⟩ := check_bind_ok.mp h
  obtain ⟨_, _, h⟩ := bind_ok_iff.mp h
  obtain ⟨_, h⟩ := check_bind_ok.mp h
  obtain ⟨_, h⟩ := check_bind_ok.mp h
  obtain ⟨_, h⟩ := check_bind_ok.mp h
  obtain ⟨_, _, h⟩ := bind_ok_iff.mp h
  obtain ⟨_, hashed, _⟩ := bind_ok_iff.mp h
  exact ((WorkspaceCapture.fingerprint_some (captureWorkspace_snapshot.mpr found)).mp hashed).1

/-- A capture that returned has encoded its snapshot. -/
theorem captureAfter_encoded {path directory : String} {phase : AttemptPhase} {before : WorkspaceEnvironmentSnapshot}
    {tracker later : AttemptTracker} {capture : WorkspaceCapture} {guard : WorkspaceGuardInspection}
    (h : captureAfter sha256 run path directory phase before tracker = (.ok (capture, guard), later)) :
    ∀ snapshot, run.workspaceAfter = .ok snapshot → run.encodes snapshot = true := by
  intro snapshot found
  obtain ⟨_, _, h⟩ := lift_bind_ok.mp h
  obtain ⟨_, _, h⟩ := lift_bind_ok.mp h
  obtain ⟨_, _, h⟩ := lift_bind_ok.mp h
  obtain ⟨_, _, recorded, _⟩ := bind_ok.mp h
  simp only [AttemptTracker.recordAfter, captureWorkspace_snapshot.mpr found] at recorded
  obtain ⟨_, hashed, _⟩ := lift_bind_ok.mp recorded
  exact (GuardedRun.fingerprint_ok.mp hashed).1

/-- An audit that exists shows every change. -/
theorem Audited.shown (audited : Audited run request) : ∀ snapshot path, run.workspaceAfter = .ok snapshot →
    run.expectedPathAfter = .ok path →
      ∀ change ∈ workspaceSafetyChanges snapshot path request.baseline.branch request.baseline.headSha true false,
        change.Shown := by
  intro snapshot path captured resolved
  obtain ⟨violations, h⟩ := audited.posted
  rw [captured] at h
  obtain ⟨expected, reached, h⟩ := bind_ok_iff.mp h
  rw [resolved] at reached
  cases reached
  exact safetyViolations_shown h

/-- Both ways to an outcome go through such an audit. -/
theorem auditWithoutInvocation_audited {tracker : AttemptTracker} {environment : WorkspaceEnvironmentSnapshot}
    {message directory : String} {phase : AttemptPhase} {starting : List WritableSafetyViolation}
    {audit : WritableAudit}
    (h : (auditWithoutInvocation sha256 run directory phase request.baseline environment message starting tracker).1 =
      .ok audit) : Audited run request := by
  have done : auditWithoutInvocation sha256 run directory phase request.baseline environment message starting
    tracker = (.ok audit, _) := Prod.ext h rfl
  obtain ⟨⟨capture, guard⟩, _, captured, done⟩ := bind_ok.mp done
  obtain rfl := captureAfter_capture captured
  obtain ⟨post, posted, _⟩ := lift_bind_ok.mp done
  exact ⟨captureAfter_encoded captured, post, posted⟩

theorem executeInvocation_audited {tracker : AttemptTracker} {environment : WorkspaceEnvironmentSnapshot}
    {before : WorkspaceSnapshot} {outcome : GuardedWritableOutcome} (ready : tracker.Ready before)
    (h : (executeInvocation sha256 run request environment tracker).1 = .ok outcome) :
    Audited run request ∧ ((∀ execution, ¬InvocationAccepted run request.executionRequest execution) →
      ∀ listed, run.changedFiles = .ok listed → listed.1 ≠ [] →
        workspaceUnchanged (some before) (captureWorkspace run.workspaceAfter).snapshot = false →
          isBlank (formatFiles listed.1) = false) := by
  have done : executeInvocation sha256 run request environment tracker = (.ok outcome, _) := Prod.ext h rfl
  obtain ⟨⟨execution, executionError⟩, invoked, invocation, done⟩ := bind_ok.mp done
  obtain ⟨⟨capture, guard⟩, later, captured, done⟩ := bind_ok.mp done
  have first : later.beforeSnapshot = some before :=
    ((stable_beforeSnapshot _).captureAfter sha256 run _ _ _ _).after captured
      (((stable_beforeSnapshot _).invoke run _).after invocation ready.before)
  obtain rfl := captureAfter_capture captured
  obtain ⟨_, _, done⟩ := lift_bind_ok.mp done
  obtain ⟨post, posted, done⟩ := lift_bind_ok.mp done
  rw [get_bind] at done
  obtain ⟨evidence, _, done⟩ := lift_bind_ok.mp done
  obtain ⟨⟨files, changeError⟩, listed, done⟩ := lift_bind_ok.mp done
  obtain ⟨_, _, done⟩ := lift_bind_ok.mp done
  obtain ⟨listing, _, done⟩ := lift_bind_ok.mp done
  obtain ⟨worktree, built, _⟩ := lift_bind_ok.mp done
  refine ⟨⟨captureAfter_encoded captured, post, posted⟩, ?_⟩
  intro notAccepted found changedFiles some changed
  obtain rfl : found.1 = files := by
    rw [listChangedFiles_complete.mpr ⟨found, changedFiles, rfl⟩] at listed
    cases listed
    rfl
  refine worktreeViolation_shown built ?_ some (by rw [first]; exact changed)
  by_contra accepted
  rw [not_or] at accepted
  cases executionError with
  | some error => exact accepted.1 rfl
  | none =>
    obtain ⟨returned, present⟩ := invoke_returned invocation
    obtain ⟨found, rfl⟩ := Option.isSome_iff_exists.mp (present rfl)
    refine notAccepted found ((invoke_accepted ready.tracked ready.fresh).mp ⟨⟨_, invocation⟩, ?_⟩)
    simpa [AgentExecution.successful] using accepted.2

/-- The errors of an inspection that is reported are not blank. -/
theorem inspectionViolation_shown {point : String} {snapshot : WorkspaceSnapshot} {violation : WritableSafetyViolation}
    (h : inspectionViolation point (captureWorkspace (.ok snapshot)) = .ok violation) :
    isBlank (orDefault (some ("; ".intercalate snapshot.inspectionErrors)) "incomplete") = false := by
  have filled := WritableSafetyViolation.ofFields_filled h
  simp only [List.forall_mem_cons] at filled
  exact filled.2.2.1

/-- A write that reaches the executor has passed the starting checks. -/
theorem StartReached.clean {snapshot : WorkspaceSnapshot} {environment found : WorkspaceEnvironmentSnapshot}
    {tracker : AttemptTracker} (reached : StartReached sha256 run request snapshot environment)
    (h : captureBefore sha256 run request.baseline.repositoryPath request.executionRequest.artifactDirectory
      request.phase = .ok (tracker, found)) :
    found = environment ∧ tracker.Ready snapshot ∧
      startingViolations sha256 run tracker.beforeSnapshot request.baseline = .ok [] ∧
      incompleteBefore tracker found = .ok [] ∧ attemptEvidenceViolations tracker = .ok [] := by
  obtain ⟨own, captured, ready⟩ : ∃ own, captureBefore sha256 run request.baseline.repositoryPath
      request.executionRequest.artifactDirectory request.phase = .ok (own, environment) ∧ own.Ready snapshot :=
    reached.captured.captured reached.inspected
  rw [h] at captured
  cases captured
  obtain ⟨path, resolved, authorized⟩ := reached.authorized
  refine ⟨rfl, ready, ?_, ?_, attemptEvidenceViolations_nil.mpr ready.clean⟩
  · rw [ready.before]
    exact bind_ok_iff.mpr ⟨path, resolved, safetyViolations_nil.mpr authorized⟩
  · refine incompleteBefore_nil.mpr ⟨?_, reached.captured.complete⟩
    rw [AttemptTracker.beforeComplete, ready.before]
    exact reached.inspected

/-- An operation that returned has shown every text. -/
theorem execute_shown {outcome : GuardedWritableOutcome} (h : execute sha256 run request = .ok outcome) :
    EvidenceShown sha256 run request := by
  obtain ⟨_, h⟩ := check_bind_ok.mp h
  obtain ⟨⟨tracker, environment⟩, captured, h⟩ := bind_ok_iff.mp h
  obtain ⟨safety, authorized, h⟩ := bind_ok_iff.mp h
  obtain ⟨incomplete, inspected, h⟩ := bind_ok_iff.mp h
  obtain ⟨evidence, evidenced, h⟩ := bind_ok_iff.mp h
  dsimp only at h
  have capture := captureBefore_capture captured
  have encoded (audited : Audited run request) : ∀ snapshot,
      run.workspaceBefore = .ok snapshot ∨ run.workspaceAfter = .ok snapshot → run.encodes snapshot = true :=
    fun snapshot found => found.elim (captureBefore_encoded captured snapshot) (audited.encoded snapshot)
  -- The starting checks have passed for a write that reaches the executor.
  have onward : ∀ snapshot scan, StartReached sha256 run request snapshot scan → environment = scan ∧
      tracker.Ready snapshot ∧ mergeViolations (mergeViolations safety incomplete) evidence = [] := by
    intro snapshot scan reached
    obtain ⟨same, ready, noSafety, noIncomplete, noEvidence⟩ := reached.clean captured
    rw [authorized] at noSafety
    rw [inspected] at noIncomplete
    rw [evidenced] at noEvidence
    cases noSafety
    cases noIncomplete
    cases noEvidence
    exact ⟨same, ready, rfl⟩
  have starting : ∀ snapshot path, run.workspaceBefore = .ok snapshot → run.expectedPath = .ok path →
      ∀ change ∈ startingChanges sha256 snapshot path request.baseline, change.Shown := by
    intro snapshot path found resolved
    rw [captureBefore_snapshot captured, found] at authorized
    obtain ⟨expected, reached, built⟩ := bind_ok_iff.mp authorized
    rw [resolved] at reached
    cases reached
    exact safetyViolations_shown built
  have inspection : ∀ snapshot, run.workspaceBefore = .ok snapshot →
      isBlank (orDefault (some ("; ".intercalate snapshot.inspectionErrors)) "incomplete") = false := by
    intro snapshot found
    by_cases none : snapshot.inspectionErrors = []
    · rw [none]
      decide
    · have partially := snapshot.errors_incomplete none
      have before : tracker.beforeComplete = false := by
        rw [AttemptTracker.beforeComplete, captureBefore_snapshot captured, found]
        exact partially
      unfold incompleteBefore at inspected
      rw [if_pos (.inl before), capture, found] at inspected
      obtain ⟨violation, built, _⟩ := bind_ok_iff.mp inspected
      exact inspectionViolation_shown built
  by_cases stopped : mergeViolations (mergeViolations safety incomplete) evidence ≠ []
  · rw [if_pos stopped] at h
    obtain ⟨audit, audited, _⟩ := bind_ok_iff.mp h
    have checked := auditWithoutInvocation_audited audited
    refine ⟨encoded checked, starting, inspection, checked.shown, ?_, ?_⟩
    · intro snapshot scan reached
      exact absurd (onward snapshot scan reached).2.2 stopped
    · intro snapshot scan reached
      exact absurd (onward snapshot scan reached).2.2 stopped
  · rw [if_neg stopped] at h
    obtain ⟨problem, asked, h⟩ := bind_ok_iff.mp h
    have capabilities : ∀ error, run.capabilities = .error error → error.isinstance .exception = true := by
      intro error failed
      unfold executorCapabilityProblem at asked
      rw [failed] at asked
      dsimp only at asked
      split at asked
      · assumption
      · cases asked
    cases problem with
    | some problem =>
      obtain ⟨audit, audited, _⟩ := bind_ok_iff.mp h
      have checked := auditWithoutInvocation_audited audited
      refine ⟨encoded checked, starting, inspection, checked.shown, fun _ _ _ => capabilities, ?_⟩
      intro snapshot scan _ capable
      rw [asked] at capable
      cases capable
    | none =>
      obtain ⟨before, ready, _, _⟩ := reached_of_clean captured (by
        rw [authorized, (mergeViolations_nil.mp (mergeViolations_nil.mp (not_not.mp stopped)).1).1]) (by
        rw [inspected, (mergeViolations_nil.mp (mergeViolations_nil.mp (not_not.mp stopped)).1).2]) (by
        rw [evidenced, (mergeViolations_nil.mp (not_not.mp stopped)).2])
      obtain ⟨audited, worktree⟩ := executeInvocation_audited ready h
      refine ⟨encoded audited, starting, inspection, audited.shown, fun _ _ _ => capabilities, ?_⟩
      intro snapshot scan reached _
      obtain ⟨_, own, _⟩ := onward snapshot scan reached
      have same : some before = some snapshot := ready.before.symm.trans own.before
      cases same
      exact worktree

end Exact

/-- The executor staged a file whose name is one blank. -/
def exampleBlankName : GuardedRun :=
  { exampleWrite [] (.ok ()) with
    workspaceAfter := .ok { exampleWorkspace with stagedPaths := [" "] }
    changedFiles := .ok ⟨[" "], by simp⟩ }

theorem exampleBlankName_calls : SystemCalls exampleBlankName exampleWriteRequest where
  directory := ⟨_, rfl⟩
  expected := ⟨_, rfl⟩
  expectedAfter := ⟨_, rfl⟩
  listing _ failed := by cases failed
  stamped _ failed := by cases failed
  identified _ _ failed := by cases failed

theorem exampleBlankName_owned : Owned exampleBlankName where
  checks _ := rfl
  saves point _ failed := by cases point <;> cases failed
  attempts _ failed := by cases failed
  resolves _ _ failed := by cases failed
  executor _ failed := by cases failed
  written _ _ failed := by cases failed
  stamped _ failed := by cases failed
  identified _ _ failed := by cases failed

/-- A git-ignored environment directory whose name is not UTF-8 appears in the second
snapshot of the repository. -/
def exampleUnencodedName : GuardedRun :=
  { exampleWrite [] (.ok ()) with
    workspaceAfter := .ok { exampleWorkspace with environmentRoots := ["env"] }
    encodes := fun snapshot => snapshot.environmentRoots = [] }

/-- An exception of an operation whose checks all passed does not settle it when it
is no loss of ownership. -/
theorem not_settles {run : GuardedRun} {request : GuardedWritableRequest} {sha256 : Sha256} {error : Raised}
    (checks : ∀ point, run.check point = .ok ()) (kept : error.isinstance .runOwnershipError = false)
    (raised : (execute sha256 run request).map (·.kind) = .error error) : ¬Settles sha256 run request := by
  rintro (⟨outcome, done⟩ | ⟨found, failed, lost⟩)
  · rw [done] at raised
    cases raised
  · rw [failed] at raised
    cases raised
    rcases lost with ⟨point, lost⟩ | lost
    · rw [checks point] at lost
      cases lost
    · rw [kept] at lost
      cases lost

end SprintTicket
