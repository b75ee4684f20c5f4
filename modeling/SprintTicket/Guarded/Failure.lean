import SprintTicket.Guarded.Success

/-!
# When a guarded write may be retried

The outcomes `rejectedBeforeStart` and `failedUnchanged` let a run end in a
retryable failure. `execute_outcome` says what is known of the repository and of
the executor under each outcome.
-/

set_option autoImplicit false

namespace SprintTicket

open Checks Effects Effects.Effect

/-- The executor returned a failed execution over an unchanged repository, and
nothing went wrong around it. -/
structure FailedUnchanged (run : GuardedRun) (executionRequest : AgentExecutionRequest) (audit : WritableAudit)
    (execution : AgentExecution) : Prop where
  recorded : ExecutionRecorded run executionRequest execution
  failed : execution.status = .failed
  unchanged : ∃ before after, run.workspaceBefore = .ok before ∧ run.workspaceAfter = .ok after ∧
    SameWorkspace before after
  noViolation : audit.safetyViolations = []
  guard : audit.workspaceGuard.requiresHuman = false
  /-- An invocation that may have started did not fail by a timeout, a missing or
  invalid result or an unconfirmed cleanup. -/
  trusted : (audit.invocationStart = .notStarted ∧ execution.invocationStart = .notStarted) ∨
    execution.failureCategory.any untrustedCategory = false

/-- The executor was not called because a required capability is missing. -/
structure NotCalled (run : GuardedRun) (executionRequest : AgentExecutionRequest) (audit : WritableAudit) :
    Prop where
  problem : ∃ text, executorCapabilityProblem run executionRequest = .ok (some text)
  notStarted : audit.invocationStart = .notStarted
  complete : completeSnapshots audit.beforeWorkspace audit.afterWorkspace = true
  noViolation : audit.safetyViolations = []
  guard : audit.workspaceGuard.requiresHuman = false

/-- What an outcome says about the write it ends. -/
inductive OutcomeCause (run : GuardedRun) (executionRequest : AgentExecutionRequest)
    (outcome : GuardedWritableOutcome) : Prop
  | succeeded (execution : AgentExecution) (kind : outcome.kind = .succeeded)
      (audited : outcome.audit.execution = some execution) (success : execution.status = .success)
  | stopped (kind : outcome.kind = .safetyStopped ∨ outcome.kind = .failedUncertain)
  | notCalled (kind : outcome.kind = .rejectedBeforeStart) (audited : outcome.audit.execution = none)
      (cause : NotCalled run executionRequest outcome.audit)
  | failed (execution : AgentExecution)
      (kind : outcome.kind = .rejectedBeforeStart ∨ outcome.kind = .failedUnchanged)
      (audited : outcome.audit.execution = some execution)
      (cause : FailedUnchanged run executionRequest outcome.audit execution)

/-- The tracker holds the snapshot that was captured. -/
theorem captureBefore_snapshot {sha256 : Sha256} {run : GuardedRun} {path directory : String}
    {phase : AttemptPhase} {tracker : AttemptTracker} {environment : WorkspaceEnvironmentSnapshot}
    (h : captureBefore sha256 run path directory phase = .ok (tracker, environment)) :
    tracker.beforeSnapshot = (captureWorkspace run.workspaceBefore).snapshot := by
  obtain ⟨_, h⟩ := check_bind_ok.mp h
  obtain ⟨⟨record, association⟩, _, h⟩ := bind_ok_iff.mp h
  obtain ⟨_, h⟩ := check_bind_ok.mp h
  obtain ⟨_, h⟩ := check_bind_ok.mp h
  obtain ⟨_, h⟩ := check_bind_ok.mp h
  obtain ⟨metadata, _, h⟩ := bind_ok_iff.mp h
  obtain ⟨_, _, h⟩ := bind_ok_iff.mp h
  obtain ⟨_, h⟩ := check_bind_ok.mp h
  obtain ⟨rfl, _⟩ := Prod.mk.inj (pure_ok.mp h)
  exact (stable_beforeSnapshot _).update run _ _ _ _ rfl

/-- Without evidence errors the capture has found its attempt. -/
theorem captureBefore_tracked {sha256 : Sha256} {run : GuardedRun} {path directory : String}
    {phase : AttemptPhase} {tracker : AttemptTracker} {environment : WorkspaceEnvironmentSnapshot}
    (h : captureBefore sha256 run path directory phase = .ok (tracker, environment))
    (clean : tracker.evidenceErrors = []) : tracker.record.isSome = true := by
  obtain ⟨_, h⟩ := check_bind_ok.mp h
  obtain ⟨⟨record, association⟩, associated, h⟩ := bind_ok_iff.mp h
  obtain ⟨_, h⟩ := check_bind_ok.mp h
  obtain ⟨_, h⟩ := check_bind_ok.mp h
  obtain ⟨_, h⟩ := check_bind_ok.mp h
  obtain ⟨metadata, _, h⟩ := bind_ok_iff.mp h
  obtain ⟨_, _, h⟩ := bind_ok_iff.mp h
  obtain ⟨_, h⟩ := check_bind_ok.mp h
  obtain ⟨rfl, _⟩ := Prod.mk.inj (pure_ok.mp h)
  rcases associatedAttempt_ok associated with ⟨_, present⟩ | ⟨attempt, rfl, _, _⟩
  · obtain ⟨text, rfl⟩ := Option.ne_none_iff_exists'.mp present
    exact absurd clean (stable_evidenceErrors.update run .captureBefore false _ _ (by simp [AttemptTracker.start]))
  · exact stable_record.update run _ _ _ _ rfl

/-- The capture afterwards is the one of the workspace. -/
theorem captureAfter_capture {sha256 : Sha256} {run : GuardedRun} {path directory : String}
    {phase : AttemptPhase} {before : WorkspaceEnvironmentSnapshot} {tracker later : AttemptTracker}
    {capture : WorkspaceCapture} {guard : WorkspaceGuardInspection}
    (h : captureAfter sha256 run path directory phase before tracker = (.ok (capture, guard), later)) :
    capture = captureWorkspace run.workspaceAfter := by
  obtain ⟨_, _, h⟩ := lift_bind_ok.mp h
  obtain ⟨_, _, h⟩ := lift_bind_ok.mp h
  obtain ⟨_, _, h⟩ := lift_bind_ok.mp h
  obtain ⟨_, _, _, h⟩ := bind_ok.mp h
  obtain ⟨_, _, _, h⟩ := bind_ok.mp h
  cases h
  rfl

/-- The invocation hands on what the executor returned, and without an error it
returned something. -/
theorem invoke_returned {run : GuardedRun} {request : AgentExecutionRequest} {tracker later : AttemptTracker}
    {execution : Option AgentExecution} {error : Option Raised}
    (h : invoke run request tracker = (.ok (execution, error), later)) :
    (∀ returned, execution = some returned → run.execution = .ok returned) ∧
      (error = none → execution.isSome = true) := by
  unfold invoke at h
  cases checked : run.check .beforeInvocation with
  | error failed =>
    rw [checked] at h
    cases h
    simp
  | ok _ =>
    rw [checked] at h
    obtain ⟨_, middle, _, h⟩ := bind_ok.mp h
    cases returned : run.execution with
    | error failed =>
      rw [returned] at h
      cases h
      simp
    | ok found =>
      rw [returned] at h
      obtain ⟨outcome, _, _, h⟩ := bind_ok.mp h
      cases outcome <;> cases h <;> simp

/-- What was not started returned an execution that says so. -/
theorem invocationStartOf_notStarted {execution : AgentExecution} {tracker : AttemptTracker}
    {error : Option Raised} (h : invocationStartOf (some execution) tracker error = .notStarted) :
    execution.invocationStart = .notStarted := by
  unfold invocationStartOf at h
  split at h
  · cases h
  · exact h

/-- Unchanged means two complete snapshots of the same workspace. -/
theorem workspaceUnchanged_iff {before after : Option WorkspaceSnapshot} :
    workspaceUnchanged before after = true ↔
      ∃ first second, before = some first ∧ after = some second ∧ SameWorkspace first second := by
  unfold workspaceUnchanged
  split
  · rename_i first second
    simp only [Bool.and_eq_true, WorkspaceSnapshot.matches_iff]
    constructor
    · exact fun same => ⟨first, second, rfl, rfl, same.2⟩
    · rintro ⟨_, _, foundFirst, foundSecond, same⟩
      cases foundFirst
      cases foundSecond
      exact ⟨same.complete, same⟩
  · rename_i missing
    simp only [Bool.false_eq_true, false_iff]
    rintro ⟨first, second, rfl, rfl, _⟩
    exact missing first second rfl rfl

/-! ## The classification -/

/-- Only a failure without an exception, over an unchanged repository and
without violation or guard problem is retryable. -/
theorem classifyOutcome_retryable {audit : WritableAudit} {error : Option Raised} {unchanged : Bool}
    (h : classifyOutcome audit error unchanged = .rejectedBeforeStart ∨
      classifyOutcome audit error unchanged = .failedUnchanged) :
    error = none ∧ audit.execution.any AgentExecution.successful = false ∧ unchanged = true ∧
      audit.safetyViolations = [] ∧ audit.workspaceGuard.requiresHuman = false ∧
        (audit.invocationStart = .notStarted ∨
          (audit.execution.any fun execution => execution.failureCategory.any untrustedCategory) = false) := by
  unfold classifyOutcome at h
  cases error with
  | some error => simp at h
  | none =>
    simp only [Option.isSome_none, Bool.false_eq_true, if_false] at h
    split at h
    · split at h <;> simp at h
    · rename_i failed
      rw [Bool.not_eq_true] at failed
      refine ⟨rfl, failed, ?_⟩
      split at h
      · rename_i rejected
        obtain ⟨notStarted, same, violations, guard⟩ := rejected
        exact ⟨same, violations, guard, .inl notStarted⟩
      · split at h
        · rename_i trusted
          obtain ⟨_, same, category, violations, guard⟩ := trusted
          exact ⟨same, violations, guard, .inr category⟩
        · simp at h

/-- A rejection needs an audit without violations. -/
theorem stoppedOrRejected_cases (audit : WritableAudit) :
    (stoppedOrRejected audit = .rejectedBeforeStart ∧ audit.safetyViolations = [] ∧
        audit.workspaceGuard.requiresHuman = false) ∨
      stoppedOrRejected audit = .safetyStopped := by
  unfold stoppedOrRejected
  split
  · rename_i safe
    exact .inl ⟨rfl, safe⟩
  · exact .inr rfl

/-- What the audit of a write that was never started contains. -/
theorem auditWithoutInvocation_ok {sha256 : Sha256} {run : GuardedRun} {directory : String}
    {phase : AttemptPhase} {baseline : WritableBaseline} {before : WorkspaceEnvironmentSnapshot}
    {message : String} {starting : List WritableSafetyViolation} {tracker : AttemptTracker}
    {audit : WritableAudit}
    (h : (auditWithoutInvocation sha256 run directory phase baseline before message starting tracker).1 =
      .ok audit) :
    audit.execution = none ∧ audit.invocationStart = .notStarted ∧ audit.failureMessage = some message := by
  have done : auditWithoutInvocation sha256 run directory phase baseline before message starting tracker =
    (.ok audit, _) := Prod.ext h rfl
  obtain ⟨_, _, _, done⟩ := bind_ok.mp done
  obtain ⟨_, _, done⟩ := lift_bind_ok.mp done
  rw [get_bind] at done
  obtain ⟨_, _, done⟩ := lift_bind_ok.mp done
  obtain ⟨_, _, done⟩ := lift_bind_ok.mp done
  obtain ⟨_, _, done⟩ := lift_bind_ok.mp done
  obtain ⟨_, _, done⟩ := lift_bind_ok.mp done
  obtain ⟨noExecution, _, _, _, _, notStarted, message⟩ := WritableAudit.ofFields_ok (lift_ok.mp done).1
  exact ⟨noExecution, notStarted, message⟩

/-- The snapshots of a rejection are complete. -/
theorem GuardedWritableOutcome.rejected_complete {outcome : GuardedWritableOutcome}
    (rejected : outcome.kind = .rejectedBeforeStart) :
    completeSnapshots outcome.audit.beforeWorkspace outcome.audit.afterWorkspace = true := by
  have valid := outcome.valid
  rw [rejected] at valid
  simp only [validateOutcome, check_bind_ok, raiseIf_ok, Bool.not_eq_false] at valid
  exact valid.2.2.2.1

section Cause

variable {sha256 : Sha256} {run : GuardedRun} {request : GuardedWritableRequest}
  {outcome : GuardedWritableOutcome}

/-- After the invocation, the outcome has one of the named causes. -/
theorem executeInvocation_cause {tracker : AttemptTracker} {environment : WorkspaceEnvironmentSnapshot}
    (tracked : tracker.record.isSome = true)
    (captured : tracker.beforeSnapshot = (captureWorkspace run.workspaceBefore).snapshot)
    (h : (executeInvocation sha256 run request environment tracker).1 = .ok outcome) :
    OutcomeCause run request.executionRequest outcome := by
  have done : executeInvocation sha256 run request environment tracker = (.ok outcome, _) := Prod.ext h rfl
  obtain ⟨⟨execution, error⟩, invoked, invocation, done⟩ := bind_ok.mp done
  obtain ⟨⟨capture, guard⟩, later, capturedAfter, done⟩ := bind_ok.mp done
  obtain ⟨_, _, done⟩ := lift_bind_ok.mp done
  obtain ⟨post, _, done⟩ := lift_bind_ok.mp done
  rw [get_bind] at done
  obtain ⟨evidence, evidenced, done⟩ := lift_bind_ok.mp done
  obtain ⟨⟨files, changeError⟩, _, done⟩ := lift_bind_ok.mp done
  obtain ⟨_, _, done⟩ := lift_bind_ok.mp done
  obtain ⟨listing, _, done⟩ := lift_bind_ok.mp done
  obtain ⟨worktree, _, done⟩ := lift_bind_ok.mp done
  obtain ⟨audit, audited, done⟩ := lift_bind_ok.mp done
  obtain ⟨kind, same⟩ := GuardedWritableOutcome.ofAudit_ok.mp (lift_ok.mp done).1
  obtain ⟨sameExecution, _, _, _, violations, sameStart, _⟩ := WritableAudit.ofFields_ok audited
  have first : later.beforeSnapshot = (captureWorkspace run.workspaceBefore).snapshot :=
    ((stable_beforeSnapshot _).captureAfter sha256 run _ _ _ _).after capturedAfter
      (((stable_beforeSnapshot _).invoke run _).after invocation captured)
  rw [first, captureAfter_capture capturedAfter] at kind
  obtain ⟨returned, present⟩ := invoke_returned invocation
  have retryable : outcome.kind = .rejectedBeforeStart ∨ outcome.kind = .failedUnchanged →
      OutcomeCause run request.executionRequest outcome := by
    intro retry
    rw [kind] at retry
    obtain ⟨noError, failed, unchanged, noViolation, safe, trusted⟩ := classifyOutcome_retryable retry
    obtain ⟨found, rfl⟩ := Option.isSome_iff_exists.mp (present noError)
    subst noError
    -- An entry in the evidence errors would be a violation.
    have clean : later.evidenceErrors = [] := by
      rw [violations, List.append_eq_nil_iff, List.append_eq_nil_iff, mergeViolations_nil] at noViolation
      rw [noViolation.1.1.2] at evidenced
      exact attemptEvidenceViolations_nil.mp evidenced
    have cleanInvoked := not_not.mp
      ((stable_evidenceErrors.captureAfter sha256 run _ _ _ _).before capturedAfter (not_not.mpr clean))
    have recorded := (invoke_steps tracked invocation cleanInvoked).1
    rw [sameExecution] at failed trusted
    rw [← kind] at retry
    obtain ⟨before, after, foundBefore, foundAfter, same'⟩ := workspaceUnchanged_iff.mp unchanged
    rw [← same] at noViolation safe sameExecution sameStart
    refine .failed found retry sameExecution ⟨recorded, ?_, ?_, noViolation, safe, ?_⟩
    · cases status : found.status with
      | failed => rfl
      | success => simp [AgentExecution.successful, status] at failed
    · exact ⟨before, after, captureWorkspace_snapshot.mp foundBefore, captureWorkspace_snapshot.mp foundAfter,
        same'⟩
    · rw [← same] at trusted
      refine trusted.imp (fun notStarted => ⟨notStarted, ?_⟩) (fun category => by simpa using category)
      rw [sameStart] at notStarted
      exact invocationStartOf_notStarted notStarted
  cases found : outcome.kind with
  | succeeded =>
    rw [found] at kind
    obtain ⟨_, successful, _, _⟩ := classifyOutcome_succeeded.mp kind.symm
    rw [sameExecution] at successful
    cases execution with
    | none => cases successful
    | some execution =>
      refine .succeeded execution found (same ▸ sameExecution) ?_
      simpa [AgentExecution.successful] using successful
  | safetyStopped => exact .stopped (.inl found)
  | failedUncertain => exact .stopped (.inr found)
  | rejectedBeforeStart => exact retryable (.inl found)
  | failedUnchanged => exact retryable (.inr found)

/-- **What each outcome says** about the write. -/
theorem execute_cause (h : execute sha256 run request = .ok outcome) :
    OutcomeCause run request.executionRequest outcome := by
  obtain ⟨_, h⟩ := check_bind_ok.mp h
  obtain ⟨⟨tracker, environment⟩, captured, h⟩ := bind_ok_iff.mp h
  obtain ⟨safety, _, h⟩ := bind_ok_iff.mp h
  obtain ⟨incomplete, _, h⟩ := bind_ok_iff.mp h
  obtain ⟨evidence, evidenced, h⟩ := bind_ok_iff.mp h
  dsimp only at h
  by_cases starting : mergeViolations (mergeViolations safety incomplete) evidence ≠ []
  · rw [if_pos starting] at h
    obtain ⟨audit, _, h⟩ := bind_ok_iff.mp h
    exact .stopped (.inl (GuardedWritableOutcome.ofAudit_ok.mp h).1)
  · rw [if_neg starting] at h
    obtain ⟨problem, found, h⟩ := bind_ok_iff.mp h
    cases problem with
    | none =>
      rw [not_not, mergeViolations_nil] at starting
      rw [starting.2] at evidenced
      have tracked := captureBefore_tracked captured (attemptEvidenceViolations_nil.mp evidenced)
      exact executeInvocation_cause tracked (captureBefore_snapshot captured) h
    | some problem =>
      obtain ⟨audit, audited, h⟩ := bind_ok_iff.mp h
      obtain ⟨kind, rfl⟩ := GuardedWritableOutcome.ofAudit_ok.mp h
      obtain ⟨noExecution, notStarted, _⟩ := auditWithoutInvocation_ok audited
      rcases stoppedOrRejected_cases outcome.audit with ⟨rejected, noViolation, safe⟩ | stopped
      · rw [rejected] at kind
        exact .notCalled kind noExecution
          ⟨⟨problem, found⟩, notStarted, outcome.rejected_complete kind, noViolation, safe⟩
      · exact .stopped (.inl (kind.trans stopped))

end Cause

end SprintTicket
