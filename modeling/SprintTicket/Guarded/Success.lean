import SprintTicket.Guarded.Operation

/-!
# When a guarded write succeeds

`execute_succeeds_iff` gives the exact condition under which `execute` returns
the success outcome, over everything the operation meets. The argument follows
one fact through the operation: an entry in `evidenceErrors` is never removed,
so an operation that ends without entries met none on the way (`Stable`).
-/

set_option autoImplicit false

namespace SprintTicket

open Checks Effects Effects.Effect

/-- A property of the tracker that each of its three assignments preserves. -/
structure Stable (P : AttemptTracker → Prop) : Prop where
  addError : ∀ text tracker, P tracker → P (tracker.addError text)
  setRecord : ∀ record tracker, P tracker → P { tracker with record := some record }
  setStarted : ∀ tracker, P tracker → P { tracker with processStarted := true }

/-- Evidence of a failure stays. -/
theorem stable_evidenceErrors : Stable fun tracker => tracker.evidenceErrors ≠ [] :=
  ⟨fun _ _ _ => by simp [AttemptTracker.addError], fun _ _ h => h, fun _ h => h⟩

/-- A tracked attempt stays tracked. -/
theorem stable_record : Stable fun tracker => tracker.record.isSome = true :=
  ⟨fun _ _ h => h, fun _ _ _ => rfl, fun _ h => h⟩

/-- The snapshot from before the write is never replaced. -/
theorem stable_beforeSnapshot (snapshot : Option WorkspaceSnapshot) :
    Stable fun tracker => tracker.beforeSnapshot = snapshot :=
  ⟨fun _ _ h => h, fun _ _ h => h, fun _ h => h⟩

/-- A recorded start stays recorded. -/
theorem stable_processStarted : Stable fun tracker => tracker.processStarted = true :=
  ⟨fun _ _ h => h, fun _ _ h => h, fun _ _ => rfl⟩

namespace Stable

variable {P : AttemptTracker → Prop} (stable : Stable P) (sha256 : Sha256) (run : GuardedRun)

include stable

theorem updateFailed (point : LedgerPoint) (propagate : Bool) (error : Raised) :
    Keeps P (AttemptTracker.updateFailed run point propagate error) := by
  unfold AttemptTracker.updateFailed
  split
  · exact keeps_raise
  · refine keeps_bind keeps_lift fun _ => keeps_bind (keeps_modify (stable.addError _)) fun _ => ?_
    split
    · exact keeps_raise
    · exact keeps_pure

theorem update (point : LedgerPoint) (propagate : Bool) (changes : AttemptChanges) :
    Keeps P (AttemptTracker.update run point propagate changes) := by
  unfold AttemptTracker.update
  refine keeps_bind keeps_get fun tracker => ?_
  split
  · exact keeps_pure
  · refine keeps_bind keeps_lift fun _ => ?_
    split
    · exact keeps_modify (stable.setRecord _)
    · exact stable.updateFailed run point propagate _

theorem recordStarted (value : Bool) : Keeps P (AttemptTracker.recordStarted run value) := by
  unfold AttemptTracker.recordStarted
  refine keeps_bind keeps_get fun tracker => ?_
  split
  · split
    · exact keeps_modify (stable.addError _)
    · exact keeps_pure
  · split
    · exact keeps_pure
    · exact keeps_bind (keeps_modify stable.setStarted) fun _ => stable.update run _ _ _

theorem recordAfter (snapshot : Option WorkspaceSnapshot) (error : Option String) :
    Keeps P (AttemptTracker.recordAfter run sha256 snapshot error) := by
  unfold AttemptTracker.recordAfter
  split
  · exact keeps_bind keeps_lift fun _ => stable.update run _ _ _
  · refine keeps_bind keeps_get fun tracker => ?_
    split
    · exact keeps_pure
    · exact keeps_bind keeps_lift fun _ => stable.update run _ _ _

theorem persistGuardEvidence (directory : String) (inspection : WorkspaceGuardInspection) :
    Keeps P (SprintTicket.persistGuardEvidence run directory inspection) := by
  unfold SprintTicket.persistGuardEvidence
  refine keeps_bind keeps_get fun tracker => ?_
  split
  · exact keeps_pure
  · refine keeps_bind keeps_lift fun _ => ?_
    dsimp only
    split
    · exact keeps_pure
    · exact keeps_bind keeps_lift fun _ => keeps_bind (keeps_modify (stable.addError _)) fun _ =>
        keeps_bind keeps_get fun _ => keeps_pure

theorem buildAndPersistGuardEvidence (phase : AttemptPhase) (directory : String)
    (before after : WorkspaceEnvironmentSnapshot) :
    Keeps P (SprintTicket.buildAndPersistGuardEvidence run phase directory before after) := by
  unfold SprintTicket.buildAndPersistGuardEvidence
  refine keeps_bind keeps_lift fun _ => ?_
  split
  · exact stable.persistGuardEvidence run directory _
  · split
    · exact keeps_raise
    · exact keeps_bind (keeps_modify (stable.addError _)) fun _ =>
        stable.persistGuardEvidence run directory _

theorem captureAfter (repositoryPath directory : String) (phase : AttemptPhase)
    (before : WorkspaceEnvironmentSnapshot) :
    Keeps P (SprintTicket.captureAfter sha256 run repositoryPath directory phase before) := by
  unfold SprintTicket.captureAfter
  refine keeps_bind keeps_lift fun _ => keeps_bind keeps_lift fun _ => keeps_bind keeps_lift fun _ => ?_
  exact keeps_bind (stable.recordAfter sha256 run _ _) fun _ =>
    keeps_bind (stable.buildAndPersistGuardEvidence run _ _ _ _) fun _ => keeps_pure

theorem reportStarts (count : Nat) : Keeps P (SprintTicket.reportStarts run count) := by
  induction count with
  | zero => exact keeps_pure
  | succ count ih => exact keeps_bind (keeps_attempt (stable.recordStarted run true)) fun _ => ih

theorem recordReturnedStart (execution : AgentExecution) :
    Keeps P (SprintTicket.recordReturnedStart run execution) := by
  unfold SprintTicket.recordReturnedStart
  split
  · exact keeps_pure
  · exact stable.recordStarted run _

theorem acceptExecution (request : AgentExecutionRequest) (execution : AgentExecution) :
    Keeps P (SprintTicket.acceptExecution run request execution) := by
  unfold SprintTicket.acceptExecution
  refine keeps_bind (stable.recordReturnedStart run execution) fun _ => ?_
  exact keeps_bind keeps_lift fun _ => keeps_bind keeps_lift fun _ => keeps_bind keeps_lift fun _ =>
    keeps_bind keeps_lift fun _ => keeps_bind keeps_lift fun _ => stable.update run _ _ _

theorem invoke (request : AgentExecutionRequest) : Keeps P (SprintTicket.invoke run request) := by
  unfold SprintTicket.invoke
  split
  · exact keeps_pure
  · refine keeps_bind (stable.reportStarts run _) fun _ => ?_
    split
    · exact keeps_pure
    · refine keeps_bind (keeps_attempt (stable.acceptExecution run request _)) fun outcome => ?_
      cases outcome <;> exact keeps_pure

end Stable

section Updates

variable {run : GuardedRun} {point : LedgerPoint} {changes : AttemptChanges} {tracker after : AttemptTracker}

/-- An update that only repeats the recorded start is plain. -/
theorem AttemptChanges.plain_empty : ({} : AttemptChanges).Plain := ⟨rfl, rfl, .inl rfl⟩

theorem AttemptChanges.Plain.withStart (plain : changes.Plain) (started : Bool) :
    ({ changes with processStarted := some started } : AttemptChanges).Plain :=
  ⟨plain.status, plain.ended, plain.executionPath⟩

/-- A plain update of the record fails only where it is saved. -/
theorem updateAttempt_eq (run : GuardedRun) (point : LedgerPoint) (record : AttemptRecord)
    (plain : changes.Plain) :
    ∃ updated, AttemptTracker.updateAttempt run point record changes =
      (run.saveAttempt point).map fun _ => updated := by
  obtain ⟨update, prepared⟩ := prepareUpdate_plain plain record (run.now point)
  refine ⟨update.updated, ?_⟩
  unfold AttemptTracker.updateAttempt
  rw [prepared]
  cases run.saveAttempt point <;> rfl

/-- A failed update is reported as an exception or as an evidence error. -/
theorem updateFailed_errors {error : Raised} {propagate : Bool}
    (h : AttemptTracker.updateFailed run point propagate error tracker = (.ok (), after)) :
    after.evidenceErrors ≠ [] := by
  unfold AttemptTracker.updateFailed at h
  split at h
  · cases h
  · obtain ⟨_, _, h⟩ := lift_bind_ok.mp h
    rw [modify_bind] at h
    split at h
    · cases h
    · cases h
      simp [AttemptTracker.addError]

/-- An update of a tracked record, once its layout check passed. -/
theorem update_eq {propagate : Bool} {record : AttemptRecord} (found : tracker.record = some record)
    (checked : run.check (.ledger point) = .ok ()) :
    AttemptTracker.update run point propagate changes tracker =
      match AttemptTracker.updateAttempt run point record
          { changes with processStarted := some tracker.processStarted } with
      | .ok updated => (.ok (), { tracker with record := some updated })
      | .error error => AttemptTracker.updateFailed run point propagate error tracker := by
  unfold AttemptTracker.update
  rw [get_bind]
  simp only [found]
  rw [bind_apply, lift_apply, checked]
  dsimp only
  cases AttemptTracker.updateAttempt run point record
    { changes with processStarted := some tracker.processStarted } <;> rfl

/-- A failed ownership check leaves the tracker as it was. -/
theorem update_unchecked {propagate : Bool} (tracked : tracker.record.isSome = true) {error : Raised}
    (failed : run.check (.ledger point) = .error error) :
    AttemptTracker.update run point propagate changes tracker = (.error error, tracker) := by
  obtain ⟨record, found⟩ := Option.isSome_iff_exists.mp tracked
  unfold AttemptTracker.update
  rw [get_bind]
  simp only [found]
  rw [bind_apply, lift_apply, failed]

/-- It leaves none when its exception came before the entry. -/
theorem updateFailed_clean {error : Raised} {propagate : Bool} (clean : tracker.evidenceErrors = []) :
    (AttemptTracker.updateFailed run point propagate error tracker).2.evidenceErrors = [] ↔
      error.isinstance .runOwnershipError = true ∨
        ∃ later, run.check (.ledgerFailed point) = .error later := by
  unfold AttemptTracker.updateFailed
  by_cases ownership : error.isinstance .runOwnershipError = true
  · rw [if_pos ownership]
    exact ⟨fun _ => .inl ownership, fun _ => clean⟩
  · rw [if_neg ownership, bind_apply, lift_apply]
    cases checked : run.check (.ledgerFailed point) with
    | error later => exact ⟨fun _ => .inr ⟨later, rfl⟩, fun _ => clean⟩
    | ok _ =>
      dsimp only
      rw [modify_bind]
      constructor
      · intro none
        split at none <;> simp [AttemptTracker.addError] at none
      · rintro (same | ⟨later, same⟩)
        · exact absurd same ownership
        · cases same

/-- An update without evidence errors was checked and saved. -/
theorem update_clean {propagate : Bool} (tracked : tracker.record.isSome = true) (plain : changes.Plain)
    (h : AttemptTracker.update run point propagate changes tracker = (.ok (), after))
    (clean : after.evidenceErrors = []) :
    run.check (.ledger point) = .ok () ∧ run.saveAttempt point = .ok () := by
  cases checked : run.check (.ledger point) with
  | error error =>
    rw [update_unchecked tracked checked] at h
    cases h
  | ok _ =>
    obtain ⟨record, found⟩ := Option.isSome_iff_exists.mp tracked
    rw [update_eq found checked] at h
    obtain ⟨updated, prepared⟩ := updateAttempt_eq run point record
      (plain.withStart tracker.processStarted)
    rw [prepared] at h
    cases saved : run.saveAttempt point with
    | ok _ => exact ⟨rfl, rfl⟩
    | error error =>
      rw [saved] at h
      exact absurd clean (updateFailed_errors h)

theorem update_succeeds (propagate : Bool) (tracked : tracker.record.isSome = true) (plain : changes.Plain)
    (checked : run.check (.ledger point) = .ok ()) (saved : run.saveAttempt point = .ok ()) :
    ∃ updated, AttemptTracker.update run point propagate changes tracker =
      (.ok (), { tracker with record := some updated }) := by
  obtain ⟨record, found⟩ := Option.isSome_iff_exists.mp tracked
  obtain ⟨updated, prepared⟩ := updateAttempt_eq run point record
    (plain.withStart tracker.processStarted)
  exact ⟨updated, by rw [update_eq found checked, prepared, saved]; rfl⟩

end Updates

/-- The start callback raised its exception into the executor and left no
evidence error: the layout check before the update failed, ownership was lost in
it, or the check after its failure failed. -/
def StartSwallowed (run : GuardedRun) : Prop :=
  (∃ error, run.check (.ledger .invocationStart) = .error error) ∨
    ∃ error, run.saveAttempt .invocationStart = .error error ∧
      (error.isinstance .runOwnershipError = true ∨
        ∃ later, run.check (.ledgerFailed .invocationStart) = .error later)

/-- The start of the invocation was saved, or its callback failed unnoticed. -/
def StartRecorded (run : GuardedRun) : Prop :=
  (run.check (.ledger .invocationStart) = .ok () ∧ run.saveAttempt .invocationStart = .ok ()) ∨
    (0 < run.startReports ∧ StartSwallowed run)

section Start

variable {run : GuardedRun} {tracker : AttemptTracker}

/-- The start is recorded once. -/
theorem recordStarted_again (started : tracker.processStarted = true) :
    AttemptTracker.recordStarted run true tracker = (.ok (), tracker) := by
  unfold AttemptTracker.recordStarted
  rw [get_bind, if_neg (by simp), if_pos started]
  rfl

theorem recordStarted_first (fresh : tracker.processStarted = false) :
    AttemptTracker.recordStarted run true tracker =
      AttemptTracker.update run .invocationStart true {} { tracker with processStarted := true } := by
  unfold AttemptTracker.recordStarted
  rw [get_bind, if_neg (by simp), if_neg (by simp [fresh]), modify_bind]

theorem reportStarts_again (started : tracker.processStarted = true) (count : Nat) :
    reportStarts run count tracker = (.ok (), tracker) := by
  induction count with
  | zero => rfl
  | succ count ih =>
    have reported : attempt (AttemptTracker.recordStarted run true) tracker = (.ok (.ok ()), tracker) := by
      rw [attempt_apply, recordStarted_again started]
    rw [reportStarts, bind_of_ok reported]
    exact ih

/-- Only the first report has an effect, whatever becomes of its update. -/
theorem reportStarts_first (fresh : tracker.processStarted = false) (count : Nat) :
    reportStarts run (count + 1) tracker =
      (.ok (), (AttemptTracker.update run .invocationStart true {}
        { tracker with processStarted := true }).2) := by
  rw [reportStarts, bind_of_ok attempt_apply, recordStarted_first fresh]
  exact reportStarts_again (stable_processStarted.update run _ _ _ _ rfl) count

/-- The callback's update leaves no evidence error exactly when it succeeds or
its exception was swallowed. -/
theorem callback_clean (run : GuardedRun) (tracked : tracker.record.isSome = true)
    (clean : tracker.evidenceErrors = []) :
    (AttemptTracker.update run .invocationStart true {} tracker).2.evidenceErrors = [] ↔
      (run.check (.ledger .invocationStart) = .ok () ∧ run.saveAttempt .invocationStart = .ok ()) ∨
        StartSwallowed run := by
  obtain ⟨record, found⟩ := Option.isSome_iff_exists.mp tracked
  cases checked : run.check (.ledger .invocationStart) with
  | error error =>
    rw [update_unchecked tracked checked]
    exact ⟨fun _ => .inr (.inl ⟨error, checked⟩), fun _ => clean⟩
  | ok _ =>
    rw [update_eq found checked]
    obtain ⟨updated, prepared⟩ := updateAttempt_eq run .invocationStart record
      (AttemptChanges.Plain.withStart AttemptChanges.plain_empty tracker.processStarted)
    rw [prepared]
    cases saved : run.saveAttempt .invocationStart with
    | ok _ => exact ⟨fun _ => .inl ⟨rfl, rfl⟩, fun _ => clean⟩
    | error error =>
      rw [Except.map, updateFailed_clean clean]
      constructor
      · exact fun swallowed => .inr (.inr ⟨error, saved, swallowed⟩)
      · rintro (⟨_, same⟩ | ⟨_, same⟩ | ⟨_, same, swallowed⟩)
        · cases same
        · rw [checked] at same
          cases same
        · rw [saved] at same
          cases same
          exact swallowed

theorem recordReturnedStart_started {execution : AgentExecution}
    (started : execution.invocationStart = .started) :
    recordReturnedStart run execution tracker = AttemptTracker.recordStarted run true tracker := by
  simp [recordReturnedStart, started]

/-- After a reported start, the executor's reports and its return leave no
evidence error exactly when the start is recorded. -/
theorem startRecorded_iff {execution : AgentExecution} (started : execution.invocationStart = .started)
    (tracked : tracker.record.isSome = true) (clean : tracker.evidenceErrors = [])
    (fresh : tracker.processStarted = false) :
    (∃ middle after, reportStarts run run.startReports tracker = (.ok (), middle) ∧
        recordReturnedStart run execution middle = (.ok (), after) ∧ after.evidenceErrors = []) ↔
      StartRecorded run := by
  unfold StartRecorded
  cases reports : run.startReports with
  | zero =>
    simp only [lt_irrefl, false_and, or_false]
    constructor
    · rintro ⟨_, after, reported, returned, none⟩
      cases reported
      rw [recordReturnedStart_started started, recordStarted_first fresh] at returned
      exact update_clean (by exact tracked) AttemptChanges.plain_empty returned none
    · rintro ⟨checked, saved⟩
      have trackedStart : ({ tracker with processStarted := true } : AttemptTracker).record.isSome = true :=
        tracked
      obtain ⟨updated, done⟩ :=
        update_succeeds true trackedStart AttemptChanges.plain_empty checked saved
      refine ⟨tracker, { tracker with record := some updated, processStarted := true }, rfl, ?_, clean⟩
      rw [recordReturnedStart_started started, recordStarted_first fresh]
      exact done
  | succ count =>
    rw [reportStarts_first fresh]
    have again : (AttemptTracker.update run .invocationStart true {}
        { tracker with processStarted := true }).2.processStarted = true :=
      stable_processStarted.update run _ _ _ _ rfl
    have recorded : (AttemptTracker.update run .invocationStart true {}
        { tracker with processStarted := true }).2.evidenceErrors = [] ↔ _ :=
      callback_clean run tracked clean
    simp only [Nat.zero_lt_succ, true_and, ← recorded]
    constructor
    · rintro ⟨_, after, reported, returned, none⟩
      cases reported
      rw [recordReturnedStart_started started, recordStarted_again again] at returned
      cases returned
      exact none
    · intro none
      exact ⟨_, _, rfl, by rw [recordReturnedStart_started started, recordStarted_again again], none⟩

end Start

/-- The lists of violations are empty exactly when their cause is absent, one lemma each. -/
theorem safetyViolations_nil {changes : List WorkspaceChange} {point : String} :
    safetyViolations changes point = .ok [] ↔ changes = [] := by
  cases changes with
  | nil => simp [safetyViolations, pure, Except.pure]
  | cons change changes =>
    simp only [safetyViolations, List.mapM_cons, bind_ok_iff, pure_ok, List.cons_ne_nil, and_false,
      exists_false]

theorem attemptEvidenceViolations_nil {tracker : AttemptTracker} :
    attemptEvidenceViolations tracker = .ok [] ↔ tracker.evidenceErrors = [] := by
  unfold attemptEvidenceViolations
  split
  · simp_all
  · simp_all

theorem incompleteBefore_nil {tracker : AttemptTracker} {environment : WorkspaceEnvironmentSnapshot} :
    incompleteBefore tracker environment = .ok [] ↔
      tracker.beforeComplete = true ∧ environment.inspectionErrors = [] := by
  unfold incompleteBefore
  split
  · rename_i incomplete
    simp only [bind_ok_iff, pure_ok, List.cons_ne_nil, and_false, exists_false, false_iff]
    rintro ⟨complete, none⟩
    rcases incomplete with incomplete | incomplete
    · rw [complete] at incomplete
      cases incomplete
    · simp [WorkspaceEnvironmentSnapshot.inspectionComplete, none] at incomplete
  · rename_i complete
    simp only [not_or, Bool.not_eq_false, WorkspaceEnvironmentSnapshot.inspectionComplete,
      decide_eq_true_eq] at complete
    exact ⟨fun _ => complete, fun _ => rfl⟩

theorem listingViolation_nil {changeError : Option String} {point : String} :
    listingViolation changeError point = .ok [] ↔ changeError = none := by
  cases changeError <;> simp [listingViolation]

/-- The starting checks pass: the workspace is the authorized one. -/
theorem startingViolations_nil {sha256 : Sha256} {run : GuardedRun} {snapshot : WorkspaceSnapshot}
    {baseline : WritableBaseline} :
    startingViolations sha256 run (some snapshot) baseline = .ok [] ↔
      ∃ path, run.expectedPath = .ok path ∧
        SafeWorkspace snapshot path baseline.branch baseline.headSha true baseline.requireCleanWorktree ∧
          ∀ expected, baseline.expectedWorkspaceFingerprint = some expected →
            snapshot.fingerprint sha256 = expected := by
  simp only [startingViolations, bind_ok_iff, safetyViolations_nil, List.append_eq_nil_iff,
    workspaceSafetyChanges_nil, changeWhen_nil]
  refine exists_congr fun path => and_congr_right fun _ => and_congr_right fun safe => ?_
  cases baseline.expectedWorkspaceFingerprint with
  | none => simp
  | some expected =>
    simp [WorkspaceSnapshot.matchesFingerprint_iff, safe.complete]

/-- The checks after the write pass. -/
theorem postViolations_nil {run : GuardedRun} {capture : WorkspaceCapture} {baseline : WritableBaseline} :
    postViolations run capture baseline = .ok [] ↔
      ∃ snapshot path, capture.snapshot = some snapshot ∧ run.expectedPathAfter = .ok path ∧
        SafeWorkspace snapshot path baseline.branch baseline.headSha true false := by
  unfold postViolations
  split
  · rename_i missing
    simp [missing]
  · rename_i snapshot found
    simp [bind_ok_iff, safetyViolations_nil, workspaceSafetyChanges_nil, found]

/-- The guard of one pair of scans was built, checked and written. -/
structure GuardPersisted (run : GuardedRun) (phase : AttemptPhase) (directory : String)
    (before after : WorkspaceEnvironmentSnapshot) (guard : WorkspaceGuardInspection) : Prop where
  checks : ∀ point ∈ [.guardStart, .guardCompared, .guardPersist, .guardPersisted],
    run.check point = .ok ()
  compared : ∃ timestamp new, run.guardTimestamp = .ok timestamp ∧
    newEnvironments run.pathIdentity before after = .ok new ∧
      guard = ⟨phase, timestamp, some (directory ++ "/" ++ workspaceGuardFile), before, after, new⟩
  written : run.writeWorkspaceGuard guard = .ok ()

section Guard

variable {run : GuardedRun} {tracker later : AttemptTracker} {directory : String}

theorem withGuardEvidenceErrors_nil {inspection : WorkspaceGuardInspection} :
    withGuardEvidenceErrors inspection [] = inspection := rfl

theorem persistGuardEvidence_clean {inspection guard : WorkspaceGuardInspection}
    (tracked : tracker.record.isSome = true) (clean : tracker.evidenceErrors = []) :
    persistGuardEvidence run directory inspection tracker = (.ok guard, later) ∧ later.evidenceErrors = [] ↔
      later = tracker ∧ run.check .guardPersist = .ok () ∧ run.check .guardPersisted = .ok () ∧
        guard = { inspection with artifactPath := some (directory ++ "/" ++ workspaceGuardFile) } ∧
          run.writeWorkspaceGuard guard = .ok () := by
  obtain ⟨record, found⟩ := Option.isSome_iff_exists.mp tracked
  unfold persistGuardEvidence
  rw [get_bind]
  simp only [found, clean, withGuardEvidenceErrors_nil]
  rw [lift_bind_ok]
  generalize { inspection with artifactPath := some (directory ++ "/" ++ workspaceGuardFile) } = persisted
  cases written : run.writeWorkspaceGuard persisted >>= fun _ => run.check .guardPersisted with
  | ok _ =>
    obtain ⟨wrote, checked⟩ := check_bind_ok.mp written
    constructor
    · rintro ⟨⟨_, persist, same⟩, _⟩
      cases same
      exact ⟨rfl, persist, checked, rfl, wrote⟩
    · rintro ⟨rfl, persist, _, rfl, _⟩
      exact ⟨⟨(), persist, rfl⟩, clean⟩
  | error error =>
    constructor
    · rintro ⟨⟨_, persist, rest⟩, none⟩
      obtain ⟨_, _, rest⟩ := lift_bind_ok.mp rest
      cases rest
      simp [AttemptTracker.addError] at none
    · rintro ⟨_, _, checked, rfl, wrote⟩
      rw [check_bind_ok.mpr ⟨wrote, checked⟩] at written
      cases written

theorem buildAndPersistGuardEvidence_clean {phase : AttemptPhase} {before after : WorkspaceEnvironmentSnapshot}
    {guard : WorkspaceGuardInspection} (tracked : tracker.record.isSome = true)
    (clean : tracker.evidenceErrors = []) :
    buildAndPersistGuardEvidence run phase directory before after tracker = (.ok guard, later) ∧
        later.evidenceErrors = [] ↔
      later = tracker ∧ GuardPersisted run phase directory before after guard := by
  unfold buildAndPersistGuardEvidence
  rw [lift_bind_ok]
  constructor
  · rintro ⟨⟨_, start, rest⟩, none⟩
    cases compared : compareAndRevalidate run phase before after with
    | ok inspection =>
      rw [compared] at rest
      obtain ⟨built, comparison, compared⟩ := bind_ok_iff.mp compared
      obtain ⟨checked, same⟩ := check_bind_ok.mp compared
      cases same
      obtain ⟨timestamp, stamped, comparison⟩ := bind_ok_iff.mp comparison
      obtain ⟨new, listed, same⟩ := bind_ok_iff.mp comparison
      cases same
      obtain ⟨rfl, persist, persisted, rfl, written⟩ :=
        (persistGuardEvidence_clean tracked clean).mp ⟨rest, none⟩
      refine ⟨rfl, ?_, ⟨timestamp, new, stamped, listed, rfl⟩, written⟩
      simp [start, checked, persist, persisted]
    | error error =>
      rw [compared] at rest
      dsimp only at rest
      split at rest
      · cases rest
      · rw [modify_bind] at rest
        have before := (stable_evidenceErrors.persistGuardEvidence run directory _).before rest
          (not_not.mpr none)
        simp [AttemptTracker.addError] at before
  · rintro ⟨rfl, checks, ⟨timestamp, new, stamped, listed, rfl⟩, written⟩
    simp only [List.forall_mem_cons] at checks
    obtain ⟨start, checked, persist, persisted, _⟩ := checks
    have compared : compareAndRevalidate run phase before after =
        .ok ⟨phase, timestamp, none, before, after, new⟩ := by
      refine bind_ok_iff.mpr ⟨_, bind_ok_iff.mpr ⟨timestamp, stamped, bind_ok_iff.mpr ⟨new, listed, rfl⟩⟩, ?_⟩
      exact check_bind_ok.mpr ⟨checked, rfl⟩
    have saved : persistGuardEvidence run directory ⟨phase, timestamp, none, before, after, new⟩ later =
          (.ok _, later) ∧ later.evidenceErrors = [] :=
      (persistGuardEvidence_clean tracked clean).mpr ⟨rfl, persist, persisted, rfl, written⟩
    obtain ⟨done, none⟩ := saved
    refine ⟨⟨(), start, ?_⟩, none⟩
    rw [compared]
    exact done

end Guard

theorem eraseDups_nil {texts : List String} : texts.eraseDups = [] ↔ texts = [] := by
  cases texts <;> simp [List.eraseDups_cons]

/-- A snapshot was captured when git answered. -/
theorem captureWorkspace_snapshot {captured : Except Raised WorkspaceSnapshot} {snapshot : WorkspaceSnapshot} :
    (captureWorkspace captured).snapshot = some snapshot ↔ captured = .ok snapshot := by
  cases captured <;> simp [captureWorkspace]

theorem captureEnvironment_complete {path : String} {captured : Except Raised WorkspaceEnvironmentSnapshot} :
    (captureEnvironment path captured).inspectionErrors = [] ↔
      ∃ snapshot, captured = .ok snapshot ∧ snapshot.inspectionErrors = [] := by
  cases captured <;> simp [captureEnvironment]

/-- With a complete workspace snapshot the merged scan is complete exactly when
the scan itself is, and then it is the scan. -/
theorem withWorkspaceInspectionErrors_complete {environment : WorkspaceEnvironmentSnapshot}
    {capture : WorkspaceCapture} {snapshot : WorkspaceSnapshot} {point : String}
    (found : capture.snapshot = some snapshot) (complete : snapshot.inspectionComplete = true) :
    withWorkspaceInspectionErrors environment capture point =
      { environment with inspectionErrors := environment.inspectionErrors.eraseDups } := by
  simp [withWorkspaceInspectionErrors, found, complete]

/-- Everything around the capture after the write passed. -/
structure AfterCaptured (sha256 : Sha256) (run : GuardedRun) (phase : AttemptPhase) (directory : String)
    (before after : WorkspaceEnvironmentSnapshot) (snapshot : WorkspaceSnapshot)
    (guard : WorkspaceGuardInspection) : Prop where
  checks : ∀ point ∈ [.auditStart, .afterWorkspaceCaptured, .afterEnvironmentScanned, .ledger .recordAfter],
    run.check point = .ok ()
  workspace : run.workspaceAfter = .ok snapshot
  encoded : run.encodes snapshot = true
  environment : run.environmentAfter = .ok after
  complete : after.inspectionErrors = []
  saved : run.saveAttempt .recordAfter = .ok ()
  persisted : GuardPersisted run phase directory before after guard

theorem captureAfter_clean {sha256 : Sha256} {run : GuardedRun} {tracker : AttemptTracker}
    (path : String) {directory : String} {phase : AttemptPhase} {before : WorkspaceEnvironmentSnapshot}
    {snapshot : WorkspaceSnapshot} {guard : WorkspaceGuardInspection}
    (tracked : tracker.record.isSome = true) (clean : tracker.evidenceErrors = [])
    (inspected : snapshot.inspectionComplete = true) :
    (∃ capture later, captureAfter sha256 run path directory phase before tracker = (.ok (capture, guard), later) ∧
        later.evidenceErrors = [] ∧ capture.snapshot = some snapshot ∧ guard.after.inspectionErrors = []) ↔
      ∃ after, AfterCaptured sha256 run phase directory before after snapshot guard := by
  have plain : ({ afterWorkspaceFingerprint := some (snapshot.fingerprint sha256) } : AttemptChanges).Plain :=
    ⟨rfl, rfl, .inl rfl⟩
  unfold captureAfter
  constructor
  · rintro ⟨capture, later, done, none, found, scanned⟩
    obtain ⟨_, start, done⟩ := lift_bind_ok.mp done
    obtain ⟨_, captured, done⟩ := lift_bind_ok.mp done
    obtain ⟨_, environmentChecked, done⟩ := lift_bind_ok.mp done
    obtain ⟨_, middle, recorded, done⟩ := bind_ok.mp done
    obtain ⟨built, final, evidence, done⟩ := bind_ok.mp done
    cases done
    have workspace := captureWorkspace_snapshot.mp found
    simp only [AttemptTracker.recordAfter, found] at recorded
    obtain ⟨fingerprint, hashed, recorded⟩ := lift_bind_ok.mp recorded
    obtain ⟨encoded, rfl⟩ := GuardedRun.fingerprint_ok.mp hashed
    have trackedMiddle := (stable_record.update run _ _ _).after recorded tracked
    have cleanMiddle := not_not.mp
      ((stable_evidenceErrors.buildAndPersistGuardEvidence run _ _ _ _).before evidence (not_not.mpr none))
    obtain ⟨checked, saved⟩ := update_clean tracked plain recorded cleanMiddle
    obtain ⟨rfl, persisted⟩ := (buildAndPersistGuardEvidence_clean trackedMiddle cleanMiddle).mp ⟨evidence, none⟩
    rw [withWorkspaceInspectionErrors_complete found inspected] at persisted
    obtain ⟨timestamp, new, stamped, listed, rfl⟩ := persisted.compared
    have complete := eraseDups_nil.mp scanned
    obtain ⟨after, environment, errors⟩ := captureEnvironment_complete.mp complete
    refine ⟨after, ?_, workspace, encoded, environment, errors, saved, ?_⟩
    · simp [start, captured, environmentChecked, checked]
    · have same : ({ captureEnvironment path run.environmentAfter with inspectionErrors :=
          (captureEnvironment path run.environmentAfter).inspectionErrors.eraseDups } :
          WorkspaceEnvironmentSnapshot) = after := by
        rw [environment]
        cases after
        simp_all [captureEnvironment]
      rw [same] at persisted ⊢
      exact persisted
  · rintro ⟨after, checks, workspace, encoded, environment, complete, saved, persisted⟩
    simp only [List.forall_mem_cons] at checks
    obtain ⟨start, captured, environmentChecked, checked, _⟩ := checks
    obtain ⟨updated, recorded⟩ := update_succeeds false tracked plain checked saved
    have found := captureWorkspace_snapshot.mpr workspace
    have scan : withWorkspaceInspectionErrors (captureEnvironment path run.environmentAfter)
        (captureWorkspace run.workspaceAfter) "after" = after := by
      rw [withWorkspaceInspectionErrors_complete found inspected, environment]
      cases after
      simp_all [captureEnvironment]
    have trackedLater : ({ tracker with record := some updated } : AttemptTracker).record.isSome = true := rfl
    obtain ⟨built, _⟩ := (buildAndPersistGuardEvidence_clean trackedLater clean).mpr ⟨rfl, persisted⟩
    refine ⟨_, { tracker with record := some updated }, ?_, clean, found, ?_⟩
    · have recordedAfter : AttemptTracker.recordAfter run sha256 (captureWorkspace run.workspaceAfter).snapshot
          (captureWorkspace run.workspaceAfter).error tracker =
            (.ok (), { tracker with record := some updated }) := by
        simp only [AttemptTracker.recordAfter, found]
        exact lift_bind_ok.mpr ⟨_, GuardedRun.fingerprint_ok.mpr ⟨encoded, rfl⟩, recorded⟩
      refine lift_bind_ok.mpr ⟨(), start, lift_bind_ok.mpr ⟨(), captured, ?_⟩⟩
      refine lift_bind_ok.mpr ⟨(), environmentChecked, bind_ok.mpr ⟨(), _, recordedAfter, ?_⟩⟩
      rw [scan]
      exact bind_ok.mpr ⟨guard, _, built, rfl⟩
    · obtain ⟨_, _, _, _, rfl⟩ := persisted.compared
      exact complete

/-- A success was started. -/
theorem AgentExecution.success_started {execution : AgentExecution} (success : execution.status = .success) :
    execution.invocationStart = .started := by
  have semantics := execution.semantics
  rw [success] at semantics
  exact (validateExecutionSemantics_success.mp semantics).1

/-- A success fits the request when its task does: its own check covers the rest. -/
theorem executionContractProblem_none {execution : AgentExecution} {request : AgentExecutionRequest}
    (success : execution.status = .success) :
    (executionContractProblem execution request).isSome = false ↔ execution.taskKind = request.taskKind := by
  obtain ⟨result, found, accepted⟩ := execution.success_result success
  unfold executionContractProblem
  by_cases same : execution.taskKind = request.taskKind
  · rw [same] at accepted
    simp [same, found, accepted]
  · simp [same]

/-- The executor returned `execution` for the requested task, and its evidence was
written and saved: no exception came after it. -/
structure ExecutionRecorded (run : GuardedRun) (request : AgentExecutionRequest)
    (execution : AgentExecution) : Prop where
  checks : ∀ point ∈ [.beforeInvocation, .invocationReturned, .evidenceWritten,
    .ledger .executionEvidence], run.check point = .ok ()
  returned : run.execution = .ok execution
  task : execution.taskKind = request.taskKind
  evidence : ∃ evidence, evidenceFromExecution request execution = .ok evidence ∧
    run.writeExecutionEvidence evidence = .ok ()
  saved : run.saveAttempt .executionEvidence = .ok ()

/-- So was the start of the invocation. -/
structure ExecutorAccepted (run : GuardedRun) (request : AgentExecutionRequest)
    (execution : AgentExecution) : Prop extends ExecutionRecorded run request execution where
  start : StartRecorded run

/-- An accepted execution has the kind of the task that was asked for. -/
theorem executionContractProblem_task {execution : AgentExecution} {request : AgentExecutionRequest}
    (accepted : (executionContractProblem execution request).isSome = false) :
    execution.taskKind = request.taskKind := by
  unfold executionContractProblem at accepted
  by_contra other
  simp [other] at accepted

/-- An invocation that ends without an exception and without evidence errors. -/
theorem invoke_steps {run : GuardedRun} {request : AgentExecutionRequest} {execution : AgentExecution}
    {tracker later : AttemptTracker} (tracked : tracker.record.isSome = true)
    (done : invoke run request tracker = (.ok (some execution, none), later)) (none : later.evidenceErrors = []) :
    ExecutionRecorded run request execution ∧ ∃ middle recorded,
      reportStarts run run.startReports tracker = (.ok (), middle) ∧
        recordReturnedStart run execution middle = (.ok (), recorded) ∧ recorded.evidenceErrors = [] := by
  have plain : ({ executionPath := some executionEvidenceFile } : AttemptChanges).Plain := ⟨rfl, rfl, .inr rfl⟩
  unfold invoke at done
  cases before : run.check .beforeInvocation with
  | error error =>
    rw [before] at done
    cases done
  | ok _ =>
    rw [before] at done
    obtain ⟨_, middle, reported, done⟩ := bind_ok.mp done
    cases returned : run.execution with
    | error error =>
      rw [returned] at done
      cases done
    | ok found =>
      rw [returned] at done
      obtain ⟨outcome, final, accepted, done⟩ := bind_ok.mp done
      cases outcome with
      | error error => cases done
      | ok _ =>
        cases done
        rw [attempt_apply, Prod.mk.injEq, Except.ok.injEq] at accepted
        have accepted : acceptExecution run request execution middle = (.ok (), later) :=
          Prod.ext accepted.1 accepted.2
        obtain ⟨_, recorded, start, accepted⟩ := bind_ok.mp accepted
        obtain ⟨_, revalidated, accepted⟩ := lift_bind_ok.mp accepted
        obtain ⟨_, contract, accepted⟩ := lift_bind_ok.mp accepted
        obtain ⟨evidence, built, accepted⟩ := lift_bind_ok.mp accepted
        obtain ⟨_, written, accepted⟩ := lift_bind_ok.mp accepted
        obtain ⟨_, checked, updated⟩ := lift_bind_ok.mp accepted
        have trackedStart := (stable_record.recordReturnedStart run execution).after start
          ((stable_record.reportStarts run _).after reported tracked)
        have cleanStart := not_not.mp
          ((stable_evidenceErrors.update run _ _ _).before updated (not_not.mpr none))
        obtain ⟨ledger, saved⟩ := update_clean trackedStart plain updated none
        rw [raiseIf_ok, Bool.not_eq_true] at contract
        refine ⟨⟨?_, returned, executionContractProblem_task contract, ⟨evidence, built, written⟩, saved⟩,
          middle, recorded, reported, start, cleanStart⟩
        simp [before, revalidated, checked, ledger]

/-- The invocation is clean when its start and its return were recorded. -/
theorem invoke_clean {run : GuardedRun} {request : AgentExecutionRequest} {execution : AgentExecution}
    {tracker : AttemptTracker} (tracked : tracker.record.isSome = true) (clean : tracker.evidenceErrors = [])
    (fresh : tracker.processStarted = false) (success : execution.status = .success) :
    (∃ later, invoke run request tracker = (.ok (some execution, none), later) ∧ later.evidenceErrors = []) ↔
      ExecutorAccepted run request execution := by
  have plain : ({ executionPath := some executionEvidenceFile } : AttemptChanges).Plain :=
    ⟨rfl, rfl, .inr rfl⟩
  have started := execution.success_started success
  constructor
  · rintro ⟨later, done, none⟩
    obtain ⟨accepted, middle, recorded, reported, start, cleanStart⟩ := invoke_steps tracked done none
    exact ⟨accepted, (startRecorded_iff started tracked clean fresh).mp
      ⟨middle, recorded, reported, start, cleanStart⟩⟩
  · rintro ⟨⟨checks, returned, task, ⟨evidence, built, written⟩, saved⟩, start⟩
    unfold invoke
    simp only [List.forall_mem_cons] at checks
    obtain ⟨before, revalidated, checked, ledger, _⟩ := checks
    obtain ⟨middle, recorded, reported, startDone, none⟩ :=
      (startRecorded_iff started tracked clean fresh).mpr start
    have trackedStart := (stable_record.recordReturnedStart run execution).after startDone
      ((stable_record.reportStarts run _).after reported tracked)
    obtain ⟨updated, done⟩ := update_succeeds false trackedStart plain ledger saved
    have contract : raiseIf ((executionContractProblem execution request).isSome = true)
        (⟨.valueError, (executionContractProblem execution request).getD ""⟩ : Raised) = .ok () := by
      rw [raiseIf_ok, Bool.not_eq_true, executionContractProblem_none success]
      exact task
    have accepted : acceptExecution run request execution middle =
        (.ok (), { recorded with record := some updated }) := by
      refine bind_ok.mpr ⟨(), recorded, startDone, lift_bind_ok.mpr ⟨(), revalidated, ?_⟩⟩
      refine lift_bind_ok.mpr ⟨(), contract, lift_bind_ok.mpr ⟨evidence, built, ?_⟩⟩
      exact lift_bind_ok.mpr ⟨(), written, lift_bind_ok.mpr ⟨(), checked, done⟩⟩
    refine ⟨{ recorded with record := some updated }, ?_, none⟩
    rw [before]
    refine bind_ok.mpr ⟨(), middle, reported, ?_⟩
    rw [returned]
    refine bind_ok.mpr ⟨.ok (), _, ?_, rfl⟩
    rw [attempt_apply, accepted]

/-- One started attempt of the phase, and only this one, owns the directory. -/
def OwnsAttempt (run : GuardedRun) (directory : String) (phase : AttemptPhase) (record : AttemptRecord) : Prop :=
  (∃ expected, run.resolve directory = .ok expected ∧ matchingAttempts run expected = .ok [record]) ∧
    record.phase = phase ∧ record.status = .started

/-- The run's attempt is found, or the reason why not. -/
theorem associatedAttempt_ok {run : GuardedRun} {directory : String} {phase : AttemptPhase}
    {record : Option AttemptRecord} {error : Option String}
    (h : associatedAttempt run directory phase = .ok (record, error)) :
    (record = none ∧ error ≠ none) ∨
      ∃ attempt, record = some attempt ∧ error = none ∧ OwnsAttempt run directory phase attempt := by
  obtain ⟨expected, resolved, h⟩ := bind_ok_iff.mp h
  split at h
  · split at h
    · cases h
    · cases h
      exact .inl ⟨rfl, by simp⟩
  · rename_i attempt matching
    split at h
    · cases h
      exact .inl ⟨rfl, by simp⟩
    · rename_i samePhase
      split at h
      · cases h
        exact .inl ⟨rfl, by simp⟩
      · rename_i started
        cases h
        exact .inr ⟨attempt, rfl, rfl, ⟨expected, resolved, matching⟩, not_not.mp samePhase,
          not_not.mp started⟩
  · cases h
    exact .inl ⟨rfl, by simp⟩

theorem OwnsAttempt.associated {run : GuardedRun} {directory : String} {phase : AttemptPhase}
    {record : AttemptRecord} (owns : OwnsAttempt run directory phase record) :
    associatedAttempt run directory phase = .ok (some record, none) := by
  obtain ⟨⟨expected, resolved, matching⟩, samePhase, started⟩ := owns
  refine bind_ok_iff.mpr ⟨expected, resolved, ?_⟩
  rw [matching]
  simp [samePhase, started, pure, Except.pure]

/-- Everything around the capture before the write passed. -/
structure BeforeCaptured (run : GuardedRun) (phase : AttemptPhase) (directory : String)
    (snapshot : WorkspaceSnapshot) (environment : WorkspaceEnvironmentSnapshot) : Prop where
  checks : ∀ point ∈ [.captureStart, .attemptAssociated, .environmentScanned, .workspaceCaptured,
    .ledger .captureBefore], run.check point = .ok ()
  attempt : ∃ record, OwnsAttempt run directory phase record
  workspace : run.workspaceBefore = .ok snapshot
  encoded : run.encodes snapshot = true
  scan : run.environmentBefore = .ok environment
  complete : environment.inspectionErrors = []
  saved : run.saveAttempt .captureBefore = .ok ()

/-- The tracker the invocation starts with. -/
structure AttemptTracker.Ready (tracker : AttemptTracker) (snapshot : WorkspaceSnapshot) : Prop where
  tracked : tracker.record.isSome = true
  clean : tracker.evidenceErrors = []
  fresh : tracker.processStarted = false
  before : tracker.beforeSnapshot = some snapshot

section Before

variable {sha256 : Sha256} {run : GuardedRun} {path directory : String} {phase : AttemptPhase}
  {snapshot : WorkspaceSnapshot} {environment : WorkspaceEnvironmentSnapshot}

theorem beforeChanges_plain (fingerprint : Option String) (metadata : AttemptMetadata) :
    (beforeChanges fingerprint metadata).Plain := ⟨rfl, rfl, .inl rfl⟩

/-- The fingerprint is there when the snapshot's texts can be encoded. -/
theorem WorkspaceCapture.fingerprint_some {capture : WorkspaceCapture} (found : capture.snapshot = some snapshot)
    {text : Option String} :
    capture.fingerprint sha256 run = .ok text ↔
      run.encodes snapshot = true ∧ text = some (snapshot.fingerprint sha256) := by
  unfold WorkspaceCapture.fingerprint
  rw [found]
  dsimp only
  rw [map_ok_iff]
  constructor
  · rintro ⟨text, hashed, rfl⟩
    obtain ⟨encoded, rfl⟩ := GuardedRun.fingerprint_ok.mp hashed
    exact ⟨encoded, rfl⟩
  · rintro ⟨encoded, rfl⟩
    exact ⟨_, GuardedRun.fingerprint_ok.mpr ⟨encoded, rfl⟩, rfl⟩

theorem captureEnvironment_merged {capture : WorkspaceCapture} {point : String}
    (found : capture.snapshot = some snapshot) (inspected : snapshot.inspectionComplete = true)
    {captured : Except Raised WorkspaceEnvironmentSnapshot} :
    (withWorkspaceInspectionErrors (captureEnvironment path captured) capture point = environment ∧
        environment.inspectionErrors = []) ↔
      captured = .ok environment ∧ environment.inspectionErrors = [] := by
  rw [withWorkspaceInspectionErrors_complete found inspected]
  constructor
  · rintro ⟨rfl, none⟩
    obtain ⟨scan, rfl, complete⟩ := captureEnvironment_complete.mp (eraseDups_nil.mp none)
    cases scan
    simp_all [captureEnvironment]
  · rintro ⟨rfl, complete⟩
    cases environment
    simp_all [captureEnvironment]

/-- What a clean capture before the write went through. -/
theorem captureBefore_clean {tracker : AttemptTracker} (inspected : snapshot.inspectionComplete = true)
    (h : captureBefore sha256 run path directory phase = .ok (tracker, environment))
    (clean : tracker.evidenceErrors = []) (found : tracker.beforeSnapshot = some snapshot)
    (complete : environment.inspectionErrors = []) :
    BeforeCaptured run phase directory snapshot environment ∧ tracker.Ready snapshot := by
  obtain ⟨start, h⟩ := check_bind_ok.mp h
  obtain ⟨⟨record, association⟩, associated, h⟩ := bind_ok_iff.mp h
  obtain ⟨attemptChecked, h⟩ := check_bind_ok.mp h
  obtain ⟨scanned, h⟩ := check_bind_ok.mp h
  obtain ⟨captured, h⟩ := check_bind_ok.mp h
  obtain ⟨metadata, _, h⟩ := bind_ok_iff.mp h
  obtain ⟨fingerprint, hashed, h⟩ := bind_ok_iff.mp h
  obtain ⟨done, h⟩ := check_bind_ok.mp h
  obtain ⟨rfl, sameScan⟩ := Prod.mk.inj (pure_ok.mp h)
  have same := stable_beforeSnapshot (captureWorkspace run.workspaceBefore).snapshot
  have workspace := found
  rw [same.update run _ _ _ _ rfl] at workspace
  have owned : ∃ attempt, record = some attempt ∧ association = none ∧
      OwnsAttempt run directory phase attempt := by
    refine (associatedAttempt_ok associated).resolve_left ?_
    rintro ⟨_, present⟩
    obtain ⟨text, rfl⟩ := Option.ne_none_iff_exists'.mp present
    exact stable_evidenceErrors.update run .captureBefore false _ _ (by simp [AttemptTracker.start]) clean
  obtain ⟨attempt, rfl, rfl, owns⟩ := owned
  obtain ⟨encoded, -⟩ := (WorkspaceCapture.fingerprint_some workspace).mp hashed
  have plain := beforeChanges_plain fingerprint metadata
  obtain ⟨checked, saved⟩ := update_clean rfl plain (Prod.ext done rfl) clean
  obtain ⟨scan, scanComplete⟩ := (captureEnvironment_merged workspace inspected).mp ⟨sameScan, complete⟩
  refine ⟨⟨?_, ⟨attempt, owns⟩, captureWorkspace_snapshot.mp workspace, encoded, scan, scanComplete, saved⟩, ?_⟩
  · simp [start, attemptChecked, scanned, captured, checked]
  · refine ⟨stable_record.update run _ _ _ _ rfl, clean, ?_, found⟩
    have tracked : (AttemptTracker.start (some attempt) none
      (captureWorkspace run.workspaceBefore)).record.isSome = true := rfl
    obtain ⟨updated, result⟩ := update_succeeds false tracked plain checked saved
    rw [result]
    rfl

theorem BeforeCaptured.captured (ready : BeforeCaptured run phase directory snapshot environment)
    (inspected : snapshot.inspectionComplete = true) :
    ∃ tracker, captureBefore sha256 run path directory phase = .ok (tracker, environment) ∧
      tracker.Ready snapshot := by
  obtain ⟨checks, ⟨attempt, owns⟩, workspace, encoded, scan, complete, saved⟩ := ready
  simp only [List.forall_mem_cons] at checks
  obtain ⟨start, attemptChecked, scanned, captured, checked, _⟩ := checks
  have found := captureWorkspace_snapshot.mpr workspace
  have plain := beforeChanges_plain (some (snapshot.fingerprint sha256)) attempt.metadata
  have merged : withWorkspaceInspectionErrors (captureEnvironment path run.environmentBefore)
      (captureWorkspace run.workspaceBefore) "before" = environment :=
    ((captureEnvironment_merged found inspected).mpr ⟨scan, complete⟩).1
  have tracked : (AttemptTracker.start (some attempt) none
    (captureWorkspace run.workspaceBefore)).record.isSome = true := rfl
  obtain ⟨updated, result⟩ := update_succeeds false tracked plain checked saved
  have noError : (captureWorkspace run.workspaceBefore).error = none := by rw [workspace]; rfl
  refine ⟨{ AttemptTracker.start (some attempt) none (captureWorkspace run.workspaceBefore) with
      record := some updated }, ?_, rfl, rfl, rfl, found⟩
  refine check_bind_ok.mpr ⟨start, bind_ok_iff.mpr ⟨_, owns.associated, ?_⟩⟩
  refine check_bind_ok.mpr ⟨attemptChecked, check_bind_ok.mpr ⟨scanned, check_bind_ok.mpr ⟨captured, ?_⟩⟩⟩
  refine bind_ok_iff.mpr ⟨attempt.metadata, by rw [noError]; rfl, ?_⟩
  refine bind_ok_iff.mpr ⟨_, (WorkspaceCapture.fingerprint_some found).mpr ⟨encoded, rfl⟩, ?_⟩
  rw [result, merged]
  rfl

end Before

/-- Success: no exception, a successful execution, no violation and no guard finding. -/
theorem classifyOutcome_succeeded {audit : WritableAudit} {error : Option Raised} {unchanged : Bool} :
    classifyOutcome audit error unchanged = .succeeded ↔
      error = none ∧ audit.execution.any AgentExecution.successful = true ∧
        audit.safetyViolations = [] ∧ audit.workspaceGuard.requiresHuman = false := by
  unfold classifyOutcome
  cases error with
  | some error => simp
  | none =>
    simp only [Option.isSome_none, Bool.false_eq_true, if_false, true_and]
    split
    · rename_i successful
      simp only [successful, true_and]
      split <;> simp_all
    · rename_i failed
      simp only [failed, Bool.false_eq_true, false_and, iff_false]
      split
      · simp
      · split <;> simp

theorem listChangedFiles_complete {run : GuardedRun} {files : List String} :
    listChangedFiles run = .ok (files, none) ↔ ∃ listed, run.changedFiles = .ok listed ∧ listed.1 = files := by
  unfold listChangedFiles handling
  cases listed : run.changedFiles with
  | ok found => simp [Except.map]
  | error error =>
    simp only [Except.map]
    split <;> simp

/-- The executor's part of a guarded write that succeeds. -/
structure WriteAccepted (sha256 : Sha256) (run : GuardedRun) (request : GuardedWritableRequest)
    (environmentBefore : WorkspaceEnvironmentSnapshot) (execution : AgentExecution)
    (after : WorkspaceSnapshot) (environmentAfter : WorkspaceEnvironmentSnapshot)
    (guard : WorkspaceGuardInspection) : Prop where
  success : execution.status = .success
  accepted : ExecutorAccepted run request.executionRequest execution
  captured : AfterCaptured sha256 run request.phase request.executionRequest.artifactDirectory
    environmentBefore environmentAfter after guard
  noNewRoot : guard.newEnvironments = []
  unmoved : ∃ path, run.expectedPathAfter = .ok path ∧
    SafeWorkspace after path request.baseline.branch request.baseline.headSha true false
  listed : ∃ files, run.changedFiles = .ok files
  ended : run.check .changesListed = .ok ()

section Succeeds

variable {sha256 : Sha256} {run : GuardedRun} {request : GuardedWritableRequest} {tracker : AttemptTracker}
  {before : WorkspaceSnapshot} {environmentBefore : WorkspaceEnvironmentSnapshot}

/-- A success went through every check of the write. -/
theorem executeInvocation_accepted {outcome : GuardedWritableOutcome} (ready : tracker.Ready before)
    (h : (executeInvocation sha256 run request environmentBefore tracker).1 = .ok outcome)
    (succeeded : outcome.kind = .succeeded) :
    ∃ execution after environmentAfter guard,
      WriteAccepted sha256 run request environmentBefore execution after environmentAfter guard := by
  have done : executeInvocation sha256 run request environmentBefore tracker = (.ok outcome, _) :=
    Prod.ext h rfl
  obtain ⟨⟨execution, error⟩, invoked, invocation, done⟩ := bind_ok.mp done
  obtain ⟨⟨capture, guard⟩, later, captured, done⟩ := bind_ok.mp done
  obtain ⟨_, _, done⟩ := lift_bind_ok.mp done
  obtain ⟨post, posted, done⟩ := lift_bind_ok.mp done
  rw [get_bind] at done
  obtain ⟨evidence, evidenced, done⟩ := lift_bind_ok.mp done
  obtain ⟨⟨files, changeError⟩, listed, done⟩ := lift_bind_ok.mp done
  obtain ⟨_, ended, done⟩ := lift_bind_ok.mp done
  obtain ⟨listing, reported, done⟩ := lift_bind_ok.mp done
  obtain ⟨worktree, _, done⟩ := lift_bind_ok.mp done
  obtain ⟨audit, audited, done⟩ := lift_bind_ok.mp done
  obtain ⟨kind, rfl⟩ := GuardedWritableOutcome.ofAudit_ok.mp (lift_ok.mp done).1
  rw [succeeded] at kind
  obtain ⟨rfl, successful, safe, guarded⟩ := classifyOutcome_succeeded.mp kind.symm
  obtain ⟨sameExecution, _, _, sameGuard, violations, _, _⟩ := WritableAudit.ofFields_ok audited
  rw [sameExecution] at successful
  rw [sameGuard] at guarded
  rw [violations, List.append_eq_nil_iff, List.append_eq_nil_iff, mergeViolations_nil] at safe
  obtain ⟨⟨⟨rfl, rfl⟩, rfl⟩, rfl⟩ := safe
  obtain ⟨execution, rfl⟩ : ∃ found, execution = some found := by
    cases execution with
    | none => cases successful
    | some found => exact ⟨found, rfl⟩
  have success : execution.status = .success := by simpa [AgentExecution.successful] using successful
  -- An entry in the evidence errors on the way would still be there.
  have clean := attemptEvidenceViolations_nil.mp evidenced
  have cleanInvoked := not_not.mp
    ((stable_evidenceErrors.captureAfter sha256 run _ _ _ _).before captured (not_not.mpr clean))
  have tracked := (stable_record.invoke run _).after invocation ready.tracked
  obtain ⟨after, path, found, expected, unmoved⟩ := postViolations_nil.mp posted
  obtain ⟨noNewRoot, _, scanned⟩ := WorkspaceGuardInspection.requiresHuman_false.mp guarded
  have accepted := (invoke_clean ready.tracked ready.clean ready.fresh success).mp
    ⟨invoked, invocation, cleanInvoked⟩
  obtain ⟨environmentAfter, afterCaptured⟩ := (captureAfter_clean _ tracked cleanInvoked unmoved.complete).mp
    ⟨capture, later, captured, clean, found, scanned⟩
  obtain rfl := listingViolation_nil.mp reported
  obtain ⟨changed, listed, _⟩ := listChangedFiles_complete.mp listed
  exact ⟨execution, after, environmentAfter, guard, success, accepted, afterCaptured, noNewRoot,
    ⟨path, expected, unmoved⟩, ⟨changed, listed⟩, ended⟩

/-- A write that passes every check succeeds. -/
theorem WriteAccepted.succeeds {execution : AgentExecution} {after : WorkspaceSnapshot}
    {environmentAfter : WorkspaceEnvironmentSnapshot} {guard : WorkspaceGuardInspection}
    (ready : tracker.Ready before) (inspected : before.inspectionComplete = true)
    (scanned : environmentBefore.inspectionErrors = [])
    (write : WriteAccepted sha256 run request environmentBefore execution after environmentAfter guard) :
    ∃ outcome, (executeInvocation sha256 run request environmentBefore tracker).1 = .ok outcome ∧
      outcome.kind = .succeeded := by
  obtain ⟨success, accepted, afterCaptured, noNewRoot, ⟨path, expected, unmoved⟩, ⟨changed, listed⟩, ended⟩ :=
    write
  obtain ⟨invoked, invocation, cleanInvoked⟩ :=
    (invoke_clean ready.tracked ready.clean ready.fresh success).mpr accepted
  have tracked := (stable_record.invoke run _).after invocation ready.tracked
  have snapshot := ((stable_beforeSnapshot _).invoke run _).after invocation ready.before
  obtain ⟨capture, later, captured, clean, found, complete⟩ :=
    (captureAfter_clean request.baseline.repositoryPath tracked cleanInvoked unmoved.complete).mpr
      ⟨environmentAfter, afterCaptured⟩
  have snapshotLater := ((stable_beforeSnapshot _).captureAfter sha256 run _ _ _ _).after captured snapshot
  have successful : execution.successful = true := by simp [AgentExecution.successful, success]
  have started : invocationStartOf (some execution) later none = .started := by
    simp [invocationStartOf, execution.success_started success]
  have message : execution.failureMessage = none := by
    have semantics := execution.semantics
    rw [success] at semantics
    exact (validateExecutionSemantics_success.mp semantics).2.2
  obtain ⟨_, _, _, _, compared⟩ := afterCaptured.persisted.compared
  have guarded : guard.requiresHuman = false :=
    WorkspaceGuardInspection.requiresHuman_false.mpr ⟨noNewRoot, by rw [compared]; exact scanned, complete⟩
  have persisted : guard.artifactPath ≠ none := by simp [compared]
  let audit : WritableAudit :=
    ⟨some execution, some before, some after, guard, [], changed.1, .started, none, changed.2, rfl⟩
  have classified : classifyOutcome audit none (workspaceUnchanged (some before) (some after)) = .succeeded :=
    classifyOutcome_succeeded.mpr ⟨rfl, successful, rfl, guarded⟩
  have valid : validateOutcome audit .succeeded = .ok () := by
    simp only [validateOutcome, requirePersistedGuard, check_bind_ok, raiseIf_ok]
    refine ⟨by simp [audit, successful], by simp [audit], ?_, ?_, persisted⟩
    · simp [audit, completeSnapshots, inspected, unmoved.complete]
    · simp [audit, guarded]
  have done : executeInvocation sha256 run request environmentBefore tracker =
      (.ok ⟨.succeeded, audit, valid⟩, later) := by
    refine bind_ok.mpr ⟨_, invoked, invocation, ?_⟩
    refine bind_ok.mpr ⟨_, later, captured, lift_bind_ok.mpr ⟨(), rfl, ?_⟩⟩
    refine lift_bind_ok.mpr ⟨[], postViolations_nil.mpr ⟨after, path, found, expected, unmoved⟩, ?_⟩
    rw [get_bind]
    refine lift_bind_ok.mpr ⟨[], attemptEvidenceViolations_nil.mpr clean, ?_⟩
    refine lift_bind_ok.mpr ⟨(changed.1, none), listChangedFiles_complete.mpr ⟨changed, listed, rfl⟩, ?_⟩
    refine lift_bind_ok.mpr ⟨(), ended, lift_bind_ok.mpr ⟨[], rfl, ?_⟩⟩
    rw [found, snapshotLater]
    refine lift_bind_ok.mpr ⟨[], by simp [worktreeViolation, successful], ?_⟩
    refine lift_bind_ok.mpr ⟨audit, ?_, ?_⟩
    · rw [started, failureMessageOf, Option.bind_some, message]
      simp [WritableAudit.ofFields, changed.2, audit, mergeViolations]
    · refine lift_ok.mpr ⟨GuardedWritableOutcome.ofAudit_ok.mpr ⟨?_, rfl⟩, rfl⟩
      exact classified.symm
  exact ⟨_, congrArg Prod.fst done, rfl⟩

/-! ## The whole operation -/

/-- The conditions under which a guarded write succeeds. -/
structure GuardedWriteAccepted (sha256 : Sha256) (run : GuardedRun) (request : GuardedWritableRequest)
    (before : WorkspaceSnapshot) (environmentBefore : WorkspaceEnvironmentSnapshot)
    (execution : AgentExecution) (after : WorkspaceSnapshot)
    (environmentAfter : WorkspaceEnvironmentSnapshot) (guard : WorkspaceGuardInspection) : Prop where
  owned : run.check .operationStart = .ok ()
  captured : BeforeCaptured run request.phase request.executionRequest.artifactDirectory before
    environmentBefore
  authorized : ∃ path, run.expectedPath = .ok path ∧
    SafeWorkspace before path request.baseline.branch request.baseline.headSha true
      request.baseline.requireCleanWorktree
  expected : ∀ fingerprint, request.baseline.expectedWorkspaceFingerprint = some fingerprint →
    before.fingerprint sha256 = fingerprint
  capable : ∃ available, run.capabilities = .ok available ∧
    request.executionRequest.missingCapabilities available = ∅
  write : WriteAccepted sha256 run request environmentBefore execution after environmentAfter guard

/-- There is no problem when the executor names its capabilities and none is missing. -/
theorem executorCapabilityProblem_none {executionRequest : AgentExecutionRequest} :
    executorCapabilityProblem run executionRequest = .ok none ↔
      ∃ available, run.capabilities = .ok available ∧ executionRequest.missingCapabilities available = ∅ := by
  unfold executorCapabilityProblem
  cases run.capabilities with
  | ok available => simp
  | error error =>
    dsimp only
    split <;> simp

/-- Without an invocation there is no success. -/
theorem stoppedOrRejected_ne (audit : WritableAudit) : stoppedOrRejected audit ≠ .succeeded := by
  unfold stoppedOrRejected
  split <;> simp

/-- **When a guarded write succeeds.** -/
theorem execute_succeeds_iff (sha256 : Sha256) (run : GuardedRun) (request : GuardedWritableRequest) :
    (∃ outcome, execute sha256 run request = .ok outcome ∧ outcome.kind = .succeeded) ↔
      ∃ before environmentBefore execution after environmentAfter guard,
        GuardedWriteAccepted sha256 run request before environmentBefore execution after environmentAfter
          guard := by
  unfold execute
  constructor
  · rintro ⟨outcome, done, succeeded⟩
    obtain ⟨owned, done⟩ := check_bind_ok.mp done
    obtain ⟨⟨tracker, environmentBefore⟩, captured, done⟩ := bind_ok_iff.mp done
    obtain ⟨safety, safetyChecked, done⟩ := bind_ok_iff.mp done
    obtain ⟨incomplete, inspected, done⟩ := bind_ok_iff.mp done
    obtain ⟨evidence, evidenced, done⟩ := bind_ok_iff.mp done
    dsimp only at done
    by_cases starting : mergeViolations (mergeViolations safety incomplete) evidence ≠ []
    · rw [if_pos starting] at done
      obtain ⟨audit, _, done⟩ := bind_ok_iff.mp done
      rw [(GuardedWritableOutcome.ofAudit_ok.mp done).1] at succeeded
      cases succeeded
    · rw [if_neg starting] at done
      rw [not_not, mergeViolations_nil, mergeViolations_nil] at starting
      obtain ⟨⟨noSafety, noIncomplete⟩, noEvidence⟩ := starting
      rw [noSafety] at safetyChecked
      rw [noIncomplete] at inspected
      rw [noEvidence] at evidenced
      obtain ⟨problem, found, done⟩ := bind_ok_iff.mp done
      cases problem with
      | some problem =>
        obtain ⟨audit, _, done⟩ := bind_ok_iff.mp done
        rw [(GuardedWritableOutcome.ofAudit_ok.mp done).1] at succeeded
        exact absurd succeeded (stoppedOrRejected_ne audit)
      | none =>
        obtain ⟨complete, scanned⟩ := incompleteBefore_nil.mp inspected
        obtain ⟨before, snapshot, snapshotComplete⟩ : ∃ before, tracker.beforeSnapshot = some before ∧
            before.inspectionComplete = true := by
          simpa [AttemptTracker.beforeComplete, Option.any_eq_true] using complete
        obtain ⟨beforeCaptured, ready⟩ := captureBefore_clean snapshotComplete captured
          (attemptEvidenceViolations_nil.mp evidenced) snapshot scanned
        rw [snapshot] at safetyChecked
        obtain ⟨path, resolved, safe, expected⟩ := startingViolations_nil.mp safetyChecked
        obtain ⟨execution, after, environmentAfter, guard, write⟩ :=
          executeInvocation_accepted ready done succeeded
        exact ⟨before, environmentBefore, execution, after, environmentAfter, guard, owned, beforeCaptured,
          ⟨path, resolved, safe⟩, expected, executorCapabilityProblem_none.mp found, write⟩
  · rintro ⟨before, environmentBefore, execution, after, environmentAfter, guard, owned, beforeCaptured,
      ⟨path, resolved, safe⟩, expected, capable, write⟩
    obtain ⟨tracker, captured, ready⟩ := beforeCaptured.captured safe.complete
    obtain ⟨outcome, invoked, succeeded⟩ := write.succeeds ready safe.complete beforeCaptured.complete
    refine ⟨outcome, check_bind_ok.mpr ⟨owned, bind_ok_iff.mpr ⟨_, captured, ?_⟩⟩, succeeded⟩
    have safetyChecked : startingViolations sha256 run tracker.beforeSnapshot request.baseline = .ok [] := by
      rw [ready.before]
      exact startingViolations_nil.mpr ⟨path, resolved, safe, expected⟩
    have complete : tracker.beforeComplete = true := by
      simp [AttemptTracker.beforeComplete, ready.before, safe.complete]
    refine bind_ok_iff.mpr ⟨[], safetyChecked, ?_⟩
    refine bind_ok_iff.mpr ⟨[], incompleteBefore_nil.mpr ⟨complete, beforeCaptured.complete⟩, ?_⟩
    refine bind_ok_iff.mpr ⟨[], attemptEvidenceViolations_nil.mpr ready.clean, ?_⟩
    dsimp only
    rw [if_neg (by simp)]
    exact bind_ok_iff.mpr ⟨none, executorCapabilityProblem_none.mpr capable, invoked⟩

end Succeeds

/-- The conditions without the completeness of the second scan, with every
check passed and every write successful. -/
structure DocumentedConditions (sha256 : Sha256) (run : GuardedRun) (request : GuardedWritableRequest)
    (before : WorkspaceSnapshot) (environmentBefore : WorkspaceEnvironmentSnapshot)
    (execution : AgentExecution) (after : WorkspaceSnapshot)
    (environmentAfter : WorkspaceEnvironmentSnapshot) : Prop where
  owned : ∀ point, run.check point = .ok ()
  beforeCaptured : run.workspaceBefore = .ok before ∧ run.environmentBefore = .ok environmentBefore ∧
    environmentBefore.inspectionErrors = []
  authorized : ∃ path, run.expectedPath = .ok path ∧
    SafeWorkspace before path request.baseline.branch request.baseline.headSha true
      request.baseline.requireCleanWorktree
  expected : ∀ fingerprint, request.baseline.expectedWorkspaceFingerprint = some fingerprint →
    before.fingerprint sha256 = fingerprint
  attempt : ∃ record, OwnsAttempt run request.executionRequest.artifactDirectory request.phase record
  capable : ∃ available, run.capabilities = .ok available ∧
    request.executionRequest.missingCapabilities available = ∅
  returned : run.execution = .ok execution ∧ execution.status = .success ∧
    executionContractProblem execution request.executionRequest = none
  saved : ∀ point, run.saveAttempt point = .ok ()
  evidence : ∃ evidence, evidenceFromExecution request.executionRequest execution = .ok evidence ∧
    run.writeExecutionEvidence evidence = .ok ()
  guarded : ∀ guard, run.writeWorkspaceGuard guard = .ok ()
  unmoved : run.workspaceAfter = .ok after ∧ ∃ path, run.expectedPathAfter = .ok path ∧
    SafeWorkspace after path request.baseline.branch request.baseline.headSha true false
  noNewRoot : run.environmentAfter = .ok environmentAfter ∧
    newEnvironments run.pathIdentity environmentBefore environmentAfter = .ok []
  listed : ∃ files, run.changedFiles = .ok files

def exampleWriteRequest : GuardedWritableRequest where
  phase := .implementing
  executionRequest :=
    { taskKind := .implementation
      repositoryPath := "/repo"
      repositoryAccess := .workspaceWrite
      artifactDirectory := "/runs/r1/attempts/001-implementation"
      attemptId := "001-implementation"
      requiredCapabilities := requiredExecutionCapabilities .workspaceWrite }
  baseline := ⟨"/repo", some "main", "4b825dc642cb6eb9a060e54bf8d69288fbee4904", none, false, by decide,
    by decide, by decide⟩
  task := rfl
  access := rfl
  capability := by decide

def exampleExecution : AgentExecution where
  providerId := exampleProvider
  taskKind := .implementation
  status := .success
  invocationStart := .started
  startedAt := .utc 0 epoch_isInstant
  endedAt := .utc 0 epoch_isInstant
  durationSeconds := 0
  result := some (.implementation exampleImplementation)
  failureCategory := none
  failureMessage := none
  artifacts := [exampleResultArtifact "attempts/001-implementation/result.json" (by decide)]
  providerMetadata := []
  valid := by decide +kernel

/-- The attempt of the example write. -/
def exampleStartedAttempt : AttemptRecord where
  sequence := 1
  phase := .implementing
  status := .started
  beforeWorkspaceFingerprint := none
  afterWorkspaceFingerprint := none
  processStarted := false
  startedAt := ⟨"2026-01-01T00:01:00Z"⟩
  endedAt := none
  resultPath := (phaseDefinition .implementing).resultArtifactName
  executionPath := none
  metadata := .empty
  artifactDirectory := "/runs/r1/attempts/001-implementation"
  valid := by decide

/-- A successful write; the second scan ends with `scanErrors` and the update
of the start with `startSaved`. -/
def exampleWrite (scanErrors : List String) (startSaved : Except Raised Unit) : GuardedRun where
  check _ := .ok ()
  attempts := .ok ⟨[exampleStartedAttempt], by decide⟩
  resolve := .ok
  expectedPath := .ok "/repo"
  expectedPathAfter := .ok "/repo"
  pathIdentity := .ok
  saveAttempt
    | .invocationStart => startSaved
    | _ => .ok ()
  now _ := ⟨"2026-01-01T00:02:00Z"⟩
  environmentBefore := .ok ⟨"/repo", [], []⟩
  environmentAfter := .ok ⟨"/repo", [], scanErrors⟩
  workspaceBefore := .ok exampleWorkspace
  workspaceAfter := .ok exampleWorkspace
  capabilities := .ok (requiredExecutionCapabilities .workspaceWrite)
  startReports := 1
  execution := .ok exampleExecution
  writeExecutionEvidence _ := .ok ()
  encodes _ := true
  guardTimestamp := .ok ⟨"2026-01-01T00:03:00Z"⟩
  fallbackTimestamp := ⟨"2026-01-01T00:03:00Z"⟩
  writeWorkspaceGuard _ := .ok ()
  changedFiles := .ok ⟨[], by simp⟩

/-- The second scan could not read a directory. -/
def exampleUnreadScan : GuardedRun := exampleWrite ["/repo/data: Permission denied"] (.ok ())

/-- The update of the start lost ownership, and the executor went on. -/
def exampleLostStart : GuardedRun :=
  exampleWrite [] (.error ⟨.runOwnershipError, "Run ownership was lost."⟩)

theorem exampleWorkspace_safe : SafeWorkspace exampleWorkspace "/repo" (some "main")
    "4b825dc642cb6eb9a060e54bf8d69288fbee4904" true false :=
  workspaceSafetyChanges_nil.mp (by decide)

theorem exampleUnreadScan_documented :
    DocumentedConditions exampleSha256 exampleUnreadScan exampleWriteRequest exampleWorkspace
      ⟨"/repo", [], []⟩ exampleExecution exampleWorkspace ⟨"/repo", [], ["/repo/data: Permission denied"]⟩ where
  owned _ := rfl
  beforeCaptured := ⟨rfl, rfl, rfl⟩
  authorized := ⟨"/repo", rfl, exampleWorkspace_safe⟩
  expected _ found := by cases found
  attempt := ⟨exampleStartedAttempt, ⟨_, rfl, by decide +kernel⟩, rfl, rfl⟩
  capable := ⟨_, rfl, by decide⟩
  returned := ⟨rfl, rfl, by decide⟩
  saved point := by cases point <;> rfl
  evidence := by
    have built : (evidenceFromExecution exampleWriteRequest.executionRequest exampleExecution).isOk = true := by
      decide +kernel
    cases made : evidenceFromExecution exampleWriteRequest.executionRequest exampleExecution with
    | ok evidence => exact ⟨evidence, rfl, rfl⟩
    | error error => rw [made] at built; cases built
  guarded _ := rfl
  unmoved := ⟨rfl, "/repo", rfl, exampleWorkspace_safe⟩
  noNewRoot := ⟨rfl, rfl⟩
  listed := ⟨_, rfl⟩

/-- The documented conditions are neither enough nor necessary: an unread
directory in the second scan stops a write that meets all of them, and a write
succeeds whose start was never saved. -/
theorem documented_conditions_inexact :
    ((∃ before environmentBefore execution after environmentAfter,
        DocumentedConditions exampleSha256 exampleUnreadScan exampleWriteRequest before environmentBefore
          execution after environmentAfter) ∧
      ¬∃ outcome, execute exampleSha256 exampleUnreadScan exampleWriteRequest = .ok outcome ∧
        outcome.kind = .succeeded) ∧
    ((∃ outcome, execute exampleSha256 exampleLostStart exampleWriteRequest = .ok outcome ∧
        outcome.kind = .succeeded) ∧
      ¬∃ before environmentBefore execution after environmentAfter,
        DocumentedConditions exampleSha256 exampleLostStart exampleWriteRequest before environmentBefore
          execution after environmentAfter) := by
  have stopped : (execute exampleSha256 exampleUnreadScan exampleWriteRequest).map (·.kind) =
      .ok .safetyStopped := by decide +kernel
  have succeeded : (execute exampleSha256 exampleLostStart exampleWriteRequest).map (·.kind) =
      .ok .succeeded := by decide +kernel
  refine ⟨⟨⟨_, _, _, _, _, exampleUnreadScan_documented⟩, ?_⟩, map_ok_iff.mp succeeded, ?_⟩
  · rintro ⟨outcome, done, kind⟩
    rw [done, Except.map, kind] at stopped
    cases stopped
  · rintro ⟨_, _, _, _, _, documented⟩
    cases documented.saved .invocationStart

end SprintTicket
