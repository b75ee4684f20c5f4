import SprintTicket.Attempts.Update
import SprintTicket.Guarded.Outcome
import SprintTicket.Logic.Effects

/-!
# The attempt tracker

`AttemptTracker` owns the attempt record during one guarded write. It is the
mutable state of the operation: a failed ledger update leaves an entry in
`evidenceErrors`, and these entries decide the outcome at the end.

Everything one guarded write meets from outside is a field of `GuardedRun`: the
repository at both ends, the executor, and the outcome of every write and of
every check that run directory and artifact layout are still the owned ones.
-/

set_option autoImplicit false

namespace SprintTicket

open Checks Effects Effects.Effect

/-- `f"{type(error).__name__}: {error}"`. -/
def Raised.describe (error : Raised) : String := error.cls.name ++ ": " ++ error.message

/-- The ledger updates of one guarded write. -/
inductive LedgerPoint
  | captureBefore | invocationStart | executionEvidence | recordAfter
deriving DecidableEq, Repr

/-- The places where ownership and layout are checked, in the order of the source. -/
inductive CheckPoint
  | operationStart | captureStart | attemptAssociated | environmentScanned | workspaceCaptured
  | ledger (point : LedgerPoint)
  | ledgerFailed (point : LedgerPoint)
  | beforeInvocation | invocationReturned | evidenceWritten
  | auditStart | afterWorkspaceCaptured | afterEnvironmentScanned
  | guardStart | guardCompared | guardPersist | guardPersisted | guardPersistFailed
  | changesListed
deriving DecidableEq, Repr

structure GuardedRun where
  /-- `_validate_run_artifacts` and `revalidate`. -/
  check : CheckPoint → Except Raised Unit
  /-- `load_attempt_records` of the owning run. -/
  attempts : Except Raised AttemptLedger
  /-- `Path.resolve` of artifact directories. -/
  resolve : PathResolver
  /-- The resolved baseline path of the safety checks before and after. -/
  expectedPath : Except Raised String
  expectedPathAfter : Except Raised String
  /-- `_path_identity`. -/
  pathIdentity : PathResolver
  /-- `update_attempt` once its record is prepared. -/
  saveAttempt : LedgerPoint → Except Raised Unit
  now : LedgerPoint → Timestamp
  environmentBefore : Except Raised WorkspaceEnvironmentSnapshot
  environmentAfter : Except Raised WorkspaceEnvironmentSnapshot
  workspaceBefore : Except Raised WorkspaceSnapshot
  workspaceAfter : Except Raised WorkspaceSnapshot
  /-- UTF-8 encodes the texts of the snapshot. A name of Git or of the scanner may hold
  a lone surrogate, which no character here is. -/
  encodes : WorkspaceSnapshot → Bool
  capabilities : Except Raised (Finset AgentCapability)
  /-- How often the executor calls `on_invocation_start` before it returns. -/
  startReports : Nat
  /-- What `executor.execute` returns or raises. -/
  execution : Except Raised AgentExecution
  writeExecutionEvidence : ExecutionEvidence → Except Raised Unit
  guardTimestamp : Except Raised Timestamp
  fallbackTimestamp : Timestamp
  writeWorkspaceGuard : WorkspaceGuardInspection → Except Raised Unit
  /-- `changed_files_including_untracked`; Git prints no empty path. -/
  changedFiles : Except Raised { files : List String // "" ∉ files }

/-- `WorkspaceSnapshot.fingerprint`, which encodes the texts of the snapshot. -/
def GuardedRun.fingerprint (run : GuardedRun) (sha256 : Sha256) (snapshot : WorkspaceSnapshot) :
    Except Raised String :=
  if run.encodes snapshot then .ok (snapshot.fingerprint sha256) else .error surrogatesNotAllowed

/-- The fingerprint is the snapshot's, where its texts can be encoded. -/
theorem GuardedRun.fingerprint_ok {run : GuardedRun} {sha256 : Sha256} {snapshot : WorkspaceSnapshot} {text : String} :
    run.fingerprint sha256 snapshot = .ok text ↔ run.encodes snapshot = true ∧ text = snapshot.fingerprint sha256 := by
  unfold GuardedRun.fingerprint
  split
  · rename_i encodes
    simp [encodes, eq_comm]
  · rename_i other
    simp [other]

/-- Where they cannot, it raises. -/
theorem GuardedRun.fingerprint_error {run : GuardedRun} {sha256 : Sha256} {snapshot : WorkspaceSnapshot}
    {error : Raised} :
    run.fingerprint sha256 snapshot = .error error ↔ run.encodes snapshot = false ∧ error = surrogatesNotAllowed := by
  unfold GuardedRun.fingerprint
  split
  · rename_i encodes
    simp [encodes]
  · rename_i other
    simp [other, eq_comm]

/-! ## The tracker -/

structure AttemptTracker where
  record : Option AttemptRecord
  beforeSnapshot : Option WorkspaceSnapshot
  beforeError : Option String
  processStarted : Bool
  evidenceErrors : List String

/-- A step of the operation; the tracker survives its exceptions. -/
abbrev Tracked (α : Type) : Type := Effect AttemptTracker Raised α

namespace AttemptTracker

def beforeComplete (tracker : AttemptTracker) : Bool :=
  tracker.beforeSnapshot.any WorkspaceSnapshot.inspectionComplete

/-- `evidence_errors.append`. -/
def addError (text : String) (tracker : AttemptTracker) : AttemptTracker :=
  { tracker with evidenceErrors := tracker.evidenceErrors ++ [text] }

variable (run : GuardedRun)

/-- `update_attempt` of the tracked record. -/
def updateAttempt (point : LedgerPoint) (record : AttemptRecord) (changes : AttemptChanges) :
    Except Raised AttemptRecord := do
  let update ← prepareUpdate record changes (run.now point)
  run.saveAttempt point
  pure update.updated

/-- The `except` clauses of `_update`. -/
def updateFailed (point : LedgerPoint) (propagateInterrupt : Bool) (error : Raised) : Tracked Unit := do
  if error.isinstance .runOwnershipError then raise error
  else do
    lift (run.check (.ledgerFailed point))
    modify (addError ("attempt-ledger: " ++ error.describe))
    if propagateInterrupt && !error.isinstance .exception then raise error
    else pure ()

/-- `_update`; every update repeats whether the process was started. -/
def update (point : LedgerPoint) (propagateInterrupt : Bool) (changes : AttemptChanges) : Tracked Unit := do
  let tracker ← get
  match tracker.record with
  | none => pure ()
  | some record => do
    lift (run.check (.ledger point))
    match updateAttempt run point record { changes with processStarted := some tracker.processStarted } with
    | .ok updated => modify fun current => { current with record := some updated }
    | .error error => updateFailed run point propagateInterrupt error

/-- `record_started`. -/
def recordStarted (value : Bool) : Tracked Unit := do
  let tracker ← get
  if value = false then
    if tracker.processStarted then
      modify (addError "executor returned not-started after reporting invocation start")
    else pure ()
  else if tracker.processStarted then pure ()
  else do
    modify fun current => { current with processStarted := true }
    update run .invocationStart true {}

/-- `record_after`. -/
def recordAfter (sha256 : Sha256) (snapshot : Option WorkspaceSnapshot) (error : Option String) :
    Tracked Unit := do
  match snapshot with
  | some snapshot => do
    let fingerprint ← lift (run.fingerprint sha256 snapshot)
    update run .recordAfter false { afterWorkspaceFingerprint := some fingerprint }
  | none => do
    let tracker ← get
    match tracker.record with
    | none => pure ()
    | some record => do
      let detail := error.getD "Could not capture a post-call canonical workspace snapshot."
      let metadata ← lift (record.metadata.withAfterWorkspaceError detail)
      update run .recordAfter false { metadata := some metadata }

end AttemptTracker

end SprintTicket
