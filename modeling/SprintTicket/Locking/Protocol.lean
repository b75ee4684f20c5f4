import Mathlib.Logic.Function.Basic
import SprintTicket.Logic.Transition
import SprintTicket.Locking.Metadata

/-!
# The repository lock

Runs of `acquire_repository_run_lock`, `RepositoryRunLock.update` and `release`,
and calls of `active_repository_locks`, by any number of processes on one
repository identity, one atomic step at a time. The operating system keeps the
lock per open file: a run and a probe of one process are different holders. A
crash frees what the process holds and leaves the metadata file.

The holder of the lock at every past moment is recorded, so that statements may
speak about the moments of a call.
-/

set_option autoImplicit false

namespace SprintTicket

variable {ι : Type} [DecidableEq ι]

/-- An open lock file: that of a run, or that of a probe. -/
inductive OpenFile (ι : Type)
  | run (process : ι)
  | probe (process : ι)
deriving DecidableEq

/-- The arguments of `acquire_repository_run_lock`, its path resolved. -/
structure LockRequest where
  targetRepositoryPath : String
  canonicalIdentity : String
  runId : Option String
  currentState : Option String

/-- The attributes of a `RepositoryRunLock`. -/
structure RepositoryRunLock where
  canonicalRepositoryIdentity : String
  targetRepositoryPath : String
  runId : String
  currentState : Option String
  acquiredTimestamp : String

/-- `os.getpid()` and `socket.gethostname()`. -/
structure ProcessIdentity where
  pid : Int
  hostname : String

/-- The attributes the constructor sets; an empty run ID is pending. -/
def RepositoryRunLock.ofRequest (request : LockRequest) (acquiredTimestamp : String) : RepositoryRunLock where
  canonicalRepositoryIdentity := request.canonicalIdentity
  targetRepositoryPath := request.targetRepositoryPath
  runId := (request.runId.filter (· ≠ "")).getD "<pending>"
  currentState := request.currentState
  acquiredTimestamp

/-- `RepositoryRunLock.metadata`. -/
def RepositoryRunLock.metadata (lock : RepositoryRunLock) (identity : ProcessIdentity) (now : String) :
    RepositoryLockMetadata where
  runId := lock.runId
  targetRepositoryPath := lock.targetRepositoryPath
  canonicalRepositoryIdentity := lock.canonicalRepositoryIdentity
  ownerPid := identity.pid
  ownerHostname := identity.hostname
  acquiredTimestamp := lock.acquiredTimestamp
  updatedTimestamp := now
  currentState := lock.currentState

/-- The attributes `update` leaves. -/
def RepositoryRunLock.updated (lock : RepositoryRunLock) (runId currentState targetRepositoryPath : Option String) :
    RepositoryRunLock :=
  { lock with
    runId := (runId.filter (· ≠ "")).getD lock.runId
    currentState := currentState.or lock.currentState
    targetRepositoryPath := targetRepositoryPath.getD lock.targetRepositoryPath }

/-- Where the run of a process stands; the comment names the step ahead. -/
inductive RunLockState
  | idle
  | opened (request : LockRequest)       -- `flock`
  | refused (request : LockRequest)      -- reading the metadata and raising
  | locked (request : LockRequest)       -- the first metadata write
  | owning (lock : RepositoryRunLock)    -- an update or the release
  | releasing                            -- unlocking and closing

/-- The content of the metadata file, with the process that wrote it and when. -/
structure WrittenMetadata (ι : Type) where
  writer : ι
  moment : Nat
  metadata : RepositoryLockMetadata

/-- Where a call of `active_repository_locks` stands that began at `since`. -/
inductive ProbeState (ι : Type)
  | idle
  | listed (since : Nat)                                 -- `_read_metadata`
  | read (since : Nat) (entry : WrittenMetadata ι)       -- opening the lock file
  | opened (since : Nat) (entry : WrittenMetadata ι)     -- `flock`
  | testing (since : Nat) (entry : WrittenMetadata ι)    -- unlocking again

/-- The two files of one identity and the processes that use them. -/
structure LockFiles (ι : Type) where
  holder : Option (OpenFile ι)
  metadata : Option (WrittenMetadata ι)
  run : ι → RunLockState
  probe : ι → ProbeState ι
  crashed : ι → Bool
  /-- The number of steps so far. -/
  clock : Nat
  /-- The holder before each step so far. -/
  past : Nat → Option (OpenFile ι)

def LockFiles.initial : LockFiles ι :=
  ⟨none, none, fun _ => .idle, fun _ => .idle, fun _ => false, 0, fun _ => none⟩

inductive LockEvent (ι : Type)
  | openLock (process : ι) (request : LockRequest)
  | tryLock (process : ι)
  | raiseRefusal (process : ι)
  | create (process : ι) (acquired now : String) (written : Bool)
  | update (process : ι) (runId currentState path : Option String) (now : String) (written : Bool)
  | unlink (process : ι) (removed : Bool)
  | unlock (process : ι)
  | list (process : ι)
  | read (process : ι)
  | openTest (process : ι)
  | test (process : ι)
  | unlockTest (process : ι)
  | crash (process : ι)

def LockEvent.process : LockEvent ι → ι
  | .openLock process _ | .tryLock process | .raiseRefusal process | .create process _ _ _
  | .update process _ _ _ _ _ | .unlink process _ | .unlock process | .list process | .read process
  | .openTest process | .test process | .unlockTest process | .crash process => process

namespace LockFiles

def setRun (files : LockFiles ι) (process : ι) (state : RunLockState) : LockFiles ι :=
  { files with run := Function.update files.run process state }

def setProbe (files : LockFiles ι) (process : ι) (state : ProbeState ι) : LockFiles ι :=
  { files with probe := Function.update files.probe process state }

/-- The metadata a process writes now. -/
def write (files : LockFiles ι) (process : ι) (metadata : RepositoryLockMetadata) : LockFiles ι :=
  { files with metadata := some ⟨process, files.clock, metadata⟩ }

variable (identity : ι → ProcessIdentity)

/-- What one atomic step does to the files and the processes. A write or a
removal that fails raises: the first write closes the lock file, a removal is
followed by the unlocking all the same. -/
def act (files : LockFiles ι) : LockEvent ι → Option (LockFiles ι)
  | .openLock process request =>
    match files.run process with
    | .idle => some (files.setRun process (.opened request))
    | _ => none
  | .tryLock process =>
    match files.run process with
    | .opened request =>
      match files.holder with
      | none => some { files.setRun process (.locked request) with holder := some (.run process) }
      | some _ => some (files.setRun process (.refused request))
    | _ => none
  | .raiseRefusal process =>
    match files.run process with
    | .refused _ => some (files.setRun process .idle)
    | _ => none
  | .create process acquired now written =>
    match files.run process with
    | .locked request =>
      let lock := RepositoryRunLock.ofRequest request acquired
      if written then some ((files.write process (lock.metadata (identity process) now)).setRun process (.owning lock))
      else some { files.setRun process .idle with holder := none }
    | _ => none
  | .update process runId currentState path now written =>
    match files.run process with
    | .owning lock =>
      let updated := lock.updated runId currentState path
      let next := files.setRun process (.owning updated)
      some (if written then next.write process (updated.metadata (identity process) now) else next)
    | _ => none
  | .unlink process removed =>
    match files.run process with
    | .owning _ =>
      let next := files.setRun process .releasing
      some (if removed then { next with metadata := none } else next)
    | _ => none
  | .unlock process =>
    match files.run process with
    | .releasing => some { files.setRun process .idle with holder := none }
    | _ => none
  | .list process =>
    match files.probe process with
    | .idle => some (if files.metadata.isSome then files.setProbe process (.listed files.clock) else files)
    | _ => none
  | .read process =>
    match files.probe process with
    | .listed since =>
      match files.metadata with
      | some entry =>
        some (files.setProbe process
          (if (RepositoryLockMetadata.fromDict entry.metadata.toDict).isSome then .read since entry else .idle))
      | none => some (files.setProbe process .idle)
    | _ => none
  | .openTest process =>
    match files.probe process with
    | .read since entry => some (files.setProbe process (.opened since entry))
    | _ => none
  | .test process =>
    match files.probe process with
    | .opened since entry =>
      match files.holder with
      | none => some { files.setProbe process (.testing since entry) with holder := some (.probe process) }
      | some _ => some (files.setProbe process .idle)
    | _ => none
  | .unlockTest process =>
    match files.probe process with
    | .testing _ _ => some { files.setProbe process .idle with holder := none }
    | _ => none
  | .crash process =>
    some { (files.setRun process .idle).setProbe process .idle with
      crashed := Function.update files.crashed process true
      holder := files.holder.filter fun file => file ≠ .run process ∧ file ≠ .probe process }

/-- One atomic step of a living process. -/
def step (files : LockFiles ι) (event : LockEvent ι) : Option (LockFiles ι) :=
  if files.crashed event.process then none
  else (files.act identity event).map fun next =>
    { next with clock := files.clock + 1, past := Function.update files.past files.clock files.holder }

end LockFiles

/-- The run of a process holds the lock. -/
def RunLockState.holds : RunLockState → Bool
  | .locked _ | .owning _ | .releasing => true
  | _ => false

/-- A probe holds the lock, having found it free. -/
def ProbeState.tests : ProbeState ι → Bool
  | .testing _ _ => true
  | _ => false

/-- The metadata a call has read. -/
def ProbeState.entryOf : ProbeState ι → Option (WrittenMetadata ι)
  | .read _ entry | .opened _ entry | .testing _ entry => some entry
  | _ => none

/-- When a call began. -/
def ProbeState.since? : ProbeState ι → Option Nat
  | .idle => none
  | .listed since | .read since _ | .opened since _ | .testing since _ => some since

namespace LockFiles

/-- The ways in which a step of a process changes the files. -/
inductive Effect (files : LockFiles ι) (process : ι) : LockFiles ι → Prop
  | stayed : Effect files process files
  | moved (state : RunLockState) (same : state.holds = (files.run process).holds) :
      Effect files process (files.setRun process state)
  | took (state : RunLockState) (free : files.holder = none) (holds : state.holds = true) :
      Effect files process { files.setRun process state with holder := some (.run process) }
  | wrote (state : RunLockState) (metadata : RepositoryLockMetadata) (held : (files.run process).holds = true)
      (holds : state.holds = true) : Effect files process ((files.setRun process state).write process metadata)
  | removed (state : RunLockState) (same : state.holds = (files.run process).holds) :
      Effect files process { files.setRun process state with metadata := none }
  | freed (held : (files.run process).holds = true) :
      Effect files process { files.setRun process .idle with holder := none }
  | probed (state : ProbeState ι) (before : (files.probe process).tests = false) (after : state.tests = false)
      (known : ∀ entry, state.entryOf = some entry →
        files.metadata = some entry ∨ (files.probe process).entryOf = some entry)
      (began : ∀ since, state.since? = some since →
        since = files.clock ∨ (files.probe process).since? = some since) :
      Effect files process (files.setProbe process state)
  | tested (since : Nat) (entry : WrittenMetadata ι) (free : files.holder = none)
      (known : (files.probe process).entryOf = some entry) (began : (files.probe process).since? = some since) :
      Effect files process { files.setProbe process (.testing since entry) with holder := some (.probe process) }
  | untested (tests : (files.probe process).tests = true) :
      Effect files process { files.setProbe process .idle with holder := none }
  | crashed :
      Effect files process { (files.setRun process .idle).setProbe process .idle with
        crashed := Function.update files.crashed process true
        holder := files.holder.filter fun file => file ≠ .run process ∧ file ≠ .probe process }

variable {identity : ι → ProcessIdentity}

/-- All an event can do to the lock files. -/
theorem act_effect {files next : LockFiles ι} {event : LockEvent ι} (h : files.act identity event = some next) :
    Effect files event.process next := by
  cases event with
  | openLock process request =>
    simp only [act] at h
    split at h
    · rename_i idle
      cases h
      exact .moved _ (by simp [idle, RunLockState.holds, LockEvent.process])
    · cases h
  | tryLock process =>
    simp only [act] at h
    split at h
    · rename_i request opened
      split at h
      · rename_i free
        cases h
        exact .took _ free rfl
      · cases h
        exact .moved _ (by simp [opened, RunLockState.holds, LockEvent.process])
    · cases h
  | raiseRefusal process =>
    simp only [act] at h
    split at h
    · rename_i request refused
      cases h
      exact .moved _ (by simp [refused, RunLockState.holds, LockEvent.process])
    · cases h
  | create process acquired now written =>
    simp only [act] at h
    split at h
    · rename_i request locked
      have held : (files.run process).holds = true := by simp [locked, RunLockState.holds]
      split at h
      · cases h
        exact .wrote _ _ held rfl
      · cases h
        exact .freed held
    · cases h
  | update process runId currentState path now written =>
    simp only [act] at h
    split at h
    · rename_i lock owning
      have held : (files.run process).holds = true := by simp [owning, RunLockState.holds]
      cases h
      split
      · exact .wrote _ _ held rfl
      · exact .moved _ (by simp [owning, RunLockState.holds, LockEvent.process])
    · cases h
  | unlink process removed =>
    simp only [act] at h
    split at h
    · rename_i lock owning
      cases h
      split
      · exact .removed _ (by simp [owning, RunLockState.holds, LockEvent.process])
      · exact .moved _ (by simp [owning, RunLockState.holds, LockEvent.process])
    · cases h
  | unlock process =>
    simp only [act] at h
    split at h
    · rename_i releasing
      cases h
      exact .freed (by simp [releasing, RunLockState.holds, LockEvent.process])
    · cases h
  | list process =>
    simp only [act] at h
    split at h
    · rename_i idle
      cases h
      split
      · exact .probed _ (by simp [idle, ProbeState.tests, LockEvent.process]) rfl (by simp [ProbeState.entryOf])
          fun since same => .inl (Option.some.inj same).symm
      · exact .stayed
    · cases h
  | read process =>
    simp only [act] at h
    split at h
    · rename_i since listed
      have before : (files.probe process).tests = false := by simp [listed, ProbeState.tests]
      split at h
      · rename_i entry present
        cases h
        split
        · exact .probed _ before rfl (fun found same => .inl (by simpa [ProbeState.entryOf, present] using same))
            fun began same => .inr (by simpa [ProbeState.since?, listed, LockEvent.process] using same)
        · exact .probed _ before rfl (by simp [ProbeState.entryOf]) (by simp [ProbeState.since?])
      · cases h
        exact .probed _ before rfl (by simp [ProbeState.entryOf]) (by simp [ProbeState.since?])
    · cases h
  | openTest process =>
    simp only [act] at h
    split at h
    · rename_i since entry read
      cases h
      exact .probed _ (by simp [read, ProbeState.tests, LockEvent.process]) rfl
        (fun found same => .inr (by simpa [ProbeState.entryOf, read, LockEvent.process] using same))
        fun began same => .inr (by simpa [ProbeState.since?, read, LockEvent.process] using same)
    · cases h
  | test process =>
    simp only [act] at h
    split at h
    · rename_i since entry opened
      split at h
      · rename_i free
        cases h
        exact .tested since entry free (by simp [opened, ProbeState.entryOf, LockEvent.process])
          (by simp [opened, ProbeState.since?, LockEvent.process])
      · cases h
        exact .probed _ (by simp [opened, ProbeState.tests, LockEvent.process]) rfl (by simp [ProbeState.entryOf])
          (by simp [ProbeState.since?])
    · cases h
  | unlockTest process =>
    simp only [act] at h
    split at h
    · rename_i since entry testing
      cases h
      exact .untested (by simp [testing, ProbeState.tests, LockEvent.process])
    · cases h
  | crash process =>
    cases h
    exact .crashed

theorem step_effect {files next : LockFiles ι} {event : LockEvent ι} (h : files.step identity event = some next) :
    ∃ acted, Effect files event.process acted ∧
      next = { acted with clock := files.clock + 1, past := Function.update files.past files.clock files.holder } := by
  unfold step at h
  split at h
  · cases h
  · obtain ⟨acted, done, same⟩ := Option.map_eq_some_iff.mp h
    exact ⟨acted, act_effect done, same.symm⟩

/-! ## The invariant -/

/-- The entry was written at an earlier moment, at which its writer held the lock. -/
def Genuine (files : LockFiles ι) (entry : WrittenMetadata ι) : Prop :=
  entry.moment < files.clock ∧ files.past entry.moment = some (.run entry.writer)

/-- Who holds the lock stands where the lock is held, and metadata comes from
a holder. -/
structure Consistent (files : LockFiles ι) : Prop where
  run : ∀ process, (files.run process).holds = true ↔ files.holder = some (.run process)
  probe : ∀ process, (files.probe process).tests = true ↔ files.holder = some (.probe process)
  metadata : ∀ entry, files.metadata = some entry → files.Genuine entry
  entries : ∀ process entry, (files.probe process).entryOf = some entry → files.Genuine entry
  calls : ∀ process since, (files.probe process).since? = some since → since ≤ files.clock

omit [DecidableEq ι] in
theorem consistent_initial : Consistent (initial : LockFiles ι) where
  run _ := by simp [initial, RunLockState.holds]
  probe _ := by simp [initial, ProbeState.tests]
  metadata _ h := by cases h
  entries _ _ h := by cases h
  calls _ _ h := by cases h

/-- The files after a step, with its moment recorded. -/
def tick (files acted : LockFiles ι) : LockFiles ι :=
  { acted with clock := files.clock + 1, past := Function.update files.past files.clock files.holder }

omit [DecidableEq ι] in
theorem Genuine.tick {files acted : LockFiles ι} {entry : WrittenMetadata ι} (genuine : files.Genuine entry) :
    (files.tick acted).Genuine entry := by
  obtain ⟨earlier, held⟩ := genuine
  refine ⟨Nat.lt_succ_of_lt earlier, ?_⟩
  show Function.update files.past files.clock files.holder entry.moment = some (.run entry.writer)
  rw [Function.update_of_ne (Nat.ne_of_lt earlier)]
  exact held

omit [DecidableEq ι] in
/-- What the holder writes now is genuine after the step. -/
theorem genuine_write {files acted : LockFiles ι} {process : ι} {metadata : RepositoryLockMetadata}
    (held : files.holder = some (.run process)) :
    (files.tick acted).Genuine ⟨process, files.clock, metadata⟩ := by
  refine ⟨Nat.lt_succ_self _, ?_⟩
  show Function.update files.past files.clock files.holder files.clock = some (.run process)
  rw [Function.update_self, held]

/-- A change of one process, as every process sees it. -/
theorem setRun_holds {files : LockFiles ι} {process : ι} {state : RunLockState} (other : ι) :
    ((files.setRun process state).run other).holds = if other = process then state.holds else (files.run other).holds := by
  show (Function.update files.run process state other).holds = _
  rw [Function.update_apply]
  split <;> rfl

theorem setProbe_tests {files : LockFiles ι} {process : ι} {state : ProbeState ι} (other : ι) :
    ((files.setProbe process state).probe other).tests =
      if other = process then state.tests else (files.probe other).tests := by
  show (Function.update files.probe process state other).tests = _
  rw [Function.update_apply]
  split <;> rfl

theorem setProbe_entry {files : LockFiles ι} {process : ι} {state : ProbeState ι} (other : ι) :
    ((files.setProbe process state).probe other).entryOf =
      if other = process then state.entryOf else (files.probe other).entryOf := by
  show (Function.update files.probe process state other).entryOf = _
  rw [Function.update_apply]
  split <;> rfl

theorem setProbe_since {files : LockFiles ι} {process : ι} {state : ProbeState ι} (other : ι) :
    ((files.setProbe process state).probe other).since? =
      if other = process then state.since? else (files.probe other).since? := by
  show (Function.update files.probe process state other).since? = _
  rw [Function.update_apply]
  split <;> rfl

theorem Consistent.tick {files acted : LockFiles ι} (consistent : Consistent files) {process : ι}
    (effect : Effect files process acted) : Consistent (files.tick acted) := by
  obtain ⟨run, probe, metadata, entries, calls⟩ := consistent
  have keepCalls : ∀ other since, (files.probe other).since? = some since → since ≤ files.clock + 1 :=
    fun other since began => Nat.le_succ_of_le (calls other since began)
  have keepMetadata : ∀ entry, files.metadata = some entry → (files.tick acted).Genuine entry :=
    fun entry present => (metadata entry present).tick
  have keepEntries : ∀ other entry, (files.probe other).entryOf = some entry → (files.tick acted).Genuine entry :=
    fun other entry present => (entries other entry present).tick
  cases effect with
  | stayed => exact ⟨run, probe, keepMetadata, keepEntries, keepCalls⟩
  | moved state same =>
    refine ⟨fun other => ?_, probe, keepMetadata, keepEntries, keepCalls⟩
    show ((files.setRun process state).run other).holds = true ↔ files.holder = some (.run other)
    rw [setRun_holds, same, ← run other]
    split
    · rename_i own
      rw [own]
    · rfl
  | took state free holds =>
    refine ⟨fun other => ?_, fun other => ?_, keepMetadata, keepEntries, keepCalls⟩
    · show ((files.setRun process state).run other).holds = true ↔ some (OpenFile.run process) = some (.run other)
      have idle : (files.run other).holds = false := by simpa [free] using run other
      rw [setRun_holds, idle, holds]
      by_cases own : process = other
      · simp [own]
      · simp [own, Ne.symm own]
    · show (files.probe other).tests = true ↔ some (OpenFile.run process) = some (.probe other)
      have idle : (files.probe other).tests = false := by simpa [free] using probe other
      simp [idle]
  | wrote state written held holds =>
    have holder := (run process).mp held
    refine ⟨fun other => ?_, probe, fun entry present => ?_, keepEntries, keepCalls⟩
    · show ((files.setRun process state).run other).holds = true ↔ files.holder = some (.run other)
      rw [setRun_holds, ← run other, holds]
      split
      · rename_i own
        rw [own, held]
      · rfl
    · obtain rfl : _ = entry := Option.some.inj present
      exact genuine_write holder
  | removed state same =>
    refine ⟨fun other => ?_, probe, fun entry present => (by cases present), keepEntries, keepCalls⟩
    show ((files.setRun process state).run other).holds = true ↔ files.holder = some (.run other)
    rw [setRun_holds, same, ← run other]
    split
    · rename_i own
      rw [own]
    · rfl
  | freed held =>
    have holder := (run process).mp held
    refine ⟨fun other => ?_, fun other => ?_, keepMetadata, keepEntries, keepCalls⟩
    · show ((files.setRun process .idle).run other).holds = true ↔ none = some (OpenFile.run other)
      have unique := run other
      rw [setRun_holds]
      split
      · simp [RunLockState.holds]
      · rename_i different
        have idle : (files.run other).holds = false := by
          simpa [holder, Ne.symm different] using unique
        simp [idle]
    · show (files.probe other).tests = true ↔ none = some (OpenFile.probe other)
      have idle : (files.probe other).tests = false := by simpa [holder] using probe other
      simp [idle]
  | probed state before after known began =>
    refine ⟨run, fun other => ?_, keepMetadata, fun other entry present => ?_, fun other since present => ?_⟩
    · show ((files.setProbe process state).probe other).tests = true ↔ files.holder = some (.probe other)
      rw [setProbe_tests, ← probe other, after]
      split
      · rename_i own
        rw [own, before]
      · rfl
    · have found : ((files.setProbe process state).probe other).entryOf = some entry := present
      rw [setProbe_entry] at found
      split at found
      · rcases known entry found with read | kept
        · exact keepMetadata entry read
        · exact keepEntries process entry kept
      · exact keepEntries other entry found
    · have found : ((files.setProbe process state).probe other).since? = some since := present
      rw [setProbe_since] at found
      split at found
      · rcases began since found with now | kept
        · exact now ▸ Nat.le_succ _
        · exact keepCalls process since kept
      · exact keepCalls other since found
  | tested since entry free known began =>
    refine ⟨fun other => ?_, fun other => ?_, keepMetadata, fun other found present => ?_,
      fun other earlier present => ?_⟩
    · show (files.run other).holds = true ↔ some (OpenFile.probe process) = some (.run other)
      have idle : (files.run other).holds = false := by simpa [free] using run other
      simp [idle]
    · show ((files.setProbe process (.testing since entry)).probe other).tests = true ↔
        some (OpenFile.probe process) = some (.probe other)
      have idle : (files.probe other).tests = false := by simpa [free] using probe other
      rw [setProbe_tests, idle]
      by_cases own : process = other
      · simp [own, ProbeState.tests]
      · simp [own, Ne.symm own]
    · have found : ((files.setProbe process (.testing since entry)).probe other).entryOf = some found := present
      rw [setProbe_entry] at found
      split at found
      · obtain rfl := Option.some.inj found
        exact keepEntries process entry known
      · exact keepEntries other _ found
    · have found : ((files.setProbe process (.testing since entry)).probe other).since? = some earlier := present
      rw [setProbe_since] at found
      split at found
      · obtain rfl := Option.some.inj found
        exact keepCalls process since began
      · exact keepCalls other _ found
  | untested tests =>
    have holder := (probe process).mp tests
    refine ⟨fun other => ?_, fun other => ?_, keepMetadata, fun other entry present => ?_,
      fun other since present => ?_⟩
    · show (files.run other).holds = true ↔ none = some (OpenFile.run other)
      have idle : (files.run other).holds = false := by simpa [holder] using run other
      simp [idle]
    · show ((files.setProbe process .idle).probe other).tests = true ↔ none = some (OpenFile.probe other)
      rw [setProbe_tests]
      split
      · simp [ProbeState.tests]
      · rename_i different
        have idle : (files.probe other).tests = false := by simpa [holder, Ne.symm different] using probe other
        simp [idle]
    · have found : ((files.setProbe process .idle).probe other).entryOf = some entry := present
      rw [setProbe_entry] at found
      split at found
      · cases found
      · exact keepEntries other entry found
    · have found : ((files.setProbe process .idle).probe other).since? = some since := present
      rw [setProbe_since] at found
      split at found
      · cases found
      · exact keepCalls other since found
  | crashed =>
    refine ⟨fun other => ?_, fun other => ?_, keepMetadata, fun other entry present => ?_,
      fun other since present => ?_⟩
    · show ((files.setRun process .idle).run other).holds = true ↔
        files.holder.filter (fun file => file ≠ .run process ∧ file ≠ .probe process) = some (.run other)
      rw [setRun_holds, Option.filter_eq_some_iff, ← run other]
      split
      · rename_i own
        simp [own, RunLockState.holds]
      · rename_i different
        simp [different]
    · show ((files.setProbe process .idle).probe other).tests = true ↔
        files.holder.filter (fun file => file ≠ .run process ∧ file ≠ .probe process) = some (.probe other)
      rw [setProbe_tests, Option.filter_eq_some_iff, ← probe other]
      split
      · rename_i own
        simp [own, ProbeState.tests]
      · rename_i different
        simp [different]
    · have found : ((files.setProbe process .idle).probe other).entryOf = some entry := present
      rw [setProbe_entry] at found
      split at found
      · cases found
      · exact keepEntries other entry found
    · have found : ((files.setProbe process .idle).probe other).since? = some since := present
      rw [setProbe_since] at found
      split at found
      · cases found
      · exact keepCalls other since found

/-- The step lemma. -/
theorem Consistent.step {files next : LockFiles ι} {event : LockEvent ι} (consistent : Consistent files)
    (h : files.step identity event = some next) : Consistent next := by
  obtain ⟨acted, effect, rfl⟩ := step_effect h
  exact consistent.tick effect

/-- The run lemma. -/
theorem consistent_of_run {events : List (LockEvent ι)} {files : LockFiles ι}
    (h : Transition.run (LockFiles.step identity) initial events = some files) : Consistent files :=
  Transition.run_invariant' (fun h consistent => consistent.step h) h consistent_initial

end LockFiles

end SprintTicket
