import SprintTicket.Attempts.Update
import SprintTicket.Logic.Effects
import SprintTicket.RunDirectory
import SprintTicket.Runs

/-!
# What a controller persists

A run directory holds `run.json`, the attempt ledger and the artifacts of each
attempt. Every write to it may raise, and the process may die before or after
it: `persist` covers all of these. The store keeps what was written, and a log
of what the controller did.
-/

set_option autoImplicit false

namespace SprintTicket

open Checks Effects Effects.Effect

namespace AttemptLedger

def empty : AttemptLedger := ⟨[], .nil⟩

/-- `_next_sequence`. -/
def nextSequence (ledger : AttemptLedger) : Nat :=
  (ledger.records.map fun record => record.sequence).foldl max 0 + 1

def find (ledger : AttemptLedger) (sequence : Nat) : Option AttemptRecord :=
  ledger.records.find? fun record => record.sequence = sequence

/-- A new record after all others. -/
def append (ledger : AttemptLedger) (record : AttemptRecord) : AttemptLedger :=
  if newest : ∀ earlier ∈ ledger.records, earlier.sequence < record.sequence then
    { records := ledger.records ++ [record]
      increasing := List.pairwise_append.mpr
        ⟨ledger.increasing, List.pairwise_singleton _ _, fun earlier member last hlast => by
          rw [List.mem_singleton.mp hlast]
          exact newest earlier member⟩ }
  else ledger

/-- The replacement of the record with the same sequence. -/
def replace (ledger : AttemptLedger) (updated : AttemptRecord) : AttemptLedger where
  records := ledger.records.map fun record => if record.sequence = updated.sequence then updated else record
  increasing := by
    have same : ∀ record : AttemptRecord,
        (if record.sequence = updated.sequence then updated else record).sequence = record.sequence := by
      intro record
      split <;> simp_all
    rw [List.pairwise_map]
    exact ledger.increasing.imp fun earlier => by rw [same, same]; exact earlier

/-- The next number is above all of the ledger. -/
theorem lt_nextSequence {ledger : AttemptLedger} {record : AttemptRecord} (member : record ∈ ledger.records) :
    record.sequence < ledger.nextSequence := by
  have bound : ∀ (sequences : List Nat) (start : Nat), start ≤ sequences.foldl max start ∧
      ∀ n ∈ sequences, n ≤ sequences.foldl max start := by
    intro sequences
    induction sequences with
    | nil => simp
    | cons first rest ih =>
      intro start
      obtain ⟨below, members⟩ := ih (max start first)
      rw [List.foldl_cons]
      refine ⟨by omega, fun n hn => ?_⟩
      rcases List.mem_cons.mp hn with rfl | later
      · omega
      · exact members n later
  have le := (bound (ledger.records.map fun record => record.sequence) 0).2 record.sequence
    (List.mem_map.mpr ⟨record, member, rfl⟩)
  unfold nextSequence
  omega

theorem append_records {ledger : AttemptLedger} {record : AttemptRecord}
    (next : record.sequence = ledger.nextSequence) :
    (ledger.append record).records = ledger.records ++ [record] := by
  have newest : ∀ earlier ∈ ledger.records, earlier.sequence < record.sequence := by
    intro earlier member
    rw [next]
    exact lt_nextSequence member
  rw [append, dif_pos newest]

section Last

variable {ledger : AttemptLedger} {earlier : List AttemptRecord} {last : AttemptRecord}

theorem lt_last (shape : ledger.records = earlier ++ [last]) {record : AttemptRecord} (member : record ∈ earlier) :
    record.sequence < last.sequence := by
  have increasing := ledger.increasing
  rw [shape, List.pairwise_append] at increasing
  exact increasing.2.2 record member last (List.mem_singleton_self last)

theorem find_last (shape : ledger.records = earlier ++ [last]) : ledger.find last.sequence = some last := by
  have absent : earlier.find? (fun record => record.sequence = last.sequence) = none := by
    rw [List.find?_eq_none]
    intro record member
    have below := lt_last shape member
    simp only [decide_eq_true_eq]
    omega
  rw [find, shape, List.find?_append, absent]
  simp

/-- Its record is replaced in its place. -/
theorem replace_last (shape : ledger.records = earlier ++ [last]) {updated : AttemptRecord}
    (same : updated.sequence = last.sequence) : (ledger.replace updated).records = earlier ++ [updated] := by
  have kept : earlier.map (fun record => if record.sequence = updated.sequence then updated else record) =
      earlier := by
    refine (List.map_congr_left fun record member => ?_).trans (List.map_id earlier)
    have below := lt_last shape member
    rw [if_neg (by omega)]
    rfl
  simp only [replace, shape, List.map_append, kept, List.map_cons, List.map_nil, if_pos same.symm]

end Last

end AttemptLedger

/-- How the controller stops early: an exception, or the death of its process. -/
inductive Halt
  | raised (error : Raised)
  | died
deriving DecidableEq

/-- How a write ends; it may be lost, or made before the code stops. -/
inductive WriteOutcome
  | written
  | lost (halt : Halt)
  | late (halt : Halt)
deriving DecidableEq

/-- A replacement of `run.json`, with what the run directory held then. -/
structure Save where
  before : RunRecord
  after : RunRecord
  ledger : AttemptLedger
  resultFile : Nat → ArtifactFile

inductive DriveEvent
  /-- A stage is dispatched for this record. -/
  | dispatched (record : RunRecord)
  /-- An agent with write access is invoked for this record. -/
  | invoked (kind : AgentTaskKind) (record : RunRecord)
  /-- The loop replaces `run.json`. -/
  | saved (save : Save)
  /-- `run.json` is replaced outside the loop, to stop the run. -/
  | stopped (before after : RunRecord)

structure RunStore where
  record : RunRecord
  ledger : AttemptLedger
  /-- The result artifact of the attempt with this sequence. -/
  resultFile : Nat → ArtifactFile
  execution : Nat → Option ExecutionEvidence
  events : List DriveEvent

/-- A step of the controller; what it wrote survives its halt. -/
abbrev Controlled (α : Type) : Type := Effect RunStore Halt α

/-- A call that persists nothing. -/
def call {α : Type} (answer : Except Raised α) : Controlled α := lift (answer.mapError .raised)

def persist (outcome : WriteOutcome) (change : RunStore → RunStore) : Controlled Unit :=
  match outcome with
  | .written => modify change
  | .lost halt => raise halt
  | .late halt => do
    modify change
    raise halt

/-- The outcome of a `try` block, for its `except` clauses; a dead process has none. -/
def caught {α : Type} (body : Controlled α) : Controlled (Except Raised α) := fun store =>
  match body store with
  | (.ok a, store') => (.ok (.ok a), store')
  | (.error (.raised error), store') => (.ok (.error error), store')
  | (.error halt, store') => (.error halt, store')

/-- The answer of `_require_owned_run`: nothing, or why the run is not owned. -/
abbrev OwnershipCheck : Type := Except String Unit

def ownershipError (text : String) : Raised := ⟨.runOwnershipError, text⟩

/-- `_require_owned_run`. -/
def requireOwned (check : OwnershipCheck) : Controlled Unit := call (check.mapError ownershipError)

namespace RunStore

/-- The run directory as its readers see it. -/
def directory (store : RunStore) : RunDirectory where
  ledger := .ok store.ledger
  confined _ := .ok ()
  resultFile := store.resultFile
  execution sequence :=
    match store.execution sequence with
    | some evidence => .ok evidence
    | none => .error ⟨.valueError, "Execution evidence could not be read."⟩
  artifactExists _ _ := .ok ()

def log (event : DriveEvent) (store : RunStore) : RunStore := { store with events := store.events ++ [event] }

/-- The loop replaces `run.json` by `record`. -/
def save (record : RunRecord) (store : RunStore) : RunStore :=
  { store with
    record
    events := store.events ++ [.saved ⟨store.record, record, store.ledger, store.resultFile⟩] }

/-- A stop replaces `run.json` by `record`. -/
def stop (record : RunRecord) (store : RunStore) : RunStore :=
  { store with record, events := store.events ++ [.stopped store.record record] }

def writeResult (sequence : Nat) (value : Json) (store : RunStore) : RunStore :=
  { store with resultFile := fun other => if other = sequence then .json value else store.resultFile other }

def writeExecution (sequence : Nat) (evidence : ExecutionEvidence) (store : RunStore) : RunStore :=
  { store with execution := fun other => if other = sequence then some evidence else store.execution other }

def appendAttempt (record : AttemptRecord) (store : RunStore) : RunStore :=
  { store with ledger := store.ledger.append record }

def replaceAttempt (updated : AttemptRecord) (store : RunStore) : RunStore :=
  { store with ledger := store.ledger.replace updated }

end RunStore

/-! ## Attempts -/

/-- The record `start_attempt` writes. -/
def startedFields (runPath : String) (sequence : Nat) (phase : AttemptPhase) (before : Option String)
    (startedAt : Timestamp) : AttemptFields where
  sequence
  phase
  status := .started
  beforeWorkspaceFingerprint := before
  afterWorkspaceFingerprint := none
  processStarted := false
  startedAt
  endedAt := none
  resultPath := (phaseDefinition phase).resultArtifactName
  executionPath := none
  metadata := .empty
  artifactDirectory := runPath ++ "/attempts/" ++ directoryName sequence phase

/-- `start_attempt`: the record appears together with its directory. -/
def startAttempt (runPath : String) (phase : AttemptPhase) (before : Option String) (startedAt : Timestamp)
    (outcome : WriteOutcome) : Controlled AttemptRecord := do
  let store ← get
  let record ← call (AttemptRecord.ofFields
    (startedFields runPath store.ledger.nextSequence phase before startedAt))
  persist outcome (RunStore.appendAttempt record)
  pure record

/-- `complete_stage_attempt` of the attempt that the store holds. -/
def completeStageAttempt (arguments : StageCompletionArguments) (now : Timestamp) (outcome : WriteOutcome) :
    Controlled Unit := do
  let store ← get
  match store.ledger.find arguments.attempt.sequence with
  | none => raise (.raised ⟨.attemptError, "Could not read attempt record."⟩)
  | some persisted => do
    let update ← call (prepareCompletion persisted arguments (store.execution persisted.sequence).isSome now)
    persist outcome (RunStore.replaceAttempt update.updated)

/-- What a stage writes about its own attempt while it runs. -/
inductive StageWrite
  /-- `update_attempt` without a status. -/
  | updateAttempt (changes : AttemptChanges) (plain : changes.Plain) (now : Timestamp)
  | writeExecution (evidence : ExecutionEvidence)

/-- One write of a running stage. -/
def stageWrite (sequence : Nat) (write : StageWrite) (outcome : WriteOutcome) : Controlled Unit :=
  match write with
  | .updateAttempt changes _ now => do
    let store ← get
    match store.ledger.find sequence with
    | none => raise (.raised ⟨.attemptError, "Could not read attempt record."⟩)
    | some persisted => do
      let update ← call (prepareUpdate persisted changes now)
      persist outcome (RunStore.replaceAttempt update.updated)
  | .writeExecution evidence => persist outcome (RunStore.writeExecution sequence evidence)

/-- The writes of a running stage, in order. -/
def stageProgress (sequence : Nat) : List (StageWrite × WriteOutcome) → Controlled Unit
  | [] => pure ()
  | (write, outcome) :: rest => do
    stageWrite sequence write outcome
    stageProgress sequence rest

end SprintTicket
