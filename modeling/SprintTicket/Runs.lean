import SprintTicket.Attempts.Record
import SprintTicket.Policy.Resolved

/-!
# Run records

`run.json` holds one `RunRecord`: the workflow state, the two round counters and
the resolved policy of the run. The constructor keeps a stop reason inseparable
from the two failure states, and `transitionTo` is the only way the lifecycle
makes the next record.
-/

set_option autoImplicit false

namespace SprintTicket

open Checks

/-! ## Run records -/

/-- The fields of `RunRecord`, not yet validated. -/
structure RunFields where
  runId : String
  ticketId : String
  originalTicketPath : String
  runTicketCopyPath : String
  state : WorkflowState
  startingBranch : String
  baselineSha : String
  currentCorrectionRound : Nat
  currentReviewRound : Nat
  resolvedPolicy : ResolvedRunPolicy
  terminalReason : Option String
  stopReason : Option StopReason
  createdTimestamp : String
  updatedTimestamp : String

/-- `_RUN_ID_PATTERN` and `validate_run_id`: one plain path component. -/
def validRunId (value : String) : Bool :=
  match value.toList with
  | [] => false
  | first :: rest => first.isAlphanum && rest.all fun c =>
      c.isAlphanum || c = '.' || c = '_' || c = '-'

/-- The states that carry a stop reason. -/
def WorkflowState.failureStop : WorkflowState → Bool
  | .humanRequired | .failed => true
  | _ => false

/-- The checks of the constructor, in the order of the source. -/
def validateRunFields (record : RunFields) : Except Raised Unit := do
  raiseIf (validRunId record.runId = false)
    ⟨.valueError, "Run ID must be one non-empty path component containing only letters, " ++
      "numbers, dots, underscores, and hyphens."⟩
  raiseIf (record.state.failureStop ∧ record.stopReason = none)
    ⟨.valueError, "Terminal HUMAN_REQUIRED and FAILED records require stop_reason."⟩
  raiseIf (record.state.failureStop ∧ record.terminalReason ≠ record.stopReason.map StopReason.message)
    ⟨.valueError, "Terminal reason must exactly match stop_reason.message."⟩
  raiseIf (¬record.state.failureStop ∧ (record.stopReason ≠ none ∨ record.terminalReason ≠ none))
    ⟨.valueError, "Only HUMAN_REQUIRED and FAILED records may contain a terminal stop."⟩

/-- `RunRecord`: validated fields. -/
structure RunRecord extends RunFields where
  valid : validateRunFields toRunFields = .ok ()

def RunFields.targetRepositoryPath (record : RunFields) : String :=
  record.resolvedPolicy.targetRepositoryPath

def RunFields.maxCorrectionRounds (record : RunFields) : Nat :=
  record.resolvedPolicy.maxCorrectionRounds

/-- The constructor of `RunRecord`. -/
def RunRecord.ofFields (fields : RunFields) : Except Raised RunRecord :=
  match h : validateRunFields fields with
  | .ok () => .ok ⟨fields, h⟩
  | .error error => .error error

theorem RunRecord.ofFields_ok {fields : RunFields} {record : RunRecord}
    (h : RunRecord.ofFields fields = .ok record) : record.toRunFields = fields := by
  unfold RunRecord.ofFields at h
  split at h
  · cases h; rfl
  · cases h

theorem RunRecord.ofFields_error {fields : RunFields} {error : Raised}
    (h : validateRunFields fields = .error error) : RunRecord.ofFields fields = .error error := by
  unfold RunRecord.ofFields
  split
  · rename_i valid
    rw [h] at valid
    cases valid
  · rename_i other invalid
    rw [h] at invalid
    cases invalid
    rfl

theorem RunRecord.ofFields_self (record : RunRecord) :
    RunRecord.ofFields record.toRunFields = .ok record := by
  unfold RunRecord.ofFields
  split
  · rfl
  · rename_i error invalid
    rw [record.valid] at invalid
    cases invalid

/-- The optional arguments of `transition_to`. -/
structure TransitionUpdate where
  currentCorrectionRound : Option Nat := none
  currentReviewRound : Option Nat := none
  terminalReason : Option String := none
  stopReason : Option StopReason := none

/-- The fields `transition_to` replaces. -/
def RunFields.transition (record : RunFields) (state : WorkflowState) (updatedTimestamp : String)
    (update : TransitionUpdate) : RunFields :=
  { record with
    state
    currentCorrectionRound := update.currentCorrectionRound.getD record.currentCorrectionRound
    currentReviewRound := update.currentReviewRound.getD record.currentReviewRound
    terminalReason := update.terminalReason
    stopReason := update.stopReason
    updatedTimestamp }

/-- `RunRecord.transition_to`. -/
def RunRecord.transitionTo (record : RunRecord) (state : WorkflowState) (updatedTimestamp : String)
    (update : TransitionUpdate) : Except Raised RunRecord := do
  validateWorkflowTransition record.state state
  RunRecord.ofFields (record.toRunFields.transition state updatedTimestamp update)

/-- A transition that is made is legal, and changes what the update says. -/
theorem RunRecord.transitionTo_ok {record next : RunRecord} {state : WorkflowState} {timestamp : String}
    {update : TransitionUpdate} (h : record.transitionTo state timestamp update = .ok next) :
    state ∈ legalWorkflowTransitions record.state ∧
      next.toRunFields = record.toRunFields.transition state timestamp update := by
  simp only [RunRecord.transitionTo, check_bind_ok, validateWorkflowTransition_ok] at h
  exact ⟨h.1, RunRecord.ofFields_ok h.2⟩

/-- A transition with a stop reason exactly when the state is a failure stop is
accepted. -/
theorem RunRecord.transitionTo_legal {record : RunRecord} {state : WorkflowState} (timestamp : String)
    {update : TransitionUpdate} (legal : state ∈ legalWorkflowTransitions record.state)
    (stops : update.stopReason.isSome = state.failureStop)
    (message : update.terminalReason = update.stopReason.map StopReason.message) :
    ∃ next, record.transitionTo state timestamp update = .ok next := by
  have valid : validateRunFields (record.toRunFields.transition state timestamp update) = .ok () := by
    have own := record.valid
    simp only [validateRunFields, check_bind_ok, raiseIf_ok] at own ⊢
    obtain ⟨runId, _⟩ := own
    cases stop : update.stopReason with
    | none =>
      rw [stop] at stops message
      simp only [Option.isSome_none] at stops
      simp [RunFields.transition, runId, stop, message, ← stops]
    | some reason =>
      rw [stop] at stops message
      simp only [Option.isSome_some] at stops
      simp [RunFields.transition, runId, stop, message, ← stops]
  refine ⟨⟨_, valid⟩, ?_⟩
  simp only [RunRecord.transitionTo, check_bind_ok, validateWorkflowTransition_ok]
  refine ⟨legal, ?_⟩
  unfold RunRecord.ofFields
  split
  · rfl
  · simp_all

end SprintTicket
