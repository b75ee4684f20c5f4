import SprintTicket.Policy.Codec
import SprintTicket.Runs

/-!
# The persisted form of a run record

`RunRecord.toDict` is what `run.json` holds and `RunRecord.fromDict` reads it
back. The reader strips the message of the stop reason and takes the terminal
reason as it is, while the constructor demands that both are equal:
`run_record_round_trip_iff`.
-/

set_option autoImplicit false

namespace SprintTicket

open Checks

/-- A `RunError`. -/
def runError (message : String) : Raised := ⟨.runError, message⟩

def encodeStopReason (reason : StopReason) : Json :=
  .obj [("category", .str reason.category.value), ("message", .str reason.message),
    ("retryable", .bool reason.retryable)]

/-- `RunRecord.to_dict`. -/
def RunRecord.toDict (text : JsonText) (record : RunRecord) : Except Raised (List (String × Json)) := do
  let policy ← record.resolvedPolicy.toDict text
  pure
    [("schema_version", .int 5), ("format", .str "ticket_automation.run"), ("run_id", .str record.runId),
      ("ticket_id", .str record.ticketId), ("original_ticket_path", .str record.originalTicketPath),
      ("run_ticket_copy_path", .str record.runTicketCopyPath), ("state", .str record.state.value),
      ("starting_branch", .str record.startingBranch), ("baseline_sha", .str record.baselineSha),
      ("current_correction_round", .int record.currentCorrectionRound),
      ("current_review_round", .int record.currentReviewRound), ("resolved_policy", policy),
      ("terminal_reason", (record.terminalReason.map Json.str).getD .null),
      ("stop_reason", (record.stopReason.map encodeStopReason).getD .null),
      ("created_timestamp", .str record.createdTimestamp), ("updated_timestamp", .str record.updatedTimestamp)]

namespace RunCodec

/-- `_require_string`. -/
def requireString (data : List (String × Json)) (key : String) : Except Raised String :=
  let invalid := runError ("Run record field must be a non-empty string: " ++ key)
  match Json.get data key with
  | .str value => if value = "" then .error invalid else .ok value
  | _ => .error invalid

/-- `_require_int`. -/
def requireInt (data : List (String × Json)) (key : String) : Except Raised Int :=
  match Json.get data key with
  | .int value => .ok value
  | _ => .error (runError ("Run record field must be an integer: " ++ key))

/-- `_require_non_negative_int`. -/
def requireNonNegativeInt (data : List (String × Json)) (key : String) : Except Raised Nat := do
  let value ← requireInt data key
  raiseIf (value < 0) (runError ("Run record field must be a non-negative integer: " ++ key))
  pure value.toNat

/-- `_require_nullable_string`. -/
def requireNullableString (data : List (String × Json)) (key : String) : Except Raised (Option String) :=
  let invalid := runError ("Run record field must be a non-empty string or null: " ++ key)
  match Json.get data key with
  | .null => .ok none
  | .str value => if value = "" then .error invalid else .ok (some value)
  | _ => .error invalid

/-- `_require_nested_string`, which strips. -/
def requireNestedString (data : List (String × Json)) (parent key : String) : Except Raised String :=
  let invalid := runError ("Run record field must be a non-empty string: " ++ parent ++ "." ++ key)
  match Json.get data key with
  | .str value => if isBlank value then .error invalid else .ok (strip value)
  | _ => .error invalid

def stopCategory? (text : String) : Option StopCategory :=
  [StopCategory.preparationRejected, .baselineFailure, .externalToolFailure, .verificationInfrastructure,
    .safetyViolation, .repositoryUncertain, .humanJudgmentRequired, .controllerFailure].find?
    fun category => category.value = text

def workflowState? (text : String) : Option WorkflowState :=
  [WorkflowState.preparing, .prepared, .implementing, .verifying, .reviewing, .correctionPending, .correcting,
    .reporting, .readyForHuman, .humanRequired, .failed].find? fun state => state.value = text

/-- `_require_stop_reason`. -/
def requireStopReason (data : List (String × Json)) : Except Raised (Option StopReason) :=
  match Json.get data "stop_reason" with
  | .null => .ok none
  | .obj value => do
    requireExactKeys .runError value ["category", "message", "retryable"] "Run record stop_reason"
    let token ← requireNestedString value "stop_reason" "category"
    match stopCategory? token with
    | some category =>
      let message ← requireNestedString value "stop_reason" "message"
      match Json.get value "retryable" with
      | .bool retryable =>
        let reason ← StopReason.ofMessage category message retryable
        pure (some reason)
      | _ => .error (runError "Run record field must be a boolean: stop_reason.retryable")
    | none => .error (runError "Run record field has unsupported stop category: stop_reason.category")
  | _ => .error (runError "Run record field must be an object or null: stop_reason")

/-- `_require_workflow_state`. -/
def requireWorkflowState (data : List (String × Json)) (key : String) : Except Raised WorkflowState := do
  let value ← requireString data key
  match workflowState? value with
  | some state => pure state
  | none => .error (runError ("Run record field has unsupported workflow state: " ++ key))

/-- The arguments of the constructor, in the order of the source. -/
def readFields (text : JsonText) (data : List (String × Json)) : Except Raised RunRecord := do
  let runId ← requireString data "run_id"
  let ticketId ← requireString data "ticket_id"
  let originalTicketPath ← requireString data "original_ticket_path"
  let runTicketCopyPath ← requireString data "run_ticket_copy_path"
  let state ← requireWorkflowState data "state"
  let startingBranch ← requireString data "starting_branch"
  let baselineSha ← requireString data "baseline_sha"
  let currentCorrectionRound ← requireNonNegativeInt data "current_correction_round"
  let currentReviewRound ← requireNonNegativeInt data "current_review_round"
  let resolvedPolicy ← ResolvedRunPolicy.fromDict text (Json.get data "resolved_policy")
  let terminalReason ← requireNullableString data "terminal_reason"
  let stopReason ← requireStopReason data
  let createdTimestamp ← requireString data "created_timestamp"
  let updatedTimestamp ← requireString data "updated_timestamp"
  RunRecord.ofFields
    { runId, ticketId, originalTicketPath, runTicketCopyPath, state, startingBranch, baselineSha
      currentCorrectionRound, currentReviewRound, resolvedPolicy, terminalReason, stopReason, createdTimestamp
      updatedTimestamp }

end RunCodec

open RunCodec in
/-- `RunRecord.from_dict`. -/
def RunRecord.fromDict (text : JsonText) (data : List (String × Json)) : Except Raised RunRecord := do
  let version ← requireInt data "schema_version"
  raiseIf (version ≠ 5)
    (runError ("Unsupported run record schema version: " ++ toString version ++ "; expected 5. Start a new run."))
  let format ← RunCodec.requireString data "format"
  raiseIf (format ≠ "ticket_automation.run")
    (runError ("Unsupported format: " ++ format ++ "; expected ticket_automation.run."))
  requireExactKeys .runError data
    ["schema_version", "format", "run_id", "ticket_id", "original_ticket_path", "run_ticket_copy_path", "state",
      "starting_branch", "baseline_sha", "current_correction_round", "current_review_round", "resolved_policy",
      "terminal_reason", "stop_reason", "created_timestamp", "updated_timestamp"] "Run record"
  reraiseAny [.typeError, .valueError] (fun error => runError ("Invalid run record: " ++ error.message))
    (readFields text data)

/-! ## Reading what was written -/

namespace RunCodec

/-- The readers accept what the encoder wrote, one lemma each. -/
theorem requireString_str {data : List (String × Json)} {key value : String}
    (found : Json.get data key = .str value) (nonempty : value ≠ "") : requireString data key = .ok value := by
  unfold requireString
  rw [found]
  exact if_neg nonempty

theorem requireNonNegativeInt_int {data : List (String × Json)} {key : String} {n : Nat}
    (found : Json.get data key = .int n) : requireNonNegativeInt data key = .ok n := by
  have read : requireInt data key = .ok (n : Int) := by
    unfold requireInt
    rw [found]
  refine bind_ok_iff.mpr ⟨_, read, check_bind_ok.mpr ⟨raiseIf_ok.mpr (by omega), rfl⟩⟩

theorem requireNullableString_option {data : List (String × Json)} {key : String} {value : Option String}
    (found : Json.get data key = (value.map Json.str).getD .null) (nonempty : value ≠ some "") :
    requireNullableString data key = .ok value := by
  unfold requireNullableString
  rw [found]
  cases value with
  | none => rfl
  | some text =>
    have filled : text ≠ "" := fun empty => nonempty (congrArg some empty)
    exact if_neg filled

theorem requireWorkflowState_value {data : List (String × Json)} {key : String} {state : WorkflowState}
    (found : Json.get data key = .str state.value) : requireWorkflowState data key = .ok state := by
  have nonempty : state.value ≠ "" := by cases state <;> decide
  have known : workflowState? state.value = some state := by cases state <;> decide
  refine bind_ok_iff.mpr ⟨_, requireString_str found nonempty, ?_⟩
  rw [known]
  rfl

theorem requireNestedString_str {data : List (String × Json)} {parent key value : String}
    (found : Json.get data key = .str value) (nonblank : isBlank value = false) :
    requireNestedString data parent key = .ok (strip value) := by
  unfold requireNestedString
  rw [found]
  simp [nonblank]

/-- What reading back leaves of a stop reason. -/
def strippedReason (reason : StopReason) : StopReason :=
  { reason with
    message := strip reason.message
    message_nonblank := isBlank_strip.trans reason.message_nonblank }

/-- A reason survives the stripping when its message has nothing to strip. -/
theorem strippedReason_eq_self_iff {reason : StopReason} :
    strippedReason reason = reason ↔ strip reason.message = reason.message := by
  constructor
  · intro same
    exact congrArg StopReason.message same
  · intro same
    cases reason
    simp_all [strippedReason]

/-- The reason is read back, but stripped. -/
theorem requireStopReason_encode {data : List (String × Json)} {reason : Option StopReason}
    (found : Json.get data "stop_reason" = (reason.map encodeStopReason).getD .null) :
    requireStopReason data = .ok (reason.map strippedReason) := by
  unfold requireStopReason
  rw [found]
  cases reason with
  | none => rfl
  | some reason =>
    have category : isBlank reason.category.value = false := by cases reason.category <;> decide
    have known : stopCategory? (strip reason.category.value) = some reason.category := by
      cases reason.category <;> decide
    refine check_bind_ok.mpr ⟨rfl, bind_ok_iff.mpr ⟨_, requireNestedString_str rfl category, ?_⟩⟩
    rw [known]
    refine bind_ok_iff.mpr ⟨_, requireNestedString_str rfl reason.message_nonblank, ?_⟩
    exact bind_ok_iff.mpr ⟨_, StopReason.ofMessage_nonblank (isBlank_strip.trans reason.message_nonblank), rfl⟩

end RunCodec

open RunCodec

/-- The texts of a record are not empty. -/
def RunFields.Filled (record : RunFields) : Prop :=
  ∀ text ∈ [record.ticketId, record.originalTicketPath, record.runTicketCopyPath, record.startingBranch,
    record.baselineSha, record.createdTimestamp, record.updatedTimestamp], text ≠ ""

/-- A record has a run id that is not empty. -/
theorem RunRecord.runId_nonempty (record : RunRecord) : record.runId ≠ "" := by
  intro empty
  have valid := record.valid
  simp only [validateRunFields, check_bind_ok, raiseIf_ok, empty] at valid
  exact absurd valid.1 (by decide)

theorem RunRecord.terminalReason_nonempty (record : RunRecord) : record.terminalReason ≠ some "" := by
  intro empty
  have valid := record.valid
  simp only [validateRunFields, check_bind_ok, raiseIf_ok, not_and, not_not, not_or] at valid
  obtain ⟨_, _, same, none⟩ := valid
  cases stops : record.state.failureStop with
  | false =>
    have absent := (none (by simp [stops])).2
    rw [absent] at empty
    cases empty
  | true =>
    rw [same stops] at empty
    obtain ⟨reason, _, message⟩ := Option.map_eq_some_iff.mp empty
    have nonblank := reason.message_nonblank
    rw [message] at nonblank
    exact absurd nonblank (by decide)

/-- Reading back constructs the record with the stripped stop reason. -/
theorem RunRecord.fromDict_toDict {text : JsonText} (record : RunRecord) (filled : record.Filled)
    (policy : (record.resolvedPolicy.toDict text >>= ResolvedRunPolicy.fromDict text) = .ok record.resolvedPolicy) :
    (record.toDict text >>= RunRecord.fromDict text) =
      reraiseAny [.typeError, .valueError] (fun error => runError ("Invalid run record: " ++ error.message))
        (RunRecord.ofFields { record.toRunFields with stopReason := record.stopReason.map strippedReason }) := by
  obtain ⟨data, written, read⟩ := bind_ok_iff.mp policy
  simp only [RunFields.Filled, List.forall_mem_cons] at filled
  obtain ⟨ticketId, original, copy, branch, baseline, created, updated, _⟩ := filled
  rw [RunRecord.toDict, ok_bind written]
  refine Eq.trans (ok_bind rfl) ?_
  unfold RunRecord.fromDict
  refine Eq.trans (ok_bind rfl) ?_
  refine Eq.trans (ok_bind (a := ()) (raiseIf_ok.mpr (by decide))) ?_
  refine Eq.trans (ok_bind (RunCodec.requireString_str rfl (by decide))) ?_
  refine Eq.trans (ok_bind (a := ()) (raiseIf_ok.mpr (by decide))) ?_
  refine Eq.trans (ok_bind (a := ()) rfl) ?_
  refine congrArg (reraiseAny _ _) ?_
  unfold readFields
  refine Eq.trans (ok_bind (RunCodec.requireString_str rfl record.runId_nonempty)) ?_
  refine Eq.trans (ok_bind (RunCodec.requireString_str rfl ticketId)) ?_
  refine Eq.trans (ok_bind (RunCodec.requireString_str rfl original)) ?_
  refine Eq.trans (ok_bind (RunCodec.requireString_str rfl copy)) ?_
  refine Eq.trans (ok_bind (requireWorkflowState_value rfl)) ?_
  refine Eq.trans (ok_bind (RunCodec.requireString_str rfl branch)) ?_
  refine Eq.trans (ok_bind (RunCodec.requireString_str rfl baseline)) ?_
  refine Eq.trans (ok_bind (requireNonNegativeInt_int rfl)) ?_
  refine Eq.trans (ok_bind (requireNonNegativeInt_int rfl)) ?_
  refine Eq.trans (ok_bind read) ?_
  refine Eq.trans (ok_bind (requireNullableString_option rfl record.terminalReason_nonempty)) ?_
  refine Eq.trans (ok_bind (requireStopReason_encode rfl)) ?_
  refine Eq.trans (ok_bind (RunCodec.requireString_str rfl created)) ?_
  exact ok_bind (RunCodec.requireString_str rfl updated)

/-- A run record is read back as it is exactly when the message of its stop
reason, if it has one, has no surrounding whitespace. Otherwise the terminal
reason differs from the stripped message and the constructor refuses both. -/
theorem run_record_round_trip_iff {text : JsonText} (record : RunRecord) (filled : record.Filled)
    (policy : (record.resolvedPolicy.toDict text >>= ResolvedRunPolicy.fromDict text) = .ok record.resolvedPolicy) :
    (record.toDict text >>= RunRecord.fromDict text) = .ok record ↔
      ∀ reason, record.stopReason = some reason → strip reason.message = reason.message := by
  rw [record.fromDict_toDict filled policy, reraiseAny_ok]
  constructor
  · intro same reason stopped
    have fields := RunRecord.ofFields_ok same
    have reasons : record.stopReason = record.stopReason.map strippedReason := congrArg RunFields.stopReason fields
    rw [stopped, Option.map_some, Option.some.injEq] at reasons
    exact strippedReason_eq_self_iff.mp reasons.symm
  · intro trimmed
    have reasons : record.stopReason.map strippedReason = record.stopReason := by
      cases stopped : record.stopReason with
      | none => rfl
      | some reason =>
        rw [Option.map_some, strippedReason_eq_self_iff.mpr (trimmed reason stopped)]
    rw [reasons]
    exact record.ofFields_self

/-- A run that failed with the given message. -/
def failedRun (message : String) (nonblank : isBlank message = false) : RunRecord where
  runId := "20260101-000000_demo"
  ticketId := "demo"
  originalTicketPath := "/tickets/demo.md"
  runTicketCopyPath := "/runs/20260101-000000_demo/ticket.md"
  state := .failed
  startingBranch := "feature"
  baselineSha := "0000000000000000000000000000000000000000"
  currentCorrectionRound := 0
  currentReviewRound := 0
  resolvedPolicy := examplePolicy
  terminalReason := some message
  stopReason := some ⟨.controllerFailure, message, false, nonblank⟩
  createdTimestamp := "2026-01-01T00:00:00Z"
  updatedTimestamp := "2026-01-01T00:00:01Z"
  valid := by
    have runId : validRunId "20260101-000000_demo" = true := by decide
    simp [validateRunFields, runId, WorkflowState.failureStop]

/-- The failed run has every field the reader asks for. -/
theorem failedRun_filled {message : String} {nonblank : isBlank message = false} :
    (failedRun message nonblank).Filled := by
  simp [RunFields.Filled, failedRun]

theorem run_record_round_trip_iff_example :
    ((failedRun "boom" (by decide)).toDict nullText >>= RunRecord.fromDict nullText) =
        .ok (failedRun "boom" (by decide)) ↔
      ∀ reason, (failedRun "boom" (by decide)).stopReason = some reason →
        strip reason.message = reason.message :=
  run_record_round_trip_iff _ failedRun_filled examplePolicy_round_trip

/-- An exception whose text ends in a line feed leaves a record that cannot be
loaded again. -/
theorem padded_message_unreadable :
    ((failedRun "boom\n" (by decide)).toDict nullText >>= RunRecord.fromDict nullText) =
      .error ⟨.runError, "Invalid run record: Terminal reason must exactly match stop_reason.message."⟩ := by
  rw [RunRecord.fromDict_toDict _ failedRun_filled examplePolicy_round_trip]
  have refused : validateRunFields
      { (failedRun "boom\n" (by decide)).toRunFields with
        stopReason := (failedRun "boom\n" (by decide)).stopReason.map strippedReason } =
      .error ⟨.valueError, "Terminal reason must exactly match stop_reason.message."⟩ := by
    decide +kernel
  rw [RunRecord.ofFields_error refused]
  rfl

end SprintTicket
