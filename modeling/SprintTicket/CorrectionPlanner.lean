import SprintTicket.Verification.Round

/-!
# Correction planning

`planPendingCorrection` derives the causes of a correction from the ledger: from
the failures of the latest completed verification, or else from the latest
completed review. It is not told which of the two asked for the correction.
-/

set_option autoImplicit false

namespace SprintTicket

open Checks

def correctionError (message : String) : Raised := ⟨.correctionError, message⟩

@[ext]
structure VerificationCorrectionCause where
  gateName : String
  command : List String
  failureSummary : String
  stdoutExcerpt : String
  stderrExcerpt : String
  exitCode : Option Int
  resultPath : String
  gate_nonblank : isBlank gateName = false
  command_nonempty : command ≠ [] ∧ "" ∉ command
  summary_nonblank : isBlank failureSummary = false

instance : DecidableEq VerificationCorrectionCause := fun _ _ => decidable_of_iff _ VerificationCorrectionCause.ext_iff.symm

inductive ReviewCorrectionScope
  | ticket | implementation
deriving DecidableEq, Repr

/-- `ReviewCorrectionScope(value)`. -/
def ReviewCorrectionScope.ofRelation : FindingScopeRelation → Except Raised ReviewCorrectionScope
  | .ticket => .ok .ticket
  | .implementation => .ok .implementation
  | relation => .error ⟨.valueError, "'" ++ relation.value ++ "' is not a valid ReviewCorrectionScope"⟩

@[ext]
structure ReviewCorrectionCause where
  findingId : String
  summary : String
  details : String
  evidence : String
  requiredChange : String
  acceptanceCriteria : List String
  scopeRelation : ReviewCorrectionScope
  texts_nonblank : ∀ text ∈ [findingId, summary, details, evidence, requiredChange] ++ acceptanceCriteria,
    isBlank text = false
  criteria_nonempty : acceptanceCriteria ≠ []

instance : DecidableEq ReviewCorrectionCause := fun _ _ => decidable_of_iff _ ReviewCorrectionCause.ext_iff.symm

inductive CorrectionCause
  | verification (cause : VerificationCorrectionCause)
  | review (cause : ReviewCorrectionCause)
deriving DecidableEq

def CorrectionCause.fromVerification : CorrectionCause → Bool
  | .verification _ => true
  | .review _ => false

/-- `CorrectionCauseSet`: at least one cause, and all from one source. -/
structure CorrectionCauseSet where
  causes : List CorrectionCause
  nonempty : causes ≠ []
  oneSource : ∃ source, ∀ cause ∈ causes, cause.fromVerification = source
deriving DecidableEq

/-- The constructor of `CorrectionCauseSet`. -/
def CorrectionCauseSet.ofCauses (causes : List CorrectionCause) : Except Raised CorrectionCauseSet :=
  if hn : causes ≠ [] then
    if hs : ∃ source, ∀ cause ∈ causes, cause.fromVerification = source then .ok ⟨causes, hn, hs⟩
    else .error (correctionError "Correction causes must come from one source type per correction round.")
  else .error (correctionError "Correction requires at least one eligible cause.")

/-- Causes of one source form a set. -/
theorem CorrectionCauseSet.ofCauses_uniform {causes : List CorrectionCause} (nonempty : causes ≠ [])
    {source : Bool} (uniform : ∀ cause ∈ causes, cause.fromVerification = source) :
    CorrectionCauseSet.ofCauses causes = .ok ⟨causes, nonempty, source, uniform⟩ := by
  have oneSource : ∃ source, ∀ cause ∈ causes, cause.fromVerification = source := ⟨source, uniform⟩
  rw [CorrectionCauseSet.ofCauses, dif_pos nonempty, dif_pos oneSource]

namespace FailureCodec

/-- The error of a field of the failure evidence. -/
def failureError (text : String) : Raised := ⟨.verificationError, "verification failure " ++ text⟩

/-- A text that is not blank. -/
def requireFilled (data : List (String × Json)) (key text : String) : Except Raised String :=
  match Json.get data key with
  | .str value => if isBlank value then .error (failureError text) else .ok value
  | _ => .error (failureError text)

/-- The items of the command. -/
def requireCommand : List Json → Except Raised (List String)
  | [] => .ok []
  | .str item :: rest => do
    let items ← requireCommand rest
    pure (item :: items)
  | _ :: _ => .error (failureError "command must be a non-empty string tuple.")

def requireExcerpt (data : List (String × Json)) (key : String) : Except Raised String :=
  match Json.get data key with
  | .str value => .ok value
  | _ => .error (failureError "excerpts must be strings.")

def requireExitCode (data : List (String × Json)) : Except Raised (Option Int) :=
  match Json.get data "exit_code" with
  | .null => .ok none
  | .int code => .ok (some code)
  | _ => .error (failureError "exit_code must be an integer or null.")

def fields : List String :=
  ["kind", "gate_name", "command", "failure_summary", "stdout_excerpt", "stderr_excerpt", "exit_code", "result_path"]

/-- The field names, first the missing ones. -/
def requireFields (data : List (String × Json)) : Except Raised Unit := do
  let actual := data.map Prod.fst
  let missing := fields.filter fun key => !actual.contains key
  let extra := actual.filter fun key => !fields.contains key
  raiseIf (missing ≠ []) (failureError ("evidence is missing fields: " ++
    ", ".intercalate (missing.insertionSort (· ≤ ·)) ++ "."))
  raiseIf (extra ≠ []) (failureError ("evidence contains unsupported fields: " ++
    ", ".intercalate (extra.insertionSort (· ≤ ·)) ++ "."))

end FailureCodec

open FailureCodec in
/-- `VerificationFailure.from_dict`. -/
def VerificationFailure.fromDict (value : Json) : Except Raised VerificationFailure := do
  match value with
  | .obj data =>
    requireFields data
    raiseIf ((Json.get data "kind").pyEq (.str "VerificationFailure") = false)
      (failureError "evidence has an unsupported kind.")
    match Json.get data "command" with
    | .arr items =>
      let resultPath ← requireFilled data "result_path" "evidence result_path must be non-empty."
      let gateName ← requireFilled data "gate_name" "gate_name must be non-empty."
      let command ← requireCommand items
      raiseIf (command = [] ∨ "" ∈ command) (failureError "command must be a non-empty string tuple.")
      let summary ← requireFilled data "failure_summary" "failure_summary must be non-empty."
      let stdout ← requireExcerpt data "stdout_excerpt"
      let stderr ← requireExcerpt data "stderr_excerpt"
      let exitCode ← requireExitCode data
      VerificationFailure.ofFields gateName command summary stdout stderr exitCode (pathString resultPath)
    | _ => .error (failureError "evidence command must be an array.")
  | _ => .error (failureError "evidence must be an object.")

/-- The loop over the correction reasons. -/
def decodeFailures (index : Nat) : List Json → Except Raised (List VerificationFailure)
  | [] => .ok []
  | item :: rest => do
    let failure ← reraise .verificationError
      (fun error => ⟨.persistenceCodecError,
        "verification correction reason " ++ toString index ++ " is invalid: " ++ error.message⟩)
      (VerificationFailure.fromDict item)
    let failures ← decodeFailures (index + 1) rest
    pure (failure :: failures)

/-- `VerificationStatus(value)`. -/
def verificationStatusOf (value : Json) : Option VerificationStatus :=
  [VerificationStatus.pass, .fail, .error].find? fun status => value.pyEq (.str status.value)

/-- `read_verification_failures`. -/
def readVerificationFailures (directory : RunDirectory) (attempt : AttemptRecord) :
    Except Raised (List VerificationFailure) := do
  match ← readAttemptResultValue directory attempt with
  | .null => pure []
  | .obj data =>
    match verificationStatusOf (Json.get data "status") with
    | none => .error ⟨.persistenceCodecError, "verification result status is unsupported."⟩
    | some .fail =>
      match Json.get data "correction_reasons" with
      | .arr (item :: rest) => decodeFailures 1 (item :: rest)
      | _ => .error ⟨.persistenceCodecError, "failed verification evidence must contain correction reasons."⟩
    | some _ => pure []
  | _ => .error ⟨.persistenceCodecError, "verification result must be an object."⟩

/-- The cause of one failure. -/
def VerificationFailure.cause (failure : VerificationFailure) : VerificationCorrectionCause where
  gateName := failure.gateName
  command := failure.command
  failureSummary := failure.failureSummary
  stdoutExcerpt := failure.stdoutExcerpt
  stderrExcerpt := failure.stderrExcerpt
  exitCode := failure.exitCode
  resultPath := failure.resultPath
  gate_nonblank := failure.gate_nonblank
  command_nonempty := failure.command_nonempty
  summary_nonblank := failure.summary_nonblank

/-- `plan_verification_correction`. -/
def planVerificationCorrection (failures : List VerificationFailure) : Except Raised CorrectionCauseSet := do
  raiseIf (failures = []) (correctionError "Verification correction requires at least one failure.")
  CorrectionCauseSet.ofCauses (failures.map fun failure => .verification failure.cause)

/-- `correction_eligible`. -/
def ReviewFinding.correctionEligible (finding : ReviewFinding) : Bool :=
  finding.disposition = .required && (finding.scopeRelation = .ticket || finding.scopeRelation = .implementation)

/-- `required_findings`. -/
def ReviewResult.requiredFindings (result : ReviewResult) : List ReviewFinding :=
  result.findings.filter fun finding => finding.disposition = .required

/-- The cause of one finding. -/
def ReviewFinding.cause (finding : ReviewFinding) : Except Raised ReviewCorrectionCause := do
  let scopeRelation ← ReviewCorrectionScope.ofRelation finding.scopeRelation
  pure
    { findingId := finding.id, summary := finding.title, details := finding.description
      evidence := finding.evidence, requiredChange := finding.requiredChange
      acceptanceCriteria := finding.acceptanceCriteria, scopeRelation
      texts_nonblank := finding.texts_nonblank, criteria_nonempty := finding.criteria_nonempty }

/-- `plan_review_correction`. -/
def planReviewCorrection (result : ReviewResult) : Except Raised CorrectionCauseSet := do
  raiseIf (result.verdict ≠ .correctionsRequired)
    (correctionError "Review correction requires a CORRECTIONS_REQUIRED result.")
  let eligible := result.requiredFindings.filter ReviewFinding.correctionEligible
  raiseIf (eligible.length ≠ result.requiredFindings.length)
    (correctionError ("Review correction contains findings that are not eligible for " ++ "automatic correction."))
  let causes ← eligible.mapM ReviewFinding.cause
  CorrectionCauseSet.ofCauses (causes.map .review)

/-- The completed attempt of a phase with the largest sequence. -/
def latestCompleted (ledger : AttemptLedger) (phase : AttemptPhase) : Option AttemptRecord :=
  latestAttempt (fun candidate => candidate = phase) (fun status => status = .completed) ledger.records

/-- `_load_latest_verification_failures`. -/
def loadLatestVerificationFailures (directory : RunDirectory) : Except Raised (List VerificationFailure) := do
  let ledger ← directory.ledger
  match latestCompleted ledger .verifying with
  | none => pure []
  | some attempt =>
    reraise .persistenceCodecError
      (fun error => correctionError ("Verification correction source is invalid: " ++ error.message))
      (readVerificationFailures directory attempt)

/-- `_load_latest_review_result`. -/
def loadLatestReviewResult (directory : RunDirectory) : Except Raised (Option ReviewResult) := do
  let ledger ← directory.ledger
  match latestCompleted ledger .reviewing with
  | none => pure none
  | some attempt =>
    reraise .persistenceCodecError
      (fun error => correctionError ("Review correction source is invalid: " ++ error.message))
      (readReviewResult directory attempt)

/-- `plan_pending_correction`; `owned` answers its ownership checks. -/
def planPendingCorrection (owned : Except Raised Unit) (directory : RunDirectory) :
    Except Raised CorrectionCauseSet := do
  owned
  let failures ← loadLatestVerificationFailures directory
  if failures ≠ [] then do
    let plan ← planVerificationCorrection failures
    owned
    pure plan
  else do
    match ← loadLatestReviewResult directory with
    | some result => do
      let plan ← planReviewCorrection result
      owned
      pure plan
    | none => .error (correctionError ("Run is in CORRECTING state but no verification failures or REQUIRED " ++
        "review findings were found."))

/-- The result path is the text of a `Path`. -/
structure ResultPathText (path : String) : Prop where
  normal : pathString path = path
  nonblank : isBlank path = false

namespace FailureCodec

/-- The readers accept what the encoder wrote, one lemma each. -/
theorem requireFilled_str {data : List (String × Json)} {key text value : String}
    (found : Json.get data key = .str value) (nonblank : isBlank value = false) :
    requireFilled data key text = .ok value := by
  unfold requireFilled
  rw [found]
  simp [nonblank]

theorem requireCommand_strs (items : List String) : requireCommand (items.map .str) = .ok items := by
  induction items with
  | nil => rfl
  | cons item rest ih => exact bind_ok_iff.mpr ⟨rest, ih, rfl⟩

theorem requireExcerpt_str {data : List (String × Json)} {key value : String}
    (found : Json.get data key = .str value) : requireExcerpt data key = .ok value := by
  unfold requireExcerpt
  rw [found]

theorem requireExitCode_option {data : List (String × Json)} {code : Option Int}
    (found : Json.get data "exit_code" = .ofOptional .int code) : requireExitCode data = .ok code := by
  unfold requireExitCode
  rw [found]
  cases code <;> rfl

end FailureCodec

open FailureCodec

/-- A failure passes its own constructor again. -/
theorem VerificationFailure.ofFields_self (failure : VerificationFailure) :
    VerificationFailure.ofFields failure.gateName failure.command failure.failureSummary failure.stdoutExcerpt
      failure.stderrExcerpt failure.exitCode failure.resultPath = .ok failure := by
  rw [VerificationFailure.ofFields, dif_pos failure.gate_nonblank, dif_pos failure.command_nonempty,
    dif_pos failure.summary_nonblank]

/-- A failure is read back as it was written. -/
theorem VerificationFailure.fromDict_encode {failure : VerificationFailure}
    (path : ResultPathText failure.resultPath) :
    VerificationFailure.fromDict (encodeFailure failure) = .ok failure := by
  have command : ¬(failure.command = [] ∨ "" ∈ failure.command) :=
    not_or.mpr failure.command_nonempty
  refine check_bind_ok.mpr ⟨rfl, check_bind_ok.mpr ⟨rfl, ?_⟩⟩
  refine Eq.trans (ok_bind (requireFilled_str rfl path.nonblank)) ?_
  refine Eq.trans (ok_bind (requireFilled_str rfl failure.gate_nonblank)) ?_
  refine Eq.trans (ok_bind (requireCommand_strs failure.command)) ?_
  refine check_bind_ok.mpr ⟨raiseIf_ok.mpr command, ?_⟩
  refine Eq.trans (ok_bind (requireFilled_str rfl failure.summary_nonblank)) ?_
  refine Eq.trans (ok_bind (requireExcerpt_str rfl)) ?_
  refine Eq.trans (ok_bind (requireExcerpt_str rfl)) ?_
  refine Eq.trans (ok_bind (requireExitCode_option rfl)) ?_
  rw [path.normal]
  exact failure.ofFields_self

/-- The failures of a round are read back when their paths are texts the reader takes. -/
theorem decodeFailures_encode {failures : List VerificationFailure} (index : Nat)
    (paths : ∀ failure ∈ failures, ResultPathText failure.resultPath) :
    decodeFailures index (failures.map encodeFailure) = .ok failures := by
  induction failures generalizing index with
  | nil => rfl
  | cons failure rest ih =>
    have first := VerificationFailure.fromDict_encode (paths failure List.mem_cons_self)
    have later := ih (index + 1) fun item member => paths item (List.mem_cons_of_mem failure member)
    exact bind_ok_iff.mpr ⟨failure, reraise_ok.mpr first, bind_ok_iff.mpr ⟨rest, later, rfl⟩⟩

theorem verificationStatusOf_value (status : VerificationStatus) :
    verificationStatusOf (.str status.value) = some status := by
  cases status <;> decide

/-- The failures of a round, read from its artifact: none unless the round failed. -/
theorem readVerificationFailures_round {directory : RunDirectory} {attempt : AttemptRecord}
    {round : VerificationRound} (confined : directory.confined attempt.sequence = .ok ())
    (written : directory.resultFile attempt.sequence = .json (.obj (encodeRound round)))
    (paths : ∀ failure ∈ round.failures, ResultPathText failure.resultPath)
    (failed : round.status = .fail → round.failures ≠ []) :
    readVerificationFailures directory attempt =
      .ok (if round.status = .fail then round.failures else []) := by
  have read : readAttemptResultValue directory attempt = .ok (.obj (encodeRound round)) := by
    refine check_bind_ok.mpr ⟨confined, ?_⟩
    rw [written]
    rfl
  refine Eq.trans (ok_bind read) ?_
  dsimp only
  rw [show Json.get (encodeRound round) "status" = .str round.status.value from rfl,
    verificationStatusOf_value]
  cases status : round.status with
  | pass => rfl
  | error => rfl
  | fail =>
    have reasons : Json.get (encodeRound round) "correction_reasons" =
        .arr (round.failures.map encodeFailure) := rfl
    rw [if_pos rfl]
    dsimp only
    rw [reasons]
    cases failures : round.failures with
    | nil => exact absurd failures (failed status)
    | cons failure rest =>
      have decoded := decodeFailures_encode 1 paths
      rw [failures] at decoded
      exact decoded

/-- Causes of both kinds. -/
theorem planVerificationCorrection_ok {failures : List VerificationFailure} (nonempty : failures ≠ []) :
    ∃ plan, planVerificationCorrection failures = .ok plan ∧
      plan.causes = failures.map fun failure => .verification failure.cause := by
  have uniform : ∀ cause ∈ failures.map fun failure => CorrectionCause.verification failure.cause,
      cause.fromVerification = true := by
    intro cause member
    obtain ⟨failure, _, rfl⟩ := List.mem_map.mp member
    rfl
  have some : (failures.map fun failure => CorrectionCause.verification failure.cause) ≠ [] := by
    simpa using nonempty
  exact ⟨_, check_bind_ok.mpr ⟨raiseIf_ok.mpr nonempty, CorrectionCauseSet.ofCauses_uniform some uniform⟩, rfl⟩

/-- The cause made of one required finding. -/
structure FindingCause (finding : ReviewFinding) (cause : CorrectionCause) : Prop where
  made : ∃ planned, finding.cause = .ok planned ∧ cause = .review planned

/-- A finding that may be corrected has a cause. -/
theorem ReviewFinding.cause_eligible {finding : ReviewFinding} (eligible : finding.correctionEligible = true) :
    ∃ cause, finding.cause = .ok cause := by
  obtain ⟨_, scope⟩ : finding.disposition = .required ∧
      (finding.scopeRelation = .ticket ∨ finding.scopeRelation = .implementation) := by
    simpa [ReviewFinding.correctionEligible] using eligible
  unfold ReviewFinding.cause
  rcases scope with scope | scope <;> rw [scope] <;> exact ⟨_, rfl⟩

theorem mapM_cause {findings : List ReviewFinding}
    (eligible : ∀ finding ∈ findings, finding.correctionEligible = true) :
    ∃ causes, findings.mapM ReviewFinding.cause = .ok causes ∧
      List.Forall₂ FindingCause findings (causes.map .review) := by
  induction findings with
  | nil => exact ⟨[], rfl, .nil⟩
  | cons finding rest ih =>
    obtain ⟨cause, made⟩ := ReviewFinding.cause_eligible (eligible finding List.mem_cons_self)
    obtain ⟨causes, mapped, related⟩ := ih fun item member => eligible item (List.mem_cons_of_mem finding member)
    refine ⟨cause :: causes, ?_, .cons ⟨cause, made, rfl⟩ related⟩
    rw [List.mapM_cons]
    exact bind_ok_iff.mpr ⟨cause, made, bind_ok_iff.mpr ⟨causes, mapped, rfl⟩⟩

/-- `_finish_valid_review_result`: the outcome and the message of a valid review. -/
def validReviewOutcome (result : ReviewResult) : StageOutcome × String :=
  match result.verdict with
  | .pass => (.completed, "Review passed; final report can start.")
  | .correctionsRequired =>
    let eligible := result.requiredFindings.filter ReviewFinding.correctionEligible
    if eligible.length = result.requiredFindings.length then
      (.correctionRequired, "Review found correction-eligible required findings.")
    else if eligible = [] then
      (.humanRequired, "Review found REQUIRED findings, but none are safely eligible for " ++
        "automatic correction.")
    else
      (.humanRequired, "Review contains REQUIRED findings that are not safely eligible " ++
        "for automatic correction.")
  | .humanReviewRequired => (.humanRequired, "Review requires human attention.")

/-- A review asks for a correction exactly when every required finding is eligible. -/
theorem validReviewOutcome_correction {result : ReviewResult} :
    (validReviewOutcome result).1 = .correctionRequired ↔
      result.verdict = .correctionsRequired ∧
        result.requiredFindings.filter ReviewFinding.correctionEligible = result.requiredFindings := by
  unfold validReviewOutcome
  cases result.verdict with
  | pass => simp
  | humanReviewRequired => simp
  | correctionsRequired =>
    have all : (result.requiredFindings.filter ReviewFinding.correctionEligible).length =
        result.requiredFindings.length ↔
        result.requiredFindings.filter ReviewFinding.correctionEligible = result.requiredFindings :=
      ⟨List.filter_sublist.eq_of_length, congrArg List.length⟩
    dsimp only
    split
    · rename_i same
      simp [all.mp same]
    · rename_i differ
      have other : ¬result.requiredFindings.filter ReviewFinding.correctionEligible = result.requiredFindings :=
        fun same => differ (all.mpr same)
      split <;> simp only [reduceCtorEq, other, and_false]

/-- The planner accepts every review for which the review stage asks for a
correction, and makes one cause of each required finding. -/
theorem planReviewCorrection_ok {result : ReviewResult}
    (requested : (validReviewOutcome result).1 = .correctionRequired) :
    ∃ plan, planReviewCorrection result = .ok plan ∧
      List.Forall₂ FindingCause result.requiredFindings plan.causes := by
  obtain ⟨verdict, all⟩ := validReviewOutcome_correction.mp requested
  have eligible : ∀ finding ∈ result.requiredFindings, finding.correctionEligible = true := by
    intro finding member
    rw [← all] at member
    exact (List.mem_filter.mp member).2
  obtain ⟨causes, mapped, related⟩ := mapM_cause eligible
  have found : result.requiredFindings ≠ [] := by
    have consistent := result.consistent
    rw [verdict] at consistent
    obtain ⟨finding, member, required⟩ := consistent
    have listed : finding ∈ result.requiredFindings := List.mem_filter.mpr ⟨member, by simp [required]⟩
    exact List.ne_nil_of_mem listed
  have nonempty : causes.map CorrectionCause.review ≠ [] := by
    intro empty
    rw [empty] at related
    exact found (List.forall₂_nil_right_iff.mp related)
  have uniform : ∀ cause ∈ causes.map CorrectionCause.review, cause.fromVerification = false := by
    intro cause member
    obtain ⟨planned, _, rfl⟩ := List.mem_map.mp member
    rfl
  refine ⟨⟨causes.map .review, nonempty, false, uniform⟩, ?_, related⟩
  refine check_bind_ok.mpr ⟨raiseIf_ok.mpr (by simp [verdict]), check_bind_ok.mpr ⟨raiseIf_ok.mpr ?_, ?_⟩⟩
  · simp [all]
  · rw [all]
    exact bind_ok_iff.mpr ⟨causes, mapped, CorrectionCauseSet.ofCauses_uniform nonempty uniform⟩

/-! ## Agreement with the stage that asked -/

/-- The cause made of one failed command. -/
structure CommandCause (printable : Char → Bool) (resultPath : String) (command : VerificationCommandResult)
    (cause : CorrectionCause) : Prop where
  made : ∃ failure, verificationFailure printable resultPath command = .ok failure ∧
    cause = .verification failure.cause

/-- The failures of a round are its failed commands. -/
structure RoundFailures (printable : Char → Bool) (resultPath : String) (round : VerificationRound) : Prop where
  path : ResultPathText resultPath
  listed : verificationFailures printable resultPath round.commands = .ok round.failures
  status : round.status = roundStatus round.commands round.safetyViolations

/-- The failures follow the failed commands, in their order. -/
theorem verificationFailures_related {printable : Char → Bool} {resultPath : String}
    {commands : List VerificationCommandResult} {failures : List VerificationFailure}
    (h : commands.mapM (verificationFailure printable resultPath) = .ok failures) :
    List.Forall₂ (CommandCause printable resultPath) commands
      (failures.map fun failure => .verification failure.cause) ∧
      ∀ failure ∈ failures, failure.resultPath = resultPath := by
  induction commands generalizing failures with
  | nil =>
    cases h
    exact ⟨.nil, by simp⟩
  | cons command rest ih =>
    rw [List.mapM_cons] at h
    obtain ⟨failure, made, h⟩ := bind_ok_iff.mp h
    obtain ⟨others, mapped, h⟩ := bind_ok_iff.mp h
    cases h
    obtain ⟨related, paths⟩ := ih mapped
    have own : failure.resultPath = resultPath := by
      unfold verificationFailure VerificationFailure.ofFields at made
      split at made
      · split at made
        · split at made
          · cases made
            rfl
          · cases made
        · cases made
      · cases made
    refine ⟨.cons ⟨failure, made, rfl⟩ related, fun item member => ?_⟩
    rcases List.mem_cons.mp member with rfl | later
    · exact own
    · exact paths item later

/-- A round that failed has a failure to name. -/
theorem RoundFailures.nonempty {printable : Char → Bool} {resultPath : String} {round : VerificationRound}
    (failures : RoundFailures printable resultPath round) (status : round.status = .fail) :
    round.failures ≠ [] := by
  intro empty
  obtain ⟨related, _⟩ := verificationFailures_related failures.listed
  rw [empty] at related
  have none := List.forall₂_nil_right_iff.mp related
  rw [failures.status, roundStatus] at status
  split at status
  · cases status
  · split at status
    · rename_i any
      obtain ⟨command, member, failed⟩ := List.any_eq_true.mp any
      have listed := List.mem_filter.mpr ⟨member, failed⟩
      rw [none] at listed
      cases listed
    · cases status

/-- Status and outcome of a round agree on whether a correction is due. -/
theorem finishOutcome_correction {round : VerificationRound}
    (status : round.status = roundStatus round.commands round.safetyViolations) :
    (finishOutcome round false).1 = .correctionRequired ↔ round.status = .fail := by
  rw [status, finishOutcome, roundStatus]
  split
  · simp
  · rw [if_neg (by simp)]
    split
    · simp
    · simp

/-- A round completes its stage exactly when it passed. -/
theorem finishOutcome_completed {round : VerificationRound}
    (status : round.status = roundStatus round.commands round.safetyViolations) :
    (finishOutcome round false).1 = .completed ↔ round.status = .pass := by
  rw [status, finishOutcome, roundStatus]
  split
  · simp
  · rw [if_neg (by simp)]
    split
    · simp
    · simp

section Pending

variable {owned : Except Raised Unit} {directory : RunDirectory} {ledger : AttemptLedger}
  {verified reviewed : AttemptRecord} {printable : Char → Bool} {resultPath : String} {round : VerificationRound}

/-- What the planner reads of the latest completed verification. -/
theorem loadLatestVerificationFailures_round (loaded : directory.ledger = .ok ledger)
    (latest : latestCompleted ledger .verifying = some verified)
    (confined : directory.confined verified.sequence = .ok ())
    (written : directory.resultFile verified.sequence = .json (.obj (encodeRound round)))
    (failures : RoundFailures printable resultPath round) :
    loadLatestVerificationFailures directory = .ok (if round.status = .fail then round.failures else []) := by
  obtain ⟨_, paths⟩ := verificationFailures_related failures.listed
  refine bind_ok_iff.mpr ⟨ledger, loaded, ?_⟩
  rw [latest]
  refine reraise_ok.mpr (readVerificationFailures_round confined written (fun failure member => ?_)
    failures.nonempty)
  rw [paths failure member]
  exact failures.path

/-- When verification asked, each failed command of its latest round is a cause. -/
theorem planPendingCorrection_verification (unlost : owned = .ok ()) (loaded : directory.ledger = .ok ledger)
    (latest : latestCompleted ledger .verifying = some verified)
    (confined : directory.confined verified.sequence = .ok ())
    (written : directory.resultFile verified.sequence = .json (.obj (encodeRound round)))
    (failures : RoundFailures printable resultPath round)
    (requested : (finishOutcome round false).1 = .correctionRequired) :
    ∃ plan, planPendingCorrection owned directory = .ok plan ∧
      List.Forall₂ (CommandCause printable resultPath)
        (round.commands.filter VerificationCommandResult.failed) plan.causes := by
  have status := (finishOutcome_correction failures.status).mp requested
  have read := loadLatestVerificationFailures_round loaded latest confined written failures
  rw [if_pos status] at read
  obtain ⟨related, _⟩ := verificationFailures_related failures.listed
  have nonempty := failures.nonempty status
  obtain ⟨plan, planned, causes⟩ := planVerificationCorrection_ok nonempty
  refine ⟨plan, ?_, ?_⟩
  · refine check_bind_ok.mpr ⟨unlost, bind_ok_iff.mpr ⟨_, read, ?_⟩⟩
    rw [if_pos nonempty]
    exact bind_ok_iff.mpr ⟨plan, planned, check_bind_ok.mpr ⟨unlost, rfl⟩⟩
  · rw [causes]
    exact related

/-- When the review asked, each required finding of the latest review is a cause. -/
theorem planPendingCorrection_review {result : ReviewResult} (unlost : owned = .ok ())
    (loaded : directory.ledger = .ok ledger)
    (latest : latestCompleted ledger .verifying = some verified)
    (confined : directory.confined verified.sequence = .ok ())
    (written : directory.resultFile verified.sequence = .json (.obj (encodeRound round)))
    (failures : RoundFailures printable resultPath round) (passed : (finishOutcome round false).1 = .completed)
    (latestReview : latestCompleted ledger .reviewing = some reviewed)
    (confinedReview : directory.confined reviewed.sequence = .ok ())
    (writtenReview : directory.resultFile reviewed.sequence = .json (encodeReviewResult result))
    (requested : (validReviewOutcome result).1 = .correctionRequired) :
    ∃ plan, planPendingCorrection owned directory = .ok plan ∧
      List.Forall₂ FindingCause result.requiredFindings plan.causes := by
  have status := (finishOutcome_completed failures.status).mp passed
  have read := loadLatestVerificationFailures_round loaded latest confined written failures
  rw [if_neg (by simp [status])] at read
  have decoded : readReviewResult directory reviewed = .ok (some result) := by
    have value : readAttemptResultValue directory reviewed = .ok (encodeReviewResult result) := by
      refine check_bind_ok.mpr ⟨confinedReview, ?_⟩
      rw [writtenReview]
      rfl
    refine Eq.trans (ok_bind value) ?_
    exact bind_ok_iff.mpr ⟨result, reraise_ok.mpr (decodeReviewResult_encode result), rfl⟩
  have review : loadLatestReviewResult directory = .ok (some result) := by
    refine bind_ok_iff.mpr ⟨ledger, loaded, ?_⟩
    rw [latestReview]
    exact reraise_ok.mpr decoded
  obtain ⟨plan, planned, related⟩ := planReviewCorrection_ok requested
  refine ⟨plan, check_bind_ok.mpr ⟨unlost, bind_ok_iff.mpr ⟨_, read, ?_⟩⟩, related⟩
  rw [if_neg (by simp)]
  exact bind_ok_iff.mpr ⟨_, review, bind_ok_iff.mpr ⟨plan, planned, check_bind_ok.mpr ⟨unlost, rfl⟩⟩⟩

end Pending

end SprintTicket
