import SprintTicket.Lifecycle.Sessions

/-!
# The correction that is pending

The planner finds out from the ledger which stage asked for a correction. In every
state of a run this is the stage that did ask: a review follows a verification that
passed, and nothing that is verified or reviewed later comes before the correction.
-/

set_option autoImplicit false

namespace SprintTicket

open Checks Effects Effects.Effect Latest

/-- The latest completed verification is one of the current round with this outcome. -/
def Verified (printable : Char → Bool) (store : RunStore) (outcome : StageOutcome) : Prop :=
  ∃ verified round resultPath, latestCompleted store.ledger .verifying = some verified ∧
    store.resultFile verified.sequence = .json (.obj (encodeRound round)) ∧
    RoundFailures printable resultPath round ∧ round.roundIndex = store.record.currentCorrectionRound ∧
    (finishOutcome round false).1 = outcome

/-- The latest completed review has this outcome. -/
def Reviewed (store : RunStore) (outcome : StageOutcome) : Prop :=
  ∃ reviewed result, latestCompleted store.ledger .reviewing = some reviewed ∧
    store.resultFile reviewed.sequence = .json (encodeReviewResult result) ∧ (validReviewOutcome result).1 = outcome

/-- The stage of this state asked for a correction, as far as the ledger tells. -/
inductive CorrectionAsked (printable : Char → Bool) (store : RunStore) : WorkflowState → Prop
  | verification (failed : Verified printable store .correctionRequired) : CorrectionAsked printable store .verifying
  | review (passed : Verified printable store .completed) (found : Reviewed store .correctionRequired) :
    CorrectionAsked printable store .reviewing

/-- The save of this event moves the run to CORRECTION_PENDING. -/
def DriveEvent.asks : DriveEvent → Option Save
  | .saved save => if save.after.state = .correctionPending then some save else none
  | _ => none

/-- The save that asked for a correction last. -/
def askingSave (events : List DriveEvent) : Option Save := (events.filterMap DriveEvent.asks).getLast?

/-- The save asked for the correction of this round, and this attempt was the last one
then. Only corrections were attempted after it. -/
structure AskedBy (store : RunStore) (save : Save) (attempt : AttemptRecord) : Prop where
  asking : askingSave store.events = some save
  round : save.after.currentCorrectionRound = store.record.currentCorrectionRound
  phase : phaseForActiveState save.before.state = some attempt.phase
  completed : attempt.status = .completed
  last : ∃ earlier, save.ledger.records = earlier ++ [attempt]
  later : ∃ later, store.ledger.records = save.ledger.records ++ later ∧ ∀ item ∈ later, item.phase = .correcting

/-- The ledger agrees with the state of the run. -/
structure Planned (printable : Char → Bool) (store : RunStore) : Prop where
  reviewing : store.record.state = .reviewing → Verified printable store .completed
  asked : store.record.state = .correctionPending ∨ store.record.state = .correcting →
    ∃ save attempt, AskedBy store save attempt ∧ CorrectionAsked printable store save.before.state

section Steps

variable {printable : Char → Bool} {store t : RunStore} {outcome : StageOutcome} {phase : AttemptPhase}

/-- A dispatch alone asks for no correction. -/
theorem DispatchLog.asksNothing {record : RunRecord} {log : List DriveEvent} (logged : DispatchLog record log) :
    log.filterMap DriveEvent.asks = [] := by
  cases logged <;> rfl

/-- So the save that asked stays the last one that did. -/
theorem askingSave_append {events log : List DriveEvent} (quiet : log.filterMap DriveEvent.asks = []) :
    askingSave (events ++ log) = askingSave events := by
  rw [askingSave, List.filterMap_append, quiet, List.append_nil]
  rfl

/-- A save asks when it leads to CORRECTION_PENDING. -/
theorem askingSave_saved {events : List DriveEvent} {save : Save} :
    askingSave (events ++ [.saved save]) =
      if save.after.state = .correctionPending then some save else askingSave events := by
  unfold askingSave
  split
  · rename_i pending
    simp [List.filterMap_append, DriveEvent.asks, pending]
  · rename_i other
    simp [List.filterMap_append, DriveEvent.asks, other]

/-- The ledger has the same latest completed attempt of a phase, with its result. -/
def SameLatest (phase : AttemptPhase) (store t : RunStore) : Prop :=
  latestCompleted t.ledger phase = latestCompleted store.ledger phase ∧
    ∀ attempt, latestCompleted store.ledger phase = some attempt →
      t.resultFile attempt.sequence = store.resultFile attempt.sequence

theorem latestCompleted_member {ledger : AttemptLedger} {attempt : AttemptRecord}
    (found : latestCompleted ledger phase = some attempt) : attempt ∈ ledger.records :=
  (latest_some found).1

/-- A verification stays the latest while no other completes and the round is the same. -/
theorem Verified.kept (verified : Verified printable store outcome) (same : SameLatest .verifying store t)
    (round : t.record.currentCorrectionRound = store.record.currentCorrectionRound) :
    Verified printable t outcome := by
  obtain ⟨attempt, result, resultPath, latest, written, failures, index, own⟩ := verified
  refine ⟨attempt, result, resultPath, same.1.trans latest, ?_, failures, index.trans round.symm, own⟩
  rw [same.2 attempt latest]
  exact written

theorem Reviewed.kept (reviewed : Reviewed store outcome) (same : SameLatest .reviewing store t) :
    Reviewed t outcome := by
  obtain ⟨attempt, result, latest, written, own⟩ := reviewed
  refine ⟨attempt, result, same.1.trans latest, ?_, own⟩
  rw [same.2 attempt latest]
  exact written

/-- An attempt of another phase leaves the latest one of a phase. -/
theorem SameLatest.attempted {attempt : AttemptRecord} (attempted : Attempted store t attempt)
    (results : ∀ n < store.ledger.nextSequence, t.resultFile n = store.resultFile n)
    (other : attempt.phase ≠ phase) : SameLatest phase store t := by
  refine ⟨?_, fun latest found =>
    results latest.sequence (AttemptLedger.lt_nextSequence (latestCompleted_member found))⟩
  rw [latestCompleted, latestAttempt, attempted.records, latest_snoc, if_neg (by simp [other])]
  rfl

theorem SameLatest.same (ledger : t.ledger = store.ledger)
    (results : ∀ n < store.ledger.nextSequence, t.resultFile n = store.resultFile n) : SameLatest phase store t := by
  refine ⟨by rw [ledger], fun latest found =>
    results latest.sequence (AttemptLedger.lt_nextSequence (latestCompleted_member found))⟩

/-- A pass over another stage, however far it came. -/
theorem AttemptEffect.sameLatest (effect : AttemptEffect printable store t)
    (results : ∀ n < store.ledger.nextSequence, t.resultFile n = store.resultFile n)
    (other : phaseForActiveState store.record.state ≠ some phase) : SameLatest phase store t := by
  have differs {attempt : AttemptRecord} (attempted : Attempted store t attempt) : SameLatest phase store t := by
    refine .attempted attempted results fun same => ?_
    rw [attempted.phase, same] at other
    exact other rfl
  cases effect with
  | none ledger => exact .same ledger results
  | running attempted _ => exact differs attempted
  | finished ended => exact differs ended.toAttempted

/-- The stage that just ended is the latest one of its phase. -/
theorem Finished.newest {attempt : AttemptRecord} (ended : Finished printable store t outcome attempt)
    (completed : attemptStatusByStageOutcome outcome = .completed) :
    latestCompleted t.ledger attempt.phase = some attempt := by
  have status : attempt.status = .completed := ended.status.trans completed
  rw [latestCompleted, latestAttempt, ended.records, latest_snoc, if_pos (by simp [status])]

/-- A verification that goes on has written its round. -/
theorem StageEvidence.verified {record : RunRecord} {file : ArtifactFile}
    (evidence : StageEvidence printable record file outcome) (state : record.state = .verifying)
    (goes : outcome.stops = false) :
    ∃ round resultPath, file = .json (.obj (encodeRound round)) ∧ RoundFailures printable resultPath round ∧
      round.roundIndex = record.currentCorrectionRound ∧ (finishOutcome round false).1 = outcome := by
  cases evidence with
  | stops stopped =>
    rw [goes] at stopped
    cases stopped
  | preparation other _ =>
    rw [state] at other
    cases other
  | verification _ written failures index => exact ⟨_, _, written, failures, index, rfl⟩
  | review other _ =>
    rw [state] at other
    cases other
  | writable other _ =>
    rw [state] at other
    rcases other with other | other <;> cases other

theorem StageEvidence.reviewed {record : RunRecord} {file : ArtifactFile}
    (evidence : StageEvidence printable record file outcome) (state : record.state = .reviewing)
    (goes : outcome.stops = false) :
    ∃ result, file = .json (encodeReviewResult result) ∧ (validReviewOutcome result).1 = outcome := by
  cases evidence with
  | stops stopped =>
    rw [goes] at stopped
    cases stopped
  | preparation other _ =>
    rw [state] at other
    cases other
  | verification other _ _ _ =>
    rw [state] at other
    cases other
  | review _ written => exact ⟨_, written, rfl⟩
  | writable other _ =>
    rw [state] at other
    rcases other with other | other <;> cases other

theorem Finished.verified {attempt : AttemptRecord} (ended : Finished printable store t outcome attempt)
    (state : store.record.state = .verifying) (goes : outcome.stops = false)
    (completed : attemptStatusByStageOutcome outcome = .completed)
    (round : t.record.currentCorrectionRound = store.record.currentCorrectionRound) :
    Verified printable t outcome := by
  obtain ⟨result, resultPath, written, failures, index, own⟩ :=
    (ended.evidence (by rw [state]; decide)).verified state goes
  have phase : attempt.phase = .verifying :=
    Option.some.inj (ended.phase.symm.trans (congrArg phaseForActiveState state))
  have latest := ended.newest completed
  rw [phase] at latest
  exact ⟨attempt, result, resultPath, latest, written, failures, index.trans round.symm, own⟩

theorem Finished.reviewed {attempt : AttemptRecord} (ended : Finished printable store t outcome attempt)
    (state : store.record.state = .reviewing) (goes : outcome.stops = false)
    (completed : attemptStatusByStageOutcome outcome = .completed) : Reviewed t outcome := by
  obtain ⟨result, written, own⟩ := (ended.evidence (by rw [state]; decide)).reviewed state goes
  have phase : attempt.phase = .reviewing :=
    Option.some.inj (ended.phase.symm.trans (congrArg phaseForActiveState state))
  have latest := ended.newest completed
  rw [phase] at latest
  exact ⟨attempt, result, latest, written, own⟩

/-- The stage that just ended has asked for a correction. -/
theorem Finished.asked {updated : RunRecord} {log : List DriveEvent} {attempt : AttemptRecord}
    (ended : Finished printable store t outcome attempt)
    (moved : Moved store log updated t.ledger t.resultFile t) (pending : updated.state = .correctionPending)
    (completed : attemptStatusByStageOutcome outcome = .completed) :
    AskedBy t ⟨store.record, updated, t.ledger, t.resultFile⟩ attempt where
  asking := by
    rw [moved.events, askingSave_saved]
    exact if_pos pending
  round := by rw [moved.record]
  phase := ended.phase
  completed := ended.status.trans completed
  last := ⟨_, ended.records⟩
  later := ⟨[], (List.append_nil _).symm, by simp⟩

/-- A pass that stops leaves the save that asked, and adds at most a correction. -/
theorem AskedBy.stopped {save : Save} {asker : AttemptRecord} {log : List DriveEvent}
    (asks : AskedBy store save asker) (kept : Framed store log t) (logged : DispatchLog store.record log)
    (state : store.record.state = .correctionPending ∨ store.record.state = .correcting)
    (effect : AttemptEffect printable store t) : AskedBy t save asker := by
  obtain ⟨later, records, corrections⟩ := asks.later
  have added {attempt : AttemptRecord} (attempted : Attempted store t attempt) :
      ∃ later, t.ledger.records = save.ledger.records ++ later ∧ ∀ item ∈ later, item.phase = .correcting := by
    have phase : attempt.phase = .correcting := by
      have active := attempted.phase
      rcases state with state | state <;> rw [state] at active
      · cases active
      · exact (Option.some.inj active).symm
    refine ⟨later ++ [attempt], by rw [attempted.records, records, List.append_assoc], fun item member => ?_⟩
    rcases List.mem_append.mp member with member | member
    · exact corrections item member
    · rw [List.mem_singleton.mp member]
      exact phase
  refine ⟨?_, ?_, asks.phase, asks.completed, asks.last, ?_⟩
  · rw [kept.events, askingSave_append logged.asksNothing]
    exact asks.asking
  · rw [kept.record]
    exact asks.round
  · cases effect with
    | none ledger => exact ⟨later, by rw [ledger, records], corrections⟩
    | running attempted _ => exact added attempted
    | finished ended => exact added ended.toAttempted

/-- The attempt that asked is the latest completed one of its phase. -/
theorem AskedBy.latestCompleted {save : Save} {asker : AttemptRecord} (asks : AskedBy store save asker)
    (other : asker.phase ≠ .correcting) : latestCompleted store.ledger asker.phase = some asker := by
  obtain ⟨earlier, last⟩ := asks.last
  obtain ⟨later, records, corrections⟩ := asks.later
  have passed : ∀ item ∈ later, (decide (item.phase = asker.phase) && decide (item.status = .completed)) = false := by
    intro item member
    simp [corrections item member, Ne.symm other]
  rw [SprintTicket.latestCompleted, latestAttempt, records, latest_append passed, last, latest_snoc,
    if_pos (by simp [asks.completed])]

/-- So it is whichever attempt is found there. -/
theorem AskedBy.eq_latest {save : Save} {asker found : AttemptRecord} (asks : AskedBy store save asker)
    (active : phaseForActiveState save.before.state = some phase) (other : phase ≠ .correcting)
    (latest : SprintTicket.latestCompleted store.ledger phase = some found) : found = asker := by
  have own : asker.phase = phase := Option.some.inj (asks.phase.symm.trans active)
  have newest := asks.latestCompleted (own ▸ other)
  rw [own, latest] at newest
  exact Option.some.inj newest

end Steps

/-! ## The invariant -/

section Invariant

variable {printable : Char → Bool} {store t : RunStore}

/-- What was asked stays while the evidence does. -/
theorem CorrectionAsked.kept {source : WorkflowState} (asked : CorrectionAsked printable store source)
    (verifying : SameLatest .verifying store t) (reviewing : SameLatest .reviewing store t)
    (round : t.record.currentCorrectionRound = store.record.currentCorrectionRound) :
    CorrectionAsked printable t source := by
  cases asked with
  | verification failed => exact .verification (failed.kept verifying round)
  | review passed found => exact .review (passed.kept verifying round) (found.kept reviewing)

/-- A pass that stops. -/
theorem Planned.stopped {log : List DriveEvent} (planned : Planned printable store) (kept : Framed store log t)
    (logged : DispatchLog store.record log) (effect : AttemptEffect printable store t) : Planned printable t := by
  have round : t.record.currentCorrectionRound = store.record.currentCorrectionRound := by rw [kept.record]
  refine ⟨fun state => ?_, fun state => ?_⟩
  · rw [kept.record] at state
    exact (planned.reviewing state).kept (effect.sameLatest kept.results (by rw [state]; decide)) round
  · rw [kept.record] at state
    obtain ⟨save, attempt, asks, asked⟩ := planned.asked state
    refine ⟨save, attempt, asks.stopped kept logged state effect,
      asked.kept (effect.sameLatest kept.results ?_) (effect.sameLatest kept.results ?_) round⟩
    all_goals rcases state with state | state <;> rw [state] <;> decide

/-- Only a correction changes the round. -/
theorem Advance.sameRound {record updated : RunRecord} (advance : Advance record updated)
    (other : record.state ≠ .correcting) : updated.currentCorrectionRound = record.currentCorrectionRound := by
  rcases advance.correction with same | ⟨state, _⟩
  · exact same
  · exact absurd state other

section Moved

variable {updated : RunRecord} {log : List DriveEvent} {ledger : AttemptLedger} {resultFile : Nat → ArtifactFile}

/-- A review follows a verification that passed. -/
theorem MoveCause.verified (cause : MoveCause printable store updated ledger resultFile t)
    (advance : Advance store.record updated) (record : t.record = updated) (state : updated.state = .reviewing) :
    Verified printable t .completed := by
  have before : store.record.state = .verifying := by
    have legal := advance.legal
    rw [state] at legal
    cases own : store.record.state <;> rw [own] at legal <;> first | rfl | exact absurd legal (by decide)
  cases cause with
  | immediate inactive =>
    rw [before] at inactive
    cases inactive
  | executed _ requested ended _ =>
    rw [before, state] at requested
    have round := advance.sameRound (by rw [before]; decide)
    cases requested with
    | completed _ => exact ended.verified before rfl rfl (record ▸ round)
  | reported other =>
    rw [before] at other
    cases other

/-- A correction is asked for by a verification or a review, in the pass that ends it. -/
theorem Planned.asks (planned : Planned printable store) (advance : Advance store.record updated)
    (moved : Moved store log updated ledger resultFile t)
    (cause : MoveCause printable store updated ledger resultFile t) (state : updated.state = .correctionPending) :
    ∃ save attempt, AskedBy t save attempt ∧ CorrectionAsked printable t save.before.state := by
  have before : store.record.state = .verifying ∨ store.record.state = .reviewing := by
    have legal := advance.legal
    rw [state] at legal
    cases own : store.record.state <;> rw [own] at legal <;>
      first | exact .inl rfl | exact .inr rfl | exact absurd legal (by decide)
  have round : t.record.currentCorrectionRound = store.record.currentCorrectionRound := by
    rw [moved.record]
    exact advance.sameRound (by rcases before with before | before <;> rw [before] <;> decide)
  cases cause with
  | immediate inactive => rcases before with before | before <;> rw [before] at inactive <;> cases inactive
  | reported other => rcases before with before | before <;> rw [before] at other <;> cases other
  | executed _ requested ended saved =>
    obtain ⟨rfl, rfl⟩ := saved
    rw [state] at requested
    cases requested with
    | completed edge => rcases before with before | before <;> rw [before] at edge <;> cases edge
    | correction _ =>
      refine ⟨_, _, ended.asked moved state rfl, ?_⟩
      show CorrectionAsked printable t store.record.state
      rcases before with before | before <;> rw [before]
      · exact .verification (ended.verified before rfl rfl round)
      · have same : SameLatest .verifying store t := by
          refine .attempted ended.toAttempted moved.results fun other => ?_
          have active := ended.phase
          rw [before, other] at active
          exact absurd active (by decide)
        exact .review ((planned.reviewing before).kept same round) (ended.reviewed before rfl rfl)

/-- The correction starts without another stage. -/
theorem Planned.starts (planned : Planned printable store) (advance : Advance store.record updated)
    (logged : DispatchLog store.record log) (moved : Moved store log updated ledger resultFile t)
    (cause : MoveCause printable store updated ledger resultFile t) (state : updated.state = .correcting) :
    ∃ save attempt, AskedBy t save attempt ∧ CorrectionAsked printable t save.before.state := by
  have before : store.record.state = .correctionPending := by
    have legal := advance.legal
    rw [state] at legal
    cases own : store.record.state <;> rw [own] at legal <;> first | rfl | exact absurd legal (by decide)
  have round : t.record.currentCorrectionRound = store.record.currentCorrectionRound := by
    rw [moved.record]
    exact advance.sameRound (by rw [before]; decide)
  obtain ⟨save, attempt, asks, asked⟩ := planned.asked (.inl before)
  cases cause with
  | immediate _ _ kept =>
    refine ⟨save, attempt, ⟨?_, asks.round.trans round.symm, asks.phase, asks.completed, asks.last, ?_⟩,
      asked.kept (.same kept.1 moved.results) (.same kept.1 moved.results) round⟩
    · rw [moved.events, askingSave_saved, askingSave_append logged.asksNothing, if_neg (by rw [state]; decide)]
      exact asks.asking
    · rw [kept.1]
      exact asks.later
  | executed _ _ ended _ =>
    have active := ended.phase
    rw [before] at active
    cases active
  | reported other =>
    rw [before] at other
    cases other

/-- A pass that saves its decision. -/
theorem Planned.moved (planned : Planned printable store) (advance : Advance store.record updated)
    (logged : DispatchLog store.record log) (moved : Moved store log updated ledger resultFile t)
    (cause : MoveCause printable store updated ledger resultFile t) : Planned printable t := by
  refine ⟨fun state => ?_, fun state => ?_⟩ <;> rw [moved.record] at state
  · exact cause.verified advance moved.record state
  · rcases state with state | state
    · exact planned.asks advance moved cause state
    · exact planned.starts advance logged moved cause state

end Moved

theorem planned_rule : SessionRule printable (Planned printable) (Planned printable) where
  created new := by
    refine ⟨fun state => ?_, fun state => ?_⟩ <;> rw [new.state] at state
    · cases state
    · rcases state with state | state <;> cases state
  rests live := live
  passed live _ effect := by
    cases effect with
    | stopped kept logged attempt => exact live.stopped kept logged attempt
    | moved advance logged moved cause _ => exact live.moved advance logged moved cause
  moved live _ effect := by
    cases effect with
    | moved advance logged moved cause _ => exact live.moved advance logged moved cause
  stopped _ stopped := by
    have terminal := stopped.terminal
    refine ⟨fun state => ?_, fun state => ?_⟩
    · rw [state] at terminal
      cases terminal
    · rcases state with state | state <;> rw [state] at terminal <;> cases terminal
  resumed rest _ := rest

end Invariant

section Plan

variable {sha256 : Sha256} {ticketDigest : TicketDigest} {resolve : PathResolver} {printable : Char → Bool}
  {runPath : String} {store : RunStore}

theorem latestCompleted_isLatest {ledger : AttemptLedger} {phase : AttemptPhase} {attempt : AttemptRecord}
    (found : latestCompleted ledger phase = some attempt) :
    IsLatest (fun item => item.phase = phase ∧ item.status = .completed) ledger.records attempt :=
  (ledger.isLatest_iff.mp found).congr fun other => by simp

/-- **The plan agrees with the stage that asked for it**, in every run that reaches
CORRECTING. The save that asked for this round's correction came from VERIFYING or from
REVIEWING, and the attempt that it ended is the latest completed one of its phase: the
plan has one cause for each command that failed in that verification, or one for each
required finding of that review. -/
theorem pending_correction_agrees (reached : RunReached sha256 ticketDigest resolve printable runPath store)
    (correcting : store.record.state = .correcting) :
    ∃ plan save attempt, planPendingCorrection (.ok ()) store.directory = .ok plan ∧
      askingSave store.events = some save ∧
      save.after.currentCorrectionRound = store.record.currentCorrectionRound ∧
      (∃ earlier later, save.ledger.records = earlier ++ [attempt] ∧
        store.ledger.records = save.ledger.records ++ later ∧ ∀ item ∈ later, item.phase = .correcting) ∧
      ((save.before.state = .verifying ∧ ∃ round resultPath,
          IsLatest (fun item => item.phase = .verifying ∧ item.status = .completed) store.ledger.records attempt ∧
          store.resultFile attempt.sequence = .json (.obj (encodeRound round)) ∧
          round.roundIndex = store.record.currentCorrectionRound ∧
          List.Forall₂ (CommandCause printable resultPath)
            (round.commands.filter VerificationCommandResult.failed) plan.causes) ∨
        (save.before.state = .reviewing ∧ ∃ result,
          IsLatest (fun item => item.phase = .reviewing ∧ item.status = .completed) store.ledger.records attempt ∧
          store.resultFile attempt.sequence = .json (encodeReviewResult result) ∧
          List.Forall₂ FindingCause result.requiredFindings plan.causes)) := by
  obtain ⟨save, attempt, asks, asked⟩ := (planned_rule.rest reached).asked (.inr correcting)
  obtain ⟨earlier, last⟩ := asks.last
  obtain ⟨later, records, corrections⟩ := asks.later
  have own : ∃ earlier later, save.ledger.records = earlier ++ [attempt] ∧
      store.ledger.records = save.ledger.records ++ later ∧ ∀ item ∈ later, item.phase = .correcting :=
    ⟨earlier, later, last, records, corrections⟩
  have loads : store.directory.ledger = .ok store.ledger := rfl
  cases source : save.before.state <;> rw [source] at asked
  case verifying =>
    cases asked with
    | verification failed =>
      obtain ⟨verified, round, resultPath, latest, written, failures, index, requested⟩ := failed
      obtain ⟨plan, planned, causes⟩ :=
        planPendingCorrection_verification rfl loads latest rfl written failures requested
      obtain rfl := asks.eq_latest (congrArg phaseForActiveState source) (by decide) latest
      exact ⟨plan, save, verified, planned, asks.asking, asks.round, own,
        .inl ⟨source, round, resultPath, latestCompleted_isLatest latest, written, index, causes⟩⟩
  case reviewing =>
    cases asked with
    | review passed found =>
      obtain ⟨verified, round, resultPath, latest, written, failures, _, completed⟩ := passed
      obtain ⟨reviewed, result, latestReview, writtenReview, requested⟩ := found
      obtain ⟨plan, planned, causes⟩ :=
        planPendingCorrection_review rfl loads latest rfl written failures completed latestReview rfl writtenReview
          requested
      obtain rfl := asks.eq_latest (congrArg phaseForActiveState source) (by decide) latestReview
      exact ⟨plan, save, reviewed, planned, asks.asking, asks.round, own,
        .inr ⟨source, result, latestCompleted_isLatest latestReview, writtenReview, causes⟩⟩
  all_goals cases asked

end Plan

/-- The example run reaches CORRECTING, and its correction can be planned. -/
theorem exampleSession_planned :
    (exampleSession exampleCorrectedDrive 5).record.state = .correcting ∧
      ∃ plan save, planPendingCorrection (.ok ()) (exampleSession exampleCorrectedDrive 5).directory = .ok plan ∧
        askingSave (exampleSession exampleCorrectedDrive 5).events = some save := by
  have correcting : (exampleSession exampleCorrectedDrive 5).record.state = .correcting := by decide +kernel
  obtain ⟨plan, save, _, planned, asking, _⟩ :=
    pending_correction_agrees (exampleSession_reached exampleCorrectedDrive 5) correcting
  exact ⟨correcting, plan, save, planned, asking⟩

end SprintTicket
