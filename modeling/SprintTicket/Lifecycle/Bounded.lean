import SprintTicket.Lifecycle.PassEffect

/-!
# The drive loop is bounded

`stageRank` combines the phase of a record with its remaining correction rounds;
every pass that saves a decision lowers it, around both correction cycles. What
a drive adds to the log is bounded by the rank and by the remaining rounds.
-/

set_option autoImplicit false

namespace SprintTicket

open Checks Effects Effects.Effect

/-- The correction rounds that a record has left. -/
def RunFields.remainingRounds (record : RunFields) : Nat :=
  record.maxCorrectionRounds - record.currentCorrectionRound

/-- How many stages a run in this state, with `rounds` rounds left, dispatches at most. -/
def WorkflowState.rank (rounds : Nat) : WorkflowState → Nat
  | .preparing => 4 * rounds + 6
  | .prepared => 4 * rounds + 5
  | .implementing => 4 * rounds + 4
  | .verifying => 4 * rounds + 3
  | .reviewing => 4 * rounds + 2
  | .correctionPending => 4 * rounds + 1
  | .correcting => max (4 * rounds) 1
  | .reporting => 1
  | .readyForHuman | .humanRequired | .failed => 0

/-- How many more stages a run dispatches at most. -/
def stageRank (record : RunFields) : Nat := record.state.rank record.remainingRounds

/-- How many more times a run executes the correction agent at most. -/
def correctionRank (record : RunFields) : Nat :=
  if record.state.terminal then 0 else record.remainingRounds

/-- The rank is bounded by the rounds that remain. -/
theorem stageRank_le (record : RunFields) : stageRank record ≤ 4 * record.remainingRounds + 6 := by
  unfold stageRank WorkflowState.rank
  split <;> omega

/-- Every active state has a pass left. -/
theorem stageRank_pos {record : RunFields} (active : record.state.terminal = false) : 0 < stageRank record := by
  unfold stageRank
  cases state : record.state <;> rw [state] at active
  case readyForHuman | humanRequired | failed => cases active
  all_goals
    dsimp only [WorkflowState.rank]
    omega

section Advance

variable {record updated : RunRecord}

/-- No pass changes the limit on the rounds. -/
theorem Advance.limit (advance : Advance record updated) :
    updated.maxCorrectionRounds = record.maxCorrectionRounds := by
  unfold RunFields.maxCorrectionRounds
  rw [advance.policy]

/-- Every legal edge but the ones out of and into CORRECTING lowers the rank
with the same rounds left. -/
theorem WorkflowState.rank_lt {source next : WorkflowState} {rounds : Nat}
    (legal : next ∈ legalWorkflowTransitions source) (out : source ≠ .correcting) (into : next ≠ .correcting) :
    next.rank rounds < source.rank rounds := by
  cases source <;> cases next <;> first
    | exact absurd legal (by decide)
    | exact absurd rfl out
    | exact absurd rfl into
    | dsimp only [WorkflowState.rank]
      omega

/-- A correction is followed by a verification, or by the end. -/
theorem legalWorkflowTransitions_correcting {next : WorkflowState}
    (legal : next ∈ legalWorkflowTransitions .correcting) : next = .verifying ∨ next.terminal = true := by
  simp only [legalWorkflowTransitions, List.mem_cons, List.not_mem_nil, or_false] at legal
  rcases legal with rfl | rfl | rfl
  · exact .inl rfl
  · exact .inr rfl
  · exact .inr rfl

/-- A terminal state is never left. -/
theorem WorkflowState.active_of_legal {source next : WorkflowState} (legal : next ∈ legalWorkflowTransitions source) :
    source.terminal = false := by
  cases source <;> first | rfl | cases legal

theorem WorkflowState.rank_terminal {state : WorkflowState} {rounds : Nat} (terminal : state.terminal = true) :
    state.rank rounds = 0 := by
  cases state <;> first | rfl | cases terminal

/-- A saved decision lowers the rank. -/
theorem Advance.rank_lt (advance : Advance record updated) :
    stageRank updated.toRunFields < stageRank record.toRunFields := by
  have legal := advance.legal
  have limit := advance.limit
  unfold stageRank
  by_cases out : record.state = .correcting
  · rw [out] at legal ⊢
    show _ < max (4 * record.remainingRounds) 1
    rcases legalWorkflowTransitions_correcting legal with verifying | terminal
    · -- The round that the correction used is no longer left.
      have counted := advance.corrected out verifying
      have below : record.currentCorrectionRound < record.maxCorrectionRounds := by
        rcases advance.correction with same | ⟨_, below, _⟩ <;> omega
      rw [verifying]
      dsimp only [WorkflowState.rank, RunFields.remainingRounds]
      omega
    · rw [WorkflowState.rank_terminal terminal]
      omega
  · have rounds : updated.remainingRounds = record.remainingRounds := by
      unfold RunFields.remainingRounds
      rcases advance.correction with same | ⟨state, _⟩
      · omega
      · exact absurd state out
    rw [rounds]
    by_cases into : updated.state = .correcting
    · have below := advance.planned into
      have source : record.state = .correctionPending := by
        rw [into] at legal
        cases state : record.state <;> rw [state] at legal <;> first | rfl | exact absurd legal (by decide)
      rw [into, source]
      dsimp only [WorkflowState.rank, RunFields.remainingRounds]
      omega
    · exact WorkflowState.rank_lt legal out into

/-- The rounds that remain never grow. -/
theorem Advance.remaining (advance : Advance record updated) :
    updated.remainingRounds ≤ record.remainingRounds := by
  have limit := advance.limit
  unfold RunFields.remainingRounds
  rcases advance.correction with same | ⟨_, _, next⟩ <;> omega

/-- A correction agent that ran is paid for by the round or by the stop after it. -/
theorem Advance.correctionRank_lt (advance : Advance record updated) (state : record.state = .correcting)
    (below : record.currentCorrectionRound < record.maxCorrectionRounds) :
    correctionRank updated.toRunFields + 1 ≤ record.remainingRounds := by
  have legal := advance.legal
  have limit := advance.limit
  rw [state] at legal
  unfold correctionRank RunFields.remainingRounds
  split
  · omega
  · rename_i active
    have next : updated.state = .verifying := by
      cases next : updated.state <;> rw [next] at legal active <;>
        simp [legalWorkflowTransitions, WorkflowState.terminal] at legal active ⊢
    have counted := advance.corrected state next
    omega

end Advance

def DriveEvent.isDispatch : DriveEvent → Bool
  | .dispatched _ => true
  | _ => false

def DriveEvent.isCorrection : DriveEvent → Bool
  | .invoked .correction _ => true
  | _ => false

/-- A save keeps the counters between those of the start and the limit, and
replaces no terminal record. -/
structure SaveBounds (record : RunRecord) (save : Save) : Prop where
  correction : record.currentCorrectionRound ≤ save.before.currentCorrectionRound ∧
    save.before.currentCorrectionRound ≤ save.after.currentCorrectionRound
  limit : save.after.currentCorrectionRound ≤ max record.currentCorrectionRound record.maxCorrectionRounds
  review : record.currentReviewRound ≤ save.before.currentReviewRound ∧
    save.before.currentReviewRound ≤ save.after.currentReviewRound
  active : save.before.state.terminal = false

/-- The bounds of a drive that starts with `record`. -/
structure DriveBounds (record : RunRecord) (fresh : List DriveEvent) : Prop where
  dispatches : fresh.countP DriveEvent.isDispatch ≤ stageRank record.toRunFields
  corrections : fresh.countP DriveEvent.isCorrection ≤ correctionRank record.toRunFields
  saves : ∀ save, .saved save ∈ fresh → SaveBounds record save

theorem DriveBounds.nil (record : RunRecord) : DriveBounds record [] :=
  ⟨Nat.zero_le _, Nat.zero_le _, fun _ member => by cases member⟩

section Pass

variable {record updated : RunRecord} {log : List DriveEvent}

/-- What a dispatch logs has no save in it. -/
theorem DispatchLog.noSave (logged : DispatchLog record log) (save : Save) : .saved save ∉ log := by
  intro member
  cases logged <;> simp at member

theorem DispatchLog.dispatches (logged : DispatchLog record log) : log.countP DriveEvent.isDispatch ≤ 1 := by
  cases logged with
  | idle => exact Nat.zero_le 1
  | stage => exact le_refl 1
  | agent _ => exact le_refl 1

/-- A correction agent is executed in CORRECTING, with a round left, and once. -/
theorem DispatchLog.corrections (logged : DispatchLog record log) :
    log.countP DriveEvent.isCorrection = 0 ∨
      log.countP DriveEvent.isCorrection = 1 ∧ record.state = .correcting ∧
        record.currentCorrectionRound < record.maxCorrectionRounds := by
  cases logged with
  | idle => exact .inl rfl
  | stage => exact .inl rfl
  | agent allowed =>
    cases allowed with
    | implementation state => exact .inl rfl
    | correction state limit => exact .inr ⟨rfl, state, limit⟩

/-- A pass that stops before its save. -/
theorem DispatchLog.bounds (logged : DispatchLog record log) (active : record.state.terminal = false) :
    DriveBounds record log where
  dispatches := by
    have once := logged.dispatches
    have positive := stageRank_pos active
    omega
  corrections := by
    unfold correctionRank RunFields.remainingRounds
    rw [active]
    rcases logged.corrections with none | ⟨once, _, below⟩
    · omega
    · simp only [Bool.false_eq_true, if_false]
      omega
  saves save member := absurd member (logged.noSave save)

/-- A pass that saves, followed by a drive of the saved record. -/
theorem DispatchLog.step (ledger : AttemptLedger) (resultFile : Nat → ArtifactFile) {later : List DriveEvent}
    (logged : DispatchLog record log) (advance : Advance record updated) (active : record.state.terminal = false)
    (rest : DriveBounds updated later) :
    DriveBounds record (log ++ [.saved ⟨record, updated, ledger, resultFile⟩] ++ later) where
  dispatches := by
    have once := logged.dispatches
    have lower := advance.rank_lt
    have others := rest.dispatches
    simp only [List.countP_append, List.countP_cons, List.countP_nil, DriveEvent.isDispatch, Bool.false_eq_true,
      if_false]
    omega
  corrections := by
    have others := rest.corrections
    have fewer := advance.remaining
    simp only [List.countP_append, List.countP_cons, List.countP_nil, DriveEvent.isCorrection, correctionRank,
      active, Bool.false_eq_true, if_false]
    rcases logged.corrections with none | ⟨once, state, below⟩
    · have smaller : correctionRank updated.toRunFields ≤ updated.remainingRounds := by
        unfold correctionRank
        split <;> omega
      omega
    · have paid := advance.correctionRank_lt state below
      omega
  saves save member := by
    have limit := advance.limit
    have correction : record.currentCorrectionRound ≤ updated.currentCorrectionRound ∧
        updated.currentCorrectionRound ≤ max record.currentCorrectionRound record.maxCorrectionRounds := by
      rcases advance.correction with same | ⟨_, below, next⟩ <;> omega
    have review : record.currentReviewRound ≤ updated.currentReviewRound := by
      rw [advance.review]
      split <;> omega
    rcases List.mem_append.mp member with member | member
    · rcases List.mem_append.mp member with member | member
      · exact absurd member (logged.noSave save)
      · rw [List.mem_singleton] at member
        cases member
        exact ⟨⟨le_refl _, correction.1⟩, correction.2, ⟨le_refl _, review⟩, active⟩
    · have bounds := rest.saves save member
      have after := bounds.limit
      exact ⟨⟨correction.1.trans bounds.correction.1, bounds.correction.2⟩, by omega,
        ⟨review.trans bounds.review.1, bounds.review.2⟩, bounds.active⟩

end Pass

/-! ## The loop -/

section Loop

variable {sha256 : Sha256} {printable : Char → Bool} {runPath : String} {passes : Nat → Pass}

/-- What a drive of `record` from `store` comes to. -/
structure DriveEffect (record : RunRecord) (fuel : Nat) (store t : RunStore)
    (outcome : Except Halt (Option RunRecord)) : Prop where
  bounds : ∃ fresh, t.events = store.events ++ fresh ∧ DriveBounds record fresh
  /-- The loop ends in a terminal record, which is the persisted one. -/
  ended : ∀ final, outcome = .ok (some final) → final.state.terminal = true ∧ t.record = final
  enough : stageRank record.toRunFields ≤ fuel → outcome ≠ .ok none
  terminal : record.state.terminal = true → outcome = .ok (some record) ∧ t = store

/-- A pass after which the loop stops is within the bounds. -/
theorem DriveEffect.stopped {record : RunRecord} {fuel : Nat} {store t : RunStore} {log : List DriveEvent}
    {halt : Halt} (active : record.state.terminal = false) (events : t.events = store.events ++ log)
    (bounds : DriveBounds record log) : DriveEffect record fuel store t (.error halt) where
  bounds := ⟨log, events, bounds⟩
  ended final own := by cases own
  enough _ own := by cases own
  terminal terminal := by
    rw [active] at terminal
    cases terminal

/-- A terminal record is left alone. -/
theorem DriveEffect.idle {record : RunRecord} {fuel : Nat} {store : RunStore}
    (terminal : record.state.terminal = true) (same : store.record = record) :
    DriveEffect record fuel store store (.ok (some record)) where
  bounds := ⟨[], (List.append_nil _).symm, .nil record⟩
  ended final own := by
    cases own
    exact ⟨terminal, same⟩
  enough _ own := by cases own
  terminal _ := ⟨rfl, rfl⟩

/-- **Bounds of the loop.** By induction on the passes; each pays one step of the rank. -/
theorem driveLoop_effect {fuel index : Nat} {record : RunRecord} {store t : RunStore}
    {outcome : Except Halt (Option RunRecord)} (same : store.record = record)
    (h : driveLoop sha256 printable runPath passes fuel index record store = (outcome, t)) :
    DriveEffect record fuel store t outcome := by
  induction fuel generalizing index record store with
  | zero =>
    unfold driveLoop at h
    cases terminal : record.state.terminal <;> rw [terminal] at h
    · cases h
      have positive := stageRank_pos terminal
      exact
        { bounds := ⟨[], (List.append_nil _).symm, .nil record⟩
          ended := fun final own => by cases own
          enough := fun rank => by omega
          terminal := fun other => by
            rw [terminal] at other
            cases other }
    · cases h
      exact .idle terminal same
  | succ fuel ih =>
    unfold driveLoop at h
    cases terminal : record.state.terminal <;> rw [terminal] at h
    · subst same
      rcases bind_cases h with ⟨halt, ran, rfl⟩ | ⟨updated, s, ran, h⟩
      · cases drivePass_effect rfl ran with
        | stopped kept logged _ => exact .stopped terminal kept.events (logged.bounds terminal)
        | @moved _ _ _ ledger resultFile advance logged moved _ _ =>
          refine .stopped terminal (by rw [moved.events, List.append_assoc]) ?_
          have bounds := logged.step ledger resultFile advance terminal (.nil _)
          rw [List.append_nil] at bounds
          exact bounds
      · cases drivePass_effect rfl ran with
        | @moved _ _ _ ledger resultFile advance logged moved _ ends =>
          cases ends _ rfl
          have later := ih moved.record h
          obtain ⟨fresh, events, bounds⟩ := later.bounds
          refine ⟨⟨_, ?_, logged.step ledger resultFile advance terminal bounds⟩, later.ended, fun rank => ?_, fun other => ?_⟩
          · rw [events, moved.events]
            simp only [List.append_assoc]
          · have lower := advance.rank_lt
            exact later.enough (by omega)
          · rw [terminal] at other
            cases other
    · cases h
      exact .idle terminal same

/-- **Bounded lifecycle.** From the persisted record the loop dispatches at most
`4 * remainingRounds + 6` stages, executes the correction agent at most
`remainingRounds` times, saves no counter beyond its bounds and never touches a
terminal record; with that many passes it has ended. -/
theorem drive_loop_bounded {fuel index : Nat} {record : RunRecord} {store t : RunStore}
    {outcome : Except Halt (Option RunRecord)} (same : store.record = record)
    (h : driveLoop sha256 printable runPath passes fuel index record store = (outcome, t)) :
    (∃ fresh, t.events = store.events ++ fresh ∧
      fresh.countP DriveEvent.isDispatch ≤
        4 * (record.maxCorrectionRounds - record.currentCorrectionRound) + 6 ∧
      fresh.countP DriveEvent.isCorrection ≤ record.maxCorrectionRounds - record.currentCorrectionRound ∧
      ∀ save, .saved save ∈ fresh → SaveBounds record save) ∧
    (4 * (record.maxCorrectionRounds - record.currentCorrectionRound) + 6 ≤ fuel →
      (∃ halt, outcome = .error halt) ∨
        ∃ final, outcome = .ok (some final) ∧ final.state.terminal = true ∧ t.record = final) ∧
    (record.state.terminal = true → outcome = .ok (some record) ∧ t = store) := by
  have effect := driveLoop_effect same h
  have rank := stageRank_le record.toRunFields
  unfold RunFields.remainingRounds at rank
  refine ⟨?_, fun enough => ?_, effect.terminal⟩
  · obtain ⟨fresh, events, bounds⟩ := effect.bounds
    have corrections := bounds.corrections
    unfold correctionRank RunFields.remainingRounds at corrections
    refine ⟨fresh, events, bounds.dispatches.trans rank, ?_, bounds.saves⟩
    split at corrections <;> omega
  · rcases outcome with halt | final
    · exact .inl ⟨halt, rfl⟩
    · cases final with
      | none => exact absurd rfl (effect.enough (rank.trans enough))
      | some final => exact .inr ⟨final, rfl, effect.ended final rfl⟩

end Loop

/-- An attempt of the example run when its write starts. -/
def exampleWriteFields (sequence : Nat) (phase : AttemptPhase) : AttemptFields :=
  { exampleStartedAttempt.toAttemptFields with
    sequence
    phase
    resultPath := (phaseDefinition phase).resultArtifactName
    artifactDirectory := "/runs/r1/attempts/" ++ directoryName sequence phase }

/-- The correction returns what the implementation returned. -/
def exampleCorrectionExecution : AgentExecution :=
  { exampleExecution with taskKind := .correction, valid := by decide +kernel }

/-- A write of this attempt that changes one file. -/
def exampleChangingRun (execution : AgentExecution) (attempt : AttemptRecord) (before : WorkspaceSnapshot) : StageRun :=
  { exampleStageRun execution with
    layout := .ok attempt.artifactDirectory
    guarded :=
      { (exampleStageRun execution).guarded with
        attempts := .ok ⟨[attempt], List.pairwise_singleton _ attempt⟩
        workspaceBefore := .ok before
        workspaceAfter := .ok exampleWorkspace
        startReports := 1
        changedFiles := .ok ⟨["app.py"], by simp⟩ } }

/-- A verification fails, its correction changes a file, and the next verification cannot
be run. -/
def exampleCorrectedPass (index : Nat) : Pass :=
  match index with
  | 0 => exampleVerifyingPass 1
  | 1 | 2 =>
    { examplePass (.ok ()) with
      environment :=
        { (examplePass (.ok ())).environment with
          correction :=
            { exampleChangingRun exampleCorrectionExecution ⟨exampleWriteFields 2 .correcting, by decide⟩
                exampleWorkspace with
              sourceFingerprint := .ok exampleFingerprint
              writeTicket := .ok "correction.md" } }
      writable := ⟨true, [], .written⟩ }
  | _ => examplePass (.ok ())

/-- The record of a run whose first verification is due. -/
def exampleVerifyingRecord : RunRecord := { exampleNewRecord with state := .verifying, valid := by decide }

/-- The example run takes one of its two correction rounds and then needs a human. -/
theorem drive_loop_bounded_example :
    ∃ outcome t, driveLoop exampleSha256 (fun _ => true) "/runs/r1" exampleCorrectedPass 14 0 exampleVerifyingRecord
        (exampleStore exampleVerifyingRecord) = (outcome, t) ∧
      t.record.currentCorrectionRound = 1 ∧
      (∃ fresh, t.events = [] ++ fresh ∧ fresh.countP DriveEvent.isDispatch ≤ 14 ∧
        fresh.countP DriveEvent.isCorrection ≤ 2 ∧ ∀ save, .saved save ∈ fresh → SaveBounds exampleVerifyingRecord save) ∧
      ((∃ halt, outcome = .error halt) ∨
        ∃ final, outcome = .ok (some final) ∧ final.state.terminal = true ∧ t.record = final) := by
  have corrected : (driveLoop exampleSha256 (fun _ => true) "/runs/r1" exampleCorrectedPass 14 0
      exampleVerifyingRecord (exampleStore exampleVerifyingRecord)).2.record.currentCorrectionRound = 1 := by
    decide +kernel
  have start : (exampleStore exampleVerifyingRecord).record = exampleVerifyingRecord := rfl
  cases loop : driveLoop exampleSha256 (fun _ => true) "/runs/r1" exampleCorrectedPass 14 0 exampleVerifyingRecord
    (exampleStore exampleVerifyingRecord) with
  | mk outcome t =>
    rw [loop] at corrected
    obtain ⟨bounds, ended, _⟩ := drive_loop_bounded start loop
    exact ⟨outcome, t, rfl, corrected, bounds, ended (by decide)⟩

end SprintTicket
