import SprintTicket.Lifecycle.Sessions

/-!
# Agents write at most once

A `Budget` says how often a kind of event may still occur, as a function of the
persisted record: a dispatch spends of it, and the save that follows pays for what
was spent. A pass that is cut short has spent without a save; then the run is in a
state in which it is not resumed. So over all sessions an agent with write access is
called at most once for the implementation, and once for each correction round.
-/

set_option autoImplicit false

namespace SprintTicket

open Checks Effects Effects.Effect

/-- `left` bounds how many events that satisfy `spends` may still come. -/
structure Budget (spends : DriveEvent → Bool) (left : RunRecord → Nat) : Prop where
  saved : ∀ save, spends (.saved save) = false
  stopped : ∀ before after, spends (.stopped before after) = false
  terminal : ∀ {record}, record.state.terminal = true → left record = 0
  /-- Only the stages that write spend anything. -/
  quiet : ∀ {record log}, DispatchLog record log → record.state.writing = false → log.countP spends = 0
  spent : ∀ {record log}, DispatchLog record log → record.state.terminal = false → log.countP spends ≤ left record
  paid : ∀ {record updated log}, DispatchLog record log → Advance record updated →
    log.countP spends + left updated ≤ left record

section Budget

variable {spends : DriveEvent → Bool} {left limit : RunRecord → Nat} {printable : Char → Bool} {store t : RunStore}

/-- The budget is kept wherever a session may end. -/
structure WithinBudget (spends : DriveEvent → Bool) (left limit : RunRecord → Nat) (store : RunStore) : Prop where
  spent : store.events.countP spends ≤ limit store.record
  /-- A run that may be resumed has paid for all that it spent. -/
  paid : store.record.state.writing = false → store.events.countP spends + left store.record ≤ limit store.record

/-- A run that can be resumed is not in the middle of a write. -/
theorem Resumable.notWriting (resumable : Resumable store) : store.record.state.writing = false := by
  have state := resumable.state
  cases own : store.record.state <;> rw [own] at state <;> first | rfl | exact absurd state (by decide)

/-- The limit may depend on the policy of the run, which stays. -/
theorem Budget.rule (budget : Budget spends left)
    (fixed : ∀ {record updated : RunRecord}, updated.resolvedPolicy = record.resolvedPolicy →
      limit updated = limit record)
    (start : ∀ {store}, Created store → left store.record ≤ limit store.record) :
    SessionRule printable (fun store => store.events.countP spends + left store.record ≤ limit store.record)
      (WithinBudget spends left limit) where
  created new := by
    have fits := start new
    rw [new.events, List.countP_nil]
    omega
  rests live := ⟨by omega, fun _ => live⟩
  passed := by
    intro store t outcome live active effect
    cases effect with
    | stopped kept logged _ =>
      have fits := budget.spent logged active
      refine ⟨?_, fun idle => ?_⟩
      · rw [kept.events, kept.record, List.countP_append]
        omega
      · rw [kept.record] at idle
        rw [kept.events, kept.record, List.countP_append, budget.quiet logged idle]
        exact live
    | moved advance logged moved _ _ =>
      have pays := budget.paid logged advance
      have stays := fixed advance.policy
      have count : t.events.countP spends + left t.record ≤ limit t.record := by
        simp only [moved.events, moved.record, List.countP_append, List.countP_cons, List.countP_nil, budget.saved,
          Bool.false_eq_true, if_false]
        omega
      exact ⟨by omega, fun _ => count⟩
  moved := by
    intro store t next live active effect
    cases effect with
    | moved advance logged moved _ _ =>
      have pays := budget.paid logged advance
      have stays := fixed advance.policy
      simp only [moved.events, moved.record, List.countP_append, List.countP_cons, List.countP_nil, budget.saved,
        Bool.false_eq_true, if_false]
      omega
  stopped := by
    intro store t rest stopped
    have same : t.events.countP spends = store.events.countP spends := by
      simp [stopped.events, List.countP_append, budget.stopped]
    have spent := rest.spent
    have stays := fixed stopped.policy
    refine ⟨by omega, fun _ => ?_⟩
    rw [budget.terminal stopped.terminal, same]
    omega
  resumed rest resumable := rest.paid resumable.notWriting

section Reached

variable {sha256 : Sha256} {ticketDigest : TicketDigest} {resolve : PathResolver} {runPath : String}

/-- A run spends no more than a limit that its record fixes. -/
theorem Budget.within (budget : Budget spends left)
    (fixed : ∀ {record updated : RunRecord}, updated.resolvedPolicy = record.resolvedPolicy →
      limit updated = limit record)
    (start : ∀ {store}, Created store → left store.record ≤ limit store.record)
    (reached : RunReached sha256 ticketDigest resolve printable runPath store) : WithinBudget spends left limit store :=
  (budget.rule fixed start).rest reached

/-- **Budget rule.** -/
theorem Budget.reached {limit : Nat} (budget : Budget spends left)
    (start : ∀ {store}, Created store → left store.record ≤ limit)
    (reached : RunReached sha256 ticketDigest resolve printable runPath store) :
    store.events.countP spends ≤ limit := by
  have within : WithinBudget spends left (fun _ => limit) store := budget.within (fun _ => rfl) start reached
  exact within.spent

end Reached

/-- Two budgets make one for the events of both. -/
theorem Budget.add {total others : DriveEvent → Bool} {rest : RunRecord → Nat} (budget : Budget spends left)
    (other : Budget others rest) (saved : ∀ save, total (.saved save) = false)
    (stopped : ∀ before after, total (.stopped before after) = false)
    (both : ∀ {record log}, DispatchLog record log → log.countP total = log.countP spends + log.countP others) :
    Budget total fun record => left record + rest record where
  saved := saved
  stopped := stopped
  terminal ended := by rw [budget.terminal ended, other.terminal ended]
  quiet logged idle := by rw [both logged, budget.quiet logged idle, other.quiet logged idle]
  spent logged active := by
    have first := budget.spent logged active
    have second := other.spent logged active
    rw [both logged]
    omega
  paid logged advance := by
    have first := budget.paid logged advance
    have second := other.paid logged advance
    rw [both logged]
    omega

end Budget

def DriveEvent.isImplementation : DriveEvent → Bool
  | .invoked .implementation _ => true
  | _ => false

/-- The correction agent is called in this round. -/
def DriveEvent.corrects (round : Nat) : DriveEvent → Bool
  | .invoked .correction record => record.currentCorrectionRound = round
  | _ => false

def DriveEvent.isInvocation : DriveEvent → Bool
  | .invoked _ _ => true
  | _ => false

/-- The implementation has not ended. -/
def WorkflowState.beforeVerifying : WorkflowState → Bool
  | .preparing | .prepared | .implementing => true
  | _ => false

/-- The implementation is still to come. -/
def implementationLeft (record : RunRecord) : Nat := if record.state.beforeVerifying then 1 else 0

/-- The correction of this round is still to come. -/
def correctionLeft (round : Nat) (record : RunRecord) : Nat :=
  if record.state.terminal = false ∧ record.currentCorrectionRound ≤ round then 1 else 0

/-- Only the writing states invoke an agent that writes. -/
theorem MayInvoke.writing {record : RunRecord} {kind : AgentTaskKind} (may : MayInvoke record kind) :
    record.state.writing = true := by
  cases may with
  | implementation state => rw [state]; rfl
  | correction state _ => rw [state]; rfl

/-- Only a stage that writes invokes an agent. -/
theorem DispatchLog.quiet {record : RunRecord} {log : List DriveEvent} {spends : DriveEvent → Bool}
    (logged : DispatchLog record log) (idle : record.state.writing = false)
    (dispatch : spends (.dispatched record) = false) : log.countP spends = 0 := by
  cases logged with
  | idle => rfl
  | stage => simp [dispatch]
  | agent allowed =>
    have writes := allowed.writing
    rw [idle] at writes
    cases writes

/-- No state before the implementation follows it. -/
theorem WorkflowState.beforeVerifying_legal {source next : WorkflowState}
    (legal : next ∈ legalWorkflowTransitions source) (early : next.beforeVerifying = true) :
    source.beforeVerifying = true ∧ source ≠ .implementing := by
  revert legal early
  cases source <;> cases next <;> decide

theorem implementation_budget : Budget DriveEvent.isImplementation implementationLeft where
  saved _ := rfl
  stopped _ _ := rfl
  terminal := by
    intro record terminal
    unfold implementationLeft
    cases state : record.state <;> rw [state] at terminal <;> first | rfl | cases terminal
  quiet logged idle := logged.quiet idle rfl
  spent := by
    intro record log logged _
    cases logged with
    | idle => exact Nat.zero_le _
    | stage => exact Nat.zero_le _
    | agent allowed =>
      cases allowed with
      | implementation state => simp [implementationLeft, WorkflowState.beforeVerifying, state, DriveEvent.isImplementation]
      | correction => exact Nat.zero_le _
  paid := by
    intro record updated log logged advance
    have fewer : implementationLeft updated ≤ implementationLeft record := by
      unfold implementationLeft
      split
      · rename_i early
        rw [(WorkflowState.beforeVerifying_legal advance.legal early).1]
        exact le_refl _
      · exact Nat.zero_le _
    cases logged with
    | idle => simpa using fewer
    | stage => simpa [DriveEvent.isImplementation] using fewer
    | agent allowed =>
      cases allowed with
      | implementation state =>
        have gone : updated.state.beforeVerifying = false := by
          by_contra early
          have earlier := WorkflowState.beforeVerifying_legal advance.legal (by simpa using early)
          exact earlier.2 state
        have none : implementationLeft updated = 0 := by
          rw [implementationLeft, gone]
          rfl
        rw [none]
        simp [implementationLeft, WorkflowState.beforeVerifying, state, DriveEvent.isImplementation]
      | correction => simpa [DriveEvent.isImplementation] using fewer

theorem correction_budget (round : Nat) : Budget (DriveEvent.corrects round) (correctionLeft round) where
  saved _ := rfl
  stopped _ _ := rfl
  terminal := by
    intro record terminal
    simp [correctionLeft, terminal]
  quiet logged idle := logged.quiet idle rfl
  spent := by
    intro record log logged active
    cases logged with
    | idle => exact Nat.zero_le _
    | stage => exact Nat.zero_le _
    | agent allowed =>
      cases allowed with
      | implementation => exact Nat.zero_le _
      | correction state _ =>
        by_cases own : record.currentCorrectionRound = round
        · simp [correctionLeft, active, own, DriveEvent.corrects]
        · simp [DriveEvent.corrects, own]
  paid := by
    intro record updated log logged advance
    have active : record.state.terminal = false := WorkflowState.active_of_legal advance.legal
    have later : record.currentCorrectionRound ≤ updated.currentCorrectionRound := by
      rcases advance.correction with same | ⟨_, _, next⟩ <;> omega
    have fewer : correctionLeft round updated ≤ correctionLeft round record := by
      unfold correctionLeft
      split
      · rw [if_pos ⟨active, by omega⟩]
      · exact Nat.zero_le _
    cases logged with
    | idle => simpa using fewer
    | stage => simpa [DriveEvent.corrects] using fewer
    | agent allowed =>
      cases allowed with
      | implementation => simpa [DriveEvent.corrects] using fewer
      | correction state _ =>
        by_cases own : record.currentCorrectionRound = round
        · -- The call is paid for by the next round, or by the end of the run.
          have legal := advance.legal
          rw [state] at legal
          have gone : correctionLeft round updated = 0 := by
            rcases legalWorkflowTransitions_correcting legal with verifying | terminal
            · have counted := advance.corrected state verifying
              simp [correctionLeft, counted, own]
            · simp [correctionLeft, terminal]
          rw [gone]
          simp [correctionLeft, active, own, DriveEvent.corrects]
        · simpa [DriveEvent.corrects, own] using fewer

/-- Every correction agent uses a round, or the run ends after it. -/
theorem rounds_budget : Budget DriveEvent.isCorrection fun record => correctionRank record.toRunFields where
  saved _ := rfl
  stopped _ _ := rfl
  terminal := by
    intro record terminal
    simp [correctionRank, terminal]
  quiet logged idle := logged.quiet idle rfl
  spent := by
    intro record log logged active
    rcases logged.corrections with none | ⟨once, _, below⟩
    · omega
    · simp only [correctionRank, active, RunFields.remainingRounds, Bool.false_eq_true, if_false]
      omega
  paid := by
    intro record updated log logged advance
    have active : record.state.terminal = false := WorkflowState.active_of_legal advance.legal
    have rank : correctionRank record.toRunFields = record.remainingRounds := by
      simp only [correctionRank, active, Bool.false_eq_true, if_false]
    rcases logged.corrections with none | ⟨once, state, below⟩
    · have fewer := advance.remaining
      rw [none, rank]
      unfold correctionRank
      split <;> omega
    · have paid := advance.correctionRank_lt state below
      omega

/-- No other agent writes. -/
theorem DispatchLog.invocations {record : RunRecord} {log : List DriveEvent} (logged : DispatchLog record log) :
    log.countP DriveEvent.isInvocation =
      log.countP DriveEvent.isImplementation + log.countP DriveEvent.isCorrection := by
  cases logged with
  | idle | stage => rfl
  | agent allowed => cases allowed <;> rfl

/-- The agents that are still to come. -/
def invocationsLeft (record : RunRecord) : Nat := implementationLeft record + correctionRank record.toRunFields

theorem invocation_budget : Budget DriveEvent.isInvocation invocationsLeft :=
  implementation_budget.add rounds_budget (fun _ => rfl) (fun _ _ => rfl) DispatchLog.invocations

/-- An agent may have been writing when the last session ended. -/
def Interrupted (store : RunStore) : Prop :=
  store.record.state.writing = true ∨
    ∃ attempt ∈ store.ledger.records, attempt.phase.writable = true ∧ attempt.status = .started

/-- A writable attempt that is still STARTED is the one of the current state, or the
run waits for a human. -/
def WritesAccounted (store : RunStore) : Prop :=
  (∃ attempt ∈ store.ledger.records, attempt.phase.writable = true ∧ attempt.status = .started) →
    store.record.state.writing = true ∨ store.record.state = .humanRequired

def WritesFinished (store : RunStore) : Prop :=
  ∀ attempt ∈ store.ledger.records, attempt.phase.writable = true → attempt.status ≠ .started

/-- When all writes are finished, all are accounted for. -/
theorem WritesFinished.accounted {store : RunStore} (finished : WritesFinished store) : WritesAccounted store := by
  rintro ⟨attempt, member, writable, started⟩
  exact absurd started (finished attempt member writable)

/-- A phase that may write belongs to a state in which an agent may be writing. -/
theorem writing_of_writable {state : WorkflowState} {phase : AttemptPhase}
    (active : phaseForActiveState state = some phase) (writable : phase.writable = true) : state.writing = true := by
  revert active writable
  cases state <;> cases phase <;> decide

section Pass

variable {printable : Char → Bool} {store t : RunStore}

/-- Of the attempts that a pass leaves, only its own may be writing. -/
theorem Attempted.unfinished {attempt other : AttemptRecord} (attempted : Attempted store t attempt)
    (finished : WritesFinished store) (member : other ∈ t.ledger.records) (writable : other.phase.writable = true)
    (started : other.status = .started) : other = attempt ∧ store.record.state.writing = true := by
  rw [attempted.records] at member
  rcases List.mem_append.mp member with member | member
  · exact absurd started (finished other member writable)
  · obtain rfl := List.mem_singleton.mp member
    exact ⟨rfl, writing_of_writable attempted.phase writable⟩

/-- A state that does not write leaves no write behind. -/
theorem AttemptEffect.finishes (effect : AttemptEffect printable store t) (finished : WritesFinished store)
    (idle : store.record.state.writing = false) : WritesFinished t := by
  cases effect with
  | none ledger => exact fun attempt member => finished attempt (ledger ▸ member)
  | running attempted started =>
    intro other member writable unfinished
    have writing := (attempted.unfinished finished member writable unfinished).2
    rw [idle] at writing
    cases writing
  | finished ended =>
    intro other member writable unfinished
    have writing := (ended.toAttempted.unfinished finished member writable unfinished).2
    rw [idle] at writing
    cases writing

/-- The attempt a pass finishes has ended. -/
theorem Finished.writesFinished {outcome : StageOutcome} {attempt : AttemptRecord}
    (ended : Finished printable store t outcome attempt) (finished : WritesFinished store) : WritesFinished t := by
  intro other member writable unfinished
  obtain ⟨rfl, _⟩ := ended.toAttempted.unfinished finished member writable unfinished
  rw [ended.status] at unfinished
  exact attemptStatusByStageOutcome_ne_started outcome unfinished

/-- A pass that stops leaves at most the attempt of its own state. -/
theorem AttemptEffect.accounted (effect : AttemptEffect printable store t) (finished : WritesFinished store)
    (same : t.record = store.record) : WritesAccounted t := by
  cases effect with
  | none ledger =>
    have after : WritesFinished t := fun attempt member => finished attempt (ledger ▸ member)
    exact after.accounted
  | running attempted started =>
    rintro ⟨other, member, writable, unfinished⟩
    rw [same]
    exact .inl (attempted.unfinished finished member writable unfinished).2
  | finished ended => exact (ended.writesFinished finished).accounted

/-- A pass that saves its decision leaves no agent writing. -/
theorem MoveCause.finished {updated : RunRecord} {ledger : AttemptLedger} {resultFile : Nat → ArtifactFile}
    (cause : MoveCause printable store updated ledger resultFile t) (finished : WritesFinished store) :
    WritesFinished t := by
  cases cause with
  | immediate _ _ kept => exact fun attempt member => finished attempt (kept.1 ▸ member)
  | executed _ _ ended _ => exact ended.writesFinished finished
  | reported state _ effect => exact effect.finishes finished (by rw [state]; rfl)

/-- The invariant of the sessions: between them every write has ended, or the run is interrupted. -/
theorem writes_rule : SessionRule printable WritesFinished WritesAccounted where
  created new attempt member := by
    rw [new.ledger] at member
    exact absurd member List.not_mem_nil
  rests live := live.accounted
  passed live _ effect := by
    cases effect with
    | stopped kept _ attempt => exact attempt.accounted live kept.record
    | moved _ _ _ cause _ => exact (cause.finished live).accounted
  moved live _ effect := by
    cases effect with
    | moved _ _ _ cause _ => exact cause.finished live
  stopped := by
    intro store t rest stopped
    rintro ⟨attempt, member, unfinished⟩
    rw [stopped.ledger] at member
    rcases rest ⟨attempt, member, unfinished⟩ with writing | human
    · exact .inr (stopped.writing writing)
    · have active := stopped.active
      rw [human] at active
      cases active
  resumed _ resumable := resumable.finished

end Pass

section Resume

variable {sha256 : Sha256} {ticketDigest : TicketDigest} {resolve : PathResolver} {printable : Char → Bool}
  {runPath : String} {store t : RunStore} {resume : ResumeEnvironment}

/-- A run that was interrupted in a write cannot be resumed. -/
theorem Resumable.notInterrupted (resumable : Resumable store) : ¬ Interrupted store := by
  rintro (writing | ⟨attempt, member, writable, started⟩)
  · rw [resumable.notWriting] at writing
    cases writing
  · exact resumable.finished attempt member writable started

/-- What a resume decides about interrupted writes. -/
inductive Refused (record : RunRecord) : Except Raised ResumeOutcome → Prop
  | raised {error : Raised} : Refused record (.error error)
  | ownershipLost {error : Raised} : Refused record (.ok (.ownershipLost error))
  | alreadyTerminal (terminal : record.state.terminal = true) : Refused record (.ok .alreadyTerminal)
  | humanRequired {reason : String} : Refused record (.ok (.humanRequired reason))

theorem resumeDecision_refused (reads : resume.ReadsFrom store) (interrupted : Interrupted store) :
    Refused store.record (resumeDecision sha256 ticketDigest resolve resume store.record) := by
  have lost {error : Raised} : Refused store.record
      (if error.isinstance .runOwnershipError then .ok (.ownershipLost error) else .error error) := by
    split
    · exact .ownershipLost
    · exact .raised
  unfold resumeDecision resumeTicketLifecycleLocked
  cases resume.sources.owned with
  | error error => exact lost
  | ok _ =>
    dsimp only
    split
    · rename_i terminal
      exact .alreadyTerminal terminal
    unfold resumeActive
    cases found : findResumeProblem sha256 ticketDigest resolve store.record.resolvedPolicy.verificationCommands
        resume.sources store.record resume.compatibilityProblem with
    | error error => exact lost
    | ok problem =>
      cases problem with
      | some reason => exact .humanRequired
      | none =>
        obtain ⟨preflight, checked⟩ := findResumeProblem_none found
        obtain ⟨ledger, baseline, snapshot, current, gate⟩ := resumeGate_of_noProblem preflight checked
        obtain rfl := reads.ledger ledger gate.loaded
        exact absurd interrupted (Resumable.notInterrupted ⟨gate.workspace.resumable, gate.finished⟩)

/-- A refused resume stops the run for a human, or it leaves the run as it is. -/
theorem settleResume_refused {failure : FailurePath} {decision : Except Raised ResumeOutcome}
    {outcome : Except Halt LifecycleResult} (refused : Refused store.record decision)
    (h : settleResume failure store.record decision store = (outcome, t)) :
    StopsIn .humanRequired store t ∧
      ∀ settled, outcome = .ok settled → settled.safetyViolations = [] →
        t.record.state = .humanRequired ∨ t = store ∧ store.record.state.terminal = true := by
  cases refused with
  | raised =>
    cases h
    exact ⟨.inl rfl, fun _ own => by cases own⟩
  | ownershipLost =>
    cases h
    refine ⟨.inl rfl, fun _ own safe => ?_⟩
    cases own
    cases safe
  | alreadyTerminal terminal =>
    cases h
    exact ⟨.inl rfl, fun _ _ _ => .inr ⟨rfl, terminal⟩⟩
  | humanRequired =>
    obtain ⟨stops, ends⟩ := stopForHuman_stops h
    exact ⟨stops, fun settled own _ => .inl (ends settled own)⟩

/-- **Writes happen at most once**, over all sessions of a run, one after the other, and
all points at which they may be cut short. A resume that finds interrupted writes
dispatches nothing: all that it may do to the run is to stop it for a human, and it
does unless it is cut short itself or the run directory is no longer owned. -/
theorem writes_at_most_once (reached : RunReached sha256 ticketDigest resolve printable runPath store) :
    store.events.countP DriveEvent.isImplementation ≤ 1 ∧
    (∀ round, store.events.countP (DriveEvent.corrects round) ≤ 1) ∧
    ∀ resume fuel outcome t, Interrupted store → resume.ReadsFrom store →
      resumeTicketLifecycle sha256 ticketDigest resolve printable runPath resume fuel store = (outcome, t) →
      (t.events = store.events ∨ t.events = store.events ++ [.stopped store.record t.record]) ∧
      (t.record = store.record ∨ t.record.state = .humanRequired) ∧
      ∀ result, outcome = .ok result →
        ∃ settled, result = some settled ∧ (settled.safetyViolations = [] → t.record.state = .humanRequired) := by
  refine ⟨implementation_budget.reached (fun new => ?_) reached,
    fun round => (correction_budget round).reached (fun new => ?_) reached, ?_⟩
  · rw [implementationLeft, new.state]
    exact le_refl 1
  · unfold correctionLeft
    split <;> omega
  intro resume fuel outcome t interrupted reads session
  have accounted := writes_rule.rest reached
  have refused : Refused store.record (resumeDecision sha256 ticketDigest resolve resume store.record) :=
    resumeDecision_refused reads interrupted
  rcases call_bind_cases session with ⟨_, _, rfl, rfl⟩ | ⟨record, loaded, session⟩
  · exact ⟨.inl rfl, .inl rfl, fun _ own => by cases own⟩
  obtain rfl := reads.record record loaded
  rcases call_bind_cases session with ⟨_, _, rfl, rfl⟩ | ⟨_, _, session⟩
  · exact ⟨.inl rfl, .inl rfl, fun _ own => by cases own⟩
  have notDriven : resumeDecision sha256 ticketDigest resolve resume store.record ≠ .ok .driven := by
    intro driven
    rw [driven] at refused
    cases refused
  have human : store.record.state.terminal = true → store.record.state = .humanRequired := by
    intro terminal
    have idle : store.record.state.writing = false := by
      cases state : store.record.state <;> rw [state] at terminal <;> first | rfl | cases terminal
    rcases interrupted with writing | unfinished
    · rw [idle] at writing
      cases writing
    · rcases accounted unfinished with writing | human
      · rw [idle] at writing
        cases writing
      · exact human
  obtain ⟨ended, ran, settled⟩ := SessionRule.resumeLocked_settles notDriven session
  obtain ⟨stops, ends⟩ := settleResume_refused refused ran
  refine ⟨stops.imp (fun same => by rw [same]) fun stopped => stopped.1.events,
    stops.imp (fun same => by rw [same]) And.right, fun result own => ?_⟩
  obtain ⟨final, rfl, rfl⟩ := settled result own
  refine ⟨final, rfl, fun safe => ?_⟩
  rcases ends final rfl safe with required | ⟨rfl, terminal⟩
  · exact required
  · exact human terminal

end Resume

/-- A resume of the example run that loads this record, and finds the run directory of the
store and the clean workspace. The process dies when it has called an agent. -/
def exampleResume (record : RunRecord) (store : RunStore) (owned : Except Raised Unit) : ResumeEnvironment where
  load := .ok record
  lock := .ok ()
  compatibilityProblem := .ok none
  sources :=
    { exampleResumeSources with
      directory := store.directory
      owned
      preflightCapture := .ok exampleCleanWorkspace
      resumeCapture := .ok exampleCleanWorkspace }
  createExecutors := .ok ()
  drive := { exampleDyingDrive with passes := fun index => exampleDyingDrive.passes (index + 1) }
  failure := (exampleFailingDrive (.ok ())).failure

theorem exampleResume_readsFrom {store : RunStore} {owned : Except Raised Unit} :
    (exampleResume store.record store owned).ReadsFrom store where
  record _ loaded := (Except.ok.inj loaded).symm
  ledger _ read := (Except.ok.inj read).symm

/-- What such a resume of a store answers and leaves. -/
def exampleResumed (resume : ResumeEnvironment) (store : RunStore) :
    Except Halt (Option LifecycleResult) × RunStore :=
  resumeTicketLifecycle exampleRunSha256 exampleTicketDigest .ok (fun _ => true) "/runs/r1" resume 3 store

/-- The agent of the interrupted run was called once. Its resume calls no other and leaves
the run to a human. -/
theorem exampleSession_writesOnce :
    (exampleSession exampleDyingDrive 6).events.countP DriveEvent.isImplementation ≤ 1 ∧
    (exampleSession exampleDyingDrive 6).record.state = .implementing ∧
    ∃ settled t,
      exampleResumed (exampleResume (exampleSession exampleDyingDrive 6).record (exampleSession exampleDyingDrive 6)
        (.ok ())) (exampleSession exampleDyingDrive 6) = (.ok (some settled), t) ∧
      (t.events = (exampleSession exampleDyingDrive 6).events ∨
        t.events = (exampleSession exampleDyingDrive 6).events ++
          [.stopped (exampleSession exampleDyingDrive 6).record t.record]) ∧
      t.record.state = .humanRequired := by
  have state : (exampleSession exampleDyingDrive 6).record.state = .implementing := by decide +kernel
  have safe : (exampleResumed (exampleResume (exampleSession exampleDyingDrive 6).record
      (exampleSession exampleDyingDrive 6) (.ok ())) (exampleSession exampleDyingDrive 6)).1.map
        (Option.map fun settled => settled.safetyViolations.isEmpty) = .ok (some true) := by decide +kernel
  obtain ⟨once, _, resumes⟩ := writes_at_most_once (exampleSession_reached exampleDyingDrive 6)
  cases resumed : exampleResumed (exampleResume (exampleSession exampleDyingDrive 6).record
    (exampleSession exampleDyingDrive 6) (.ok ())) (exampleSession exampleDyingDrive 6) with
  | mk outcome t =>
    rw [resumed] at safe
    obtain ⟨events, _, ended⟩ :=
      resumes _ 3 outcome t (.inl (by rw [state]; rfl)) exampleResume_readsFrom resumed
    cases outcome with
    | error halt => cases safe
    | ok result =>
      obtain ⟨settled, rfl, required⟩ := ended result rfl
      have none : settled.safetyViolations = [] := by
        simpa [Except.map] using safe
      exact ⟨once, state, settled, t, rfl, events, required none⟩

/-- A resume whose run directory is no longer owned returns, and the run is still
IMPLEMENTING. A resume that loaded PREPARED, and got the lock when the session that wrote
it had gone on to VERIFYING, calls the implementation agent again. -/
theorem lost_and_overlapping_resumes :
    (RunReached exampleRunSha256 exampleTicketDigest .ok (fun _ => true) "/runs/r1"
        (exampleSession exampleDyingDrive 6) ∧
      (exampleSession exampleDyingDrive 6).record.state = .implementing ∧
      ∃ result, exampleResumed (exampleResume (exampleSession exampleDyingDrive 6).record
        (exampleSession exampleDyingDrive 6) (.error (ownershipError "Run ownership was lost.")))
          (exampleSession exampleDyingDrive 6) = (.ok (some result), exampleSession exampleDyingDrive 6)) ∧
    RunReached exampleRunSha256 exampleTicketDigest .ok (fun _ => true) "/runs/r1"
        (exampleSession exampleCorrectedDrive 3) ∧
      (exampleSession exampleCorrectedDrive 1).record.state = .prepared ∧
      (exampleSession exampleCorrectedDrive 3).record.state = .verifying ∧
      (exampleResumed (exampleResume (exampleSession exampleCorrectedDrive 1).record
        (exampleSession exampleCorrectedDrive 3) (.ok ())) (exampleSession exampleCorrectedDrive 3)).2.events.countP
          DriveEvent.isImplementation = 2 := by
  refine ⟨⟨exampleSession_reached exampleDyingDrive 6, by decide +kernel, _, rfl⟩,
    exampleSession_reached exampleCorrectedDrive 3, ?_⟩
  decide +kernel

end SprintTicket
