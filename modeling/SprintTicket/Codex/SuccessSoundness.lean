import SprintTicket.Codex.Adapter

/-!
# What a reported success says

`execute` reports a success from the evidence that is taken after the monitor has
left its loop, and the monitor has left it on looks of its own. `Timeline` is what
both look at: the moments of one process, its observer and its workers, in any
order of events. `reported_success_iff` compares the report with the timeline.
-/

set_option autoImplicit false

namespace SprintTicket

open Checks

/-- What can be read at one moment. -/
structure Moment where
  observed : Observed
  processExited : Bool
  containmentActive : Bool
  stdoutDone : Bool
  stderrDone : Bool
  inputDone : Bool
  inputCompletedAt : Option Rat
  stdoutError : Option String
  stderrError : Option String
  stdinError : Option String
  now : Rat

def Moment.workersDone (moment : Moment) : Bool := moment.stdoutDone && moment.stderrDone && moment.inputDone

/-- The moments of one process. Its containment may become active and inactive at any
time; what a worker has written stays once it has published that it is done. -/
structure Timeline where
  loads : String → Loaded
  clock : ObserverClock
  moment : Nat → Moment
  now_mono : Monotone fun i => (moment i).now
  /-- The observer observes further lines, of which its reader is the only source. -/
  fed : ∀ i j, i ≤ j → ∃ lines,
    interpret (observeLine loads clock) (moment i).observed lines = .ok (moment j).observed
  exited : ∀ i j, i ≤ j → (moment i).processExited = true → (moment j).processExited = true
  stdout : ∀ i j, i ≤ j → (moment i).stdoutDone = true → (moment j).stdoutDone = true ∧
    (moment j).observed = (moment i).observed ∧ (moment j).stdoutError = (moment i).stdoutError
  stderr : ∀ i j, i ≤ j → (moment i).stderrDone = true → (moment j).stderrDone = true ∧
    (moment j).stderrError = (moment i).stderrError
  input : ∀ i j, i ≤ j → (moment i).inputDone = true → (moment j).inputDone = true ∧
    (moment j).stdinError = (moment i).stdinError ∧ (moment j).inputCompletedAt = (moment i).inputCompletedAt
  /-- A delivery that is done has read the clock. -/
  delivered : ∀ i, (moment i).inputDone = true → ∃ completed, (moment i).inputCompletedAt = some completed ∧
    completed ≤ (moment i).now

/-- When the parts of a look are read. -/
structure LookInstants where
  observed : Nat
  exited : Nat
  stdout : Nat
  stderr : Nat
  input : Nat
  observedDone : Nat
  active : Nat
  now : Nat
  ordered : observed ≤ exited ∧ exited ≤ stdout ∧ stdout ≤ stderr ∧ stderr ≤ input ∧ input ≤ observedDone ∧
    observedDone ≤ active ∧ active ≤ now

/-- When the parts of a sample are. -/
structure SampleInstants where
  first : LookInstants
  second : LookInstants
  inputDone : Nat
  inputCompletedAt : Nat
  stdoutError : Nat
  stderrError : Nat
  stdinError : Nat
  ordered : first.now ≤ second.observed ∧ second.now ≤ inputDone ∧ inputDone ≤ inputCompletedAt ∧
    inputCompletedAt ≤ stdoutError ∧ stdoutError ≤ stderrError ∧ stderrError ≤ stdinError

namespace Timeline

variable (timeline : Timeline)

def look (instants : LookInstants) : MonitorLook where
  observed := (timeline.moment instants.observed).observed
  processExited := (timeline.moment instants.exited).processExited
  workersDone := (timeline.moment instants.stdout).stdoutDone && (timeline.moment instants.stderr).stderrDone &&
    (timeline.moment instants.input).inputDone
  observedDone := (timeline.moment instants.observedDone).observed
  containmentActive := (timeline.moment instants.active).containmentActive
  now := (timeline.moment instants.now).now

def sample (instants : SampleInstants) : MonitorSample where
  first := timeline.look instants.first
  second := timeline.look instants.second
  inputDone := (timeline.moment instants.inputDone).inputDone
  inputCompletedAt := (timeline.moment instants.inputCompletedAt).inputCompletedAt
  stdoutError := (timeline.moment instants.stdoutError).stdoutError
  stderrError := (timeline.moment instants.stderrError).stderrError
  stdinError := (timeline.moment instants.stdinError).stdinError

/-- The samples of a monitor that polls between two instants; a poll may raise. -/
inductive Polled : Nat → List (Except Raised MonitorSample) → Nat → Prop
  | nil {start stop : Nat} (later : start ≤ stop) : Polled start [] stop
  | raised {start stop : Nat} (error : Raised) (rest : List (Except Raised MonitorSample)) :
      Polled start (.error error :: rest) stop
  | sample {start stop : Nat} (instants : SampleInstants) (later : start ≤ instants.first.observed)
      (before : instants.stdinError ≤ stop) (rest : List (Except Raised MonitorSample))
      (polled : Polled instants.stdinError rest stop) : Polled start (.ok (timeline.sample instants) :: rest) stop

/-- What the monitor reads after its loop. -/
structure ReadAfter (ending : MonitorEnding) (start : Nat) : Prop where
  active : ∀ active, ending.containmentActive = .ok active → ∃ i, start ≤ i ∧
    active = (timeline.moment i).containmentActive
  done : ∃ i j k, start ≤ i ∧ start ≤ j ∧ start ≤ k ∧ ending.workersDone =
    ((timeline.moment i).stdoutDone && (timeline.moment j).stderrDone && (timeline.moment k).inputDone)
  snapshot : ∃ i, start ≤ i ∧ ending.evidence.snapshot = (timeline.moment i).observed

end Timeline

/-- A terminal event that was observed stays the one that was. -/
theorem observeEvent_terminal (clock : ObserverClock) {observed : Observed} {terminal : String}
    (seen : observed.terminalEventType = some terminal) (eventType : String) (record : List (String × Json)) :
    (observeEvent clock observed eventType record).terminalEventType = some terminal ∧
      (observeEvent clock observed eventType record).terminalEventElapsedSeconds =
        observed.terminalEventElapsedSeconds := by
  unfold observeEvent
  dsimp only
  split
  · split
    · split <;> exact ⟨seen, rfl⟩
    · exact ⟨seen, rfl⟩
  · split
    · exact ⟨seen, rfl⟩
    · rw [seen]
      dsimp only
      split <;> exact ⟨rfl, rfl⟩

/-- The first terminal event is kept, with its time. -/
theorem observeLine_terminal {loads : String → Loaded} {clock : ObserverClock} {observed next : Observed}
    {terminal line : String} (seen : observed.terminalEventType = some terminal)
    (h : observeLine loads clock observed line = .ok next) : next.terminalEventType = some terminal ∧
      next.terminalEventElapsedSeconds = observed.terminalEventElapsedSeconds := by
  unfold observeLine at h
  split at h
  · cases h
  · split at h
    · cases h
      exact observeEvent_terminal clock seen _ _
    · cases h
      exact ⟨seen, rfl⟩
  · cases h
    exact ⟨seen, rfl⟩

theorem interpret_terminal {loads : String → Loaded} {clock : ObserverClock} {terminal : String}
    {lines : List (List Char)} {observed next : Observed} (seen : observed.terminalEventType = some terminal)
    (h : interpret (observeLine loads clock) observed lines = .ok next) : next.terminalEventType = some terminal ∧
      next.terminalEventElapsedSeconds = observed.terminalEventElapsedSeconds := by
  induction lines generalizing observed with
  | nil =>
    cases h
    exact ⟨seen, rfl⟩
  | cons line lines ih =>
    obtain ⟨middle, first, rest⟩ := bind_ok_iff.mp h
    obtain ⟨kept, time⟩ := observeLine_terminal seen first
    obtain ⟨kept', time'⟩ := ih kept rest
    exact ⟨kept', time'.trans time⟩

section Decision

variable {timeline : Timeline} {limits : MonitorLimits}

theorem Timeline.terminal_stays {i j : Nat} (later : i ≤ j) {terminal : String}
    (seen : (timeline.moment i).observed.terminalEventType = some terminal) :
    (timeline.moment j).observed.terminalEventType = some terminal ∧
      (timeline.moment j).observed.terminalEventElapsedSeconds =
        (timeline.moment i).observed.terminalEventElapsedSeconds := by
  obtain ⟨lines, fed⟩ := timeline.fed i j later
  exact interpret_terminal seen fed

/-- The finalisation deadline that is set belongs to the terminal event. -/
def DeadlineOf (timeline : Timeline) (limits : MonitorLimits) (finalizationDeadline : Option Rat) (start : Nat) : Prop :=
  ∀ deadline ∈ finalizationDeadline, ∃ terminal elapsed,
    (timeline.moment start).observed.terminalEventType = some terminal ∧
      (timeline.moment start).observed.terminalEventElapsedSeconds = some elapsed ∧
        deadline = limits.launchedAt + elapsed + finalizationSeconds

theorem DeadlineOf.later {finalizationDeadline : Option Rat} {i j : Nat}
    (given : DeadlineOf timeline limits finalizationDeadline i) (later : i ≤ j) :
    DeadlineOf timeline limits finalizationDeadline j := by
  intro deadline set
  obtain ⟨terminal, elapsed, seen, time, own⟩ := given deadline set
  obtain ⟨kept, kept'⟩ := Timeline.terminal_stays later seen
  exact ⟨terminal, elapsed, kept, kept'.trans time, own⟩

/-- The look is one of the two of the sample. -/
theorem MonitorSample.look_cases (sample : MonitorSample) (finalizationDeadline : Option Rat) :
    sample.look limits finalizationDeadline = sample.first ∨ sample.look limits finalizationDeadline = sample.second := by
  unfold MonitorSample.look
  split
  · exact .inr rfl
  · exact .inl rfl

/-- The snapshot that a look decides on was taken at one of its instants. -/
theorem Timeline.look_snapshot (instants : LookInstants) : ∃ i, instants.observed ≤ i ∧ i ≤ instants.now ∧
    (timeline.look instants).snapshot = (timeline.moment i).observed := by
  obtain ⟨h₁, h₂, h₃, h₄, h₅, h₆, h₇⟩ := instants.ordered
  unfold MonitorLook.snapshot
  split
  · exact ⟨instants.observedDone, by omega, by omega, rfl⟩
  · exact ⟨instants.observed, le_rfl, by omega, rfl⟩

/-- The instants of the look that an iteration decides on. -/
theorem Timeline.decided_look (instants : SampleInstants) (finalizationDeadline : Option Rat) :
    ∃ chosen : LookInstants, instants.first.observed ≤ chosen.observed ∧ chosen.now ≤ instants.inputDone ∧
      (timeline.sample instants).look limits finalizationDeadline = timeline.look chosen := by
  obtain ⟨h₁, h₂, -⟩ := instants.ordered
  obtain ⟨f₁, f₂, f₃, f₄, f₅, f₆, f₇⟩ := instants.first.ordered
  obtain ⟨s₁, s₂, s₃, s₄, s₅, s₆, s₇⟩ := instants.second.ordered
  rcases @MonitorSample.look_cases limits (timeline.sample instants) finalizationDeadline with first | second
  · exact ⟨instants.first, le_rfl, by omega, first⟩
  · exact ⟨instants.second, by omega, h₂, second⟩

theorem inTime_some {elapsed : Option Rat} (inTime : limits.inTime elapsed = true) :
    ∃ seconds, elapsed = some seconds ∧ ∀ timeout ∈ limits.timeoutSeconds, seconds < timeout :=
  inTime_iff.mp inTime

/-- An eligible completion has a terminal event with a time. -/
theorem eligible_terminal {sample : MonitorSample} {observed : Observed}
    (eligible : limits.completionEligible sample observed = true) :
    observed.terminalEventType = some "turn.completed" ∧ ∃ elapsed,
      observed.terminalEventElapsedSeconds = some elapsed ∧ ∀ timeout ∈ limits.timeoutSeconds, elapsed < timeout := by
  simp only [MonitorLimits.completionEligible, MonitorLimits.timelyTerminal, Bool.and_eq_true,
    decide_eq_true_eq] at eligible
  exact ⟨eligible.1.1.1, inTime_some eligible.1.1.2⟩

/-- It has a message with a time, and a delivery in time. -/
theorem eligible_message {sample : MonitorSample} {observed : Observed}
    (eligible : limits.completionEligible sample observed = true) :
    (∃ seconds, observed.structuredMessageElapsedSeconds = some seconds ∧
      ∀ timeout ∈ limits.timeoutSeconds, seconds < timeout) ∧
        ∀ completed ∈ sample.inputCompletedAt, ∀ deadline ∈ limits.deadline, completed < deadline := by
  simp only [MonitorLimits.completionEligible, MonitorLimits.timelyMessage, MonitorLimits.timelyInput,
    Bool.and_eq_true] at eligible
  refine ⟨inTime_some eligible.1.2.2, fun completed found deadline set => ?_⟩
  have early := eligible.2.2
  rw [Option.mem_def.mp found, Option.any_some, Option.mem_def.mp set, Option.all_some, decide_eq_true_eq] at early
  exact early

/-- An iteration that goes on leaves a deadline of the terminal event. -/
theorem DeadlineOf.again {finalizationDeadline next : Option Rat} {instants : SampleInstants} {start : Nat}
    (exact : limits.arithmetic = exactArithmetic) (later : start ≤ instants.first.observed)
    (given : DeadlineOf timeline limits finalizationDeadline start)
    (h : monitorIteration limits finalizationDeadline (timeline.sample instants) = .again next) :
    DeadlineOf timeline limits next instants.stdinError := by
  obtain ⟨-, -, h₃, h₄, h₅, h₆⟩ := instants.ordered
  obtain ⟨chosen, after, before, same⟩ := @Timeline.decided_look timeline limits instants finalizationDeadline
  have decided : decideIteration limits finalizationDeadline (timeline.sample instants)
      ((timeline.sample instants).look limits finalizationDeadline) = .again next := by
    unfold monitorIteration at h
    split at h
    · cases h
    · exact h
  obtain ⟨i, -, reached, taken⟩ := @Timeline.look_snapshot timeline chosen
  have last : start ≤ instants.stdinError := by
    obtain ⟨c₁, c₂, c₃, c₄, c₅, c₆, c₇⟩ := chosen.ordered
    omega
  rcases decideIteration_again decided with ⟨rfl, -⟩ | ⟨eligible, deadline, rfl, own, -⟩
  · exact given.later last
  · cases finalizationDeadline with
    | some set =>
      rw [Option.getD_some] at own
      subst own
      exact given.later last
    | none =>
      rw [same, taken] at eligible own
      obtain ⟨seen, elapsed, time, -⟩ := eligible_terminal eligible
      rintro _ ⟨⟩
      have stays := @DeadlineOf.later timeline limits (some deadline) i instants.stdinError
      refine stays ?_ (by omega) deadline rfl
      rintro _ ⟨⟩
      refine ⟨_, elapsed, seen, time, ?_⟩
      rw [own, Option.getD_none, time, Option.getD_some, exact]
      rfl

/-- **Where the loop is left**: on a sample of the timeline, with a deadline of the
terminal event if there is one. -/
theorem monitorLoop_left (exact : limits.arithmetic = exactArithmetic) {samples : List (Except Raised MonitorSample)}
    {finalizationDeadline : Option Rat} {start stop : Nat} {verdict : Verdict} {look : MonitorLook}
    (polled : timeline.Polled start samples stop) (given : DeadlineOf timeline limits finalizationDeadline start)
    (h : monitorLoop limits finalizationDeadline samples = some (.ok (verdict, look))) :
    ∃ (instants : SampleInstants) (deadline : Option Rat) (begun : Nat), begun ≤ instants.first.observed ∧
      instants.stdinError ≤ stop ∧ DeadlineOf timeline limits deadline begun ∧
        monitorIteration limits deadline (timeline.sample instants) = .leave verdict ∧
          look = (timeline.sample instants).look limits deadline := by
  induction polled generalizing finalizationDeadline with
  | nil => cases h
  | raised => cases h
  | sample instants later before rest polled ih =>
    rw [monitorLoop] at h
    split at h
    · rename_i left
      cases h
      exact ⟨instants, finalizationDeadline, _, later, before, given, left, rfl⟩
    · rename_i next again
      exact ih (given.again exact later again) h

/-- What a decision for a completion saw. -/
theorem decideIteration_completed {finalizationDeadline : Option Rat} {sample : MonitorSample} {look : MonitorLook}
    (h : decideIteration limits finalizationDeadline sample look = .leave .completed) :
    look.snapshot.problem = none ∧ limits.completionEligible sample look.snapshot = true ∧ look.finished = true ∧
      look.now < finalizationDeadline.getD (limits.arithmetic.add (limits.arithmetic.add limits.launchedAt
        (look.snapshot.terminalEventElapsedSeconds.getD 0)) finalizationSeconds) := by
  unfold decideIteration at h
  dsimp only at h
  split at h
  · cases h
  rename_i harmless
  split at h
  · cases h
  split at h
  · rename_i eligible
    unfold finalizeCompletion at h
    dsimp only at h
    split at h
    · rename_i finished
      refine ⟨?_, eligible, finished.1, finished.2⟩
      rw [Option.filter_eq_none_iff] at harmless
      cases found : look.snapshot.problem with
      | none => rfl
      | some problem =>
        have conflict := harmless problem found
        rw [eligible, Bool.or_true, Bool.true_or, Bool.true_or] at conflict
        exact absurd rfl conflict
    split at h <;> cases h
  split at h
  · cases h
  split at h <;> cases h

/-- What a decision for an exit without completion saw. -/
theorem decideIteration_notEligible {finalizationDeadline : Option Rat} {sample : MonitorSample} {look : MonitorLook}
    (h : decideIteration limits finalizationDeadline sample look = .leave .notEligible) :
    limits.completionEligible sample look.snapshot = false ∧ look.finished = true ∧
      hasPassed limits.deadline look.now = false := by
  unfold decideIteration at h
  dsimp only at h
  split at h
  · cases h
  split at h
  · cases h
  split at h
  · unfold finalizeCompletion at h
    dsimp only at h
    split at h
    · cases h
    split at h <;> cases h
  rename_i ineligible
  split at h
  · cases h
  rename_i before
  split at h
  · rename_i finished
    exact ⟨by simpa using ineligible, finished, by simpa using before⟩
  · cases h

/-- Without a worker failure no worker has an error. -/
theorem MonitorSample.workerFailure_none {sample : MonitorSample} (h : sample.workerFailure = none) :
    sample.stdoutError = none ∧ sample.stderrError = none ∧ sample.stdinError = none := by
  simpa [MonitorSample.workerFailure] using h

/-- Everything of a process has finished at a moment, and no worker has failed. -/
structure Moment.Finished (moment : Moment) : Prop where
  exited : moment.processExited = true
  done : moment.workersDone = true
  stdout : moment.stdoutError = none
  stderr : moment.stderrError = none
  stdin : moment.stdinError = none

/-- What a finished look and a sample without a worker's error say of the instant at
which the look read the clock. -/
structure FinishedAt (timeline : Timeline) (instants : SampleInstants) (chosen : LookInstants) (completed : Rat) :
    Prop where
  finished : (timeline.moment chosen.now).Finished
  contained : (timeline.moment chosen.active).containmentActive = false
  snapshot : (timeline.look chosen).snapshot = (timeline.moment chosen.now).observed
  delivered : (timeline.moment chosen.now).inputCompletedAt = some completed
  completed_le : completed ≤ (timeline.moment chosen.now).now
  inputDone : (timeline.sample instants).inputDone = true
  inputCompletedAt : (timeline.sample instants).inputCompletedAt = some completed

theorem Timeline.finishedAt {instants : SampleInstants} {chosen : LookInstants}
    (before : chosen.now ≤ instants.inputDone) (finished : (timeline.look chosen).finished = true)
    (fine : (timeline.sample instants).workerFailure = none) : ∃ completed, FinishedAt timeline instants chosen completed := by
  obtain ⟨-, -, h₃, h₄, h₅, h₆⟩ := instants.ordered
  obtain ⟨c₁, c₂, c₃, c₄, c₅, c₆, c₇⟩ := chosen.ordered
  obtain ⟨noStdout, noStderr, noStdin⟩ := MonitorSample.workerFailure_none fine
  simp only [MonitorLook.finished, Timeline.look, Bool.and_eq_true, Bool.not_eq_true'] at finished
  obtain ⟨⟨exited, inactive⟩, ⟨stdoutDone, stderrDone⟩, inputDone⟩ := finished
  obtain ⟨stdoutNow, observedNow, stdoutError⟩ := timeline.stdout chosen.stdout chosen.now (by omega) stdoutDone
  obtain ⟨-, observedAgain, -⟩ := timeline.stdout chosen.stdout chosen.observedDone (by omega) stdoutDone
  obtain ⟨-, -, stdoutLater⟩ := timeline.stdout chosen.stdout instants.stdoutError (by omega) stdoutDone
  obtain ⟨stderrNow, stderrError⟩ := timeline.stderr chosen.stderr chosen.now (by omega) stderrDone
  obtain ⟨-, stderrLater⟩ := timeline.stderr chosen.stderr instants.stderrError (by omega) stderrDone
  obtain ⟨inputNow, stdinError, completedNow⟩ := timeline.input chosen.input chosen.now (by omega) inputDone
  obtain ⟨-, stdinLater, -⟩ := timeline.input chosen.input instants.stdinError (by omega) inputDone
  obtain ⟨-, -, completedLater⟩ := timeline.input chosen.input instants.inputCompletedAt (by omega) inputDone
  obtain ⟨inputLater, -, -⟩ := timeline.input chosen.input instants.inputDone (by omega) inputDone
  obtain ⟨completed, delivered, within⟩ := timeline.delivered chosen.input inputDone
  have clock : (timeline.moment chosen.input).now ≤ (timeline.moment chosen.now).now := timeline.now_mono (by omega)
  have workers : (timeline.look chosen).workersDone = true := by
    simp [Timeline.look, stdoutDone, stderrDone, inputDone]
  refine ⟨completed, ⟨timeline.exited _ _ (by omega) exited, ?_, ?_, ?_, ?_⟩, inactive, ?_, completedNow.trans delivered,
    within.trans clock, inputLater, completedLater.trans delivered⟩
  · simp [Moment.workersDone, stdoutNow, stderrNow, inputNow]
  · rw [stdoutError, ← stdoutLater]
    exact noStdout
  · rw [stderrError, ← stderrLater]
    exact noStderr
  · rw [stdinError, ← stdinLater]
    exact noStdin
  · rw [MonitorLook.snapshot, if_pos workers]
    exact observedAgain.trans observedNow.symm

/-- Where the evidence is in time, an exit without an eligible completion was too late. -/
theorem FinishedAt.eligible {instants : SampleInstants} {chosen : LookInstants} {completed : Rat}
    (finished : FinishedAt timeline instants chosen completed)
    (early : hasPassed limits.deadline (timeline.moment chosen.now).now = false)
    (terminal : limits.timelyTerminal (timeline.moment chosen.now).observed = true)
    (message : limits.timelyMessage (timeline.moment chosen.now).observed = true) :
    limits.completionEligible (timeline.sample instants) (timeline.look chosen).snapshot = true := by
  have input : limits.timelyInput (timeline.sample instants) = true := by
    rw [MonitorLimits.timelyInput, finished.inputDone, finished.inputCompletedAt, Bool.true_and, Option.any_some]
    cases set : limits.deadline with
    | none => rfl
    | some deadline =>
      rw [set] at early
      have before : (timeline.moment chosen.now).now < deadline := by simpa [hasPassed] using early
      rw [Option.all_some, decide_eq_true_eq]
      exact finished.completed_le.trans_lt before
  rw [MonitorLimits.completionEligible, finished.snapshot, terminal, message, input]
  rfl

end Decision

namespace CodexCalls

variable {calls : CodexCalls} {execution : AgentExecution}

/-- `_failure` never reports success. -/
theorem failure_failed {details : FailureDetails} (h : calls.failure details = .ok execution) :
    execution.status ≠ .success := by
  obtain ⟨artifacts, same⟩ := failure_ok h
  rw [same]
  exact fun status => nomatch status

theorem unlaunched_failed {reason : CodexFailureReason} {message : String} {argv : List String}
    (h : calls.unlaunched reason message argv = .ok execution) : execution.status ≠ .success :=
  failure_failed (check_bind_ok.mp h).2

/-- An execution that the contexts return is a failure. -/
theorem invocation_failed (h : calls.invocation = .ok (.execution execution)) : execution.status ≠ .success := by
  unfold invocation at h
  split at h
  · obtain ⟨_, h⟩ := check_bind_ok.mp h
    obtain ⟨_, _, h⟩ := bind_ok_iff.mp h
    cases h
  · cases h
  · obtain ⟨_, failed, same⟩ := map_ok_iff.mp h
    cases same
    obtain ⟨_, _, failed⟩ := bind_ok_iff.mp failed
    exact failure_failed (check_bind_ok.mp failed).2
  · split at h
    · cases h
    split at h
    · obtain ⟨_, failed, same⟩ := map_ok_iff.mp h
      cases same
      obtain ⟨_, _, failed⟩ := bind_ok_iff.mp failed
      exact failure_failed (check_bind_ok.mp failed).2
    · obtain ⟨_, failed, same⟩ := map_ok_iff.mp h
      cases same
      unfold startRaised at failed
      split at failed <;> exact unlaunched_failed failed

theorem invocation_process {process : CodexProcessResult} {publication : ProcessOutputPublication}
    (h : calls.invocation = .ok (.process process publication)) : calls.process = .ok process := by
  unfold invocation at h
  split at h
  · rename_i ended
    obtain ⟨_, h⟩ := check_bind_ok.mp h
    obtain ⟨_, _, h⟩ := bind_ok_iff.mp h
    cases h
    exact ended
  · cases h
  · obtain ⟨_, _, same⟩ := map_ok_iff.mp h
    cases same
  · split at h
    · cases h
    split at h <;> obtain ⟨_, _, same⟩ := map_ok_iff.mp h <;> cases same

/-- The process of a success, its message and its result. -/
structure Accepts (calls : CodexCalls) (process : CodexProcessResult) (message : String) : Prop where
  ended : calls.process = .ok process
  untroubled : process.transportFailure = none
  exitCode : process.returncode = 0
  timely : timelyMessage process.evidence = some message
  result : ∃ raw value expected, calls.scratch = .text raw ∧ calls.loads raw = .ok value ∧
    calls.loads message = .ok expected ∧ expected.pyEq value = true

/-- Success needs a last message and a result file that hold the same JSON. -/
theorem judgeResult_success {process : CodexProcessResult} {publication : ProcessOutputPublication} {message : String}
    (h : calls.judgeResult process publication message = .ok execution) (success : execution.status = .success) :
    ∃ raw value expected, calls.scratch = .text raw ∧ calls.loads raw = .ok value ∧
      calls.loads message = .ok expected ∧ expected.pyEq value = true := by
  unfold judgeResult at h
  split at h
  · exact absurd success (failure_failed h)
  · exact absurd success (failure_failed h)
  · rename_i raw found
    split at h
    · rename_i result accepted
      obtain ⟨value, loaded, accepted⟩ := bind_ok_iff.mp accepted
      obtain ⟨expected, loaded', accepted⟩ := bind_ok_iff.mp accepted
      obtain ⟨same, -⟩ := check_bind_ok.mp accepted
      exact ⟨raw, value, expected, found, loaded, loaded', by simpa using same⟩
    · split at h
      · exact absurd success (failure_failed (check_bind_ok.mp h).2)
      split at h
      · exact absurd success (failure_failed (check_bind_ok.mp h).2)
      · cases h

theorem judge_success {process : CodexProcessResult} {publication : ProcessOutputPublication}
    (ended : calls.process = .ok process) (h : calls.judge process publication = .ok execution)
    (success : execution.status = .success) : ∃ message, calls.Accepts process message := by
  unfold judge at h
  split at h
  · exact absurd success (failure_failed (check_bind_ok.mp h).2)
  rename_i untroubled
  split at h
  · exact absurd success (failure_failed (check_bind_ok.mp h).2)
  rename_i exitCode
  split at h
  · exact absurd success (failure_failed (check_bind_ok.mp h).2)
  · rename_i message timely
    exact ⟨message, ended, untroubled, not_not.mp exitCode, timely, judgeResult_success h success⟩

/-- **What a success of the adapter rests on.** -/
theorem execute_success (h : calls.execute = .ok execution) (success : execution.status = .success) :
    ∃ process message, calls.Accepts process message := by
  obtain ⟨_, h⟩ := check_bind_ok.mp h
  split at h
  · exact absurd success (failure_failed h)
  split at h
  · exact absurd success (failure_failed h)
  split at h
  · exact absurd success (unlaunched_failed h)
  split at h
  · exact absurd success (unlaunched_failed h)
  unfold launch at h
  split at h
  · split at h
    · exact absurd success (unlaunched_failed h)
    · cases h
  split at h
  · cases h
  · rename_i returned invoked
    cases h
    exact absurd success (invocation_failed (check_bind_ok.mp invoked).2)
  · rename_i process publication invoked
    obtain ⟨message, accepts⟩ := judge_success (invocation_process (check_bind_ok.mp invoked).2) h success
    exact ⟨process, message, accepts⟩

end CodexCalls

/-! ## Reported successes -/

/-- The streams of the process were closed, by the cleanup where one was started. -/
def MonitorEnding.StreamsClosed (ending : MonitorEnding) : Prop :=
  (ending.containmentActive = .ok false ∧ ending.streamsClosed = true) ∨
    (ending.containmentActive = .ok true ∧ ∃ readings, ending.cleanup = .ok readings ∧ readings.streamsClosed = true)

/-- What an invocation that is reported as a success should have been, with the
instant at which everything had finished. -/
structure SuccessfulInvocation (timeline : Timeline) (runner : RunnerCalls) (calls : CodexCalls)
    (process : CodexProcessResult) (finished active : Nat) (elapsed : Rat) (message : String) : Prop where
  ended : calls.process = .ok process
  completed : (timeline.moment finished).observed.terminalEventType = some "turn.completed"
  completedAt : (timeline.moment finished).observed.terminalEventElapsedSeconds = some elapsed
  completedInTime : ∀ timeout ∈ calls.policy.timeoutSeconds, elapsed < timeout
  observedMessage : (timeline.moment finished).observed.structuredMessage = some message
  messageInTime : ∃ seconds, (timeline.moment finished).observed.structuredMessageElapsedSeconds = some seconds ∧
    ∀ timeout ∈ calls.policy.timeoutSeconds, seconds < timeout
  noProblem : (timeline.moment finished).observed.problem = none
  allFinished : (timeline.moment finished).Finished
  contained : active ≤ finished ∧ (timeline.moment active).containmentActive = false
  delivered : ∃ completed, (timeline.moment finished).inputCompletedAt = some completed ∧
    ∀ deadline ∈ runner.limits.deadline, completed < deadline
  finishedInTime : (timeline.moment finished).now < runner.limits.launchedAt + elapsed + finalizationSeconds
  streamsClosed : runner.ending.StreamsClosed
  exitCode : process.returncode = 0
  result : ∃ raw value expected, calls.scratch = .text raw ∧ calls.loads raw = .ok value ∧
    calls.loads message = .ok expected ∧ expected.pyEq value = true

section Report

variable {timeline : Timeline} {runner : RunnerCalls} {calls : CodexCalls} {process : CodexProcessResult}
  {message : String} {stop : Nat}

/-- An evidence in time is one of the snapshot it was taken from. -/
theorem timelyMessage_some {limits : MonitorLimits} {readings : EvidenceReadings} {elapsed : Rat}
    {outcome finalization : String} {cleanup : CleanupResult}
    (h : CodexCalls.timelyMessage (processEvidence limits readings elapsed outcome finalization cleanup) = some message) :
    limits.timelyTerminal readings.snapshot = true ∧ limits.timelyMessage readings.snapshot = true ∧
      readings.snapshot.structuredMessage = some message := by
  unfold CodexCalls.timelyMessage at h
  split at h
  · rename_i both
    rw [Bool.and_eq_true] at both
    exact ⟨both.1, both.2, h⟩
  · cases h

/-- How the cleanup after a loop that was left without a failure went without one. -/
theorem Settled.untroubled {ending : MonitorEnding} {failure transport : Option String} {cleanup : CleanupResult}
    (settled : Settled ending failure cleanup transport) (fine : transport = none) :
    failure = none ∧ ((ending.containmentActive = .ok false ∧ ending.streamsClosed = true) ∨
      ((ending.containmentActive = .ok true ∨ ending.workersDone = false) ∧
        ∃ readings, ending.cleanup = .ok readings)) := by
  cases settled with
  | cleaned readings ran cause =>
    split at fine
    · subst fine
      exact ⟨rfl, .inr ⟨cause.resolve_left Bool.false_ne_true, readings, ran⟩⟩
    · cases fine
  | closed inactive _ streams none => exact ⟨none, .inl ⟨inactive, streams⟩⟩
  | unclosed => cases fine

/-- An accepted process is one that the monitor has decided on. -/
theorem accepted_monitored (ran : runner.run = some calls.process) (accepts : calls.Accepts process message) :
    ∃ verdict look, monitorLoop runner.limits none runner.samples = some (.ok (verdict, look)) ∧
      verdict ≠ .timedOut ∧ finishMonitor runner.limits runner.ending verdict look = .ok process := by
  rw [accepts.ended] at ran
  cases RunnerCalls.run_ended ran with
  | monitored verdict look _ left intime finished => exact ⟨verdict, look, left, intime, finished⟩
  | failed => cases accepts.untroubled
  | compatible _ _ silent =>
    have timely := accepts.timely
    unfold CodexCalls.timelyMessage at timely
    split at timely
    · rw [silent] at timely
      cases timely
    · cases timely

/-- The workers are still done after the loop. -/
theorem Timeline.ReadAfter.workersDone (read : timeline.ReadAfter runner.ending stop) {i : Nat} (before : i ≤ stop)
    (done : (timeline.moment i).workersDone = true) : runner.ending.workersDone = true := by
  obtain ⟨a, b, c, ha, hb, hc, reads⟩ := read.done
  simp only [Moment.workersDone, Bool.and_eq_true] at done
  rw [reads, (timeline.stdout i a (by omega) done.1.1).1, (timeline.stderr i b (by omega) done.1.2).1,
    (timeline.input i c (by omega) done.2).1]
  rfl

/-- The observer is still what it was. -/
theorem Timeline.ReadAfter.observed (read : timeline.ReadAfter runner.ending stop) {i : Nat} (before : i ≤ stop)
    (done : (timeline.moment i).workersDone = true) :
    runner.ending.evidence.snapshot = (timeline.moment i).observed := by
  obtain ⟨j, later, taken⟩ := read.snapshot
  simp only [Moment.workersDone, Bool.and_eq_true] at done
  rw [taken]
  exact (timeline.stdout i j (by omega) done.1.1).2.1

/-- A process without a failure was left completed or as one that had exited. -/
theorem Verdict.transportFailure_none {verdict : Verdict} (fine : verdict.transportFailure = none)
    (intime : verdict ≠ .timedOut) : verdict = .completed ∨ verdict = .notEligible := by
  cases verdict with
  | completed => exact .inl rfl
  | notEligible => exact .inr rfl
  | timedOut => exact absurd rfl intime
  | streamFailure | eventConflict | terminalFailure | expired => cases fine

/-- The iteration that leaves the loop with such a verdict decided on its look. -/
theorem monitorIteration_decided {limits : MonitorLimits} {deadline : Option Rat} {sample : MonitorSample}
    {verdict : Verdict} (h : monitorIteration limits deadline sample = .leave verdict)
    (fine : verdict.transportFailure = none) : sample.workerFailure = none ∧
      decideIteration limits deadline sample (sample.look limits deadline) = .leave verdict := by
  unfold monitorIteration at h
  split at h
  · cases h
    cases fine
  · rename_i healthy
    exact ⟨healthy, h⟩

/-- The decision that an accepted process rests on was for its completion. -/
theorem accepted_completed (ran : runner.run = some calls.process) (exact : runner.limits.arithmetic = exactArithmetic)
    (polled : timeline.Polled 0 runner.samples stop) (read : timeline.ReadAfter runner.ending stop)
    (accepts : calls.Accepts process message) :
    ∃ (instants : SampleInstants) (chosen : LookInstants) (deadline : Option Rat) (begun : Nat) (completed : Rat),
      begun ≤ chosen.observed ∧ chosen.now ≤ stop ∧ DeadlineOf timeline runner.limits deadline begun ∧
        FinishedAt timeline instants chosen completed ∧
        decideIteration runner.limits deadline (timeline.sample instants) (timeline.look chosen) = .leave .completed ∧
        (timeline.moment chosen.now).observed.structuredMessage = some message ∧
        ((runner.ending.containmentActive = .ok false ∧ runner.ending.streamsClosed = true) ∨
          (runner.ending.containmentActive = .ok true ∧ ∃ readings, runner.ending.cleanup = .ok readings)) := by
  obtain ⟨verdict, look, left, intime, finished⟩ := accepted_monitored ran accepts
  have fresh : DeadlineOf timeline runner.limits none 0 := by
    rintro _ ⟨⟩
  obtain ⟨instants, deadline, begun, after, before, owned, iteration, rfl⟩ := monitorLoop_left exact polled fresh left
  obtain ⟨⟨cleanup, transport⟩, settled, finished⟩ := bind_ok_iff.mp finished
  obtain ⟨code, _, finished⟩ := bind_ok_iff.mp finished
  cases finished
  obtain ⟨terminal, timely, observed⟩ := timelyMessage_some accepts.timely
  obtain ⟨fine, closing⟩ := (MonitorEnding.settle_ok settled).untroubled accepts.untroubled
  obtain ⟨healthy, decided⟩ := monitorIteration_decided iteration fine
  obtain ⟨chosen, first, last, same⟩ :=
    @Timeline.decided_look timeline runner.limits instants deadline
  rw [same] at decided
  obtain ⟨-, -, h₃, h₄, h₅, h₆⟩ := instants.ordered
  -- both verdicts decide on a finished look, whose observer is the one of the evidence
  have finished : (timeline.look chosen).finished = true := by
    rcases Verdict.transportFailure_none fine intime with completed | exited
    · exact (decideIteration_completed (completed ▸ decided)).2.2.1
    · exact (decideIteration_notEligible (exited ▸ decided)).2.1
  obtain ⟨completed, finishedAt⟩ := Timeline.finishedAt last finished healthy
  have snapshot := read.observed (i := chosen.now) (by omega) finishedAt.finished.done
  rw [snapshot] at terminal timely observed
  have verdict : verdict = .completed := by
    refine (Verdict.transportFailure_none fine intime).resolve_right fun exited => ?_
    obtain ⟨ineligible, -, early⟩ := decideIteration_notEligible (exited ▸ decided)
    rw [finishedAt.eligible early terminal timely] at ineligible
    cases ineligible
  refine ⟨instants, chosen, deadline, begun, completed, by omega, by omega, owned, finishedAt, verdict ▸ decided, observed, ?_⟩
  rw [read.workersDone (i := chosen.now) (by omega) finishedAt.finished.done] at closing
  refine closing.imp_right fun cleaned => ⟨cleaned.1.resolve_right ?_, cleaned.2⟩
  exact fun undone => nomatch undone

/-- **What a reported success says.** In every order of events a success that the
adapter reports is one of an invocation that completed in time, with all that a
success should have, unless its containment was active again after the decision and
the cleanup that this started could not close the streams. -/
theorem reported_success_iff (timeline : Timeline) (runner : RunnerCalls) (calls : CodexCalls) (stop : Nat)
    (execution : AgentExecution) (ran : runner.run = some calls.process)
    (exact : runner.limits.arithmetic = exactArithmetic)
    (timed : runner.limits.timeoutSeconds = calls.policy.timeoutSeconds)
    (polled : timeline.Polled 0 runner.samples stop) (read : timeline.ReadAfter runner.ending stop)
    (reported : calls.execute = .ok execution) (success : execution.status = .success) :
    (∃ process finished active elapsed message,
        SuccessfulInvocation timeline runner calls process finished active elapsed message) ↔
      ∀ readings, runner.ending.containmentActive = .ok true → runner.ending.cleanup = .ok readings →
        readings.streamsClosed = true := by
  obtain ⟨process, message, accepts⟩ := CodexCalls.execute_success reported success
  constructor
  · rintro ⟨_, _, _, _, _, sound⟩ readings active ran
    rcases sound.streamsClosed with ⟨inactive, -⟩ | ⟨-, found, ran', closed⟩
    · rw [active] at inactive
      cases inactive
    · rw [ran] at ran'
      cases ran'
      exact closed
  · intro closed
    obtain ⟨instants, chosen, deadline, begun, delivered, begins, _, owned, finishedAt, decided, observed, closing⟩ :=
      accepted_completed ran exact polled read accepts
    obtain ⟨harmless, eligible, -, early⟩ := decideIteration_completed decided
    obtain ⟨terminal, elapsed, time, inTime⟩ := eligible_terminal eligible
    obtain ⟨messageTime, deliveredInTime⟩ := eligible_message eligible
    rw [finishedAt.snapshot] at harmless terminal time early messageTime
    rw [finishedAt.inputCompletedAt] at deliveredInTime
    rw [timed] at inTime messageTime
    have streams : runner.ending.StreamsClosed :=
      closing.imp_right fun ⟨active, readings, ran⟩ => ⟨active, readings, ran, closed readings active ran⟩
    obtain ⟨c₁, c₂, c₃, c₄, c₅, c₆, c₇⟩ := chosen.ordered
    refine ⟨process, chosen.now, chosen.active, elapsed, message,
      { ended := accepts.ended
        completed := terminal
        completedAt := time
        completedInTime := inTime
        observedMessage := observed
        messageInTime := messageTime
        noProblem := harmless
        allFinished := finishedAt.finished
        contained := ⟨c₇, finishedAt.contained⟩
        delivered := ⟨delivered, finishedAt.delivered, deliveredInTime delivered rfl⟩
        finishedInTime := ?_
        streamsClosed := streams
        exitCode := accepts.exitCode
        result := accepts.result }⟩
    refine early.trans_eq ?_
    cases deadline with
    | none =>
      rw [Option.getD_none, time, exact]
      rfl
    | some deadline =>
      obtain ⟨event, seconds, seen, since, own⟩ := owned deadline rfl
      have stays := (@Timeline.terminal_stays timeline begun chosen.now (by omega) _ seen).2
      rw [time, since, Option.some.injEq] at stays
      rw [Option.getD_some, own, stays]

end Report

/-- An agent has answered and completed after a second, and all of it has ended in the
next; from `again` on its process group is there again. -/
def answeredTimeline (again : Nat) : Timeline where
  loads _ := .invalid
  clock := ⟨0, fun _ => 0⟩
  moment i :=
    { observed := ⟨some "turn.completed", some 1, some "answer", some 1, none, none, 2⟩
      processExited := true
      containmentActive := decide (again ≤ i)
      stdoutDone := true
      stderrDone := true
      inputDone := true
      inputCompletedAt := some 1
      stdoutError := none
      stderrError := none
      stdinError := none
      now := 2 }
  now_mono _ _ _ := le_rfl
  fed _ _ _ := ⟨[], rfl⟩
  exited _ _ _ _ := rfl
  stdout _ _ _ _ := ⟨rfl, rfl, rfl⟩
  stderr _ _ _ _ := ⟨rfl, rfl⟩
  input _ _ _ _ := ⟨rfl, rfl, rfl⟩
  delivered _ _ := ⟨1, rfl, by norm_num⟩

def firstLook : LookInstants := ⟨0, 0, 0, 0, 0, 0, 0, 0, by decide⟩

def firstSample : SampleInstants := ⟨firstLook, firstLook, 0, 0, 0, 0, 0, by decide⟩

/-- The cleanup that finds the group gone, and closes the streams or not. -/
def regroupedReadings (streamsClosed : Bool) : CleanupReadings where
  method := "posix-process-group"
  terminated := true
  probes := [some false]
  terminatedAgain := none
  forcedOutputClose := false
  outputError := false
  outputAlive := false
  workersStopped := true
  cancellations := [true, true, true]
  streamsClosed := streamsClosed
  reaped := true
  active := some false
  duration := 1

def answeredWorkers : WorkerReadings := ⟨"", "", .absent, .absent⟩

def answeredObserved : EvidenceReadings :=
  ⟨⟨some "turn.completed", some 1, some "answer", some 1, none, none, 2⟩, 3⟩

def answeredRunner (streamsClosed : Bool) : RunnerCalls where
  limits := ⟨exactArithmetic, 0, some 10⟩
  stdoutOpened := .ok ()
  stderrOpened := .ok ()
  launched := .ok ()
  contained := .ok ()
  streams := true
  single := false
  workersCreated := .ok ()
  readersStarted := .ok ()
  notice := .given
  inputStarted := .ok ()
  samples := [.ok ((answeredTimeline 1).sample firstSample)]
  ending := ⟨.ok true, true, .ok (regroupedReadings streamsClosed), true, 0, .ok (some 0), answeredObserved,
    answeredWorkers⟩
  timeout := ⟨.ok (regroupedReadings true), answeredObserved, answeredWorkers⟩
  communication := .finished 0 "" ""
  communicationSeconds := 1
  emergency := .ok (regroupedReadings true)
  cleanup := .ok (regroupedReadings true)
  startObserver := none
  capturesClosed := .ok true
  closedSeconds := 0
  returncode := some 0
  evidence := answeredObserved
  outcomeSeconds := 1
  workers := answeredWorkers
  closed := .ok ()

def answeredCalls (streamsClosed : Bool) : CodexCalls where
  request :=
    { taskKind := .implementation
      repositoryPath := "/repo"
      repositoryAccess := .workspaceWrite
      artifactDirectory := "/runs/r1/attempts/001-implementation"
      attemptId := "001-implementation"
      requiredCapabilities := requiredExecutionCapabilities .workspaceWrite }
  policy := exampleExecutionPolicy
  configuredExecutable := "codex"
  model := "gpt-5.5"
  reasoningEffort := "xhigh"
  repositoryPath := "/repo"
  outputSchemaPath := "/schemas/implementation-result.schema.json"
  projectConfigPath := "/repo/.codex/config.toml"
  configuredArgv := ["codex"]
  argv := ["/usr/bin/codex"]
  started := .utc 0 epoch_isInstant
  clock := .utc 3000000 (by decide)
  prepared := .ok ()
  projectConfig := false
  executable := some "/usr/bin/codex"
  outputWritten := .ok ()
  contextsOpened := .ok ()
  contextsClosed := .ok ()
  process := (answeredRunner streamsClosed).run.getD (.error (.raised ⟨.runtimeError, "the process goes on"⟩))
  processStarted := true
  transportSeconds := 0
  publication := .ok ⟨false, false, false⟩
  scratch := .text "answer"
  diagnosticWritten := .ok ()
  loads _ := .ok (encodeImplementationResult exampleImplementation)
  decodeProblem := Raised.message
  lower := id
  formatSeconds _ := "10"
  resultWritten := .ok ()
  references := .ok []
  executionWritten := .ok ()

theorem answeredRunner_run (streamsClosed : Bool) :
    (answeredRunner streamsClosed).run = some (answeredCalls streamsClosed).process := by
  have ends : (answeredRunner streamsClosed).run.isSome = true := by cases streamsClosed <;> decide +kernel
  obtain ⟨outcome, ran⟩ := Option.isSome_iff_exists.mp ends
  rw [answeredCalls, ran]
  rfl

theorem answeredRunner_polled (streamsClosed : Bool) :
    (answeredTimeline 1).Polled 0 (answeredRunner streamsClosed).samples 0 :=
  .sample firstSample le_rfl le_rfl [] (.nil le_rfl)

theorem answeredRunner_read (streamsClosed : Bool) :
    (answeredTimeline 1).ReadAfter (answeredRunner streamsClosed).ending 0 := by
  refine ⟨?_, ⟨0, 0, 0, le_rfl, le_rfl, le_rfl, rfl⟩, ⟨0, le_rfl, rfl⟩⟩
  rintro _ ⟨⟩
  exact ⟨1, Nat.zero_le 1, rfl⟩

theorem answeredCalls_success (streamsClosed : Bool) : ∃ execution,
    (answeredCalls streamsClosed).execute = .ok execution ∧ execution.status = .success := by
  have succeeds : (answeredCalls streamsClosed).execute.map (fun execution => execution.status) = .ok .success := by
    cases streamsClosed <;> decide +kernel
  exact map_ok_iff.mp succeeds

/-- The streams that the cleanup closed: the success is what it says. -/
theorem reported_success_iff_example : ∃ process finished active elapsed message,
    SuccessfulInvocation (answeredTimeline 1) (answeredRunner true) (answeredCalls true) process finished active elapsed
      message := by
  obtain ⟨execution, reported, success⟩ := answeredCalls_success true
  refine (reported_success_iff (answeredTimeline 1) (answeredRunner true) (answeredCalls true) 0 execution
    (answeredRunner_run true) rfl rfl (answeredRunner_polled true) (answeredRunner_read true)
    reported success).mpr ?_
  rintro _ _ ⟨⟩
  rfl

/-- A group that is there again, and streams that could not be closed: a success all the same. -/
theorem success_with_open_streams :
    (answeredRunner false).run = some (answeredCalls false).process ∧
      (answeredTimeline 1).Polled 0 (answeredRunner false).samples 0 ∧
      (answeredTimeline 1).ReadAfter (answeredRunner false).ending 0 ∧
      (∃ execution, (answeredCalls false).execute = .ok execution ∧ execution.status = .success) ∧
      ¬ ∃ process finished active elapsed message,
        SuccessfulInvocation (answeredTimeline 1) (answeredRunner false) (answeredCalls false) process finished active
          elapsed message := by
  refine ⟨answeredRunner_run false, answeredRunner_polled false, answeredRunner_read false, answeredCalls_success false, ?_⟩
  rintro ⟨_, _, _, _, _, sound⟩
  rcases sound.streamsClosed with ⟨inactive, -⟩ | ⟨-, readings, ran, closed⟩
  · cases inactive
  · cases ran
    cases closed

end SprintTicket
