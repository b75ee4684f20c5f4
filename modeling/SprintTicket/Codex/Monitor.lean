import Mathlib.Algebra.Order.Ring.Rat
import Mathlib.Tactic.Linarith
import SprintTicket.Codex.EventObserver
import SprintTicket.Logic.Transition

/-!
# The monitor of a Codex process

`monitorIteration` is one round of the polling loop of `_monitor`: it looks at the
observer, the process and the workers, looks again at a boundary, and either leaves
the loop or goes on with the finalisation deadline it has. What it sees and when is
left open, so an event may arrive at any time; `monitor_decides` bounds the loop all
the same.
-/

set_option autoImplicit false

namespace SprintTicket

open Transition

/-- The addition of clock values: a sum is rounded, which keeps the order and what
is rounded already. Exact addition is a case of it. -/
structure ClockArithmetic where
  round : Rat → Rat
  monotone : Monotone round
  round_round : ∀ value, round (round value) = round value

def ClockArithmetic.add (arithmetic : ClockArithmetic) (a b : Rat) : Rat := arithmetic.round (a + b)

/-- What `_monitor` is called with. -/
structure MonitorLimits where
  arithmetic : ClockArithmetic
  launchedAt : Rat
  timeoutSeconds : Option Rat

/-- `FINALIZATION_SECONDS`. -/
def finalizationSeconds : Rat := 5

/-- The deadline of the work. -/
def MonitorLimits.deadline (limits : MonitorLimits) : Option Rat :=
  limits.timeoutSeconds.map (limits.arithmetic.add limits.launchedAt)

/-- One look at the observer, the process and the workers, and the clock after it. -/
structure MonitorLook where
  observed : Observed
  processExited : Bool
  workersDone : Bool
  /-- The observer once more, after every worker was done. -/
  observedDone : Observed
  containmentActive : Bool
  now : Rat

def MonitorLook.snapshot (look : MonitorLook) : Observed :=
  if look.workersDone then look.observedDone else look.observed

def MonitorLook.finished (look : MonitorLook) : Bool :=
  look.processExited && !look.containmentActive && look.workersDone

/-- What one iteration meets. -/
structure MonitorSample where
  first : MonitorLook
  /-- The second look, which is taken at a boundary. -/
  second : MonitorLook
  inputDone : Bool
  inputCompletedAt : Option Rat
  stdoutError : Option String
  stderrError : Option String
  stdinError : Option String

section Iteration

variable (limits : MonitorLimits)

/-- `now >= limit`, of a limit that is set. -/
def hasPassed (limit : Option Rat) (now : Rat) : Bool := limit.any fun limit => limit ≤ now

/-- The look that the iteration decides on. -/
def MonitorSample.look (sample : MonitorSample) (finalizationDeadline : Option Rat) : MonitorLook :=
  if sample.first.finished || hasPassed limits.deadline sample.first.now ||
      hasPassed finalizationDeadline sample.first.now then sample.second
  else sample.first

/-- An elapsed time that is known and below the timeout. -/
def MonitorLimits.inTime (elapsed : Option Rat) : Bool :=
  elapsed.any fun elapsed => limits.timeoutSeconds.all fun timeout => elapsed < timeout

def MonitorLimits.timelyTerminal (observed : Observed) : Bool :=
  observed.terminalEventType = some "turn.completed" && limits.inTime observed.terminalEventElapsedSeconds

def MonitorLimits.timelyMessage (observed : Observed) : Bool :=
  observed.structuredMessage.isSome && limits.inTime observed.structuredMessageElapsedSeconds

def MonitorLimits.timelyInput (sample : MonitorSample) : Bool :=
  sample.inputDone && sample.inputCompletedAt.any fun completed => limits.deadline.all fun deadline =>
    completed < deadline

def MonitorLimits.timelyTerminalFailure (observed : Observed) : Bool :=
  (observed.terminalEventType = some "turn.failed" || observed.terminalEventType = some "turn.cancelled") &&
    limits.inTime observed.terminalEventElapsedSeconds

def MonitorLimits.timelyProblem (observed : Observed) : Bool :=
  observed.problem.isSome && limits.inTime observed.problemElapsedSeconds

def MonitorLimits.completionEligible (sample : MonitorSample) (observed : Observed) : Bool :=
  limits.timelyTerminal observed && limits.timelyMessage observed && limits.timelyInput sample

/-- Why the loop is left. -/
inductive Verdict
  | streamFailure (message : String)
  | eventConflict (problem : String)
  | terminalFailure (terminal : String)
  | completed
  | expired
  /-- `_timeout` ends the call. -/
  | timedOut
  | notEligible
deriving DecidableEq

inductive IterationEnd
  | leave (verdict : Verdict)
  | again (finalizationDeadline : Option Rat)
deriving DecidableEq

/-- The first worker that has failed. -/
def MonitorSample.workerFailure (sample : MonitorSample) : Option String :=
  (sample.stdoutError.map fun error => "Codex stdout streaming failed: " ++ error).or
    ((sample.stderrError.map fun error => "Codex stderr streaming failed: " ++ error).or
      (sample.stdinError.map fun error => "Codex stdin streaming failed: " ++ error))

/-- The branch of an iteration whose completion is eligible. -/
def finalizeCompletion (look : MonitorLook) (terminalElapsed : Rat) (finalizationDeadline : Option Rat) :
    IterationEnd :=
  let finalizationDeadline := finalizationDeadline.getD
    (limits.arithmetic.add (limits.arithmetic.add limits.launchedAt terminalElapsed) finalizationSeconds)
  if look.finished ∧ look.now < finalizationDeadline then .leave .completed
  else if finalizationDeadline ≤ look.now then .leave .expired
  else .again (some finalizationDeadline)

/-- The branches after the one for a failed worker. -/
def decideIteration (finalizationDeadline : Option Rat) (sample : MonitorSample) (look : MonitorLook) :
    IterationEnd :=
  let observed := look.snapshot
  let eligible := limits.completionEligible sample observed
  match observed.problem.filter fun _ => finalizationDeadline.isSome || eligible ||
      limits.timelyTerminalFailure observed || limits.timelyProblem observed with
  | some problem => .leave (.eventConflict problem)
  | none =>
    if limits.timelyTerminalFailure observed then
      .leave (.terminalFailure (observed.terminalEventType.getD ""))
    else if eligible then
      finalizeCompletion limits look (observed.terminalEventElapsedSeconds.getD 0) finalizationDeadline
    else if hasPassed limits.deadline look.now then .leave .timedOut
    else if look.finished then .leave .notEligible
    else .again finalizationDeadline

/-- One iteration of the loop in `_monitor`. -/
def monitorIteration (finalizationDeadline : Option Rat) (sample : MonitorSample) : IterationEnd :=
  match sample.workerFailure with
  | some message => .leave (.streamFailure message)
  | none => decideIteration limits finalizationDeadline sample (sample.look limits finalizationDeadline)

/-- The last reading of the clock in an iteration. -/
def MonitorSample.lastNow (sample : MonitorSample) (finalizationDeadline : Option Rat) : Rat :=
  (sample.look limits finalizationDeadline).now

/-- The loop goes on with the finalisation deadline that an iteration leaves. -/
def monitorStep (finalizationDeadline : Option Rat) (sample : MonitorSample) : Option (Option Rat) :=
  match monitorIteration limits finalizationDeadline sample with
  | .leave _ => none
  | .again finalizationDeadline => some finalizationDeadline

end Iteration

section Bound

variable {limits : MonitorLimits} {timeout : Rat}

/-- The deadline of the work and the time for finalisation after it. -/
def MonitorLimits.bound (limits : MonitorLimits) (timeout : Rat) : Rat :=
  limits.arithmetic.add (limits.arithmetic.add limits.launchedAt timeout) finalizationSeconds

theorem ClockArithmetic.add_le_add_right (arithmetic : ClockArithmetic) {a b : Rat} (le : a ≤ b) (c : Rat) :
    arithmetic.add a c ≤ arithmetic.add b c := arithmetic.monotone (by linarith)

theorem ClockArithmetic.add_le_add_left (arithmetic : ClockArithmetic) {a b : Rat} (le : a ≤ b) (c : Rat) :
    arithmetic.add c a ≤ arithmetic.add c b := arithmetic.monotone (by linarith)

theorem finalizationSeconds_pos : 0 < finalizationSeconds := by decide

/-- The deadline of the timeout lies within the bound. -/
theorem deadline_le_bound : limits.arithmetic.add limits.launchedAt timeout ≤ limits.bound timeout := by
  have own : limits.arithmetic.round (limits.arithmetic.add limits.launchedAt timeout) =
      limits.arithmetic.add limits.launchedAt timeout := limits.arithmetic.round_round _
  rw [← own]
  apply limits.arithmetic.monotone
  have positive := finalizationSeconds_pos
  linarith

theorem hasPassed_iff {limit : Option Rat} {now : Rat} : hasPassed limit now = true ↔ ∃ a ∈ limit, a ≤ now := by
  cases limit <;> simp [hasPassed]

/-- In time is before the timeout, where there is one. -/
theorem inTime_iff {elapsed : Option Rat} :
    limits.inTime elapsed = true ↔ ∃ a ∈ elapsed, ∀ timeout ∈ limits.timeoutSeconds, a < timeout := by
  cases elapsed <;> cases given : limits.timeoutSeconds <;> simp [MonitorLimits.inTime, given]

/-- An eligible completion has a terminal event in time. -/
theorem terminal_inTime {sample : MonitorSample} {observed : Observed} (given : limits.timeoutSeconds = some timeout)
    (eligible : limits.completionEligible sample observed = true) :
    observed.terminalEventElapsedSeconds.getD 0 < timeout := by
  simp only [MonitorLimits.completionEligible, MonitorLimits.timelyTerminal, Bool.and_eq_true] at eligible
  obtain ⟨⟨⟨-, inTime⟩, -⟩, -⟩ := eligible
  obtain ⟨elapsed, known, below⟩ := inTime_iff.mp inTime
  rw [Option.mem_def.mp known]
  exact below timeout given

/-- A finalisation deadline is not above the bound. -/
def Bounded (limits : MonitorLimits) (timeout : Rat) (finalizationDeadline : Option Rat) : Prop :=
  ∀ deadline ∈ finalizationDeadline, deadline ≤ limits.bound timeout

/-- The deadline that an eligible completion is given is not above the bound either. -/
theorem Bounded.getD {finalizationDeadline : Option Rat} (bounded : Bounded limits timeout finalizationDeadline)
    {elapsed : Rat} (below : elapsed < timeout) : finalizationDeadline.getD
      (limits.arithmetic.add (limits.arithmetic.add limits.launchedAt elapsed) finalizationSeconds) ≤
        limits.bound timeout := by
  cases finalizationDeadline with
  | some deadline => exact bounded deadline rfl
  | none =>
    apply limits.arithmetic.add_le_add_right
    exact limits.arithmetic.add_le_add_left below.le limits.launchedAt

/-- What goes on after a decision: the deadline as it is, or the one of an eligible
completion, which has not passed. -/
theorem decideIteration_again {finalizationDeadline next : Option Rat} {sample : MonitorSample} {look : MonitorLook}
    (h : decideIteration limits finalizationDeadline sample look = .again next) :
    (next = finalizationDeadline ∧ hasPassed limits.deadline look.now = false) ∨
      (limits.completionEligible sample look.snapshot = true ∧ ∃ deadline, next = some deadline ∧
        deadline = finalizationDeadline.getD (limits.arithmetic.add (limits.arithmetic.add limits.launchedAt
          (look.snapshot.terminalEventElapsedSeconds.getD 0)) finalizationSeconds) ∧ look.now < deadline) := by
  unfold decideIteration at h
  dsimp only at h
  split at h
  · cases h
  split at h
  · cases h
  split at h
  · rename_i eligible
    unfold finalizeCompletion at h
    dsimp only at h
    split at h
    · cases h
    split at h
    · cases h
    rename_i waiting
    cases h
    exact .inr ⟨eligible, _, rfl, rfl, not_le.mp waiting⟩
  split at h
  · cases h
  rename_i before
  split at h <;> cases h
  exact .inl ⟨rfl, by simpa using before⟩

/-- The loop goes on only when the iteration says so. -/
theorem monitorStep_some {finalizationDeadline next : Option Rat} {sample : MonitorSample}
    (h : monitorStep limits finalizationDeadline sample = some next) :
    decideIteration limits finalizationDeadline sample (sample.look limits finalizationDeadline) = .again next := by
  unfold monitorStep monitorIteration at h
  split at h
  · cases h
  rename_i deadline again
  cases h
  split at again
  · cases again
  · exact again

/-- A deadline that is set stays what it is. -/
theorem monitorStep_set {deadline : Rat} {next : Option Rat} {sample : MonitorSample}
    (h : monitorStep limits (some deadline) sample = some next) : next = some deadline := by
  rcases decideIteration_again (monitorStep_some h) with ⟨same, -⟩ | ⟨-, _, same, own, -⟩
  · exact same
  · rw [same, own, Option.getD_some]

/-- An iteration that goes on keeps the deadline within the bound. -/
theorem monitorStep_bounded {finalizationDeadline next : Option Rat} {sample : MonitorSample}
    (given : limits.timeoutSeconds = some timeout)
    (h : monitorStep limits finalizationDeadline sample = some next)
    (bounded : Bounded limits timeout finalizationDeadline) : Bounded limits timeout next := by
  rcases decideIteration_again (monitorStep_some h) with ⟨rfl, -⟩ | ⟨eligible, deadline, rfl, own, -⟩
  · exact bounded
  · rintro _ ⟨⟩
    rw [own]
    exact bounded.getD (terminal_inTime given eligible)

/-- An iteration that ends after the bound leaves the loop. -/
theorem monitorStep_late {finalizationDeadline : Option Rat} {sample : MonitorSample}
    (given : limits.timeoutSeconds = some timeout) (bounded : Bounded limits timeout finalizationDeadline)
    (late : limits.bound timeout ≤ sample.lastNow limits finalizationDeadline) :
    monitorStep limits finalizationDeadline sample = none := by
  cases h : monitorStep limits finalizationDeadline sample with
  | none => rfl
  | some next =>
    exfalso
    rcases decideIteration_again (monitorStep_some h) with ⟨-, before⟩ | ⟨eligible, deadline, -, own, waiting⟩
    · have passed : hasPassed limits.deadline (sample.lastNow limits finalizationDeadline) = true :=
        hasPassed_iff.mpr ⟨_, by rw [MonitorLimits.deadline, given]; rfl, deadline_le_bound.trans late⟩
      rw [MonitorSample.lastNow, before] at passed
      cases passed
    · have below := bounded.getD (terminal_inTime given eligible)
      rw [← own] at below
      exact absurd (waiting.trans_le below) (not_lt.mpr late)

end Bound

/-! ## The loop -/

/-- The first iterations of a history. -/
def firstSamples (history : Nat → MonitorSample) (count : Nat) : List MonitorSample := (List.range count).map history

/-- **The monitor decides.** Whatever is seen, an iteration that ends at the bound or
after it leaves the loop, a finalisation deadline that is set stays, and the loop
ends once the clock has passed the bound. -/
theorem monitor_decides (arithmetic : ClockArithmetic) (launchedAt timeout : Rat) :
    let limits : MonitorLimits := ⟨arithmetic, launchedAt, some timeout⟩
    (∀ (samples : List MonitorSample) (sample : MonitorSample) (finalizationDeadline : Option Rat),
      run (monitorStep limits) none samples = some finalizationDeadline →
        limits.bound timeout ≤ sample.lastNow limits finalizationDeadline →
          ∃ verdict, monitorIteration limits finalizationDeadline sample = .leave verdict) ∧
    (∀ (samples : List MonitorSample) (deadline : Rat) (later : Option Rat),
      run (monitorStep limits) (some deadline) samples = some later → later = some deadline) ∧
    ∀ (history : Nat → MonitorSample) (n : Nat),
      (∀ finalizationDeadline, limits.bound timeout ≤ (history n).lastNow limits finalizationDeadline) →
        run (monitorStep limits) none (firstSamples history (n + 1)) = none := by
  intro limits
  have bounded {samples : List MonitorSample} {finalizationDeadline : Option Rat}
      (ran : run (monitorStep limits) none samples = some finalizationDeadline) :
      Bounded limits timeout finalizationDeadline :=
    run_invariant' (P := Bounded limits timeout) (fun h => monitorStep_bounded rfl h) ran nofun
  refine ⟨fun samples sample finalizationDeadline ran late => ?_, fun samples deadline later ran => ?_,
    fun history n late => ?_⟩
  · have left := monitorStep_late rfl (bounded ran) late
    unfold monitorStep at left
    split at left
    · rename_i verdict leaves
      exact ⟨verdict, leaves⟩
    · cases left
  · refine run_invariant' (P := fun finalizationDeadline => finalizationDeadline = some deadline) ?_ ran rfl
    rintro _ _ _ h rfl
    exact monitorStep_set h
  · rw [firstSamples, List.range_succ, List.map_append, run_append]
    cases ran : run (monitorStep limits) none ((List.range n).map history) with
    | none => rfl
    | some finalizationDeadline =>
      rw [Option.bind_some, List.map_singleton, run_cons, monitorStep_late rfl (bounded ran) (late _)]
      rfl

/-- Clock values without rounding. -/
def exactArithmetic : ClockArithmetic := ⟨id, monotone_id, fun _ => rfl⟩

/-- The turn was completed after 8 of its 10 seconds, and the workers are still running. -/
def finalizingLook (now : Rat) : MonitorLook :=
  let observed : Observed :=
    { Observed.start with
      terminalEventType := some "turn.completed"
      terminalEventElapsedSeconds := some 8
      structuredMessage := some "{}"
      structuredMessageElapsedSeconds := some 7 }
  ⟨observed, false, false, observed, true, now⟩

def finalizingSample (now : Rat) : MonitorSample :=
  ⟨finalizingLook now, finalizingLook now, true, some 1, none, none, none⟩

/-- Its finalisation deadline is 13; it stays, and the iteration at 15 leaves. -/
theorem finalizing_iteration_leaves :
    run (monitorStep ⟨exactArithmetic, 0, some 10⟩) none [finalizingSample 9, finalizingSample 11] = some (some 13) ∧
      (∃ verdict, monitorIteration ⟨exactArithmetic, 0, some 10⟩ (some 13) (finalizingSample 15) = .leave verdict) ∧
      (∀ later, run (monitorStep ⟨exactArithmetic, 0, some 10⟩) (some 13) [finalizingSample 12] = some later →
        later = some 13) ∧
      run (monitorStep ⟨exactArithmetic, 0, some 10⟩) none (firstSamples (fun n => finalizingSample (9 + n)) 7) =
        none := by
  obtain ⟨leaves, stays, ends⟩ := monitor_decides exactArithmetic 0 10
  have set : run (monitorStep ⟨exactArithmetic, 0, some 10⟩) none [finalizingSample 9, finalizingSample 11] =
      some (some 13) := by decide +kernel
  refine ⟨set, leaves _ (finalizingSample 15) (some 13) set (by decide +kernel), fun later ran => stays _ 13 later ran,
    ends _ 6 fun finalizationDeadline => ?_⟩
  have now : (finalizingSample (9 + (6 : Nat))).lastNow ⟨exactArithmetic, 0, some 10⟩ finalizationDeadline = 15 := by
    unfold MonitorSample.lastNow MonitorSample.look
    split <;> decide +kernel
  rw [now]
  decide +kernel

end SprintTicket
