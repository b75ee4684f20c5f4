import Mathlib.Logic.Function.Basic
import SprintTicket.Logic.Transition
import SprintTicket.Logic.OptimisticUpdate
import SprintTicket.Attempts.Update

/-!
# Concurrent updates of one attempt

`save_attempt` is an optimistic protocol: an early check against the persisted
record, the preparation of a temporary payload outside any lock, and a second
check followed by the replacement inside the commit fence of the attempt. Here
any number of `update_attempt` and `complete_stage_attempt` calls interleave on
one attempt file, one atomic step at a time, and any step may fail.

The fence makes the second check and the replacement one unit: whoever has
passed the check still finds the record it checked (`Protocol.replacing`). So
the persisted records form a `Chain` of the updates that replaced them, which
is `attempt_updates_linear`.
-/

set_option autoImplicit false

namespace SprintTicket

open OptimisticUpdate Transition

variable {ι : Type} [DecidableEq ι]

/-- Where one call stands; the comment names the step ahead. -/
inductive CallState
  | idle
  | loading (arguments : StageCompletionArguments)
  | checking (update : PreparedUpdate)     -- the early check
  | preparing (update : PreparedUpdate)    -- temporary payload and its fsync
  | waiting (update : PreparedUpdate)      -- entering the fence
  | rechecking (update : PreparedUpdate)   -- in the fence: the second check
  | replacing (update : PreparedUpdate)    -- in the fence: `os.replace`
  | leaving (update : PreparedUpdate)      -- in the fence: leaving it
  | syncing (update : PreparedUpdate)      -- the directory fsync
  | returned (update : PreparedUpdate)
  | raised (replaced : Option PreparedUpdate) (error : Raised)

/-- The update whose replacement this call has performed. -/
def CallState.replaced : CallState → Option PreparedUpdate
  | .leaving update | .syncing update | .returned update => some update
  | .raised replaced _ => replaced
  | _ => none

def CallState.inFence : CallState → Bool
  | .rechecking _ | .replacing _ | .leaving _ => true
  | _ => false

/-- One attempt file, the calls on it and the replacements so far, oldest first. -/
structure AttemptFile (ι : Type) where
  persisted : AttemptRecord
  calls : ι → CallState
  fence : Option ι
  links : List (Link ι AttemptRecord)

def AttemptFile.initial (record : AttemptRecord) : AttemptFile ι :=
  ⟨record, fun _ => .idle, none, []⟩

inductive FileStep (ι : Type)
  | callUpdate (call : ι) (record : AttemptRecord) (changes : AttemptChanges) (now : Timestamp)
  | callComplete (call : ι) (arguments : StageCompletionArguments)
  | load (call : ι) (evidenceExists : Bool) (now : Timestamp)
  | earlyCheck (call : ι)
  | preparePayload (call : ι)
  | enterFence (call : ι)
  | recheck (call : ι)
  | replace (call : ι)
  | leaveFence (call : ι)
  | syncDirectory (call : ι)
  | fail (call : ι) (error : Raised)

/-- The call moves on; everything shared stays. -/
def AttemptFile.move (file : AttemptFile ι) (call : ι) (state : CallState) : AttemptFile ι :=
  { file with calls := Function.update file.calls call state }

/-- A check of this call against the persisted record. -/
def AttemptFile.check (file : AttemptFile ι) (update : PreparedUpdate) : Except Raised Unit :=
  requireExpectedPersistedRecord file.persisted update.updated (some update.expected)

def PreparedUpdate.link (update : PreparedUpdate) (call : ι) : Link ι AttemptRecord :=
  ⟨call, update.expected, update.updated⟩

/-- The state after a failure of the current step; a call that stands in the
fence leaves it with the exception. -/
def AttemptFile.abort (file : AttemptFile ι) (call : ι) (error : Raised) : AttemptFile ι :=
  { file.move call (.raised (file.calls call).replaced error) with
    fence := if (file.calls call).inFence then none else file.fence }

/-- One atomic step. A call starts on this attempt's directory only; another
directory is another file. -/
def AttemptFile.step (file : AttemptFile ι) : FileStep ι → Option (AttemptFile ι)
  | .callUpdate call record changes now =>
    match file.calls call with
    | .idle =>
      if record.artifactDirectory = file.persisted.artifactDirectory then
        match prepareUpdate record changes now with
        | .ok update => some (file.move call (.checking update))
        | .error error => some (file.abort call error)
      else none
    | _ => none
  | .callComplete call arguments =>
    match file.calls call with
    | .idle =>
      if arguments.attempt.artifactDirectory = file.persisted.artifactDirectory then
        some (file.move call (.loading arguments))
      else none
    | _ => none
  | .load call evidenceExists now =>
    match file.calls call with
    | .loading arguments =>
      match prepareCompletion file.persisted arguments evidenceExists now with
      | .ok update => some (file.move call (.checking update))
      | .error error => some (file.abort call error)
    | _ => none
  | .earlyCheck call =>
    match file.calls call with
    | .checking update =>
      match file.check update with
      | .ok _ => some (file.move call (.preparing update))
      | .error error => some (file.abort call error)
    | _ => none
  | .preparePayload call =>
    match file.calls call with
    | .preparing update => some (file.move call (.waiting update))
    | _ => none
  | .enterFence call =>
    match file.calls call, file.fence with
    | .waiting update, none => some { file.move call (.rechecking update) with fence := some call }
    | _, _ => none
  | .recheck call =>
    match file.calls call with
    | .rechecking update =>
      match file.check update with
      | .ok _ => some (file.move call (.replacing update))
      | .error error => some (file.abort call error)
    | _ => none
  | .replace call =>
    match file.calls call with
    | .replacing update =>
      some { file.move call (.leaving update) with
        persisted := update.updated
        links := file.links ++ [update.link call] }
    | _ => none
  | .leaveFence call =>
    match file.calls call with
    | .leaving update => some { file.move call (.syncing update) with fence := none }
    | _ => none
  | .syncDirectory call =>
    match file.calls call with
    | .syncing update => some (file.move call (.returned update))
    | _ => none
  | .fail call error =>
    match file.calls call with
    | .idle | .leaving _ | .returned _ | .raised _ _ => none
    | _ => some (file.abort call error)

/-- What one step can do to the shared file: a call moves without touching it
(possibly passing the second check), enters or leaves the fence, or replaces
the record. -/
inductive AttemptFile.Effect (file : AttemptFile ι) : AttemptFile ι → Prop
  | moves (call : ι) (state : CallState)
      (outside : state.inFence = (file.calls call).inFence)
      (kept : state.replaced = (file.calls call).replaced)
      (checked : ∀ update, state = .replacing update → file.persisted = update.expected) :
      Effect file (file.move call state)
  | enters (call : ι) (update : PreparedUpdate) (free : file.fence = none)
      (before : file.calls call = .waiting update) :
      Effect file { file.move call (.rechecking update) with fence := some call }
  | leaves (call : ι) (state : CallState) (inside : (file.calls call).inFence = true)
      (outside : state.inFence = false) (kept : state.replaced = (file.calls call).replaced) :
      Effect file { file.move call state with fence := none }
  | replaces (call : ι) (update : PreparedUpdate) (before : file.calls call = .replacing update) :
      Effect file { file.move call (.leaving update) with
        persisted := update.updated
        links := file.links ++ [update.link call] }

/-- A call that raises leaves the file and its history alone. -/
theorem AttemptFile.abort_effect (file : AttemptFile ι) (call : ι) (error : Raised) :
    file.Effect (file.abort call error) := by
  unfold AttemptFile.abort
  cases inside : (file.calls call).inFence with
  | true =>
    simp only [if_true]
    exact .leaves call _ inside rfl rfl
  | false =>
    simp only [Bool.false_eq_true, if_false]
    exact .moves call _ inside.symm rfl (by simp)

omit [DecidableEq ι] in
/-- The second check passes when the file still holds what the update was prepared from. -/
theorem AttemptFile.check_ok {file : AttemptFile ι} {update : PreparedUpdate} {r : Unit}
    (h : file.check update = .ok r) : file.persisted = update.expected :=
  requireExpectedPersistedRecord_ok h

/-- All a step of any caller can do to the file. -/
theorem AttemptFile.step_effect {file next : AttemptFile ι} {label : FileStep ι}
    (h : file.step label = some next) : file.Effect next := by
  cases label with
  | callUpdate call record changes now =>
    simp only [AttemptFile.step] at h
    split at h
    · rename_i idle
      split at h
      · split at h
        · cases h; exact .moves call _ (by rw [idle]; rfl) (by rw [idle]; rfl) (by simp)
        · cases h; exact file.abort_effect call _
      · cases h
    · cases h
  | callComplete call arguments =>
    simp only [AttemptFile.step] at h
    split at h
    · rename_i idle
      split at h
      · cases h; exact .moves call _ (by rw [idle]; rfl) (by rw [idle]; rfl) (by simp)
      · cases h
    · cases h
  | load call evidenceExists now =>
    simp only [AttemptFile.step] at h
    split at h
    · rename_i loading
      split at h
      · cases h; exact .moves call _ (by rw [loading]; rfl) (by rw [loading]; rfl) (by simp)
      · cases h; exact file.abort_effect call _
    · cases h
  | earlyCheck call =>
    simp only [AttemptFile.step] at h
    split at h
    · rename_i checking
      split at h
      · cases h; exact .moves call _ (by rw [checking]; rfl) (by rw [checking]; rfl) (by simp)
      · cases h; exact file.abort_effect call _
    · cases h
  | preparePayload call =>
    simp only [AttemptFile.step] at h
    split at h
    · rename_i preparing
      cases h; exact .moves call _ (by rw [preparing]; rfl) (by rw [preparing]; rfl) (by simp)
    · cases h
  | enterFence call =>
    simp only [AttemptFile.step] at h
    split at h
    · rename_i waiting free
      cases h; exact .enters call _ free waiting
    · cases h
  | recheck call =>
    simp only [AttemptFile.step] at h
    split at h
    · rename_i rechecking
      split at h
      · rename_i passed
        cases h
        refine .moves call _ (by rw [rechecking]; rfl) (by rw [rechecking]; rfl) ?_
        rintro update ⟨⟩
        exact AttemptFile.check_ok passed
      · cases h; exact file.abort_effect call _
    · cases h
  | replace call =>
    simp only [AttemptFile.step] at h
    split at h
    · rename_i replacing
      cases h; exact .replaces call _ replacing
    · cases h
  | leaveFence call =>
    simp only [AttemptFile.step] at h
    split at h
    · rename_i leaving
      cases h; exact .leaves call _ (by rw [leaving]; rfl) rfl (by rw [leaving]; rfl)
    · cases h
  | syncDirectory call =>
    simp only [AttemptFile.step] at h
    split at h
    · rename_i syncing
      cases h; exact .moves call _ (by rw [syncing]; rfl) (by rw [syncing]; rfl) (by simp)
    · cases h
  | fail call error =>
    simp only [AttemptFile.step] at h
    split at h <;> first | cases h; done | (cases h; exact file.abort_effect call error)

/-! ## The invariant -/

/-- The protocol's invariant: the history is a chain, the fence has one holder,
whoever passed the second check still finds the record it checked, and the
links are exactly the replacements the calls have performed, one each. -/
structure AttemptFile.Protocol (start : AttemptRecord) (file : AttemptFile ι) : Prop where
  chain : Chain start file.links file.persisted
  holder : ∀ call, (file.calls call).inFence = true ↔ file.fence = some call
  replacing : ∀ call update, file.calls call = .replacing update → file.persisted = update.expected
  committed : ∀ call link, link ∈ file.links ∧ link.call = call ↔
    ∃ update, (file.calls call).replaced = some update ∧ link = update.link call
  once : (file.links.map Link.call).Nodup

omit [DecidableEq ι] in
theorem AttemptFile.protocol_initial (start : AttemptRecord) :
    (AttemptFile.initial start : AttemptFile ι).Protocol start where
  chain := rfl
  holder := by simp [AttemptFile.initial, CallState.inFence]
  replacing := by simp [AttemptFile.initial]
  committed := by simp [AttemptFile.initial, CallState.replaced]
  once := by simp [AttemptFile.initial]

/-- Moving one call leaves the replacements of every call as they are. -/
theorem AttemptFile.committed_move {file : AttemptFile ι} {call : ι} {state : CallState}
    (kept : state.replaced = (file.calls call).replaced) (other : ι) :
    ((file.move call state).calls other).replaced = (file.calls other).replaced := by
  by_cases same : other = call
  · subst same
    simpa [AttemptFile.move] using kept
  · simp [AttemptFile.move, Function.update_of_ne same]

/-- The step lemma of the protocol. -/
theorem AttemptFile.Effect.protocol {start : AttemptRecord} {file next : AttemptFile ι}
    (effect : file.Effect next) (before : file.Protocol start) : next.Protocol start := by
  cases effect with
  | moves call state outside kept checked =>
    refine ⟨before.chain, fun other => ?_, fun other update moved => ?_, fun other link => ?_, before.once⟩
    · have held := before.holder other
      by_cases same : other = call
      · subst same; simpa [AttemptFile.move, outside] using held
      · simpa [AttemptFile.move, Function.update_of_ne same] using held
    · by_cases same : other = call
      · subst same
        exact checked update (by simpa [AttemptFile.move] using moved)
      · exact before.replacing other update (by simpa [AttemptFile.move, Function.update_of_ne same] using moved)
    · rw [AttemptFile.committed_move kept other]
      exact before.committed other link
  | enters call update free waiting =>
    refine ⟨before.chain, fun other => ?_, fun other update' moved => ?_, fun other link => ?_, before.once⟩
    · by_cases same : other = call
      · subst same; simp [AttemptFile.move, CallState.inFence]
      · have outside := before.holder other
        rw [free] at outside
        simpa [AttemptFile.move, Function.update_of_ne same, Ne.symm same] using outside
    · by_cases same : other = call
      · subst same
        simp [AttemptFile.move] at moved
      · exact before.replacing other update' (by simpa [AttemptFile.move, Function.update_of_ne same] using moved)
    · have kept : (CallState.rechecking update).replaced = (file.calls call).replaced := by rw [waiting]; rfl
      have all := AttemptFile.committed_move kept other
      simp only [AttemptFile.move] at all ⊢
      rw [all]
      exact before.committed other link
  | leaves call state inside outside kept =>
    have held := (before.holder call).mp inside
    refine ⟨before.chain, fun other => ?_, fun other update moved => ?_, fun other link => ?_, before.once⟩
    · by_cases same : other = call
      · subst same; simp [AttemptFile.move, outside]
      · have unheld := before.holder other
        rw [held] at unheld
        simpa [AttemptFile.move, Function.update_of_ne same, Ne.symm same] using unheld
    · by_cases same : other = call
      · subst same
        have moved' : state = .replacing update := by simpa [AttemptFile.move] using moved
        rw [moved'] at outside
        cases outside
      · exact before.replacing other update (by simpa [AttemptFile.move, Function.update_of_ne same] using moved)
    · have all := AttemptFile.committed_move kept other
      simp only [AttemptFile.move] at all ⊢
      rw [all]
      exact before.committed other link
  | replaces call update replacing =>
    have expected := before.replacing call update replacing
    have held : file.fence = some call := (before.holder call).mp (by rw [replacing]; rfl)
    have fresh : ∀ link ∈ file.links, link.call ≠ call := by
      intro link member same
      obtain ⟨_, replaced, _⟩ := (before.committed call link).mp ⟨member, same⟩
      rw [replacing] at replaced
      cases replaced
    refine ⟨before.chain.snoc expected.symm, fun other => ?_, fun other update' moved => ?_,
      fun other link => ?_, ?_⟩
    · by_cases same : other = call
      · subst same; simp [AttemptFile.move, CallState.inFence, held]
      · simpa [AttemptFile.move, Function.update_of_ne same] using before.holder other
    · -- No other call can stand between its second check and its replacement.
      by_cases same : other = call
      · subst same
        simp [AttemptFile.move] at moved
      · have there : file.calls other = .replacing update' := by
          simpa [AttemptFile.move, Function.update_of_ne same] using moved
        have also : file.fence = some other := (before.holder other).mp (by rw [there]; rfl)
        exact absurd (Option.some.inj (also.symm.trans held)) same
    · by_cases same : other = call
      · subst same
        simp only [AttemptFile.move, Function.update_self, CallState.replaced, List.mem_append,
          List.mem_singleton]
        constructor
        · rintro ⟨member | rfl, owner⟩
          · exact absurd owner (fresh link member)
          · exact ⟨update, rfl, rfl⟩
        · rintro ⟨_, ⟨⟩, rfl⟩
          exact ⟨.inr rfl, rfl⟩
      · simp only [AttemptFile.move, Function.update_of_ne same, List.mem_append, List.mem_singleton]
        rw [← before.committed other link]
        constructor
        · rintro ⟨member | rfl, owner⟩
          · exact ⟨member, owner⟩
          · exact absurd owner.symm same
        · rintro ⟨member, owner⟩
          exact ⟨.inl member, owner⟩
    · rw [List.map_append, List.nodup_append]
      refine ⟨before.once, List.pairwise_singleton _ _, ?_⟩
      rintro owner member _ here rfl
      obtain ⟨link, linked, rfl⟩ := List.mem_map.mp member
      exact fresh link linked (by simpa [PreparedUpdate.link] using here)

/-- The run lemma: the protocol holds whatever the order of the callers' steps. -/
theorem AttemptFile.protocol_run {start : AttemptRecord} {labels : List (FileStep ι)} {file : AttemptFile ι}
    (h : run AttemptFile.step (.initial start) labels = some file) : file.Protocol start :=
  run_invariant' (fun moved before => (AttemptFile.step_effect moved).protocol before) h
    (AttemptFile.protocol_initial start)

/-- What holds of an attempt file and its history after any interleaving. -/
structure LinearHistory (start : AttemptRecord) (file : AttemptFile ι) : Prop where
  /-- Every replacement found exactly the record it was prepared from. -/
  chain : Chain start file.links file.persisted
  /-- A call that returned has replaced the record it was prepared from ... -/
  returned : ∀ call update, file.calls call = .returned update →
    update.link call ∈ file.links
  /-- ... once, and only calls that got through the fence have replaced anything. -/
  once : (file.links.map Link.call).Nodup
  performed : ∀ link ∈ file.links, ∃ update,
    (file.calls link.call).replaced = some update ∧ link = update.link link.call
  /-- No replacement touches the attempt's identity. -/
  identity : ∀ record ∈ file.persisted :: file.links.map Link.updated,
    record.sequence = start.sequence ∧ record.phase = start.phase ∧
      record.startedAt = start.startedAt ∧ record.resultPath = start.resultPath
  /-- After a finished record, no update prepared from a started one replaces anything. -/
  finalised : ∀ earlier later record, file.links = earlier ++ later → Chain start earlier record →
    record.status ≠ .started →
      file.persisted.status ≠ .started ∧ ∀ link ∈ later, link.expected.status ≠ .started

/-- **No lost or stale update.** After any interleaving of `update_attempt` and
`complete_stage_attempt` calls on one attempt, with failures anywhere, the
persisted records are one chain of the updates that went through. -/
theorem attempt_updates_linear {start : AttemptRecord} {labels : List (FileStep ι)} {file : AttemptFile ι}
    (h : run AttemptFile.step (.initial start) labels = some file) : LinearHistory start file := by
  have protocol := AttemptFile.protocol_run h
  have linked : ∀ link ∈ file.links, ∃ update,
      (file.calls link.call).replaced = some update ∧ link = update.link link.call :=
    fun link member => (protocol.committed link.call link).mp ⟨member, rfl⟩
  refine
    { chain := protocol.chain, returned := ?_, once := protocol.once, performed := linked
      identity := ?_, finalised := ?_ }
  · intro call update here
    exact ((protocol.committed call (update.link call)).mpr ⟨update, by rw [here]; rfl, rfl⟩).1
  · have kept : ∀ link ∈ file.links, SameIdentity start.toAttemptFields link.expected.toAttemptFields →
        SameIdentity start.toAttemptFields link.updated.toAttemptFields := by
      intro link member same
      obtain ⟨update, _, made⟩ := linked link member
      rw [made] at same ⊢
      exact same.trans update.identity
    obtain ⟨last, all⟩ := protocol.chain.invariant
      (P := fun record => SameIdentity start.toAttemptFields record.toAttemptFields) kept
      ⟨rfl, rfl, rfl, rfl, rfl⟩
    intro record member
    have same : SameIdentity start.toAttemptFields record.toAttemptFields := by
      rcases List.mem_cons.mp member with rfl | member
      · exact last
      · obtain ⟨link, linked, rfl⟩ := List.mem_map.mp member
        exact (all link linked).2
    exact ⟨same.sequence.symm, same.phase.symm, same.startedAt.symm, same.resultPath.symm⟩
  · intro earlier later record split reached finished
    have chain := protocol.chain
    rw [split] at chain
    refine chain.final (P := fun record => record.status ≠ .started) (fun link member => ?_) reached finished
    obtain ⟨update, _, made⟩ := linked link (by rw [split]; exact List.mem_append_right _ member)
    rw [made]
    exact update.finished

def startedImplementation : AttemptRecord where
  sequence := 2
  phase := .implementing
  status := .started
  beforeWorkspaceFingerprint := none
  afterWorkspaceFingerprint := none
  processStarted := false
  startedAt := ⟨"2026-01-01T00:00:00Z"⟩
  endedAt := none
  resultPath := "result.json"
  executionPath := none
  metadata := .empty
  artifactDirectory := "runs/r1/attempts/002-implementation"
  valid := by decide

/-- Call 0 records the process start and prepares its payload; call 1 completes
the stage in between; call 0 then enters the fence. -/
def delayedStartRecorder : List (FileStep Nat) :=
  [.callUpdate 0 startedImplementation { processStarted := some true } ⟨"2026-01-01T00:00:01Z"⟩,
    .earlyCheck 0, .preparePayload 0,
    .callComplete 1 ⟨.fromRecord startedImplementation.toAttemptFields, .completed, none, some true, none⟩,
    .load 1 true ⟨"2026-01-01T00:00:09Z"⟩, .earlyCheck 1, .preparePayload 1, .enterFence 1, .recheck 1,
    .replace 1, .leaveFence 1, .enterFence 0, .recheck 0, .syncDirectory 1]

/-- The late recorder fails, and the completion is the only replacement. -/
theorem attempt_updates_linear_delayed_start :
    ∃ file, run AttemptFile.step (.initial startedImplementation) delayedStartRecorder = some file ∧
      LinearHistory startedImplementation file ∧
        (file.links.map Link.call, file.persisted.status) = ([1], .completed) := by
  have outcome : (run AttemptFile.step (.initial startedImplementation) delayedStartRecorder).map
      (fun file => (file.links.map Link.call, file.persisted.status)) = some ([1], .completed) := by
    decide +kernel
  obtain ⟨file, reached, result⟩ := Option.map_eq_some_iff.mp outcome
  exact ⟨file, reached, attempt_updates_linear reached, result⟩

end SprintTicket
