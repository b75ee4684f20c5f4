import SprintTicket.AgentExecution
import SprintTicket.Attempts.Concurrent
import SprintTicket.Verification.Round

/-!
# The start flag of an attempt

A start report persists `process_started = true` while the agent runs. The stage
derives the flag again at its end, and `complete_stage_attempt` writes what it
derived: a writable stage from its tracker, a review from the execution alone, a
stage of commands from their results. `process_start_kept` says when the flag
that is persisted first is never taken back.

One life is one attempt in its stage. Reports may arrive late, from an observer
thread that outlives the execution.
-/

set_option autoImplicit false

namespace SprintTicket

open Checks Transition

/-- How the stage of a phase derives the flag. -/
inductive StageKind
  | writable | review | commands
deriving DecidableEq

def stageKind : AttemptPhase → StageKind
  | .implementing | .correcting => .writable
  | .reviewing => .review
  | .preparing | .verifying | .reporting => .commands

inductive StageProgress
  | preparing
  | executing
  | executed (execution : Option InvocationStart)   -- `none` after an exception
  | derived (processStarted : Bool)
  | completed
  | raised
deriving DecidableEq

/-- The stage has not derived the flag yet. -/
def StageProgress.live : StageProgress → Bool
  | .preparing | .executing | .executed _ => true
  | _ => false

/-- One attempt in its stage. -/
structure AttemptLife where
  kind : StageKind
  persisted : AttemptRecord
  /-- The record that updates are prepared from; a tracker may have found none. -/
  held : Option AttemptRecord
  /-- `invocation_started` of a review, `process_started` of a tracker. -/
  noted : Bool
  progress : StageProgress

/-- A stage attempt right after `start_attempt`. -/
def AttemptLife.start (record : AttemptRecord) (associated : Bool) : AttemptLife where
  kind := stageKind record.phase
  persisted := record
  held := if stageKind record.phase = .review ∨ associated then some record else none
  noted := false
  progress := .preparing

/-- What becomes of a replacement once its record is prepared; a failure may come
after the replacement. -/
inductive SaveResult
  | saved
  | failed (replaced : Bool)

inductive LifeEvent
  | execute
  | report (now : Timestamp) (result : SaveResult)
  /-- An update of the tracker. -/
  | track (changes : AttemptChanges) (now : Timestamp) (result : SaveResult)
  | returned (execution : Option InvocationStart) (now : Timestamp) (result : SaveResult)
  | derive (commands : List VerificationCommandResult)
  | complete (arguments : StageCompletionArguments) (evidenceExists : Bool) (now : Timestamp)
      (result : SaveResult)

namespace AttemptLife

/-- `save_attempt` of a prepared update: what is persisted then, and whether it returned. -/
def save (persisted : AttemptRecord) (update : Except Raised PreparedUpdate) (result : SaveResult) :
    AttemptRecord × Bool :=
  match update with
  | .error _ => (persisted, false)
  | .ok update =>
    match requireExpectedPersistedRecord persisted update.updated (some update.expected) with
    | .error _ => (persisted, false)
    | .ok _ =>
      match result with
      | .saved => (update.updated, true)
      | .failed replaced => (if replaced then update.updated else persisted, false)

/-- `update_attempt` of the record that is held. -/
def updateHeld (life : AttemptLife) (changes : AttemptChanges) (now : Timestamp) (result : SaveResult) :
    AttemptRecord × Bool :=
  match life.held with
  | none => (life.persisted, false)
  | some record => save life.persisted (prepareUpdate record changes now) result

/-- A start report: `mark_invocation_started` of a review, `record_started(True)` of a tracker. -/
def report (life : AttemptLife) (now : Timestamp) (result : SaveResult) : AttemptLife :=
  if life.noted then life
  else
    let (persisted, returned) := life.updateHeld { processStarted := some true } now result
    match life.kind with
    | .review => { life with persisted, noted := returned }
    | .writable => { life with persisted, noted := true, held := if returned then some persisted else life.held }
    | .commands => life

/-- `_update` of a tracker, which repeats its flag. -/
def track (life : AttemptLife) (changes : AttemptChanges) (now : Timestamp) (result : SaveResult) : AttemptLife :=
  let (persisted, returned) := life.updateHeld { changes with processStarted := some life.noted } now result
  { life with persisted, held := if returned then some persisted else life.held }

/-- After the executor has returned or raised. -/
def executed (life : AttemptLife) (execution : Option InvocationStart) (now : Timestamp) (result : SaveResult) :
    AttemptLife :=
  match life.kind, execution with
  | .review, none => { life with progress := .raised }
  | .review, some .started =>
    let reported := life.report now result
    { reported with progress := if reported.noted then .executed execution else .raised }
  | .writable, some .started => { life.report now result with progress := .executed execution }
  | _, _ => { life with progress := .executed execution }

/-- The flag that the stage hands to `complete_stage_attempt`. -/
def deriveStarted (life : AttemptLife) (execution : Option InvocationStart)
    (commands : List VerificationCommandResult) : Bool :=
  match life.kind with
  | .review => execution = some .started
  | .writable => life.noted || execution = some .started
  | .commands => roundProcessStarted commands

/-- One step of the life. -/
def step (life : AttemptLife) : LifeEvent → Option AttemptLife
  | .execute =>
    if life.progress = .preparing ∧ life.kind ≠ .commands then
      some { life with progress := .executing }
    else none
  | .report now result => if life.progress = .preparing then none else some (life.report now result)
  | .track changes now result =>
    if life.kind = .writable ∧ changes.status = none ∧ changes.ended = false then
      match life.progress with
      | .preparing | .executing | .executed _ => some (life.track changes now result)
      | _ => none
    else none
  | .returned execution now result =>
    if life.progress = .executing then some (life.executed execution now result) else none
  | .derive commands =>
    match life.progress with
    | .preparing => some { life with progress := .derived (life.deriveStarted none commands) }
    | .executed execution => some { life with progress := .derived (life.deriveStarted execution commands) }
    | _ => none
  | .complete arguments evidenceExists now result =>
    match life.progress with
    | .derived processStarted =>
      let arguments := { arguments with processStarted := some processStarted }
      let (persisted, returned) :=
        save life.persisted (prepareCompletion life.persisted arguments evidenceExists now) result
      some { life with persisted, progress := if returned then .completed else .raised }
    | _ => none

/-- A completion that is given the flag writes it. -/
theorem prepareCompletion_started {persisted : AttemptRecord} {arguments : StageCompletionArguments}
    {evidenceExists flag : Bool} {now : Timestamp} {update : PreparedUpdate}
    (h : prepareCompletion persisted arguments evidenceExists now = .ok update)
    (writes : arguments.processStarted = some flag) : update.updated.processStarted = flag := by
  rw [prepareCompletion, check_bind_ok] at h
  have fields := (prepareUpdate_expected h.2).2
  rw [fields]
  show arguments.processStarted.getD persisted.processStarted = flag
  rw [writes]
  rfl

/-- A save leaves the old record or the prepared one, never something between. -/
theorem save_persisted {persisted : AttemptRecord} {update : Except Raised PreparedUpdate} {result : SaveResult} :
    (save persisted update result).1 = persisted ∨
      ∃ prepared, update = .ok prepared ∧ (save persisted update result).1 = prepared.updated := by
  unfold save
  split
  · exact .inl rfl
  · rename_i prepared
    split
    · exact .inl rfl
    · split
      · exact .inr ⟨prepared, rfl, rfl⟩
      · dsimp only
        split
        · exact .inr ⟨prepared, rfl, rfl⟩
        · exact .inl rfl

/-- So an update leaves the flag it was to write, or the record as it was. -/
theorem updateHeld_started {life : AttemptLife} {changes : AttemptChanges} {flag : Bool} (now : Timestamp)
    (result : SaveResult) (writes : changes.processStarted = some flag) :
    (life.updateHeld changes now result).1 = life.persisted ∨
      (life.updateHeld changes now result).1.processStarted = flag := by
  unfold updateHeld
  split
  · exact .inl rfl
  · rename_i record _
    rcases @save_persisted life.persisted (prepareUpdate record changes now) result with same | ⟨prepared, built, updated⟩
    · exact .inl same
    · right
      rw [updated, (prepareUpdate_expected built).2, AttemptChanges.apply, writes]
      rfl

/-- Where nothing has been noted a report persists the flag, or leaves the record. -/
theorem report_persisted (life : AttemptLife) (now : Timestamp) (result : SaveResult) :
    (life.report now result).persisted = life.persisted ∨
      (life.report now result).persisted.processStarted = true := by
  unfold report
  split
  · exact .inl rfl
  · have written := @life.updateHeld_started { processStarted := some true } true now result rfl
    dsimp only
    split
    · exact written
    · exact written
    · exact .inl rfl

/-- A report changes the record and what is noted only. -/
theorem report_frame (life : AttemptLife) (now : Timestamp) (result : SaveResult) :
    (life.report now result).kind = life.kind ∧ (life.report now result).progress = life.progress ∧
      (life.kind = .writable → (life.report now result).noted = true) ∧
      (life.kind = .commands → life.report now result = life) := by
  unfold report
  split
  case isTrue noted => exact ⟨rfl, rfl, fun _ => noted, fun _ => rfl⟩
  case isFalse =>
    dsimp only
    split
    case h_1 kind => exact ⟨rfl, rfl, fun other => absurd (kind.symm.trans other) nofun,
      fun other => absurd (kind.symm.trans other) nofun⟩
    case h_2 kind => exact ⟨rfl, rfl, fun _ => rfl, fun other => absurd (kind.symm.trans other) nofun⟩
    case h_3 kind => exact ⟨rfl, rfl, fun other => absurd (kind.symm.trans other) nofun, fun _ => rfl⟩

/-! ## The invariant -/

/-- A review's execution says that it started once a report has been persisted, and
no report reaches a stage that has derived the opposite. -/
def Reported (life : AttemptLife) : LifeEvent → Prop
  | .derive _ =>
    life.kind = .review → life.persisted.processStarted = true → life.progress = .executed (some .started)
  | .report _ _ => life.noted = true ∨ life.progress ≠ .derived false
  | _ => True

structure Kept (life : AttemptLife) : Prop where
  fresh : life.progress = .preparing → life.persisted.processStarted = false ∧ life.noted = false
  /-- A tracker has noted what it has persisted. -/
  noted : life.kind = .writable → life.progress.live = true → life.persisted.processStarted = true →
    life.noted = true
  /-- The flag that was derived is not behind the persisted one. -/
  derived : ∀ flag, life.progress = .derived flag → life.persisted.processStarted = true → flag = true
  commands : life.kind = .commands → life.progress ≠ .executing ∧ ∀ execution, life.progress ≠ .executed execution

/-- An attempt that has not been started keeps nothing wrong. -/
theorem start_kept {record : AttemptRecord} {associated : Bool} (unstarted : record.processStarted = false) :
    (start record associated).Kept where
  fresh := fun _ => ⟨unstarted, rfl⟩
  noted := fun _ _ started => by
    have persisted : record.processStarted = true := started
    rw [unstarted] at persisted
    cases persisted
  derived := nofun
  commands := fun _ => ⟨nofun, nofun⟩

/-- A report keeps the invariant where the stage has not derived the opposite. -/
theorem Kept.report {life : AttemptLife} (kept : life.Kept) {now : Timestamp} {result : SaveResult}
    (begun : life.progress ≠ .preparing) (timely : life.noted = true ∨ life.progress ≠ .derived false) :
    (life.report now result).Kept := by
  obtain ⟨kind, progress, writable, -⟩ := life.report_frame now result
  refine ⟨fun fresh => ?_, fun other _ _ => writable (kind ▸ other), fun flag derived started => ?_, fun other => ?_⟩
  · rw [progress] at fresh
    exact absurd fresh begun
  · rw [progress] at derived
    rcases timely with noted | late
    · have same : life.report now result = life := by
        rw [AttemptLife.report, if_pos noted]
      rw [same] at started
      exact kept.derived flag derived started
    · cases flag with
      | true => rfl
      | false => exact absurd derived late
  · rw [progress]
    exact kept.commands (kind ▸ other)

/-- An update by the tracker writes the flag it has noted, or nothing. -/
theorem track_persisted (life : AttemptLife) (changes : AttemptChanges) (now : Timestamp) (result : SaveResult) :
    (life.track changes now result).persisted = life.persisted ∨
      (life.track changes now result).persisted.processStarted = life.noted :=
  life.updateHeld_started now result rfl

/-- An update of the tracker keeps the invariant while the stage has not derived the flag. -/
theorem Kept.track {life : AttemptLife} (kept : life.Kept) {changes : AttemptChanges} {now : Timestamp}
    {result : SaveResult} (writable : life.kind = .writable) (live : life.progress.live = true) :
    (life.track changes now result).Kept := by
  have written := life.track_persisted changes now result
  refine ⟨fun fresh => ?_, fun _ _ started => ?_, fun flag derived => ?_, fun other => ?_⟩
  · obtain ⟨unstarted, unnoted⟩ := kept.fresh fresh
    rcases written with same | flag
    · exact ⟨by rw [same]; exact unstarted, unnoted⟩
    · exact ⟨by rw [flag]; exact unnoted, unnoted⟩
  · rcases written with same | flag
    · rw [same] at started
      exact kept.noted writable live started
    · rw [flag] at started
      exact started
  · have closed : life.progress = .derived flag := derived
    rw [closed] at live
    cases live
  · exact absurd (writable.symm.trans other) nofun

/-- The end of the execution keeps the invariant. -/
theorem Kept.executed {life : AttemptLife} (kept : life.Kept) {execution : Option InvocationStart} {now : Timestamp}
    {result : SaveResult} (executing : life.progress = .executing) : (life.executed execution now result).Kept := by
  have live : life.progress.live = true := by rw [executing]; rfl
  obtain ⟨kind, -, noted, -⟩ := life.report_frame now result
  unfold AttemptLife.executed
  split
  case h_1 review => exact ⟨nofun, fun other => absurd (review.symm.trans other) nofun, nofun,
    fun other => absurd (review.symm.trans other) nofun⟩
  case h_2 review =>
    have different (other : StageKind) (h : (life.report now result).kind = other) : other = .review := by
      rw [← h, kind, review]
    dsimp only
    split
    · exact ⟨nofun, fun other => absurd (different _ other) nofun, nofun,
        fun other => absurd (different _ other) nofun⟩
    · exact ⟨nofun, fun other => absurd (different _ other) nofun, nofun,
        fun other => absurd (different _ other) nofun⟩
  case h_3 writable =>
    refine ⟨nofun, fun _ _ _ => noted writable, nofun, fun other => ?_⟩
    have commands : (life.report now result).kind = .commands := other
    rw [kind, writable] at commands
    cases commands
  case h_4 => exact ⟨nofun, fun other _ => kept.noted other live, nofun,
    fun other => absurd executing (kept.commands other).1⟩

/-- A step keeps the invariant. -/
theorem Kept.step {life next : AttemptLife} {event : LifeEvent} (reported : life.Reported event)
    (h : life.step event = some next) (kept : life.Kept) : next.Kept := by
  cases event with
  | execute =>
    simp only [AttemptLife.step] at h
    split at h
    case isFalse => cases h
    case isTrue begins =>
      have live : life.progress.live = true := by rw [begins.1]; rfl
      cases h
      exact ⟨nofun, fun writable _ => kept.noted writable live, nofun, fun commands => absurd commands begins.2⟩
  | report now result =>
    simp only [AttemptLife.step] at h
    split at h
    case isTrue => cases h
    case isFalse begun => cases h; exact kept.report begun reported
  | track changes now result =>
    simp only [AttemptLife.step] at h
    split at h
    case isFalse => cases h
    case isTrue guarded =>
      split at h
      case h_4 => cases h
      all_goals
        rename_i progress
        cases h
        exact kept.track guarded.1 (by rw [progress]; rfl)
  | returned execution now result =>
    simp only [AttemptLife.step] at h
    split at h
    case isFalse => cases h
    case isTrue executing => cases h; exact kept.executed executing
  | derive commands =>
    simp only [AttemptLife.step] at h
    split at h
    case h_1 preparing =>
      cases h
      refine ⟨nofun, fun _ => nofun, fun flag _ started => ?_, fun _ => ⟨nofun, nofun⟩⟩
      have unstarted := (kept.fresh preparing).1
      have persisted : life.persisted.processStarted = true := started
      rw [unstarted] at persisted
      cases persisted
    case h_2 execution executed =>
      cases h
      refine ⟨nofun, fun _ => nofun, fun flag derived started => ?_, fun _ => ⟨nofun, nofun⟩⟩
      have flagged : life.deriveStarted execution commands = flag := by
        cases derived
        rfl
      rw [← flagged, deriveStarted]
      cases kind : life.kind with
      | review =>
        have same := reported kind started
        rw [executed, StageProgress.executed.injEq] at same
        simp [same]
      | writable =>
        have noted := kept.noted kind (by rw [executed]; rfl) started
        simp [noted]
      | commands => exact absurd executed ((kept.commands kind).2 execution)
    case h_3 => cases h
  | complete arguments evidenceExists now result =>
    simp only [AttemptLife.step] at h
    split at h
    case h_2 => cases h
    case h_1 flag derived =>
      cases h
      rcases (save life.persisted (prepareCompletion life.persisted { arguments with processStarted := some flag }
        evidenceExists now) result).2 with _ | _
      · exact ⟨nofun, fun _ => nofun, nofun, fun _ => ⟨nofun, nofun⟩⟩
      · exact ⟨nofun, fun _ => nofun, nofun, fun _ => ⟨nofun, nofun⟩⟩

/-- A step does not take the flag back. -/
theorem Kept.started {life next : AttemptLife} {event : LifeEvent} (h : life.step event = some next)
    (kept : life.Kept) (started : life.persisted.processStarted = true) : next.persisted.processStarted = true := by
  have reported (now : Timestamp) (result : SaveResult) :
      (life.report now result).persisted.processStarted = true := by
    rcases life.report_persisted now result with same | flag
    · rw [same]
      exact started
    · exact flag
  cases event with
  | execute =>
    simp only [AttemptLife.step] at h
    split at h
    · cases h; exact started
    · cases h
  | report now result =>
    simp only [AttemptLife.step] at h
    split at h
    · cases h
    · cases h; exact reported now result
  | track changes now result =>
    have updated (live : life.progress.live = true) (writable : life.kind = .writable) :
        (life.track changes now result).persisted.processStarted = true := by
      rcases life.track_persisted changes now result with same | flag
      · rw [same]
        exact started
      · rw [flag]
        exact kept.noted writable live started
    simp only [AttemptLife.step] at h
    split at h
    case isFalse => cases h
    case isTrue guarded =>
      split at h
      case h_4 => cases h
      all_goals
        rename_i progress
        cases h
        exact updated (by rw [progress]; rfl) guarded.1
  | returned execution now result =>
    simp only [AttemptLife.step] at h
    split at h
    case isFalse => cases h
    case isTrue =>
      cases h
      unfold AttemptLife.executed
      split
      · exact started
      · exact reported now result
      · exact reported now result
      · exact started
  | derive commands =>
    simp only [AttemptLife.step] at h
    split at h
    · cases h; exact started
    · cases h; exact started
    · cases h
  | complete arguments evidenceExists now result =>
    simp only [AttemptLife.step] at h
    split at h
    case h_2 => cases h
    case h_1 flag derived =>
      cases h
      have flagged := kept.derived flag derived started
      rcases @save_persisted life.persisted (prepareCompletion life.persisted
        { arguments with processStarted := some flag } evidenceExists now) result with same | ⟨prepared, built, updated⟩
      · show (save _ _ _).1.processStarted = true
        rw [same]
        exact started
      · show (save _ _ _).1.processStarted = true
        rw [updated, prepareCompletion_started built rfl]
        exact flagged

/-- What is persisted first stays: in a life whose steps all meet the condition,
no update takes a persisted flag back. -/
theorem process_start_kept {record : AttemptRecord} {associated : Bool} {earlier later : List LifeEvent}
    {life next : AttemptLife} (unstarted : record.processStarted = false)
    (along : Along step Reported (start record associated) (earlier ++ later))
    (before : run step (start record associated) earlier = some life) (after : run step life later = some next)
    (started : life.persisted.processStarted = true) : next.persisted.processStarted = true := by
  obtain ⟨first, rest⟩ := along_append.mp along
  have kept : life.Kept := run_invariant_along Kept.step first before (start_kept unstarted)
  have both : next.Kept ∧ next.persisted.processStarted = true := by
    refine run_invariant_along (P := fun life => life.Kept ∧ life.persisted.processStarted = true)
      ?_ (rest life before) after ⟨kept, started⟩
    intro life next event reported h ⟨kept, started⟩
    exact ⟨kept.step reported h, kept.started h started⟩
  exact both.2

def startedReview : AttemptRecord where
  sequence := 5
  phase := .reviewing
  status := .started
  beforeWorkspaceFingerprint := none
  afterWorkspaceFingerprint := none
  processStarted := false
  startedAt := ⟨"2026-01-01T00:00:00Z"⟩
  endedAt := none
  resultPath := "result.json"
  executionPath := none
  metadata := .empty
  artifactDirectory := "runs/r1/attempts/005-review"
  valid := by decide

/-- The executor reports the start of the agent. -/
def reviewReported : List LifeEvent := [.execute, .report ⟨"2026-01-01T00:00:01Z"⟩ .saved]

/-- It returns an execution that says `start`, and the lifecycle completes the attempt. -/
def reviewReturned (start : InvocationStart) : List LifeEvent :=
  [.returned (some start) ⟨"2026-01-01T00:00:02Z"⟩ .saved, .derive [],
    .complete ⟨.fromRecord startedReview.toAttemptFields, .failed, none, none, none⟩ true
      ⟨"2026-01-01T00:00:03Z"⟩ .saved]

/-- The flags persisted after the report and at the end. -/
def reviewFlags (start : InvocationStart) : Option (Bool × Bool) := do
  let reported ← run step (.start startedReview false) reviewReported
  let completed ← run step reported (reviewReturned start)
  some (reported.persisted.processStarted, completed.persisted.processStarted)

/-- What the two flags are: the one at the report and the one at the return. -/
theorem reviewFlags_some {start : InvocationStart} {flags : Bool × Bool} (h : reviewFlags start = some flags) :
    ∃ life next, run step (.start startedReview false) reviewReported = some life ∧
      run step life (reviewReturned start) = some next ∧
      flags = (life.persisted.processStarted, next.persisted.processStarted) := by
  unfold reviewFlags at h
  simp only [bind, Option.bind_eq_some_iff, Option.some.injEq] at h
  obtain ⟨life, before, next, after, same⟩ := h
  exact ⟨life, next, before, after, same.symm⟩

/-- An execution that says `notStarted` takes the persisted flag back. -/
theorem review_start_lost : ¬ ∀ (record : AttemptRecord) (associated : Bool) (earlier later : List LifeEvent)
    (life next : AttemptLife), record.processStarted = false →
      run step (.start record associated) earlier = some life → run step life later = some next →
      life.persisted.processStarted = true → next.persisted.processStarted = true := by
  intro claim
  have flags : reviewFlags .notStarted = some (true, false) := by decide
  obtain ⟨life, next, before, after, same⟩ := reviewFlags_some flags
  rw [Prod.mk.injEq] at same
  have kept := claim startedReview false reviewReported (reviewReturned .notStarted) life next rfl before after
    same.1.symm
  rw [← same.2] at kept
  cases kept

/-- One that says `started` keeps it. -/
theorem process_start_kept_review : ∃ life next, run step (.start startedReview false) reviewReported = some life ∧
    run step life (reviewReturned .started) = some next ∧ next.persisted.processStarted = true := by
  have flags : reviewFlags .started = some (true, true) := by decide
  obtain ⟨life, next, before, after, same⟩ := reviewFlags_some flags
  rw [Prod.mk.injEq] at same
  refine ⟨life, next, before, after, process_start_kept rfl ?_ before after same.1.symm⟩
  refine ⟨trivial, fun executing h => ?_⟩
  cases h
  refine ⟨.inr nofun, fun reported h => ?_⟩
  cases h
  refine ⟨trivial, fun executed h => ?_⟩
  cases h
  refine ⟨fun _ _ => rfl, fun derived h => ?_⟩
  cases h
  exact ⟨trivial, fun _ _ => trivial⟩

end AttemptLife

end SprintTicket
