import SprintTicket.Lifecycle.Sessions

/-!
# Evidence comes before the state

A decision is saved after the attempt that made it was completed, and its result
artifact was there before that. `SavedInOrder` says so of one replacement of
`run.json`; the attempts that come later, in the new state, are appended to what
stood there then. Only REPORTING saves first.
-/

set_option autoImplicit false

namespace SprintTicket

open Checks Effects Effects.Effect Latest

/-- The phases of the stages that request a state; a transition without an attempt
hands the request on. -/
def WorkflowState.requesters : WorkflowState → List AttemptPhase
  | .prepared | .implementing => [.preparing]
  | .verifying => [.implementing, .correcting]
  | .reviewing => [.verifying]
  | .reporting => [.reviewing]
  | .correctionPending | .correcting => [.verifying, .reviewing]
  | _ => []

/-- VERIFYING and later states. -/
def WorkflowState.followsWrite : WorkflowState → Bool
  | .verifying | .reviewing | .reporting | .correctionPending | .correcting => true
  | _ => false

/-- The attempt that requested `state`. -/
structure Requester (state : WorkflowState) (ledger : AttemptLedger) (resultFile : Nat → ArtifactFile)
    (attempt : AttemptRecord) : Prop where
  last : ∃ earlier, ledger.records = earlier ++ [attempt]
  phase : attempt.phase ∈ state.requesters
  completed : attempt.status = .completed
  result : ∃ value, resultFile attempt.sequence = .json value

/-- What stands in the run directory when `state` is saved. -/
structure Evident (state : WorkflowState) (ledger : AttemptLedger) (resultFile : Nat → ArtifactFile) : Prop where
  requester : ∃ attempt, Requester state ledger resultFile attempt
  /-- Of the writable attempts the one with the highest sequence is completed. -/
  writes : state.followsWrite = true → ∃ attempt,
    IsLatest (fun item => item.phase.writable = true) ledger.records attempt ∧ attempt.status = .completed

/-- One replacement of `run.json` by the loop. -/
structure SavedInOrder (save : Save) : Prop where
  evident : save.after.state.requesters ≠ [] → Evident save.after.state save.ledger save.resultFile
  /-- The attempt of the stage that ends is no longer STARTED. -/
  ended : ∀ phase, phaseForActiveState save.before.state = some phase → save.before.state ≠ .reporting →
    ∃ earlier attempt, save.ledger.records = earlier ++ [attempt] ∧ attempt.phase = phase ∧ attempt.status ≠ .started

/-- The store as it goes on from a save: only attempts of the new state are added. -/
structure Continues (save : Save) (store : RunStore) : Prop where
  saved : .saved save ∈ store.events
  after : save.after = store.record
  attempts : ∃ later, store.ledger.records = save.ledger.records ++ later ∧
    ∀ attempt ∈ later, phaseForActiveState store.record.state = some attempt.phase
  results : ∀ attempt ∈ save.ledger.records, store.resultFile attempt.sequence = save.resultFile attempt.sequence

structure InOrder (store : RunStore) : Prop where
  saves : ∀ save, .saved save ∈ store.events → SavedInOrder save
  current : store.record.state.requesters ≠ [] → ∃ save, Continues save store

section Save

variable {printable : Char → Bool} {store t : RunStore} {record : RunRecord} {outcome : StageOutcome}
  {file : ArtifactFile}

/-- A stage that does not stop the run has written its result. -/
theorem StageEvidence.written (evidence : StageEvidence printable record file outcome)
    (goes : outcome.stops = false) : ∃ value, file = .json value := by
  cases evidence with
  | stops stopped =>
    rw [goes] at stopped
    cases stopped
  | preparation _ written => exact ⟨_, written⟩
  | verification _ written _ _ => exact ⟨_, written⟩
  | review _ written => exact ⟨_, written⟩
  | writable _ written => exact ⟨_, written⟩

/-- The stage that ends is one that requests the next state. -/
theorem Requested.requester {source next : WorkflowState} {phase : AttemptPhase}
    (requested : Requested source outcome next) (active : phaseForActiveState source = some phase)
    (listed : next.requesters ≠ []) :
    phase ∈ next.requesters ∧ attemptStatusByStageOutcome outcome = .completed ∧ outcome.stops = false := by
  cases requested with
  | completed edge =>
    have own : phase ∈ next.requesters := by
      cases source <;> cases edge <;> cases phase <;> first
        | exact absurd active (by decide)
        | exact absurd rfl listed
        | decide
    exact ⟨own, rfl, rfl⟩
  | correction asked =>
    have own : phase ∈ WorkflowState.correctionPending.requesters := by
      rcases asked with rfl | rfl <;> cases phase <;> first | exact absurd active (by decide) | decide
    exact ⟨own, rfl, rfl⟩
  | humanRequired => exact absurd rfl listed
  | failed => exact absurd rfl listed

/-- A stage that reads only, before a state that follows a write, comes after one too. -/
theorem Requested.follows {source next : WorkflowState} {phase : AttemptPhase}
    (requested : Requested source outcome next) (active : phaseForActiveState source = some phase)
    (reads : phase.writable = false) (follows : next.followsWrite = true) :
    source.requesters ≠ [] ∧ source.followsWrite = true := by
  cases requested with
  | completed edge =>
    cases source <;> cases edge <;> first
      | exact absurd follows (by decide)
      | exact ⟨by decide, rfl⟩
      | cases phase <;> first | exact absurd active (by decide) | exact absurd reads (by decide)
  | correction asked => rcases asked with rfl | rfl <;> exact ⟨by decide, rfl⟩
  | humanRequired => cases follows
  | failed => cases follows

/-- The stages after the first write, which read only, keep what was written. -/
theorem Evident.later {state : WorkflowState} {ledger after : AttemptLedger} {resultFile : Nat → ArtifactFile}
    {later : List AttemptRecord} {phase : AttemptPhase} (evident : Evident state ledger resultFile)
    (follows : state.followsWrite = true) (active : phaseForActiveState state = some phase)
    (reads : phase.writable = false) (records : after.records = ledger.records ++ later)
    (own : ∀ attempt ∈ later, phaseForActiveState state = some attempt.phase) :
    ∃ attempt, IsLatest (fun item => item.phase.writable = true) after.records attempt ∧
      attempt.status = .completed := by
  obtain ⟨attempt, isLatest, completed⟩ := evident.writes follows
  rw [← ledger.isLatest_iff] at isLatest
  refine ⟨attempt, after.isLatest_iff.mp ?_, completed⟩
  refine Eq.trans ?_ isLatest
  rw [records]
  refine latest_append fun item member => ?_
  have same := (own item member).symm.trans active
  rw [Option.some.inj same]
  exact reads

/-- A transition without an attempt hands the request on. -/
theorem requesters_immediate {source next : WorkflowState} (legal : next ∈ legalWorkflowTransitions source)
    (inactive : phaseForActiveState source = none) (listed : next.requesters ≠ []) :
    next.requesters = source.requesters ∧ next.followsWrite = source.followsWrite := by
  cases source <;> cases next <;> first
    | exact absurd legal (by decide)
    | exact absurd inactive (by decide)
    | exact absurd rfl listed
    | decide

end Save

section Pass

variable {printable : Char → Bool} {store t : RunStore} {save : Save}

theorem Continues.refl {record : RunRecord} {store t : RunStore} {log : List DriveEvent}
    (moved : Moved store log record t.ledger t.resultFile t) :
    Continues ⟨store.record, record, t.ledger, t.resultFile⟩ t where
  saved := by simp [moved.events]
  after := moved.record.symm
  attempts := ⟨[], (List.append_nil _).symm, fun _ member => absurd member List.not_mem_nil⟩
  results _ _ := rfl

/-- A pass that stops goes on from the same save. -/
theorem Continues.stopped {log : List DriveEvent} (continues : Continues save store) (kept : Framed store log t)
    (effect : AttemptEffect printable store t) : Continues save t := by
  obtain ⟨later, records, own⟩ := continues.attempts
  have old : ∀ attempt ∈ save.ledger.records, t.resultFile attempt.sequence = save.resultFile attempt.sequence := by
    intro attempt member
    have inside : attempt ∈ store.ledger.records := by
      rw [records]
      exact List.mem_append_left _ member
    rw [kept.results attempt.sequence (AttemptLedger.lt_nextSequence inside)]
    exact continues.results attempt member
  have added {attempt : AttemptRecord} (attempted : Attempted store t attempt) : Continues save t := by
    refine ⟨by rw [kept.events]; exact List.mem_append_left _ continues.saved, continues.after.trans kept.record.symm,
      ⟨later ++ [attempt], by rw [attempted.records, records, List.append_assoc], fun other member => ?_⟩, old⟩
    rw [kept.record]
    rcases List.mem_append.mp member with member | member
    · exact own other member
    · rw [List.mem_singleton.mp member]
      exact attempted.phase
  cases effect with
  | none ledger =>
    exact ⟨by rw [kept.events]; exact List.mem_append_left _ continues.saved, continues.after.trans kept.record.symm,
      ⟨later, by rw [ledger, records], fun other member => by rw [kept.record]; exact own other member⟩, old⟩
  | running attempted _ => exact added attempted
  | finished ended => exact added ended.toAttempted

/-- What a completed stage leaves for the state that it requests. -/
theorem Finished.evident {outcome : StageOutcome} {attempt : AttemptRecord} {next : WorkflowState}
    (inOrder : InOrder store) (active : store.record.state ≠ .reporting)
    (requested : Requested store.record.state outcome next) (ended : Finished printable store t outcome attempt)
    (listed : next.requesters ≠ []) : Evident next t.ledger t.resultFile := by
  obtain ⟨own, completed, goes⟩ := requested.requester ended.phase listed
  have status : attempt.status = .completed := ended.status.trans completed
  refine ⟨⟨attempt, ⟨_, ended.records⟩, own, status, (ended.evidence active).written goes⟩, fun follows => ?_⟩
  by_cases writable : attempt.phase.writable = true
  · have newest : latest (fun item : AttemptRecord => item.phase.writable) t.ledger.records = some attempt := by
      rw [ended.records, latest_snoc, if_pos writable]
    exact ⟨attempt, t.ledger.isLatest_iff.mp newest, status⟩
  · have reads : attempt.phase.writable = false := by simpa using writable
    obtain ⟨listed, followed⟩ := requested.follows ended.phase reads follows
    obtain ⟨save, continues⟩ := inOrder.current listed
    obtain ⟨later, records, phases⟩ := continues.attempts
    have evident := (inOrder.saves save continues.saved).evident (by rw [continues.after]; exact listed)
    rw [continues.after] at evident
    refine evident.later followed ended.phase reads
      (by rw [ended.records, records, List.append_assoc]) fun other member => ?_
    rcases List.mem_append.mp member with member | member
    · exact phases other member
    · rw [List.mem_singleton.mp member]
      exact ended.phase

/-- What a transition without an attempt finds. -/
theorem InOrder.handedOn {next : WorkflowState} (inOrder : InOrder store)
    (legal : next ∈ legalWorkflowTransitions store.record.state) (inactive : phaseForActiveState store.record.state = none)
    (listed : next.requesters ≠ []) : Evident next store.ledger store.resultFile := by
  obtain ⟨same, follows⟩ := requesters_immediate legal inactive listed
  obtain ⟨save, continues⟩ := inOrder.current (same ▸ listed)
  have evident := (inOrder.saves save continues.saved).evident (by rw [continues.after, ← same]; exact listed)
  rw [continues.after] at evident
  obtain ⟨later, records, phases⟩ := continues.attempts
  have idle : later = [] := by
    cases later with
    | nil => rfl
    | cons attempt rest =>
      have own := phases attempt List.mem_cons_self
      rw [inactive] at own
      cases own
  rw [idle, List.append_nil] at records
  obtain ⟨attempt, ⟨earlier, last⟩, phase, completed, value, written⟩ := evident.requester
  have member : attempt ∈ save.ledger.records := by
    rw [last]
    exact List.mem_append_right _ (List.mem_singleton_self attempt)
  refine ⟨⟨attempt, ⟨earlier, by rw [records, last]⟩, same ▸ phase, completed, value, ?_⟩, fun followed => ?_⟩
  · rw [continues.results attempt member]
    exact written
  · obtain ⟨writer, isLatest, done⟩ := evident.writes (follows ▸ followed)
    rw [← records] at isLatest
    exact ⟨writer, isLatest, done⟩

/-- The save of a pass is in order, and the pass goes on from it. -/
theorem InOrder.moved {updated : RunRecord} {log : List DriveEvent} {ledger : AttemptLedger}
    {resultFile : Nat → ArtifactFile} (inOrder : InOrder store) (advance : Advance store.record updated)
    (logged : DispatchLog store.record log) (moved : Moved store log updated ledger resultFile t)
    (cause : MoveCause printable store updated ledger resultFile t) : InOrder t := by
  have order : SavedInOrder ⟨store.record, updated, ledger, resultFile⟩ ∧
      (updated.state.requesters ≠ [] → Continues ⟨store.record, updated, ledger, resultFile⟩ t) := by
    cases cause with
    | immediate inactive saved kept =>
      obtain ⟨rfl, rfl⟩ := saved
      refine ⟨⟨fun listed => inOrder.handedOn advance.legal inactive listed, fun phase active => ?_⟩, fun _ => ?_⟩
      · rw [inactive] at active
        cases active
      · have own : Moved store log updated t.ledger t.resultFile t := by
          rw [kept.1, kept.2]
          exact moved
        rw [← kept.1, ← kept.2]
        exact .refl own
    | executed active requested ended saved =>
      obtain ⟨rfl, rfl⟩ := saved
      refine ⟨⟨fun listed => ended.evident inOrder active requested listed, fun phase own _ => ?_⟩, fun _ => .refl moved⟩
      refine ⟨_, _, ended.records, Option.some.inj (ended.phase.symm.trans own), ?_⟩
      rw [ended.status]
      exact attemptStatusByStageOutcome_ne_started _
    | reported state terminal _ =>
      have unlisted : updated.state.requesters = [] := by
        cases next : updated.state <;> rw [next] at terminal <;> first | rfl | cases terminal
      exact ⟨⟨fun listed => absurd unlisted listed, fun _ _ other => absurd state other⟩,
        fun listed => absurd unlisted listed⟩
  refine ⟨fun save member => ?_, fun listed => ⟨_, order.2 (by rw [← moved.record]; exact listed)⟩⟩
  rw [moved.events, List.append_assoc] at member
  rcases List.mem_append.mp member with member | member
  · exact inOrder.saves save member
  · rcases List.mem_append.mp member with member | member
    · exact absurd member (logged.noSave save)
    · cases List.mem_singleton.mp member
      exact order.1

theorem inOrder_rule : SessionRule printable InOrder InOrder where
  created new := by
    refine ⟨fun save member => ?_, fun listed => ?_⟩
    · rw [new.events] at member
      exact absurd member List.not_mem_nil
    · rw [new.state] at listed
      exact absurd rfl listed
  rests live := live
  passed live _ effect := by
    cases effect with
    | stopped kept logged attempt =>
      refine ⟨fun save member => ?_, fun listed => ?_⟩
      · rw [kept.events] at member
        rcases List.mem_append.mp member with member | member
        · exact live.saves save member
        · exact absurd member (logged.noSave save)
      · rw [kept.record] at listed
        obtain ⟨save, continues⟩ := live.current listed
        exact ⟨save, continues.stopped kept attempt⟩
    | moved advance logged moved cause _ => exact live.moved advance logged moved cause
  moved live _ effect := by
    cases effect with
    | moved advance logged moved cause _ => exact live.moved advance logged moved cause
  stopped := by
    intro store t rest stopped
    refine ⟨fun save member => ?_, fun listed => ?_⟩
    · rw [stopped.events] at member
      rcases List.mem_append.mp member with member | member
      · exact rest.saves save member
      · cases List.mem_singleton.mp member
    · have terminal := stopped.terminal
      cases state : t.record.state <;> rw [state] at listed terminal <;>
        first | exact absurd rfl listed | cases terminal
  resumed rest _ := rest

end Pass

/-! ## All runs -/

section Runs

variable {sha256 : Sha256} {ticketDigest : TicketDigest} {resolve : PathResolver} {printable : Char → Bool}
  {runPath : String} {store : RunStore}

/-- **Evidence never lags the run state**, at any crash point of any run. Every save of
the loop is in order, and whenever `run.json` holds one of these states, the attempt
that requested it stands in the ledger as it did, with its result, when that state was
saved; so do the writable attempts before it. -/
theorem evidence_precedes_state (reached : RunReached sha256 ticketDigest resolve printable runPath store) :
    (∀ save, .saved save ∈ store.events → SavedInOrder save) ∧
    (store.record.state ∈ [.prepared, .verifying, .reviewing, .reporting, .correctionPending, .correcting] →
      ∃ save later attempt, .saved save ∈ store.events ∧ save.after = store.record ∧
        store.ledger.records = save.ledger.records ++ later ∧
        Requester store.record.state save.ledger save.resultFile attempt ∧
        store.resultFile attempt.sequence = save.resultFile attempt.sequence ∧
        (store.record.state.followsWrite = true → ∃ written,
          IsLatest (fun item => item.phase.writable = true) save.ledger.records written ∧
          written.status = .completed)) := by
  have inOrder := inOrder_rule.rest reached
  refine ⟨inOrder.saves, fun listed => ?_⟩
  have requested : store.record.state.requesters ≠ [] := by
    cases state : store.record.state <;> rw [state] at listed <;>
      first | exact absurd listed (by decide) | decide
  obtain ⟨save, continues⟩ := inOrder.current requested
  have evident := (inOrder.saves save continues.saved).evident (by rw [continues.after]; exact requested)
  rw [continues.after] at evident
  obtain ⟨attempt, requester⟩ := evident.requester
  obtain ⟨earlier, last⟩ := requester.last
  obtain ⟨later, records, _⟩ := continues.attempts
  have member : attempt ∈ save.ledger.records := by
    rw [last]
    exact List.mem_append_right _ (List.mem_singleton_self attempt)
  exact ⟨save, later, attempt, continues.saved, continues.after, records, requester, continues.results attempt member,
    evident.writes⟩

end Runs

/-- A run that has saved PREPARED. -/
theorem exampleSession_evident :
    ∃ save later attempt, .saved save ∈ (exampleSession exampleDyingDrive 1).events ∧
      save.after = (exampleSession exampleDyingDrive 1).record ∧
      (exampleSession exampleDyingDrive 1).ledger.records = save.ledger.records ++ later ∧
      Requester (exampleSession exampleDyingDrive 1).record.state save.ledger save.resultFile attempt ∧
      (exampleSession exampleDyingDrive 1).resultFile attempt.sequence = save.resultFile attempt.sequence ∧
      ((exampleSession exampleDyingDrive 1).record.state.followsWrite = true → ∃ written,
        IsLatest (fun item => item.phase.writable = true) save.ledger.records written ∧
        written.status = .completed) :=
  (evidence_precedes_state (exampleSession_reached exampleDyingDrive 1)).2 (by decide +kernel)

end SprintTicket
