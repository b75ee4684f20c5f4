import SprintTicket.Codex.PublishedOutput

/-!
# From the worker to the published file

A `_StreamWorker` observes a stream, keeps its tail and writes its capture; what
`_capture_result` reads off it is published afterwards, while the worker may still be
writing. `Recorded` is what holds of a worker at any time. `captured_output_published`
joins it to the publication: whatever the order of the worker's steps, of the cleanup
and of the publication, no destination holds anything but what was observed, or its fallback.
-/

set_option autoImplicit false

namespace SprintTicket

open Transition Effects

/-- The places of a write loop. -/
def Reader.transferring : Reader → Bool
  | .looping | .writing | .counting _ => true
  | _ => false

/-- The places at which a worker may go on with its capture. -/
def Reader.live : Reader → Bool
  | .refused | .failing | .concluding | .closing | .stopped => false
  | _ => true

namespace StreamWorker

/-- What is in hand for the file. -/
def pending (worker : StreamWorker) : List UInt8 :=
  match worker.reader with
  | .looping | .writing => worker.view
  | .counting written => worker.view.drop written
  | .feeding chunk | .admitting chunk => chunk
  | _ => []

/-- The file is the beginning of a stream, and so it is with what a write loop adds. -/
structure Bounded (stream : List UInt8) (worker : StreamWorker) : Prop where
  inside : worker.file <+: stream
  transfer : worker.reader.transferring = true → worker.file ++ worker.pending <+: stream

/-- Outside of a write loop the file alone counts. -/
theorem Bounded.idle {stream : List UInt8} {worker next : StreamWorker} (bounded : worker.Bounded stream)
    (same : next.file = worker.file) (idle : next.reader.transferring = false) : next.Bounded stream where
  inside := same ▸ bounded.inside
  transfer := fun busy => by rw [idle] at busy; cases busy

/-- A change that does not touch the reader, what it has in hand or the file. -/
theorem Bounded.aside {stream : List UInt8} {worker next : StreamWorker} (bounded : worker.Bounded stream)
    (reader : next.reader = worker.reader) (view : next.view = worker.view) (file : next.file = worker.file) :
    next.Bounded stream where
  inside := file ▸ bounded.inside
  transfer := by
    have same : next.pending = worker.pending := by simp only [pending, reader, view]
    rw [reader, file, same]
    exact bounded.transfer

/-- A step keeps the file within the stream, if what it takes in hand is the next of it. -/
theorem Bounded.step {stream : List UInt8} {worker next : StreamWorker} {event : WorkerEvent}
    (h : worker.step event = some next) (bounded : worker.Bounded stream)
    (entry : ∀ chunk, worker.reader = .admitting chunk → worker.captureRevoked = false → worker.output = true →
      worker.file ++ chunk <+: stream) : next.Bounded stream := by
  cases event <;> simp only [StreamWorker.step] at h
  case openCapture opened =>
    split at h
    case h_2 => cases h
    case h_1 place =>
      cases h
      unfold openCapture
      refine bounded.idle ?_ ?_
      · split
        · split
          · rfl
          · split <;> rfl
        · rfl
      · split
        · split
          · rfl
          · split <;> rfl
        · rfl
  case test =>
    split at h
    case h_2 => cases h
    case h_1 =>
      cases h
      refine bounded.idle rfl ?_
      show (if _ then _ else _ : Reader).transferring = false
      split <;> rfl
  case read chunk =>
    split at h
    case h_2 => cases h
    case h_1 =>
      split at h
      case isFalse => cases h
      case isTrue =>
        cases h
        refine bounded.idle rfl ?_
        show (if _ then _ else _ : Reader).transferring = false
        split <;> rfl
  case accept =>
    split at h
    case h_2 => cases h
    case h_1 chunk place =>
      split at h
      case isTrue => cases h; exact bounded.idle rfl rfl
      case isFalse present =>
        rw [not_or, Bool.not_eq_false, Bool.not_eq_true] at present
        cases h
        exact ⟨bounded.inside, fun _ => entry chunk place present.2 present.1⟩
  case refuse =>
    split at h
    case h_2 => cases h
    case h_1 =>
      cases h
      refine bounded.idle rfl ?_
      show (if _ then _ else _ : Reader).transferring = false
      split <;> rfl
  case loop =>
    split at h
    case h_2 => cases h
    case h_1 place =>
      have more := bounded.transfer (by rw [place]; rfl)
      rw [pending, place] at more
      split at h
      case isTrue => cases h; exact ⟨bounded.inside, fun _ => more⟩
      case isFalse => cases h; exact bounded.idle rfl rfl
  case write written =>
    split at h
    case h_2 => cases h
    case h_1 place =>
      have more := bounded.transfer (by rw [place]; rfl)
      rw [pending, place] at more
      have taken : worker.file ++ worker.view.take written <+: stream :=
        ((List.prefix_append_right_inj _).mpr (List.take_prefix _ _)).trans more
      have left : worker.file ++ worker.view.take written ++ worker.view.drop written <+: stream := by
        rw [List.append_assoc, List.take_append_drop]
        exact more
      split at h
      case isFalse => cases h
      case isTrue => cases h; exact ⟨taken, fun _ => left⟩
  case writeFailed written =>
    split at h
    case h_2 => cases h
    case h_1 place =>
      have more := bounded.transfer (by rw [place]; rfl)
      rw [pending, place] at more
      have taken : worker.file ++ worker.view.take written <+: stream :=
        ((List.prefix_append_right_inj _).mpr (List.take_prefix _ _)).trans more
      split at h
      case isFalse => cases h
      case isTrue => cases h; exact ⟨taken, by simp [Reader.transferring]⟩
  case count =>
    split at h
    case h_2 => cases h
    case h_1 written place =>
      have more := bounded.transfer (by rw [place]; rfl)
      rw [pending, place] at more
      cases h
      exact ⟨bounded.inside, fun _ => more⟩
  case feed returned =>
    split at h
    case h_2 => cases h
    case h_1 => cases returned <;> cases h <;> exact bounded.idle rfl rfl
  case readFailed | retain | release | fail | conclude | close =>
    split at h
    case h_2 => cases h
    case h_1 => cases h; exact bounded.idle rfl rfl
  case revoke | abort | cancel => cases h; exact bounded.aside rfl rfl rfl
  case closeIdle => split at h <;> cases h <;> exact bounded.aside rfl rfl rfl

/-- What has been observed, with what of it is written, counted and kept. -/
structure Recorded (worker : StreamWorker) : Prop where
  retained : worker.buffer = diagnosticTail worker.observed
  bounded : worker.Bounded worker.observed
  counted : worker.capturePrefixBytes ≤ worker.file.length
  moved : ∀ written, worker.reader = .counting written → worker.capturePrefixBytes + written ≤ worker.file.length
  /-- Until the capture is revoked nothing is passed over. -/
  whole : worker.captureRevoked = false → worker.reader.live = true → worker.file ++ worker.pending = worker.observed
  capture : worker.output = true ∨ worker.captureRevoked = true ∨
    worker.reader = .opening ∧ worker.destination = true ∨ worker.reader = .closing
  refusal : worker.reader = .refused → worker.captureRevoked = true

/-- Revoking the capture keeps what was recorded. -/
theorem Recorded.revoked {worker next : StreamWorker} (recorded : worker.Recorded)
    (same : next.buffer = worker.buffer ∧ next.observed = worker.observed ∧ next.file = worker.file ∧
      next.capturePrefixBytes = worker.capturePrefixBytes ∧ next.reader = worker.reader ∧ next.view = worker.view)
    (revoked : next.captureRevoked = true) : next.Recorded := by
  obtain ⟨buffer, observed, file, bytes, reader, view⟩ := same
  refine ⟨?_, ?_, ?_, ?_, ?_, .inr (.inl revoked), fun _ => revoked⟩
  · rw [buffer, observed]
    exact recorded.retained
  · rw [observed]
    exact recorded.bounded.aside reader view file
  · rw [bytes, file]
    exact recorded.counted
  · rw [bytes, file, reader]
    exact recorded.moved
  · intro live
    rw [revoked] at live
    cases live

/-- The step lemma. -/
theorem Recorded.step {worker next : StreamWorker} {event : WorkerEvent} (h : worker.step event = some next)
    (recorded : worker.Recorded) : next.Recorded := by
  have entry : ∀ chunk, worker.reader = .admitting chunk → worker.captureRevoked = false → worker.output = true →
      worker.file ++ chunk <+: worker.observed := by
    intro chunk place unrevoked _
    have whole := recorded.whole unrevoked (by rw [place]; rfl)
    rw [pending, place] at whole
    exact whole ▸ List.prefix_rfl
  have bounded := recorded.bounded.step h entry
  obtain ⟨retained, inside, counted, moved, whole, capture, refusal⟩ := recorded
  have available (opened : worker.reader ≠ .opening) (live : worker.reader ≠ .closing) :
      worker.output = true ∨ worker.captureRevoked = true := by
    rcases capture with output | revoked | ⟨opening, -⟩ | closing
    · exact .inl output
    · exact .inr revoked
    · exact absurd opening opened
    · exact absurd closing live
  cases event <;> simp only [StreamWorker.step] at h
  case openCapture opened =>
    split at h
    case h_2 => cases h
    case h_1 place =>
      cases h
      unfold openCapture at bounded ⊢
      have start (unrevoked : worker.captureRevoked = false) : worker.file ++ [] = worker.observed := by
        have exact := whole unrevoked (by rw [place]; rfl)
        rwa [pending, place] at exact
      by_cases given : worker.destination = true ∧ worker.output = false
      · rw [if_pos given] at bounded ⊢
        split
        · exact ⟨retained, by simpa [*] using bounded, counted, by simp, by simp [Reader.live], .inr (.inr (.inr rfl)),
            by simp⟩
        · split
          · rename_i revoked
            exact ⟨retained, by simpa [*] using bounded, counted, by simp, fun live _ => start live,
              .inr (.inl revoked), by simp⟩
          · exact ⟨retained, by simpa [*] using bounded, counted, by simp, fun live _ => start live, .inl rfl, by simp⟩
      · rw [if_neg given] at bounded ⊢
        refine ⟨retained, bounded, counted, by simp, fun live _ => start live, ?_, by simp⟩
        rcases capture with output | revoked | ⟨-, destination⟩ | closing
        · exact .inl output
        · exact .inr (.inl revoked)
        · exact .inl (by simpa using fun absent => given ⟨destination, absent⟩)
        · rw [place] at closing
          cases closing
  case test =>
    split at h
    case h_2 => cases h
    case h_1 place =>
      have ready := available (by simp [place]) (by simp [place])
      rw [pending, place] at whole
      split at h <;> cases h
      · exact ⟨retained, bounded, counted, by simp, by simp [Reader.live], ready.imp_right .inl, by simp⟩
      · exact ⟨retained, bounded, counted, by simp, fun live _ => whole live rfl, ready.imp_right .inl, by simp⟩
  case read chunk =>
    split at h
    case h_2 => cases h
    case h_1 place =>
      have ready := available (by simp [place]) (by simp [place])
      rw [pending, place] at whole
      split at h
      case isFalse => cases h
      case isTrue =>
        split at h <;> cases h
        · exact ⟨retained, bounded, counted, by simp, by simp [Reader.live], ready.imp_right .inl, by simp⟩
        · exact ⟨retained, bounded, counted, by simp, fun live _ => whole live rfl, ready.imp_right .inl, by simp⟩
  case readFailed =>
    split at h
    case h_2 => cases h
    case h_1 =>
      cases h
      exact ⟨retained, bounded, counted, by simp, by simp [Reader.live], .inr (.inr (.inr rfl)), by simp⟩
  case retain =>
    split at h
    case h_2 => cases h
    case h_1 chunk place =>
      have ready := available (by simp [place]) (by simp [place])
      rw [pending, place] at whole
      have longer : worker.observed <+: worker.observed ++ chunk := List.prefix_append _ _
      cases h
      refine ⟨?_, ⟨bounded.inside.trans longer, by simp [Reader.transferring]⟩, counted, by simp, fun live _ => ?_,
        ready.imp_right .inl, by simp⟩
      · dsimp only
        rw [retained, diagnosticTail_append]
      · have exact := whole live rfl
        rw [List.append_nil] at exact
        show worker.file ++ chunk = worker.observed ++ chunk
        rw [exact]
  case feed returned =>
    split at h
    case h_2 => cases h
    case h_1 chunk place =>
      have ready := available (by simp [place]) (by simp [place])
      rw [pending, place] at whole
      cases returned with
      | true =>
        cases h
        exact ⟨retained, bounded, counted, by simp, fun live _ => whole live rfl, ready.imp_right .inl, by simp⟩
      | false =>
        cases h
        exact ⟨retained, bounded, counted, by simp, by simp [Reader.live], .inr (.inr (.inr rfl)), by simp⟩
  case accept =>
    split at h
    case h_2 => cases h
    case h_1 chunk place =>
      have ready := available (by simp [place]) (by simp [place])
      rw [pending, place] at whole
      split at h
      case isTrue absent =>
        have revoked : worker.captureRevoked = true := by
          rcases absent with absent | revoked
          · exact ready.resolve_left (by simp [absent])
          · exact revoked
        cases h
        exact ⟨retained, bounded, counted, by simp, by simp [Reader.live], .inr (.inl revoked), fun _ => revoked⟩
      case isFalse =>
        cases h
        exact ⟨retained, bounded, counted, by simp, fun live _ => whole live rfl, ready.imp_right .inl, by simp⟩
  case refuse =>
    split at h
    case h_2 => cases h
    case h_1 place =>
      have revoked := refusal place
      rw [if_pos revoked] at h
      cases h
      exact ⟨retained, bounded, counted, by simp, by simp [Reader.live], .inr (.inl revoked), by simp⟩
  case loop =>
    split at h
    case h_2 => cases h
    case h_1 place =>
      have ready := available (by simp [place]) (by simp [place])
      rw [pending, place] at whole
      split at h
      case isTrue =>
        cases h
        exact ⟨retained, bounded, counted, by simp, fun live _ => whole live rfl, ready.imp_right .inl, by simp⟩
      case isFalse left =>
        cases h
        refine ⟨retained, bounded, counted, by simp, fun live _ => ?_, ready.imp_right .inl, by simp⟩
        have live : worker.captureRevoked = false := live
        have empty : worker.view = [] := by simpa [live] using left
        have exact := whole live rfl
        rwa [empty] at exact
  case write written =>
    split at h
    case h_2 => cases h
    case h_1 place =>
      have ready := available (by simp [place]) (by simp [place])
      rw [pending, place] at whole
      split at h
      case isFalse => cases h
      case isTrue taken =>
        have size : (worker.file ++ worker.view.take written).length = worker.file.length + written := by
          rw [List.length_append, List.length_take, Nat.min_eq_left taken.2.1]
        cases h
        refine ⟨retained, bounded, ?_, ?_, fun live _ => ?_, ready.imp_right .inl, by simp⟩
        · show worker.capturePrefixBytes ≤ (worker.file ++ worker.view.take written).length
          omega
        · rintro _ ⟨⟩
          show worker.capturePrefixBytes + written ≤ (worker.file ++ worker.view.take written).length
          omega
        · show worker.file ++ worker.view.take written ++ worker.view.drop written = worker.observed
          rw [List.append_assoc, List.take_append_drop]
          exact whole live rfl
  case writeFailed written =>
    split at h
    case h_2 => cases h
    case h_1 place =>
      have ready := available (by simp [place]) (by simp [place])
      split at h
      case isFalse => cases h
      case isTrue =>
        cases h
        refine ⟨retained, bounded, ?_, by simp, by simp [Reader.live], ready.imp_right .inl, by simp⟩
        show worker.capturePrefixBytes ≤ (worker.file ++ worker.view.take written).length
        rw [List.length_append]
        omega
  case count =>
    split at h
    case h_2 => cases h
    case h_1 written place =>
      have ready := available (by simp [place]) (by simp [place])
      rw [pending, place] at whole
      cases h
      exact ⟨retained, bounded, moved written place, by simp, fun live _ => whole live rfl, ready.imp_right .inl,
        by simp⟩
  case release =>
    split at h
    case h_2 => cases h
    case h_1 place =>
      have ready := available (by simp [place]) (by simp [place])
      rw [pending, place] at whole
      cases h
      exact ⟨retained, bounded, counted, by simp, fun live _ => whole live rfl, ready.imp_right .inl, by simp⟩
  case fail | conclude =>
    split at h
    case h_2 => cases h
    case h_1 =>
      cases h
      exact ⟨retained, bounded, counted, by simp, by simp [Reader.live], .inr (.inr (.inr rfl)), by simp⟩
  case close =>
    split at h
    case h_2 => cases h
    case h_1 => cases h; exact ⟨retained, bounded, counted, by simp, by simp [Reader.live], .inr (.inl rfl), by simp⟩
  case revoke =>
    cases h
    exact Recorded.revoked ⟨retained, inside, counted, moved, whole, capture, refusal⟩ ⟨rfl, rfl, rfl, rfl, rfl, rfl⟩ rfl
  case abort | cancel => cases h; exact ⟨retained, bounded, counted, moved, whole, capture, refusal⟩
  case closeIdle =>
    have recorded : worker.Recorded := ⟨retained, inside, counted, moved, whole, capture, refusal⟩
    split at h <;> cases h <;> exact recorded.revoked ⟨rfl, rfl, rfl, rfl, rfl, rfl⟩ rfl

/-- A worker with somewhere to write starts recorded. -/
theorem start_recorded {destination output : Bool} (given : destination = true ∨ output = true) :
    (start destination output).Recorded where
  retained := by simp [start, diagnosticTail]
  bounded := ⟨List.nil_prefix, nofun⟩
  counted := Nat.le_refl _
  moved := nofun
  whole := fun _ _ => rfl
  capture := by
    rcases given with given | given
    · exact .inr (.inr (.inl ⟨rfl, given⟩))
    · exact .inl given
  refusal := nofun

/-- A step takes nothing back. -/
theorem step_grows {worker next : StreamWorker} {event : WorkerEvent} (h : worker.step event = some next) :
    worker.file <+: next.file ∧ worker.observed <+: next.observed ∧
      (worker.captureRevoked = true → next.captureRevoked = true) := by
  cases event <;> simp only [StreamWorker.step] at h
  case openCapture opened =>
    split at h
    case h_2 => cases h
    case h_1 =>
      cases h
      unfold openCapture
      split
      · split
        · exact ⟨List.prefix_rfl, List.prefix_rfl, id⟩
        · split <;> exact ⟨List.prefix_rfl, List.prefix_rfl, id⟩
      · exact ⟨List.prefix_rfl, List.prefix_rfl, id⟩
  case retain =>
    split at h
    case h_2 => cases h
    case h_1 => cases h; exact ⟨List.prefix_rfl, List.prefix_append _ _, id⟩
  case write | writeFailed =>
    split at h
    case h_2 => cases h
    case h_1 =>
      split at h
      case isFalse => cases h
      case isTrue => cases h; exact ⟨List.prefix_append _ _, List.prefix_rfl, id⟩
  case read | accept =>
    split at h
    case h_2 => cases h
    case h_1 => split at h <;> cases h <;> exact ⟨List.prefix_rfl, List.prefix_rfl, id⟩
  case feed returned =>
    split at h
    case h_2 => cases h
    case h_1 => cases returned <;> cases h <;> exact ⟨List.prefix_rfl, List.prefix_rfl, id⟩
  case test | readFailed | refuse | loop | count | release | fail | conclude =>
    split at h
    case h_2 => cases h
    case h_1 => cases h; exact ⟨List.prefix_rfl, List.prefix_rfl, id⟩
  case close =>
    split at h
    case h_2 => cases h
    case h_1 => cases h; exact ⟨List.prefix_rfl, List.prefix_rfl, fun _ => rfl⟩
  case revoke => cases h; exact ⟨List.prefix_rfl, List.prefix_rfl, fun _ => rfl⟩
  case abort | cancel => cases h; exact ⟨List.prefix_rfl, List.prefix_rfl, id⟩
  case closeIdle => split at h <;> cases h <;> exact ⟨List.prefix_rfl, List.prefix_rfl, fun _ => rfl⟩

/-- File and observed bytes only grow in a run. -/
theorem run_grows {worker later : StreamWorker} {events : List WorkerEvent} (h : run step worker events = some later) :
    worker.file <+: later.file ∧ worker.observed <+: later.observed := by
  apply run_relation (R := fun first last => first.file <+: last.file ∧ first.observed <+: last.observed) _ _ _ h
  · exact fun _ => ⟨List.prefix_rfl, List.prefix_rfl⟩
  · intro first second third before after
    exact ⟨before.1.trans after.1, before.2.trans after.2⟩
  · intro first next event single
    exact ⟨(step_grows single).1, (step_grows single).2.1⟩

/-- What is written after the revocation was observed before it. -/
theorem Recorded.late {worker later : StreamWorker} {events : List WorkerEvent} (recorded : worker.Recorded)
    (revoked : worker.captureRevoked = true) (h : run StreamWorker.step worker events = some later) :
    later.file <+: worker.observed := by
  have kept : later.captureRevoked = true ∧ later.Bounded worker.observed := by
    apply run_invariant' (P := fun late => late.captureRevoked = true ∧ late.Bounded worker.observed) _ h
    · exact ⟨revoked, recorded.bounded⟩
    · intro late next event single held
      refine ⟨(step_grows single).2.2 held.1, held.2.step single fun chunk _ unrevoked => ?_⟩
      rw [held.1] at unrevoked
      cases unrevoked
  exact kept.2.inside

/-! ## The result of a capture -/

/-- What a reading of a capture depends on besides the worker. -/
structure CaptureProbe where
  /-- Whether the worker has no sink, or its sink has stopped. -/
  sinkStopped : Bool
  /-- Whether the size of the capture file can be read. -/
  readable : Bool

/-- `capture_stable`. -/
def captureStable (worker : StreamWorker) (probe : CaptureProbe) : Bool :=
  decide (worker.reader = .stopped) ||
    (worker.captureRevoked && !worker.captureOperationActive && probe.sinkStopped)

/-- `durable_prefix_bytes`. -/
def durablePrefix (worker : StreamWorker) (probe : CaptureProbe) : Nat :=
  worker.durablePrefixBytes (worker.captureStable probe && probe.readable)

/-- `_capture_complete`. -/
def captureComplete (worker : StreamWorker) (probe : CaptureProbe) (drainTruncated : Bool) : Bool :=
  worker.captureStable probe && !worker.error && !worker.captureFailed && !drainTruncated &&
    worker.durablePrefix probe == worker.observed.length

end StreamWorker

/-- A worker at the times at which its capture is read: the snapshot, the size of the
durable prefix, whether the capture is complete and, in the end, whether it is stable. -/
structure CaptureReadings where
  snapshot : StreamWorker
  measured : StreamWorker × StreamWorker.CaptureProbe
  judged : StreamWorker × StreamWorker.CaptureProbe
  last : StreamWorker × StreamWorker.CaptureProbe

/-- `_capture_result`. The recovery snapshot is never stable. -/
def captureResult (readings : Option CaptureReadings) (source : Option CapturePath) (drainTruncated : Bool) :
    CaptureResult :=
  match readings with
  | none => ⟨source, false, false, 0, 0, []⟩
  | some readings =>
    let prefixBytes := readings.measured.1.durablePrefix readings.measured.2
    let observed := readings.snapshot.observed
    if readings.judged.1.captureComplete readings.judged.2 drainTruncated then
      ⟨source, true, true, prefixBytes, observed.length, readings.snapshot.buffer⟩
    else
      ⟨source, false, readings.last.1.captureStable readings.last.2, prefixBytes, observed.length,
        readings.snapshot.buffer⟩

/-- One worker is a later state of another. -/
def Later (worker later : StreamWorker) : Prop := ∃ events, run StreamWorker.step worker events = some later

theorem Later.trans {first second third : StreamWorker} (before : Later first second) (after : Later second third) :
    Later first third := by
  obtain ⟨some, ran⟩ := before
  obtain ⟨more, goes⟩ := after
  exact ⟨some ++ more, by rw [run_append, ran]; exact goes⟩

/-- The readings are taken one after the other, from a worker with a capture that has
been revoked or closed by then. -/
structure CaptureReadings.Taken (readings : CaptureReadings) : Prop where
  started : ∃ destination output, (destination = true ∨ output = true) ∧
    Later (StreamWorker.start destination output) readings.snapshot
  revoked : readings.snapshot.captureRevoked = true
  measured : Later readings.snapshot readings.measured.1
  judged : Later readings.measured.1 readings.judged.1
  last : Later readings.judged.1 readings.last.1

/-- Whenever the publication looks at the capture, the worker that writes it has gone on. -/
structure CaptureReadings.Writes (readings : CaptureReadings) (calls : PublicationCalls) (name : String)
    (s : Publishing) : Prop where
  entry : ∀ content, s.directory name = some (.file content) →
    ∃ later, Later readings.last.1 later ∧ later.file = content
  captured : ∀ n, ∃ later, Later readings.last.1 later ∧ later.file = calls.captured name n

section Captured

variable {readings : CaptureReadings} {calls : PublicationCalls} {root : String} {source : CapturePath}
  {drainTruncated : Bool} {s : Publishing}

theorem CaptureReadings.Taken.recorded (taken : readings.Taken) : readings.snapshot.Recorded := by
  obtain ⟨destination, output, given, events, ran⟩ := taken.started
  exact run_invariant' StreamWorker.Recorded.step ran (StreamWorker.start_recorded given)

/-- A complete capture is all that was observed. -/
theorem captureComplete_whole {worker : StreamWorker} (recorded : worker.Recorded) {probe : StreamWorker.CaptureProbe}
    (complete : worker.captureComplete probe drainTruncated = true) : worker.file = worker.observed := by
  simp only [StreamWorker.captureComplete, Bool.and_eq_true, beq_iff_eq] at complete
  have claimed := complete.2
  have durable := (StreamWorker.durablePrefixBytes_between (worker.captureStable probe && probe.readable)
    recorded.counted).2
  rw [StreamWorker.durablePrefix] at claimed
  have within := recorded.bounded.inside.length_le
  exact recorded.bounded.inside.eq_of_length (by omega)

/-- What `_capture_result` reports describes what was observed, whatever the worker still does. -/
theorem captureResult_describes (taken : readings.Taken) (writes : readings.Writes calls source.name s) :
    (captureResult (some readings) (some source) drainTruncated).Describes calls root readings.snapshot.observed s := by
  have recorded := taken.recorded
  have reached := (taken.measured.trans taken.judged)
  have late {later : StreamWorker} (after : Later readings.last.1 later) :
      later.file <+: readings.snapshot.observed := by
    obtain ⟨events, ran⟩ := (reached.trans taken.last).trans after
    exact recorded.late taken.revoked ran
  have observes : (captureResult (some readings) (some source) drainTruncated).Observes readings.snapshot.observed := by
    simp only [captureResult]
    split <;> exact ⟨rfl, recorded.retained⟩
  have owner : (captureResult (some readings) (some source) drainTruncated).source = some source := by
    simp only [captureResult]
    split <;> rfl
  refine ⟨observes, ?_, ?_, ?_⟩
  · intro other content own staged present
    cases owner.symm.trans own
    obtain ⟨later, after, rfl⟩ := writes.entry content present
    exact late after
  · intro other content own staged complete present
    cases owner.symm.trans own
    obtain ⟨later, after, rfl⟩ := writes.entry content present
    have judged : readings.judged.1.captureComplete readings.judged.2 drainTruncated = true := by
      by_contra incomplete
      simp only [captureResult, if_neg incomplete] at complete
      cases complete
    -- the file was all of it when it was judged, and has not shrunk
    obtain ⟨events, ran⟩ := reached
    have all := captureComplete_whole (run_invariant' StreamWorker.Recorded.step ran recorded) judged
    have grown := (StreamWorker.run_grows ran).2
    obtain ⟨more, goes⟩ := taken.last.trans after
    have kept := (StreamWorker.run_grows goes).1
    rw [all] at kept
    exact (late after).eq_of_length_le (grown.trans kept).length_le
  · intro other own n
    cases owner.symm.trans own
    obtain ⟨later, after, same⟩ := writes.captured n
    exact same ▸ late after

/-- A worker that has stopped, after chunks that all fitted the tail, and its file. -/
structure CaptureReadings.Kept (readings : CaptureReadings) (name : String) (s : Publishing) : Prop where
  fits : ∃ destination output events, (destination = true ∨ output = true) ∧
    run StreamWorker.step (StreamWorker.start destination output) events = some readings.snapshot ∧
      Along StreamWorker.step StreamWorker.Fits (StreamWorker.start destination output) events
  stopped : readings.snapshot.reader = .stopped
  last : readings.last.1.reader = .stopped
  held : s.directory name = some (.file readings.snapshot.file)

/-- When the worker has stopped and all it read fitted the tail, nothing is lost. -/
theorem captureResult_recoverable (kept : readings.Kept source.name s) :
    (captureResult (some readings) (some source) drainTruncated).Recoverable readings.snapshot.observed s := by
  obtain ⟨⟨destination, output, events, given, ran, fits⟩, stopped, last, held⟩ := kept
  have tracked := run_invariant_along (fun fits => StreamWorker.Tracked.step fits) fits ran
    (StreamWorker.start_tracked given)
  have accounted := tracked.accounted
  rw [StreamWorker.Accounted, stopped] at accounted
  obtain ⟨inside, counted, missing⟩ : readings.snapshot.Covered := accounted
  have size : readings.snapshot.buffer.length = min readings.snapshot.observed.length diagnosticTailBytes := by
    rw [tracked.retained, diagnosticTail, List.length_drop]
    omega
  have covers : readings.snapshot.observed.length ≤ readings.snapshot.file.length + readings.snapshot.buffer.length := by
    rw [size]
    unfold diagnosticTailBytes
    omega
  simp only [captureResult]
  split
  · exact ⟨source, _, rfl, held, .inl rfl⟩
  · refine ⟨source, _, rfl, held, .inr ⟨?_, covers⟩⟩
    simp [StreamWorker.captureStable, last]

end Captured

section Output

variable {calls : PublicationCalls} {root stdoutFallback stderrFallback : String} {stdout stderr : CaptureReadings}
  {stdoutSource stderrSource : CapturePath} {drainTruncated : Bool} {s t : Publishing}

theorem captureResult_source (readings : CaptureReadings) (source : CapturePath) :
    (captureResult (some readings) (some source) drainTruncated).source = some source := by
  simp only [captureResult]
  split <;> rfl

/-- The two streams are captured in different files. -/
theorem captureResult_separate (separate : stdoutSource.name ≠ stderrSource.name) :
    SeparateCaptures (captureResult (some stdout) (some stdoutSource) drainTruncated)
      (captureResult (some stderr) (some stderrSource) drainTruncated) := by
  intro first second own other
  cases (captureResult_source stdout stdoutSource).symm.trans own
  cases (captureResult_source stderr stderrSource).symm.trans other
  exact separate

/-- **Captured output.** Whatever the order of the workers' steps and of the
publication, a destination holds what was observed of its stream or the fallback. -/
theorem captured_output_published (stdoutTaken : stdout.Taken) (stderrTaken : stderr.Taken)
    (stdoutWrites : stdout.Writes calls stdoutSource.name s) (stderrWrites : stderr.Writes calls stderrSource.name s)
    (separate : stdoutSource.name ≠ stderrSource.name) {publication : ProcessOutputPublication}
    (h : publishProcessOutput calls root (captureResult (some stdout) (some stdoutSource) drainTruncated)
      (captureResult (some stderr) (some stderrSource) drainTruncated) stdoutFallback stderrFallback s =
        (.ok publication, t)) :
    HoldsOutput stdout.snapshot.observed stdoutFallback (t.directory eventsArtifact) ∧
      HoldsOutput stderr.snapshot.observed stderrFallback (t.directory stderrArtifact) :=
  (publishProcessOutput_published (captureResult_describes stdoutTaken stdoutWrites)
    (captureResult_describes stderrTaken stderrWrites) (captureResult_separate separate) h).1 ⟨publication, rfl⟩

/-- **Nothing is lost.** Of workers that have stopped, after chunks that fitted the tail,
all that was observed is published where the system lets it. -/
theorem captured_output_exact (stdoutTaken : stdout.Taken) (stderrTaken : stderr.Taken)
    (stdoutWrites : stdout.Writes calls stdoutSource.name s) (stderrWrites : stderr.Writes calls stderrSource.name s)
    (separate : stdoutSource.name ≠ stderrSource.name) (stdoutKept : stdout.Kept stdoutSource.name s)
    (stderrKept : stderr.Kept stderrSource.name s) (working : calls.Working)
    (stdoutReady : (captureResult (some stdout) (some stdoutSource) drainTruncated).Ready root eventsArtifact s)
    (stderrReady : (captureResult (some stderr) (some stderrSource) drainTruncated).Ready root stderrArtifact s) :
    ∃ publication t,
      publishProcessOutput calls root (captureResult (some stdout) (some stdoutSource) drainTruncated)
          (captureResult (some stderr) (some stderrSource) drainTruncated) stdoutFallback stderrFallback s =
        (.ok publication, t) ∧
      t.directory eventsArtifact = some (.file stdout.snapshot.observed) ∧
      t.directory stderrArtifact = some (.file stderr.snapshot.observed) := by
  rcases h : publishProcessOutput calls root (captureResult (some stdout) (some stdoutSource) drainTruncated)
    (captureResult (some stderr) (some stderrSource) drainTruncated) stdoutFallback stderrFallback s with ⟨outcome, t⟩
  obtain ⟨⟨publication, rfl⟩, first, second⟩ :=
    publishProcessOutput_returns (captureResult_describes stdoutTaken stdoutWrites)
      (captureResult_describes stderrTaken stderrWrites) (captureResult_separate separate) working stdoutReady
      stderrReady h
  exact ⟨publication, t, rfl, first (captureResult_recoverable stdoutKept),
    second (captureResult_recoverable stderrKept)⟩

end Output

/-- A worker that has observed three bytes and written none. -/
def exampleReadings : CaptureReadings where
  snapshot := StreamWorker.cancelledInTime [1, 2, 3]
  measured := (StreamWorker.cancelledInTime [1, 2, 3], ⟨true, true⟩)
  judged := (StreamWorker.cancelledInTime [1, 2, 3], ⟨true, true⟩)
  last := (StreamWorker.cancelledInTime [1, 2, 3], ⟨true, true⟩)

def exampleStdout : CapturePath := ⟨"/attempt", ".codex-events-1.capture"⟩

def exampleStderr : CapturePath := ⟨"/attempt", ".codex-stderr-1.capture"⟩

def exampleCaptured : Publishing where
  directory := Function.update (Function.update (fun _ => none) exampleStdout.name (some (.file [])))
    exampleStderr.name (some (.file []))
  made := 0

theorem exampleReadings_taken : exampleReadings.Taken := by
  have sized : [1, 2, 3].length ≤ readSize := by simp [readSize]
  obtain ⟨ran, -⟩ := StreamWorker.timelyCancellation_run (List.cons_ne_nil 1 [2, 3]) sized
  exact ⟨⟨true, false, .inl rfl, _, ran⟩, rfl, ⟨[], rfl⟩, ⟨[], rfl⟩, ⟨[], rfl⟩⟩

theorem exampleReadings_kept {name : String} {s : Publishing} (held : s.directory name = some (.file [])) :
    exampleReadings.Kept name s := by
  have sized : [1, 2, 3].length ≤ readSize := by simp [readSize]
  obtain ⟨ran, along⟩ := StreamWorker.timelyCancellation_run (List.cons_ne_nil 1 [2, 3]) sized
  exact ⟨⟨true, false, _, .inl rfl, ran, along⟩, rfl, rfl, held⟩

theorem exampleReadings_writes {name : String} {s : Publishing} (held : s.directory name = some (.file [])) :
    exampleReadings.Writes exampleCalls name s := by
  refine ⟨fun content present => ?_, fun n => ⟨_, ⟨[], rfl⟩, rfl⟩⟩
  cases held.symm.trans present
  exact ⟨_, ⟨[], rfl⟩, rfl⟩

theorem exampleCaptured_held :
    exampleCaptured.directory exampleStdout.name = some (.file []) ∧
      exampleCaptured.directory exampleStderr.name = some (.file []) := by
  simp [exampleCaptured, exampleStdout, exampleStderr]

theorem exampleCaptured_ready {source : CapturePath} {destination : String} (staged : source.Staged "/attempt")
    (held : exampleCaptured.directory source.name = some (.file []))
    (free : exampleCaptured.directory destination = none) :
    (captureResult (some exampleReadings) (some source) false).Ready "/attempt" destination exampleCaptured := by
  refine ⟨?_, by simp [free], ?_, ?_⟩
  · intro name temporary
    have stdout : name ≠ exampleStdout.name := by
      rintro rfl
      revert temporary
      decide
    have stderr : name ≠ exampleStderr.name := by
      rintro rfl
      revert temporary
      decide
    simp [exampleCaptured, stdout, stderr]
  · intro other own
    cases (captureResult_source exampleReadings source).symm.trans own
    exact staged
  · intro other own
    cases (captureResult_source exampleReadings source).symm.trans own
    exact .inr ⟨_, held⟩

theorem captured_output_exact_example :
    ∃ publication t,
      publishProcessOutput exampleCalls "/attempt" (captureResult (some exampleReadings) (some exampleStdout) false)
          (captureResult (some exampleReadings) (some exampleStderr) false) "" "" exampleCaptured =
        (.ok publication, t) ∧
      t.directory eventsArtifact = some (.file [1, 2, 3]) ∧ t.directory stderrArtifact = some (.file [1, 2, 3]) := by
  obtain ⟨first, second⟩ := exampleCaptured_held
  exact captured_output_exact exampleReadings_taken exampleReadings_taken (exampleReadings_writes first)
    (exampleReadings_writes second) (by decide) (exampleReadings_kept first) (exampleReadings_kept second)
    exampleCalls_working (exampleCaptured_ready (by decide) first (by decide))
    (exampleCaptured_ready (by decide) second (by decide))

/-- The publication of the two captures returns, and each file holds what was observed. -/
theorem captured_output_published_example :
    ∃ publication t,
      publishProcessOutput exampleCalls "/attempt" (captureResult (some exampleReadings) (some exampleStdout) false)
          (captureResult (some exampleReadings) (some exampleStderr) false) "" "" exampleCaptured =
        (.ok publication, t) ∧
      HoldsOutput [1, 2, 3] "" (t.directory eventsArtifact) ∧
      HoldsOutput [1, 2, 3] "" (t.directory stderrArtifact) := by
  obtain ⟨first, second⟩ := exampleCaptured_held
  rcases h : publishProcessOutput exampleCalls "/attempt"
    (captureResult (some exampleReadings) (some exampleStdout) false)
    (captureResult (some exampleReadings) (some exampleStderr) false) "" "" exampleCaptured with ⟨outcome, t⟩
  obtain ⟨⟨publication, rfl⟩, -⟩ := publishProcessOutput_returns
    (captureResult_describes exampleReadings_taken (exampleReadings_writes first))
    (captureResult_describes exampleReadings_taken (exampleReadings_writes second))
    (captureResult_separate (by decide)) exampleCalls_working (exampleCaptured_ready (by decide) first (by decide))
    (exampleCaptured_ready (by decide) second (by decide)) h
  exact ⟨publication, t, rfl, captured_output_published exampleReadings_taken exampleReadings_taken
    (exampleReadings_writes first) (exampleReadings_writes second) (by decide) h⟩

end SprintTicket
