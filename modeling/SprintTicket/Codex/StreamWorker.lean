import Mathlib.Data.List.TakeDrop
import SprintTicket.Logic.Transition

/-!
# Capturing one output stream

A `_StreamWorker` reads a stream, keeps the last bytes of it and writes each
chunk to a capture file before it reads the next. The cleanup thread may revoke
the capture, abort its sink, cancel the reader and close an idle capture between
any two steps. `tail_covers_gap_iff` says when the retained tail is good for what
it is kept for: that a worker that has stopped holds in it what the capture misses.

One step is one access to shared state, one call of the stream, or one call of
the sink. A sink that returns None has taken all it was given.
-/

set_option autoImplicit false

namespace SprintTicket

open Transition

/-- `_READ_SIZE`. -/
def readSize : Nat := 64 * 1024

/-- `_DIAGNOSTIC_TAIL_BYTES`. -/
def diagnosticTailBytes : Nat := readSize

/-- The last bytes of a stream, as many as are retained. -/
def diagnosticTail (bytes : List UInt8) : List UInt8 := bytes.drop (bytes.length - diagnosticTailBytes)

/-- Where `_run` stands; the comment names the step ahead. -/
inductive Reader
  | opening                            -- `_open_capture`
  | testing                            -- `while not cancel_requested`
  | reading                            -- `_read`
  | retaining (chunk : List UInt8)     -- the counter and the buffer
  | feeding (chunk : List UInt8)       -- the observer
  | admitting (chunk : List UInt8)     -- the output, under the lock
  | refused                            -- there is no output: `break` or `continue`
  | looping                            -- `while view and not capture_revoked`
  | writing                            -- `output.write(view)`
  | counting (written : Nat)           -- `capture_prefix_bytes`
  | releasing                          -- the end of the operation
  | failing                            -- the same, after an exception
  | concluding                         -- the final call of the observer
  | closing                            -- the outer `finally`
  | stopped
deriving DecidableEq

/-- The state of a worker, its chunk in hand and its capture file. -/
structure StreamWorker where
  reader : Reader
  view : List UInt8
  observed : List UInt8
  buffer : List UInt8
  capturePrefixBytes : Nat
  /-- Whether there is a destination to open. -/
  destination : Bool
  /-- Whether `output` is not None. -/
  output : Bool
  sinkAborted : Bool
  captureRevoked : Bool
  cancelRequested : Bool
  captureOperationActive : Bool
  captureFailed : Bool
  error : Bool
  file : List UInt8

/-- A worker before its thread starts. -/
def StreamWorker.start (destination output : Bool) : StreamWorker where
  reader := .opening
  view := []
  observed := []
  buffer := []
  capturePrefixBytes := 0
  destination
  output
  sinkAborted := false
  captureRevoked := false
  cancelRequested := false
  captureOperationActive := false
  captureFailed := false
  error := false
  file := []

/-- The steps of the reader, with the outcomes of what it calls, and those of the
cleanup thread. -/
inductive WorkerEvent
  | openCapture (opened : Bool)
  | test
  | read (chunk : List UInt8)
  | readFailed
  | retain
  | feed (returned : Bool)
  | accept
  | refuse
  | loop
  | write (written : Nat)
  | writeFailed (written : Nat)
  | count
  | release
  | fail
  | conclude (returned : Bool)
  | close (closed : Bool)
  | revoke
  | abort
  | cancel
  | closeIdle (closed : Bool)

namespace StreamWorker

/-- The opening of the capture, unless the worker was given one. `opened` says
whether the opening returned and, after a revocation, the closing. -/
def openCapture (worker : StreamWorker) (opened : Bool) : StreamWorker :=
  if worker.destination = true ∧ worker.output = false then
    if opened = false then { worker with reader := .closing, error := true }
    else if worker.captureRevoked then { worker with reader := .testing }
    else { worker with reader := .testing, output := true }
  else { worker with reader := .testing }

/-- One step of the reader or of the cleanup thread. -/
def step (worker : StreamWorker) : WorkerEvent → Option StreamWorker
  | .openCapture opened =>
    match worker.reader with
    | .opening => some (worker.openCapture opened)
    | _ => none
  | .test =>
    match worker.reader with
    | .testing => some { worker with reader := if worker.cancelRequested then .concluding else .reading }
    | _ => none
  | .read chunk =>
    match worker.reader with
    | .reading =>
      if chunk.length ≤ readSize then
        some { worker with reader := if chunk = [] then .concluding else .retaining chunk }
      else none
    | _ => none
  | .readFailed =>
    match worker.reader with
    | .reading => some { worker with reader := .closing, error := true }
    | _ => none
  | .retain =>
    match worker.reader with
    | .retaining chunk =>
      some
        { worker with
          reader := .feeding chunk
          observed := worker.observed ++ chunk
          buffer := diagnosticTail (worker.buffer ++ chunk) }
    | _ => none
  | .feed returned =>
    match worker.reader with
    | .feeding chunk =>
      some (if returned then { worker with reader := .admitting chunk }
        else { worker with reader := .closing, error := true })
    | _ => none
  | .accept =>
    match worker.reader with
    | .admitting chunk =>
      some (if worker.output = false ∨ worker.captureRevoked = true then { worker with reader := .refused }
        else { worker with reader := .looping, view := chunk, captureOperationActive := true })
    | _ => none
  | .refuse =>
    match worker.reader with
    | .refused => some { worker with reader := if worker.captureRevoked then .concluding else .testing }
    | _ => none
  | .loop =>
    match worker.reader with
    | .looping =>
      some { worker with reader := if worker.view ≠ [] ∧ worker.captureRevoked = false then .writing else .releasing }
    | _ => none
  | .write written =>
    match worker.reader with
    | .writing =>
      if 0 < written ∧ written ≤ worker.view.length ∧ worker.sinkAborted = false then
        some { worker with reader := .counting written, file := worker.file ++ worker.view.take written }
      else none
    | _ => none
  | .writeFailed written =>
    match worker.reader with
    | .writing =>
      if written ≤ worker.view.length ∧ (worker.sinkAborted = true → written = 0) then
        some { worker with reader := .failing, file := worker.file ++ worker.view.take written }
      else none
    | _ => none
  | .count =>
    match worker.reader with
    | .counting written =>
      some
        { worker with
          reader := .looping
          capturePrefixBytes := worker.capturePrefixBytes + written
          view := worker.view.drop written }
    | _ => none
  | .release =>
    match worker.reader with
    | .releasing => some { worker with reader := .testing, captureOperationActive := false }
    | _ => none
  | .fail =>
    match worker.reader with
    | .failing =>
      some { worker with reader := .closing, captureOperationActive := false, captureFailed := true, error := true }
    | _ => none
  | .conclude returned =>
    match worker.reader with
    | .concluding => some { worker with reader := .closing, error := worker.error || !returned }
    | _ => none
  | .close closed =>
    match worker.reader with
    | .closing =>
      some
        { worker with
          reader := .stopped
          captureRevoked := true
          captureOperationActive := true
          output := false
          captureFailed := worker.captureFailed || !closed
          error := worker.error || !closed }
    | _ => none
  | .revoke => some { worker with captureRevoked := true }
  | .abort => some { worker with sinkAborted := true }
  | .cancel => some { worker with cancelRequested := true }
  | .closeIdle closed =>
    if worker.output = true ∧ worker.captureOperationActive = false then
      some
        { worker with
          captureRevoked := true
          output := false
          captureFailed := worker.captureFailed || !closed
          error := worker.error || !closed }
    else some { worker with captureRevoked := true }

/-- `durable_prefix_bytes` of a worker that has stopped: the size of the capture
file, or the counter where there is none or its size cannot be read. -/
def durablePrefixBytes (worker : StreamWorker) (readable : Bool) : Nat :=
  if worker.destination && readable then worker.file.length else worker.capturePrefixBytes

/-- The tail of the bytes can be kept chunk by chunk. -/
theorem diagnosticTail_append (bytes chunk : List UInt8) :
    diagnosticTail (diagnosticTail bytes ++ chunk) = diagnosticTail (bytes ++ chunk) := by
  unfold diagnosticTail
  have inside : bytes.length - diagnosticTailBytes ≤ bytes.length := Nat.sub_le _ _
  have position : bytes.length - diagnosticTailBytes +
      ((bytes ++ chunk).length - (bytes.length - diagnosticTailBytes) - diagnosticTailBytes) =
      (bytes ++ chunk).length - diagnosticTailBytes := by
    rw [List.length_append]
    omega
  rw [← List.drop_append_of_le_length inside, List.drop_drop, List.length_drop, position]

/-- What lies past a position within the last `diagnosticTailBytes` is retained. -/
theorem drop_suffix_diagnosticTail {bytes : List UInt8} {position : Nat}
    (late : bytes.length ≤ position + diagnosticTailBytes) : bytes.drop position <:+ diagnosticTail bytes := by
  have start : bytes.length - diagnosticTailBytes +
      (position - (bytes.length - diagnosticTailBytes)) = position := by omega
  have split : bytes.drop position =
      (diagnosticTail bytes).drop (position - (bytes.length - diagnosticTailBytes)) := by
    rw [diagnosticTail, List.drop_drop, start]
  rw [split]
  exact List.drop_suffix _ _

/-- All that is observed and not yet written is `rest`, and all that is written is counted. -/
def Unwritten (worker : StreamWorker) (rest : List UInt8) : Prop :=
  worker.observed = worker.file ++ rest ∧ worker.capturePrefixBytes = worker.file.length ∧
    rest.length ≤ readSize

/-- The file is a prefix of the stream, and what the counter misses is at most one read. -/
def Covered (worker : StreamWorker) : Prop :=
  worker.file <+: worker.observed ∧ worker.capturePrefixBytes ≤ worker.file.length ∧
    worker.observed.length ≤ worker.capturePrefixBytes + readSize

/-- What is not yet written is still in the tail. -/
theorem Unwritten.covered {worker : StreamWorker} {rest : List UInt8} (unwritten : worker.Unwritten rest) :
    worker.Covered := by
  obtain ⟨observed, counted, small⟩ := unwritten
  refine ⟨⟨rest, observed.symm⟩, Nat.le_of_eq counted, ?_⟩
  rw [observed, List.length_append, counted]
  omega

/-- What is observed, written and counted, by the place of the reader. -/
def Accounted (worker : StreamWorker) : Prop :=
  match worker.reader with
  | .opening | .testing | .reading | .looping | .writing | .releasing => worker.Unwritten worker.view
  | .retaining chunk => worker.Unwritten worker.view ∧ (worker.view ++ chunk).length ≤ readSize
  | .feeding chunk | .admitting chunk => worker.Unwritten (worker.view ++ chunk)
  | .counting written =>
    written ≤ worker.view.length ∧ worker.view.length ≤ readSize ∧
      worker.observed = worker.file ++ worker.view.drop written ∧
      worker.capturePrefixBytes + written = worker.file.length
  | .refused | .failing | .concluding | .closing | .stopped => worker.Covered

end StreamWorker

/-- The places before, between and after the write loops. -/
def Reader.settled : Reader → Bool
  | .opening | .testing | .reading | .retaining _ | .feeding _ | .admitting _ | .releasing => true
  | _ => false

namespace StreamWorker

/-- The invariant of a worker that has a capture. -/
structure Tracked (worker : StreamWorker) : Prop where
  retained : worker.buffer = diagnosticTail worker.observed
  accounted : worker.Accounted
  /-- A write loop ends with its chunk written, or by a revocation. -/
  written : worker.reader.settled = true → worker.view = [] ∨ worker.captureRevoked = true
  capture : worker.output = true ∨ worker.captureRevoked = true ∨
    worker.reader = .opening ∧ worker.destination = true ∨ worker.reader = .closing
  refusal : worker.reader = .refused → worker.captureRevoked = true

/-- A chunk is read only when it fits the tail with what the write loop of the
chunk before it has left. -/
def Fits (worker : StreamWorker) (event : WorkerEvent) : Prop :=
  ∀ chunk, event = .read chunk → worker.view.length + chunk.length ≤ readSize

theorem start_tracked {destination output : Bool} (given : destination = true ∨ output = true) :
    (start destination output).Tracked where
  retained := by simp [start, diagnosticTail]
  accounted := by simp [Accounted, Unwritten, start]
  written := by simp [start]
  capture := by
    rcases given with given | given
    · exact .inr (.inr (.inl ⟨rfl, given⟩))
    · exact .inl given
  refusal := by simp [start]

/-- What the invariant says of a worker that may not have a capture any more. -/
theorem Tracked.revoked {worker : StreamWorker} (tracked : worker.Tracked) :
    { worker with captureRevoked := true }.Tracked :=
  { tracked with
    accounted := tracked.accounted
    written := fun _ => .inr rfl
    capture := .inr (.inl rfl)
    refusal := fun _ => rfl }

/-- The opening of the capture. -/
theorem Tracked.openCapture {worker : StreamWorker} {opened : Bool} (tracked : worker.Tracked)
    (place : worker.reader = .opening) : (worker.openCapture opened).Tracked := by
  have accounted := tracked.accounted
  rw [Accounted, place] at accounted
  have written := tracked.written (by rw [place]; rfl)
  unfold StreamWorker.openCapture
  split
  case isTrue pending =>
    split
    · exact ⟨tracked.retained, accounted.covered, nofun, .inr (.inr (.inr rfl)), nofun⟩
    · split
      case isTrue revoked => exact ⟨tracked.retained, accounted, fun _ => written, .inr (.inl revoked), nofun⟩
      case isFalse => exact ⟨tracked.retained, accounted, fun _ => written, .inl rfl, nofun⟩
  case isFalse ready =>
    refine ⟨tracked.retained, accounted, fun _ => written, ?_, nofun⟩
    rcases tracked.capture with output | revoked | ⟨-, destination⟩ | closing
    · exact .inl output
    · exact .inr (.inl revoked)
    · exact .inl (by simpa [destination] using ready)
    · rw [place] at closing
      cases closing

/-- Between the opening and the end there is a capture, or it has been revoked. -/
theorem Tracked.available {worker : StreamWorker} (tracked : worker.Tracked)
    (opened : worker.reader ≠ .opening) (live : worker.reader ≠ .closing) :
    worker.output = true ∨ worker.captureRevoked = true := by
  rcases tracked.capture with output | revoked | ⟨opening, -⟩ | closing
  · exact .inl output
  · exact .inr revoked
  · exact absurd opening opened
  · exact absurd closing live

/-- A step keeps the invariant, if what it reads fits the tail. -/
theorem Tracked.step {worker next : StreamWorker} {event : WorkerEvent} (fits : worker.Fits event)
    (h : worker.step event = some next) (tracked : worker.Tracked) : next.Tracked := by
  have accounted := tracked.accounted
  have available := tracked.available
  unfold Accounted at accounted
  cases event <;> simp only [StreamWorker.step] at h
  case openCapture =>
    split at h
    case h_1 place => cases h; exact tracked.openCapture place
    case h_2 => cases h
  case test =>
    split at h
    case h_2 => cases h
    case h_1 place =>
      rw [place] at accounted
      have ready := available (by simp [place]) (by simp [place])
      by_cases cancelled : worker.cancelRequested = true
      · rw [if_pos cancelled] at h
        cases h
        exact ⟨tracked.retained, accounted.covered, nofun, ready.imp_right .inl, nofun⟩
      · rw [if_neg cancelled] at h
        cases h
        exact ⟨tracked.retained, accounted, fun _ => tracked.written (by rw [place]; rfl),
          ready.imp_right .inl, nofun⟩
  case read chunk =>
    split at h
    case h_2 => cases h
    case h_1 place =>
      rw [place] at accounted
      have ready := available (by simp [place]) (by simp [place])
      split at h
      case isFalse => cases h
      case isTrue =>
        by_cases ended : chunk = []
        · rw [if_pos ended] at h
          cases h
          exact ⟨tracked.retained, accounted.covered, nofun, ready.imp_right .inl, nofun⟩
        · rw [if_neg ended] at h
          cases h
          have room : (worker.view ++ chunk).length ≤ readSize := by
            rw [List.length_append]
            exact fits chunk rfl
          exact ⟨tracked.retained, ⟨accounted, room⟩, fun _ => tracked.written (by rw [place]; rfl),
            ready.imp_right .inl, nofun⟩
  case readFailed =>
    split at h
    case h_2 => cases h
    case h_1 place =>
      rw [place] at accounted
      cases h
      exact ⟨tracked.retained, accounted.covered, nofun, .inr (.inr (.inr rfl)), nofun⟩
  case retain =>
    split at h
    case h_2 => cases h
    case h_1 chunk place =>
      rw [place] at accounted
      obtain ⟨⟨observed, counted, -⟩, room⟩ := accounted
      have ready := available (by simp [place]) (by simp [place])
      have retained : diagnosticTail (worker.buffer ++ chunk) = diagnosticTail (worker.observed ++ chunk) := by
        rw [tracked.retained, diagnosticTail_append]
      have unwritten : worker.observed ++ chunk = worker.file ++ (worker.view ++ chunk) := by
        rw [observed, List.append_assoc]
      rw [Option.some.injEq] at h
      subst h
      exact
        { retained := by
            dsimp only
            exact retained
          accounted := ⟨unwritten, counted, room⟩
          written := fun _ => tracked.written (by rw [place]; rfl)
          capture := ready.imp_right .inl
          refusal := nofun }
  case feed returned =>
    split at h
    case h_2 => cases h
    case h_1 chunk place =>
      rw [place] at accounted
      have ready := available (by simp [place]) (by simp [place])
      cases returned with
      | true =>
        cases h
        exact ⟨tracked.retained, accounted, fun _ => tracked.written (by rw [place]; rfl),
          ready.imp_right .inl, nofun⟩
      | false =>
        cases h
        exact ⟨tracked.retained, accounted.covered, nofun, .inr (.inr (.inr rfl)), nofun⟩
  case accept =>
    split at h
    case h_2 => cases h
    case h_1 chunk place =>
      rw [place] at accounted
      have ready := available (by simp [place]) (by simp [place])
      split at h
      case isTrue absent =>
        -- Without an output the capture has been revoked: there was one.
        have revoked : worker.captureRevoked = true := by
          rcases absent with absent | revoked
          · exact ready.resolve_left (by simp [absent])
          · exact revoked
        cases h
        exact ⟨tracked.retained, accounted.covered, nofun, .inr (.inl revoked), fun _ => revoked⟩
      case isFalse present =>
        have output : worker.output = true := by simpa using fun absent => present (.inl absent)
        have finished : worker.view = [] :=
          (tracked.written (by rw [place]; rfl)).resolve_right fun revoked => present (.inr revoked)
        have admitted : worker.Unwritten (worker.view ++ chunk) := accounted
        rw [finished, List.nil_append] at admitted
        cases h
        exact ⟨tracked.retained, admitted, nofun, .inl output, nofun⟩
  case refuse =>
    split at h
    case h_2 => cases h
    case h_1 place =>
      rw [place] at accounted
      have revoked := tracked.refusal place
      rw [if_pos revoked] at h
      cases h
      exact ⟨tracked.retained, accounted, nofun, .inr (.inl revoked), nofun⟩
  case loop =>
    split at h
    case h_2 => cases h
    case h_1 place =>
      rw [place] at accounted
      have ready := available (by simp [place]) (by simp [place])
      split at h
      case isTrue => cases h; exact ⟨tracked.retained, accounted, nofun, ready.imp_right .inl, nofun⟩
      case isFalse left =>
        have written : worker.view = [] ∨ worker.captureRevoked = true := by
          by_cases empty : worker.view = []
          · exact .inl empty
          · exact .inr (by simpa using fun live => left ⟨empty, live⟩)
        cases h
        exact ⟨tracked.retained, accounted, fun _ => written, ready.imp_right .inl, nofun⟩
  case write written =>
    split at h
    case h_2 => cases h
    case h_1 place =>
      rw [place] at accounted
      obtain ⟨observed, counted, small⟩ := accounted
      have ready := available (by simp [place]) (by simp [place])
      split at h
      case isFalse => cases h
      case isTrue taken =>
        have split : worker.observed = worker.file ++ worker.view.take written ++ worker.view.drop written := by
          rw [List.append_assoc, List.take_append_drop]
          exact observed
        have total : worker.capturePrefixBytes + written = (worker.file ++ worker.view.take written).length := by
          rw [List.length_append, List.length_take, counted]
          omega
        cases h
        exact ⟨tracked.retained, ⟨taken.2.1, small, split, total⟩, nofun, ready.imp_right .inl, nofun⟩
  case writeFailed written =>
    split at h
    case h_2 => cases h
    case h_1 place =>
      rw [place] at accounted
      obtain ⟨observed, counted, small⟩ := accounted
      have ready := available (by simp [place]) (by simp [place])
      split at h
      case isFalse => cases h
      case isTrue taken =>
        have covered : worker.file ++ worker.view.take written <+: worker.observed := by
          rw [observed]
          exact (List.prefix_append_right_inj _).mpr (List.take_prefix _ _)
        have reached : worker.capturePrefixBytes ≤ (worker.file ++ worker.view.take written).length := by
          rw [List.length_append, counted]
          omega
        have missing : worker.observed.length ≤ worker.capturePrefixBytes + readSize := by
          rw [observed, List.length_append, counted]
          omega
        cases h
        exact ⟨tracked.retained, ⟨covered, reached, missing⟩, nofun, ready.imp_right .inl, nofun⟩
  case count =>
    split at h
    case h_2 => cases h
    case h_1 written place =>
      rw [place] at accounted
      obtain ⟨-, small, observed, counted⟩ := accounted
      have ready := available (by simp [place]) (by simp [place])
      have shorter : (worker.view.drop written).length ≤ readSize := by
        rw [List.length_drop]
        omega
      cases h
      exact ⟨tracked.retained, ⟨observed, counted, shorter⟩, nofun, ready.imp_right .inl, nofun⟩
  case release =>
    split at h
    case h_2 => cases h
    case h_1 place =>
      rw [place] at accounted
      have ready := available (by simp [place]) (by simp [place])
      cases h
      exact ⟨tracked.retained, accounted, fun _ => tracked.written (by rw [place]; rfl),
        ready.imp_right .inl, nofun⟩
  case fail =>
    split at h
    case h_2 => cases h
    case h_1 place =>
      rw [place] at accounted
      cases h
      exact ⟨tracked.retained, accounted, nofun, .inr (.inr (.inr rfl)), nofun⟩
  case conclude =>
    split at h
    case h_2 => cases h
    case h_1 place =>
      rw [place] at accounted
      cases h
      exact ⟨tracked.retained, accounted, nofun, .inr (.inr (.inr rfl)), nofun⟩
  case close =>
    split at h
    case h_2 => cases h
    case h_1 place =>
      rw [place] at accounted
      cases h
      exact ⟨tracked.retained, accounted, nofun, .inr (.inl rfl), nofun⟩
  case revoke => cases h; exact tracked.revoked
  case abort => cases h; exact { tracked with }
  case cancel => cases h; exact { tracked with }
  case closeIdle =>
    split at h
    case isTrue => cases h; exact { tracked.revoked with capture := .inr (.inl rfl) }
    case isFalse => cases h; exact tracked.revoked

/-! ## The gap -/

/-- The bytes that are missing from the capture are in the retained tail. -/
def TailCoversGap (worker : StreamWorker) (readable : Bool) : Prop :=
  worker.durablePrefixBytes readable ≤ worker.observed.length ∧
    worker.observed.length - worker.durablePrefixBytes readable ≤
      min worker.observed.length diagnosticTailBytes ∧
    worker.observed.drop (worker.durablePrefixBytes readable) <:+ worker.buffer

/-- The durable prefix lies between what was counted and what the file holds. -/
theorem durablePrefixBytes_between {worker : StreamWorker} (readable : Bool)
    (counted : worker.capturePrefixBytes ≤ worker.file.length) :
    worker.capturePrefixBytes ≤ worker.durablePrefixBytes readable ∧
      worker.durablePrefixBytes readable ≤ worker.file.length := by
  unfold durablePrefixBytes
  split
  · exact ⟨counted, Nat.le_refl _⟩
  · exact ⟨Nat.le_refl _, counted⟩

/-- A tracked worker that has stopped has lost nothing. -/
theorem Tracked.tailCoversGap {worker : StreamWorker} (tracked : worker.Tracked)
    (stopped : worker.reader = .stopped) (readable : Bool) : worker.TailCoversGap readable := by
  have accounted := tracked.accounted
  rw [Accounted, stopped] at accounted
  obtain ⟨inside, counted, missing⟩ : worker.Covered := accounted
  have durable := durablePrefixBytes_between readable counted
  have whole := inside.length_le
  have late : worker.observed.length ≤ worker.durablePrefixBytes readable + diagnosticTailBytes := by
    unfold diagnosticTailBytes
    omega
  refine ⟨by omega, by omega, ?_⟩
  rw [tracked.retained]
  exact drop_suffix_diagnosticTail late

/-- The capture is revoked, and more is missing from it than the tail holds. -/
def Lost (worker : StreamWorker) : Prop :=
  worker.captureRevoked = true ∧ worker.capturePrefixBytes = worker.file.length ∧
    match worker.reader with
    | .retaining chunk => worker.file.length + readSize < worker.observed.length + chunk.length
    | .feeding _ | .admitting _ | .refused | .concluding | .closing | .stopped =>
      worker.file.length + readSize < worker.observed.length
    | _ => False

/-- A read that does not fit comes after a revocation, and loses bytes. -/
theorem Tracked.lost {worker next : StreamWorker} {event : WorkerEvent} (tracked : worker.Tracked)
    (unfit : ¬ worker.Fits event) (h : worker.step event = some next) : next.Lost := by
  unfold Fits at unfit
  push Not at unfit
  obtain ⟨chunk, rfl, large⟩ := unfit
  have accounted := tracked.accounted
  rw [StreamWorker.step] at h
  split at h
  case h_2 => cases h
  case h_1 place =>
    rw [Accounted, place] at accounted
    obtain ⟨observed, counted, small⟩ := accounted
    split at h
    case isFalse => cases h
    case isTrue sized =>
      have fresh : chunk ≠ [] := by
        rintro rfl
        rw [List.length_nil] at large
        omega
      have left : worker.view ≠ [] := by
        intro empty
        rw [empty, List.length_nil] at large
        omega
      have revoked := (tracked.written (by rw [place]; rfl)).resolve_left left
      have total : worker.file.length + readSize < worker.observed.length + chunk.length := by
        rw [observed, List.length_append]
        omega
      rw [if_neg fresh] at h
      cases h
      exact ⟨revoked, counted, total⟩

/-- What is lost stays lost. -/
theorem Lost.step {worker next : StreamWorker} {event : WorkerEvent} (h : worker.step event = some next)
    (lost : worker.Lost) : next.Lost := by
  obtain ⟨revoked, counted, missing⟩ := lost
  cases event <;> simp only [StreamWorker.step] at h
  case retain =>
    split at h
    case h_2 => cases h
    case h_1 chunk place =>
      rw [place] at missing
      have total : worker.file.length + readSize < (worker.observed ++ chunk).length := by
        rw [List.length_append]
        exact missing
      cases h
      exact ⟨revoked, counted, total⟩
  case feed returned =>
    split at h
    case h_2 => cases h
    case h_1 chunk place =>
      rw [place] at missing
      cases returned <;> cases h <;> exact ⟨revoked, counted, missing⟩
  case accept =>
    split at h
    case h_2 => cases h
    case h_1 chunk place =>
      rw [place] at missing
      rw [if_pos (.inr revoked)] at h
      cases h
      exact ⟨revoked, counted, missing⟩
  case refuse =>
    split at h
    case h_2 => cases h
    case h_1 place =>
      rw [place] at missing
      rw [if_pos revoked] at h
      cases h
      exact ⟨revoked, counted, missing⟩
  case conclude | close =>
    split at h
    case h_2 => cases h
    case h_1 place =>
      rw [place] at missing
      cases h
      exact ⟨by first | exact revoked | rfl, counted, missing⟩
  case revoke | abort | cancel => cases h; exact ⟨by first | exact revoked | rfl, counted, missing⟩
  case closeIdle => split at h <;> cases h <;> exact ⟨rfl, counted, missing⟩
  all_goals
    -- The reader is at none of the places of a worker that has lost bytes.
    split at h
    case h_2 => cases h
    case h_1 place => rw [place] at missing; exact missing.elim

/-- A loss is never made up for. -/
theorem Lost.not_tailCoversGap {worker : StreamWorker} (lost : worker.Lost)
    (stopped : worker.reader = .stopped) (readable : Bool) : ¬ worker.TailCoversGap readable := by
  obtain ⟨-, counted, missing⟩ := lost
  rw [stopped] at missing
  have total : worker.file.length + readSize < worker.observed.length := missing
  have durable := (durablePrefixBytes_between readable (Nat.le_of_eq counted)).2
  rintro ⟨-, gap, -⟩
  unfold diagnosticTailBytes at gap
  omega

/-- When a worker that was given a capture has stopped, the tail covers what the
capture misses, if and only if every chunk that was read fits. -/
theorem tail_covers_gap_iff {destination output : Bool} (given : destination = true ∨ output = true)
    {events : List WorkerEvent} {worker : StreamWorker}
    (h : run step (start destination output) events = some worker) (stopped : worker.reader = .stopped)
    (readable : Bool) :
    worker.TailCoversGap readable ↔ Along step Fits (start destination output) events := by
  constructor
  · intro covers
    obtain along | ⟨before, event, after, middle, along, prior, unfit, rest⟩ := along_or_first Fits h
    · exact along
    · rw [run_cons, Option.bind_eq_some_iff] at rest
      obtain ⟨next, single, rest⟩ := rest
      have tracked := run_invariant_along (fun fits => Tracked.step fits) along prior (start_tracked given)
      have lost := run_invariant' Lost.step rest (tracked.lost unfit single)
      exact absurd covers (lost.not_tailCoversGap stopped readable)
  · intro along
    exact (run_invariant_along (fun fits => Tracked.step fits) along h (start_tracked given)).tailCoversGap
      stopped readable

/-- A chunk of which the capture is revoked before it is written, with the
cancellation before the next read. -/
def timelyCancellation (chunk : List UInt8) : List WorkerEvent :=
  [.openCapture true, .test, .read chunk, .retain, .feed true, .accept, .revoke, .abort, .loop, .release,
    .cancel, .test, .conclude true, .close true]

/-- What the worker of that run has in the end. -/
def cancelledInTime (chunk : List UInt8) : StreamWorker :=
  { start true false with
    reader := .stopped
    view := chunk
    observed := chunk
    buffer := diagnosticTail chunk
    sinkAborted := true
    captureRevoked := true
    cancelRequested := true
    captureOperationActive := true }

theorem timelyCancellation_run {chunk : List UInt8} (fresh : chunk ≠ []) (sized : chunk.length ≤ readSize) :
    run step (start true false) (timelyCancellation chunk) = some (cancelledInTime chunk) ∧
      Along step Fits (start true false) (timelyCancellation chunk) := by
  constructor
  · simp [timelyCancellation, run_cons, step, start, openCapture, cancelledInTime, fresh, sized]
  · simp [timelyCancellation, Along, Fits, step, start, openCapture, fresh, sized]

theorem tail_covers_gap_iff_example :
    run step (start true false) (timelyCancellation [1, 2, 3]) = some (cancelledInTime [1, 2, 3]) ∧
      (cancelledInTime [1, 2, 3]).TailCoversGap true := by
  have sized : [1, 2, 3].length ≤ readSize := by simp [readSize]
  obtain ⟨ends, along⟩ := timelyCancellation_run (List.cons_ne_nil 1 [2, 3]) sized
  exact ⟨ends, (tail_covers_gap_iff (.inl rfl) ends rfl true).mpr along⟩

/-- Two chunks of which the first is revoked before it is written, and the second
read before the cancellation. -/
def lateCancellation (first second : List UInt8) : List WorkerEvent :=
  [.openCapture true, .test, .read first, .retain, .feed true, .accept, .revoke, .abort, .loop, .release,
    .test, .read second, .retain, .feed true, .accept, .refuse, .cancel, .conclude true, .close true]

/-- What the worker of that run has in the end. -/
def cancelledLate (first second : List UInt8) : StreamWorker :=
  { start true false with
    reader := .stopped
    view := first
    observed := first ++ second
    buffer := diagnosticTail (diagnosticTail first ++ second)
    sinkAborted := true
    captureRevoked := true
    cancelRequested := true
    captureOperationActive := true }

theorem lateCancellation_run {first second : List UInt8} (hfirst : first ≠ [])
    (sized : first.length ≤ readSize) (hsecond : second ≠ []) (sized' : second.length ≤ readSize) :
    run step (start true false) (lateCancellation first second) = some (cancelledLate first second) := by
  simp [lateCancellation, run_cons, step, start, openCapture, cancelledLate, *]

/-- The tail holds the last read only, when two reads are missing from the capture. -/
theorem two_reads_lost : ¬ ∀ (destination output : Bool) (events : List WorkerEvent)
    (worker : StreamWorker), destination = true ∨ output = true →
    run step (start destination output) events = some worker → worker.reader = .stopped →
    ∀ readable, worker.TailCoversGap readable := by
  intro covers
  obtain ⟨chunk, full⟩ : ∃ chunk : List UInt8, chunk.length = readSize :=
    ⟨List.replicate readSize 0, List.length_replicate⟩
  have positive : 0 < readSize := by simp [readSize]
  have fresh : chunk ≠ [] := by
    rintro rfl
    rw [List.length_nil] at full
    omega
  have sized : chunk.length ≤ readSize := Nat.le_of_eq full
  have ends := lateCancellation_run fresh sized fresh sized
  obtain ⟨-, gap, -⟩ := covers true false _ _ (.inl rfl) ends rfl true
  have observed : (cancelledLate chunk chunk).observed.length = readSize + readSize := by
    show (chunk ++ chunk).length = _
    rw [List.length_append, full]
  have durable : (cancelledLate chunk chunk).durablePrefixBytes true = 0 := rfl
  rw [observed, durable] at gap
  unfold diagnosticTailBytes at gap
  omega

end StreamWorker

end SprintTicket
