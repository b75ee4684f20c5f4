import Mathlib.Data.List.Infix
import SprintTicket.AtomicWrite
import SprintTicket.Codex.StreamWorker

/-!
# Publishing the output of a process

After an invocation each captured stream becomes evidence of the attempt. A capture
that is complete is moved over its destination; one that its worker has left is
first extended by the retained tail; one that may still be written is copied, as far
as it is said to be durable, and the copy extended. What cannot be put together is
replaced by the text that was kept for diagnosis.

`published_exact` says that the destination holds the stream itself or that text.
-/

set_option autoImplicit false

namespace SprintTicket

open Checks Effects Effects.Effect

structure CapturePath where
  parent : String
  name : String
deriving DecidableEq

/-- `_CaptureResult`. -/
structure CaptureResult where
  source : Option CapturePath
  complete : Bool
  stable : Bool
  prefixBytes : Int
  observedBytes : Nat
  observedTail : List UInt8

def HasSuffix (suffix name : String) : Prop := suffix.toList <:+ name.toList

instance {suffix name : String} : Decidable (HasSuffix suffix name) := inferInstanceAs (Decidable (_ <:+ _))

/-- Whether a path is staging storage of the attempt directory. -/
def CapturePath.Staged (root : String) (source : CapturePath) : Prop :=
  source.parent = root ∧ HasSuffix ".capture" source.name

instance {root : String} {source : CapturePath} : Decidable (source.Staged root) := inferInstanceAs (Decidable (_ ∧ _))

/-- The attempt directory, and how many calls have been made. -/
structure Publishing where
  directory : Listing
  made : Nat

/-- What the calls of a publication answer, each by its number. -/
structure PublicationCalls where
  /-- A revalidation of the paths, or a call of the operating system. -/
  answer : Nat → Except Raised Unit
  /-- Whether the deadline has passed; it never does where there is none. -/
  expired : Nat → Bool
  /-- `st_nlink`. -/
  links : Nat → Nat
  /-- What a capture that may still be written holds, by its name. -/
  captured : String → Nat → List UInt8
  /-- How many bytes a read or a write moves. -/
  amount : Nat → Nat
  /-- `uuid.uuid4().hex`. -/
  random : Nat → String
  /-- The calls of an atomic write. -/
  atomic : Nat → WriteCalls

/-- A computation over the directory alone. -/
def onDirectory {α : Type} (x : Effect Listing Raised α) : Effect Publishing Raised α := fun s =>
  ((x s.directory).1, { s with directory := (x s.directory).2 })

/-- The number of the next call. -/
def nextCall : Effect Publishing Raised Nat := fun s => (.ok s.made, { s with made := s.made + 1 })

def captureForeign : Raised := ⟨.runtimeError, "Codex capture path is not attempt-owned staging storage."⟩

def captureLinked : Raised := ⟨.runtimeError, "Codex capture staging path is linked or not a regular file."⟩

def captureChanged : Raised := ⟨.runtimeError, "Codex capture staging path changed before suffix publication."⟩

def publicationExpired : Raised := ⟨.timeoutError, "Codex output publication deadline expired."⟩

def publicationStalled : Raised := ⟨.osError, "Codex artifact publication made no progress."⟩

def partialCaptureUnavailable : Raised :=
  ⟨.partialCaptureUnavailable, "Observed stream suffix is not completely retained."⟩

/-- The name of the file that a capture is copied to. -/
def publishName (random : String) : String := ".codex-publish-" ++ random ++ ".tmp"

namespace PublicationCalls

variable (calls : PublicationCalls)

/-- A call that only returns or raises. -/
def perform : Effect Publishing Raised Unit := do
  let n ← nextCall
  lift (calls.answer n)

/-- `_deadline_exhausted`. -/
def deadlineExhausted : Effect Publishing Raised Bool := do
  let n ← nextCall
  pure (calls.expired n)

def requireTime : Effect Publishing Raised Unit := do
  let expired ← calls.deadlineExhausted
  lift (raiseIf (expired = true) publicationExpired)

/-- The check of a write that has a deadline. -/
def keepTime (timed : Bool) : Effect Publishing Raised Unit :=
  if timed then calls.requireTime else pure ()

/-- One `write` of a raw file: it takes some of the bytes, and may raise then. -/
def writeSome (name : String) (view : List UInt8) : Effect Publishing Raised Nat := do
  let n ← nextCall
  let written := min (calls.amount n) view.length
  modify fun s =>
    match s.directory name with
    | some (.file content) =>
      { s with directory := Function.update s.directory name (some (.file (content ++ view.take written))) }
    | _ => s
  lift (calls.answer n)
  pure written

/-- `_write_all`, with as many writes as there are bytes. -/
def writeBytes (timed : Bool) (name : String) : Nat → List UInt8 → Effect Publishing Raised Unit
  | 0, _ => pure ()
  | fuel + 1, view =>
    if view = [] then pure ()
    else do
      calls.keepTime timed
      let written ← calls.writeSome name view
      lift (raiseIf (written = 0) publicationStalled)
      writeBytes timed name fuel (view.drop written)

def writeAll (timed : Bool) (name : String) (view : List UInt8) : Effect Publishing Raised Unit :=
  calls.writeBytes timed name view.length view

/-- One `read` of a capture from a position on: some of the bytes that stand there. -/
def readSome (name : String) (position count : Nat) : Effect Publishing Raised (List UInt8) := do
  let n ← nextCall
  lift (calls.answer n)
  pure ((((calls.captured name n).drop position).take count).take (max 1 (calls.amount n)))

/-- The copying of `remaining` bytes from a position on; the result is the position
reached. -/
def copyCapture (name temporary : String) : Nat → Nat → Nat → Effect Publishing Raised Nat
  | 0, _, copied => pure copied
  | fuel + 1, remaining, copied =>
    if remaining = 0 then pure copied
    else do
      calls.requireTime
      let chunk ← calls.readSome name copied (min readSize remaining)
      if chunk = [] then pure copied
      else
        calls.writeAll true temporary chunk
        copyCapture name temporary fuel (remaining - chunk.length) (copied + chunk.length)

/-- The checks of a staging path; the content of its file, or none where it is missing. -/
def stagedCapture (root : String) (source : CapturePath) : Effect Publishing Raised (Option (List UInt8)) := do
  calls.perform
  lift (raiseIf (¬ source.Staged root) captureForeign)
  calls.perform
  let n ← nextCall
  match (← get).directory source.name with
  | none => pure none
  | some (.file content) => if calls.links n = 1 then pure (some content) else raise captureLinked
  | some _ => raise captureLinked

/-- `os.replace`. -/
def replaceFile (temporary name : String) : Effect Publishing Raised Unit := do
  let n ← nextCall
  onDirectory (replaceDestination temporary name (calls.answer n))

/-- `_promote_capture`. -/
def promoteCapture (root : String) (source : CapturePath) (destination : String) : Effect Publishing Raised Bool := do
  match ← calls.stagedCapture root source with
  | none => pure false
  | some _ =>
    calls.perform
    calls.replaceFile source.name destination
    calls.perform
    pure true

/-- The checks of the capture that a suffix is appended to. A path that another
process has put in its place is a call that raises. -/
def unchangedCapture (source : CapturePath) (expectedSize : Nat) : Effect Publishing Raised Unit := do
  calls.perform
  let n ← nextCall
  match (← get).directory source.name with
  | some (.file content) => lift (raiseIf (calls.links n ≠ 1 ∨ content.length ≠ expectedSize) captureChanged)
  | _ => raise captureChanged

/-- `_append_capture_suffix`. -/
def appendCaptureSuffix (source : CapturePath) (suffix : List UInt8) (expectedSize : Nat) :
    Effect Publishing Raised Unit := do
  calls.perform
  calls.perform
  let outcome ← attempt do
    calls.unchangedCapture source expectedSize
    calls.writeAll false source.name suffix
  -- the `with` block or the `finally` clause closes the descriptor
  calls.perform
  lift outcome
  calls.perform

/-- `_complete_stable_capture`. -/
def completeStableCapture (root : String) (source : CapturePath) (destination : String) (capturedBytes : Nat)
    (capture : CaptureResult) : Effect Publishing Raised Bool := do
  if capture.observedBytes < capturedBytes then pure false
  else if capturedBytes < capture.observedBytes then
    let tailStart := capture.observedBytes - capture.observedTail.length
    if capturedBytes < tailStart then pure false
    else
      let suffix := capture.observedTail.drop (capturedBytes - tailStart)
      if suffix.length ≠ capture.observedBytes - capturedBytes then pure false
      else
        calls.appendCaptureSuffix source suffix capturedBytes
        calls.promoteCapture root source destination
  else calls.promoteCapture root source destination

/-- `os.open` of a new temporary file. -/
def openTemporary : Effect Publishing Raised String := do
  calls.perform
  let n ← nextCall
  let temporary := publishName (calls.random n)
  if ((← get).directory temporary).isSome then raise ⟨.osError, "[Errno 17] File exists"⟩
  else
    lift (calls.answer n)
    modify fun s => { s with directory := Function.update s.directory temporary (some (.file [])) }
    pure temporary

/-- The `with` block of a copy. -/
def copyObserved (name temporary : String) (capture : CaptureResult) : Effect Publishing Raised Unit := do
  calls.perform
  let outcome ← attempt do
    let copied ← calls.copyCapture name temporary capture.prefixBytes.toNat capture.prefixBytes.toNat 0
    let tailStart := capture.observedBytes - capture.observedTail.length
    lift (raiseIf (capture.observedBytes < copied ∨ copied < tailStart) partialCaptureUnavailable)
    calls.writeAll true temporary (capture.observedTail.drop (copied - tailStart))
  calls.perform
  lift outcome

/-- The part of `_publish_partial_capture` for a capture that may still be written. -/
def publishCopy (name destination : String) (capture : CaptureResult) : Effect Publishing Raised (Bool × Bool) := do
  let temporary ← calls.openTemporary
  let outcome ← attempt do
    calls.copyObserved name temporary capture
    calls.perform
    calls.replaceFile temporary destination
    calls.perform
  match outcome with
  | .ok () => do
    let exhausted ← calls.deadlineExhausted
    pure (true, exhausted)
  | .error error => do
    calls.perform
    modify fun s => { s with directory := Function.update s.directory temporary none }
    if error.isinstance .timeoutError || error.isinstance .partialCaptureUnavailable then
      pure (false, error.isinstance .timeoutError)
    else raise error

/-- `_publish_partial_capture`. -/
def publishPartialCapture (root : String) (source : CapturePath) (destination : String) (capture : CaptureResult) :
    Effect Publishing Raised (Bool × Bool) := do
  match ← calls.stagedCapture root source with
  | none => do
    let exhausted ← calls.deadlineExhausted
    pure (false, exhausted)
  | some content =>
    if capture.stable then do
      match ← attempt (calls.completeStableCapture root source destination content.length capture) with
      | .ok published => do
        let exhausted ← calls.deadlineExhausted
        pure (published, exhausted)
      | .error error => if error.isinstance .timeoutError then pure (false, true) else raise error
    else calls.publishCopy source.name destination capture

/-- The fallback of a stream that was not promoted. -/
def writeFallback (root destination fallback : String) (promoted : Bool) : Effect Publishing Raised Unit :=
  if promoted then pure ()
  else do
    let n ← nextCall
    onDirectory (atomicWriteText ⟨root ++ "/" ++ destination, destination⟩ fallback (calls.answer n) (calls.atomic n))

/-- What is promoted of a stream, and whether the deadline was found exhausted. -/
def promoteStream (root destination : String) (capture : CaptureResult) : Effect Publishing Raised (Bool × Bool) :=
  match capture.source with
  | none => pure (false, false)
  | some source =>
    if capture.complete then do
      let promoted ← calls.promoteCapture root source destination
      pure (promoted, false)
    else calls.publishPartialCapture root source destination capture

/-- The part of `publish_process_output` for one stream; the result says whether the
deadline was found exhausted. -/
def publishStream (root destination : String) (capture : CaptureResult) (fallback : String) :
    Effect Publishing Raised Bool := do
  let promotion ← calls.promoteStream root destination capture
  calls.writeFallback root destination fallback promotion.1
  calls.perform
  pure promotion.2

end PublicationCalls

/-- `EVENTS_ARTIFACT`. -/
def eventsArtifact : String := "events.jsonl"

/-- `STDERR_ARTIFACT`. -/
def stderrArtifact : String := "stderr.log"

structure ProcessOutputPublication where
  stdoutTruncated : Bool
  stderrTruncated : Bool
  deadlineExhausted : Bool

/-- `publish_process_output`. -/
def publishProcessOutput (calls : PublicationCalls) (root : String) (stdout stderr : CaptureResult)
    (stdoutFallback stderrFallback : String) : Effect Publishing Raised ProcessOutputPublication := do
  calls.perform
  let started ← calls.deadlineExhausted
  let stdoutExhausted ← calls.publishStream root eventsArtifact stdout stdoutFallback
  let stderrExhausted ← calls.publishStream root stderrArtifact stderr stderrFallback
  pure
    { stdoutTruncated := !stdout.complete
      stderrTruncated := !stderr.complete
      deadlineExhausted := started || stdoutExhausted || stderrExhausted }

/-- A part of a stream that reaches into the retained tail gives the stream. -/
theorem append_diagnosticTail {part stream : List UInt8} (inside : part <+: stream)
    (reaches : stream.length - (diagnosticTail stream).length ≤ part.length) :
    part ++ (diagnosticTail stream).drop (part.length - (stream.length - (diagnosticTail stream).length)) = stream := by
  obtain ⟨rest, rfl⟩ := inside
  have start : (part ++ rest).length - (diagnosticTail (part ++ rest)).length =
      (part ++ rest).length - diagnosticTailBytes := by
    rw [diagnosticTail, List.length_drop]
    omega
  rw [start] at reaches ⊢
  have position : (part ++ rest).length - diagnosticTailBytes +
      (part.length - ((part ++ rest).length - diagnosticTailBytes)) = part.length := by omega
  rw [diagnosticTail, List.drop_drop, position, List.drop_left]

section Calls

variable {calls : PublicationCalls} {s t : Publishing}

/-- The next calls look at the clock or at a file and leave the directory alone. -/
theorem perform_directory {outcome : Except Raised Unit} (h : calls.perform s = (outcome, t)) :
    t.directory = s.directory := by
  cases h
  rfl

theorem deadlineExhausted_directory {outcome : Except Raised Bool} (h : calls.deadlineExhausted s = (outcome, t)) :
    t.directory = s.directory := by
  cases h
  rfl

theorem requireTime_directory {outcome : Except Raised Unit} (h : calls.requireTime s = (outcome, t)) :
    t.directory = s.directory := by
  cases h
  rfl

theorem keepTime_directory {timed : Bool} {outcome : Except Raised Unit} (h : calls.keepTime timed s = (outcome, t)) :
    t.directory = s.directory := by
  cases timed
  · cases h
    rfl
  · exact requireTime_directory h

theorem unchangedCapture_directory {source : CapturePath} {expectedSize : Nat} {outcome : Except Raised Unit}
    (h : calls.unchangedCapture source expectedSize s = (outcome, t)) : t.directory = s.directory := by
  rw [PublicationCalls.unchangedCapture] at h
  rcases bind_cases h with ⟨error, opened, rfl⟩ | ⟨_, s₁, opened, h⟩
  · exact perform_directory opened
  rw [← perform_directory opened]
  cases present : s₁.directory source.name with
  | none =>
    simp [nextCall, bind_apply, present] at h
    rw [← h.2]
  | some entry =>
    cases entry <;> simp [nextCall, bind_apply, present] at h <;> rw [← h.2]

/-- A replacement either raises and changes nothing, or moves the file. -/
theorem replaceFile_cases {temporary name : String} {content : List UInt8} {outcome : Except Raised Unit}
    (held : s.directory temporary = some (.file content)) (h : calls.replaceFile temporary name s = (outcome, t)) :
    (∃ error, outcome = .error error) ∧ t.directory = s.directory ∨
      outcome = .ok () ∧
        t.directory = Function.update (Function.update s.directory temporary none) name (some (.file content)) := by
  cases answered : calls.answer s.made with
  | error error =>
    simp [PublicationCalls.replaceFile, nextCall, bind_apply, onDirectory, replaceDestination, answered] at h
    exact .inl ⟨⟨error, h.1.symm⟩, by rw [← h.2]⟩
  | ok =>
    by_cases blocked : s.directory name = some .directory
    · simp [PublicationCalls.replaceFile, nextCall, bind_apply, onDirectory, replaceDestination, answered, held,
        blocked] at h
      exact .inl ⟨⟨_, h.1.symm⟩, by rw [← h.2]⟩
    · simp [PublicationCalls.replaceFile, nextCall, bind_apply, onDirectory, replaceDestination, answered, held,
        blocked] at h
      exact .inr ⟨h.1.symm, by rw [← h.2]⟩

/-- The checks of a staging path change nothing, and say what it holds. -/
theorem stagedCapture_cases {root : String} {source : CapturePath} {outcome : Except Raised (Option (List UInt8))}
    (h : calls.stagedCapture root source s = (outcome, t)) :
    t.directory = s.directory ∧
      ∀ found, outcome = .ok found → source.Staged root ∧ s.directory source.name = found.map Entry.file := by
  rw [PublicationCalls.stagedCapture] at h
  rcases bind_cases h with ⟨error, checked, rfl⟩ | ⟨_, s₁, checked, h⟩
  · exact ⟨perform_directory checked, nofun⟩
  have first := perform_directory checked
  rcases bind_cases h with ⟨error, own, rfl⟩ | ⟨_, s₂, own, h⟩
  · cases (Prod.mk.inj own).2
    exact ⟨first, nofun⟩
  obtain ⟨passed, rfl⟩ := lift_ok.mp own
  have staged := not_not.mp (raiseIf_ok.mp passed)
  rcases bind_cases h with ⟨error, stated, rfl⟩ | ⟨_, s₃, stated, h⟩
  · exact ⟨(perform_directory stated).trans first, nofun⟩
  have second := (perform_directory stated).trans first
  cases present : s₃.directory source.name with
  | none =>
    simp [nextCall, bind_apply, present] at h
    obtain ⟨rfl, rfl⟩ := h
    refine ⟨second, fun found same => ?_⟩
    cases same
    exact ⟨staged, second ▸ present⟩
  | some entry =>
    cases entry with
    | file content =>
      by_cases single : calls.links s₃.made = 1
      · simp [nextCall, bind_apply, present, single] at h
        obtain ⟨rfl, rfl⟩ := h
        refine ⟨second, fun found same => ?_⟩
        cases same
        exact ⟨staged, second ▸ present⟩
      · simp [nextCall, bind_apply, present, single] at h
        obtain ⟨rfl, rfl⟩ := h
        exact ⟨second, nofun⟩
    | directory | link =>
      simp [nextCall, bind_apply, present] at h
      obtain ⟨rfl, rfl⟩ := h
      exact ⟨second, nofun⟩

end Calls

section Writes

variable {calls : PublicationCalls} {name : String} {view content : List UInt8} {s t : Publishing}

/-- A write appends a part of the view, also when it raises. -/
theorem writeSome_file {outcome : Except Raised Nat} (held : s.directory name = some (.file content))
    (h : calls.writeSome name view s = (outcome, t)) :
    ∃ k ≤ view.length, t.directory = Function.update s.directory name (some (.file (content ++ view.take k))) ∧
      ∀ written, outcome = .ok written → written = k := by
  refine ⟨min (calls.amount s.made) view.length, Nat.min_le_right _ _, ?_⟩
  cases answered : calls.answer s.made <;>
    simp [PublicationCalls.writeSome, nextCall, bind_apply, held, answered] at h <;>
    simp [← h.1, ← h.2]

/-- `_write_all`: it appends what it got to write, all of it when it returns. -/
theorem writeBytes_file {timed : Bool} {outcome : Except Raised Unit} {fuel : Nat} (enough : view.length ≤ fuel)
    (held : s.directory name = some (.file content)) (h : calls.writeBytes timed name fuel view s = (outcome, t)) :
    ∃ k ≤ view.length, t.directory = Function.update s.directory name (some (.file (content ++ view.take k))) ∧
      (outcome = .ok () → k = view.length) := by
  have same : s.directory = Function.update s.directory name (some (.file (content ++ view.take 0))) := by
    rw [List.take_zero, List.append_nil, ← held, Function.update_eq_self]
  induction fuel generalizing view content s with
  | zero =>
    cases h
    exact ⟨0, Nat.zero_le _, same, fun _ => by omega⟩
  | succ fuel ih =>
    rw [PublicationCalls.writeBytes] at h
    split at h
    case isTrue empty =>
      cases h
      exact ⟨0, Nat.zero_le _, same, fun _ => by rw [empty]; rfl⟩
    case isFalse left =>
      rcases bind_cases h with ⟨error, checked, rfl⟩ | ⟨_, s', checked, h⟩
      · exact ⟨0, Nat.zero_le _, (keepTime_directory checked).trans same, nofun⟩
      have unchanged := keepTime_directory checked
      have held' : s'.directory name = some (.file content) := by rw [unchanged, held]
      rcases bind_cases h with ⟨error, wrote, rfl⟩ | ⟨written, r, wrote, h⟩
      · obtain ⟨k, small, after, -⟩ := writeSome_file held' wrote
        exact ⟨k, small, by rw [after, unchanged], nofun⟩
      obtain ⟨k, small, after, own⟩ := writeSome_file held' wrote
      cases own written rfl
      rw [unchanged] at after
      rcases bind_cases h with ⟨error, stalled, rfl⟩ | ⟨_, r', progress, h⟩
      · cases (Prod.mk.inj stalled).2
        exact ⟨written, small, after, nofun⟩
      · obtain ⟨passed, rfl⟩ := lift_ok.mp progress
        have moved := raiseIf_ok.mp passed
        have shorter : (view.drop written).length ≤ fuel := by
          rw [List.length_drop]
          omega
        have appended : r.directory name = some (.file (content ++ view.take written)) := by
          rw [after, Function.update_self]
        obtain ⟨k, rest, result, whole⟩ := ih shorter appended h (by
          rw [List.take_zero, List.append_nil, ← appended, Function.update_eq_self])
        rw [List.length_drop] at rest whole
        refine ⟨written + k, by omega, ?_, fun ended => by have := whole ended; omega⟩
        rw [result, after, Function.update_idem, List.append_assoc, List.take_add]

end Writes

section Copies

variable {calls : PublicationCalls} {name temporary : String} {stream content : List UInt8} {s t : Publishing}

/-- What a capture holds at any time is a part of the stream. -/
def PublicationCalls.Captures (calls : PublicationCalls) (name : String) (stream : List UInt8) : Prop :=
  ∀ n, calls.captured name n <+: stream

/-- A read gives the next bytes of the captured stream. -/
theorem readSome_chunk (captures : calls.Captures name stream) {position count : Nat} (inside : position ≤ stream.length)
    {outcome : Except Raised (List UInt8)} (h : calls.readSome name position count s = (outcome, t)) :
    t.directory = s.directory ∧ ∀ chunk, outcome = .ok chunk → position + chunk.length ≤ stream.length ∧
      stream.take position ++ chunk = stream.take (position + chunk.length) := by
  cases answered : calls.answer s.made with
  | error error =>
    simp [PublicationCalls.readSome, nextCall, bind_apply, answered] at h
    exact ⟨by rw [← h.2], fun _ same => by rw [← h.1] at same; cases same⟩
  | ok =>
    simp [PublicationCalls.readSome, nextCall, bind_apply, answered] at h
    refine ⟨by rw [← h.2], fun chunk same => ?_⟩
    rw [← h.1] at same
    have part : chunk <+: stream.drop position := by
      cases same
      exact ((List.take_prefix _ _).trans (List.take_prefix _ _)).trans (List.IsPrefix.drop (captures s.made) position)
    have whole : stream.take position ++ chunk <+: stream := by
      have joined := (List.prefix_append_right_inj (stream.take position)).mpr part
      rwa [List.take_append_drop] at joined
    have size : (stream.take position ++ chunk).length = position + chunk.length := by
      rw [List.length_append, List.length_take, Nat.min_eq_left inside]
    refine ⟨size ▸ whole.length_le, ?_⟩
    have taken := List.prefix_iff_eq_take.mp whole
    rwa [size] at taken

/-- A copy holds a part of the stream, up to the position that it reaches. -/
theorem copyCapture_file (captures : calls.Captures name stream) {fuel remaining copied : Nat}
    (inside : copied ≤ stream.length) (held : s.directory temporary = some (.file (stream.take copied)))
    {outcome : Except Raised Nat} (h : calls.copyCapture name temporary fuel remaining copied s = (outcome, t)) :
    ∃ content, t.directory = Function.update s.directory temporary (some (.file content)) ∧
      ∀ reached, outcome = .ok reached → content = stream.take reached ∧ reached ≤ stream.length := by
  have same : s.directory = Function.update s.directory temporary (some (.file (stream.take copied))) := by
    rw [← held, Function.update_eq_self]
  have ended : outcome = .ok copied → ∀ reached, outcome = .ok reached →
      stream.take copied = stream.take reached ∧ reached ≤ stream.length := by
    rintro rfl reached ⟨⟩
    exact ⟨rfl, inside⟩
  induction fuel generalizing remaining copied s with
  | zero =>
    cases h
    exact ⟨_, same, ended rfl⟩
  | succ fuel ih =>
    rw [PublicationCalls.copyCapture] at h
    split at h
    case isTrue =>
      cases h
      exact ⟨_, same, ended rfl⟩
    case isFalse =>
      rcases bind_cases h with ⟨error, timely, rfl⟩ | ⟨_, s₁, timely, h⟩
      · exact ⟨_, (requireTime_directory timely).trans same, nofun⟩
      have first := requireTime_directory timely
      rcases bind_cases h with ⟨error, read, rfl⟩ | ⟨chunk, s₂, read, h⟩
      · exact ⟨_, ((readSome_chunk captures inside read).1.trans first).trans same, nofun⟩
      obtain ⟨unchanged, chunks⟩ := readSome_chunk captures inside read
      obtain ⟨within, extended⟩ := chunks chunk rfl
      have second := unchanged.trans first
      split at h
      case isTrue =>
        cases h
        exact ⟨_, second.trans same, ended rfl⟩
      case isFalse =>
        have held' : s₂.directory temporary = some (.file (stream.take copied)) := by rw [second, held]
        rcases bind_cases h with ⟨error, wrote, rfl⟩ | ⟨_, s₃, wrote, h⟩
        · obtain ⟨k, -, after, -⟩ := writeBytes_file (Nat.le_refl _) held' wrote
          exact ⟨_, by rw [after, second], nofun⟩
        obtain ⟨k, -, after, whole⟩ := writeBytes_file (Nat.le_refl _) held' wrote
        rw [whole rfl, List.take_length, extended, second] at after
        have appended : s₃.directory temporary = some (.file (stream.take (copied + chunk.length))) := by
          rw [after, Function.update_self]
        obtain ⟨content, result, reaches⟩ := ih within appended h
          (by rw [← appended, Function.update_eq_self])
          (by rintro rfl reached ⟨⟩; exact ⟨rfl, within⟩)
        exact ⟨content, by rw [result, after, Function.update_idem], reaches⟩

/-- What is observed of a stream: its length and its tail. -/
structure CaptureResult.Observes (capture : CaptureResult) (stream : List UInt8) : Prop where
  bytes : capture.observedBytes = stream.length
  tail : capture.observedTail = diagnosticTail stream

/-- The copy into the temporary file: the stream up to what was observed, when it returns. -/
theorem copyObserved_file {capture : CaptureResult} (captures : calls.Captures name stream)
    (observes : capture.Observes stream) (held : s.directory temporary = some (.file []))
    {outcome : Except Raised Unit} (h : calls.copyObserved name temporary capture s = (outcome, t)) :
    ∃ content, t.directory = Function.update s.directory temporary (some (.file content)) ∧
      (outcome = .ok () → content = stream) := by
  have same : s.directory = Function.update s.directory temporary (some (.file [])) := by
    rw [← held, Function.update_eq_self]
  rw [PublicationCalls.copyObserved] at h
  rcases bind_cases h with ⟨error, opened, rfl⟩ | ⟨_, s₁, opened, h⟩
  · exact ⟨[], (perform_directory opened).trans same, nofun⟩
  have first := perform_directory opened
  obtain ⟨body, s₂, ran, h⟩ := attempt_bind h
  -- the copy and the tail after it
  have filled : ∃ content, s₂.directory = Function.update s.directory temporary (some (.file content)) ∧
      (body = .ok () → content = stream) := by
    have held' : s₁.directory temporary = some (.file (stream.take 0)) := by rw [first, held, List.take_zero]
    rcases bind_cases ran with ⟨error, copied, rfl⟩ | ⟨copied, r, copying, ran⟩
    · obtain ⟨content, after, -⟩ := copyCapture_file captures (Nat.zero_le _) held' copied
      exact ⟨content, by rw [after, first], nofun⟩
    obtain ⟨content, after, reaches⟩ := copyCapture_file captures (Nat.zero_le _) held' copying
    obtain ⟨rfl, within⟩ := reaches copied rfl
    rw [first] at after
    dsimp only at ran
    rcases bind_cases ran with ⟨error, uncovered, rfl⟩ | ⟨_, r', covered, ran⟩
    · cases (Prod.mk.inj uncovered).2
      exact ⟨_, after, nofun⟩
    · obtain ⟨passed, rfl⟩ := lift_ok.mp covered
      have reaches := raiseIf_ok.mp passed
      rw [observes.bytes, observes.tail, not_or, Nat.not_lt, Nat.not_lt] at reaches
      have appended : r.directory temporary = some (.file (stream.take copied)) := by
        rw [after, Function.update_self]
      obtain ⟨k, -, result, whole⟩ := writeBytes_file (Nat.le_refl _) appended ran
      refine ⟨_, by rw [result, after, Function.update_idem], fun ended => ?_⟩
      rw [whole ended, List.take_length, observes.bytes, observes.tail]
      have size : (stream.take copied).length = copied := by rw [List.length_take, Nat.min_eq_left within]
      have joined := append_diagnosticTail (List.take_prefix copied stream) (by rw [size]; exact reaches.2)
      rwa [size] at joined
  obtain ⟨content, after, whole⟩ := filled
  rcases bind_cases h with ⟨error, closed, rfl⟩ | ⟨_, s₃, closed, h⟩
  · exact ⟨content, (perform_directory closed).trans after, nofun⟩
  obtain ⟨same', rfl⟩ := Prod.mk.inj h
  exact ⟨content, (perform_directory closed).trans after, fun ended => whole (same'.trans ended)⟩

end Copies

/-! ## What becomes of the destination -/

/-- The names that the publication of a stream uses besides its destination. -/
def CaptureResult.Uses (capture : CaptureResult) (root name : String) : Prop :=
  (∃ source, capture.source = some source ∧ source.Staged root ∧ name = source.name) ∨ HasSuffix ".tmp" name

/-- The destination is left alone or holds the stream. Nothing changes that is not used,
and in the end nothing but the capture. -/
structure Republished (capture : CaptureResult) (root destination : String) (stream : List UInt8) (returned : Prop)
    (s t : Publishing) : Prop where
  exact : t.directory destination = s.directory destination ∨ t.directory destination = some (.file stream)
  frame : ∀ name, name ≠ destination → ¬ capture.Uses root name → t.directory name = s.directory name
  clean : returned → ∀ name, name ≠ destination → (∀ source, capture.source = some source → name ≠ source.name) →
    t.directory name = s.directory name

section Destination

variable {calls : PublicationCalls} {capture : CaptureResult} {root destination : String} {stream : List UInt8}
  {returned : Prop} {s t : Publishing}

/-- Nothing happened to the directory, so nothing was published wrongly. -/
theorem Republished.of_same (same : t.directory = s.directory) :
    Republished capture root destination stream returned s t where
  exact := .inl (by rw [same])
  frame := fun _ _ _ => by rw [same]
  clean := fun _ _ _ _ => by rw [same]

theorem Republished.always (after : Republished capture root destination stream True s t) :
    Republished capture root destination stream returned s t where
  exact := after.exact
  frame := after.frame
  clean := fun _ => after.clean trivial

/-- A name in use may have another entry in the end when it is the capture's. -/
def CaptureResult.MayKeep (capture : CaptureResult) (s : Publishing) (used : String) (entry : Option Entry) : Prop :=
  entry = s.directory used ∨ ∃ source, capture.source = some source ∧ used = source.name

/-- One name in use is changed, and nothing else. -/
theorem Republished.of_used {used : String} {entry : Option Entry} (uses : capture.Uses root used)
    (other : used ≠ destination) (settled : returned → capture.MayKeep s used entry)
    (changed : t.directory = Function.update s.directory used entry) :
    Republished capture root destination stream returned s t where
  exact := .inl (by rw [changed, Function.update_of_ne other.symm])
  frame := by
    intro name _ unused
    have apart : name ≠ used := by
      rintro rfl
      exact unused uses
    rw [changed, Function.update_of_ne apart]
  clean := by
    intro ended name _ foreign
    rw [changed]
    obtain same | ⟨source, owner, rfl⟩ := settled ended
    · rw [same, Function.update_eq_self]
    · rw [Function.update_of_ne (foreign source owner)]

/-- The stream is at the destination, and one name in use is changed. -/
theorem Republished.of_stream {used : String} {entry : Option Entry} (uses : capture.Uses root used)
    (settled : returned → capture.MayKeep s used entry)
    (changed : t.directory = Function.update (Function.update s.directory used entry) destination
      (some (.file stream))) : Republished capture root destination stream returned s t where
  exact := .inr (by rw [changed, Function.update_self])
  frame := by
    intro name different unused
    have apart : name ≠ used := by
      rintro rfl
      exact unused uses
    rw [changed, Function.update_of_ne different, Function.update_of_ne apart]
  clean := by
    intro ended name different foreign
    rw [changed, Function.update_of_ne different]
    obtain same | ⟨source, owner, rfl⟩ := settled ended
    · rw [same, Function.update_eq_self]
    · rw [Function.update_of_ne (foreign source owner)]

theorem hasSuffix_append (name suffix : String) : HasSuffix suffix (name ++ suffix) :=
  ⟨name.toList, String.toList_append.symm⟩

/-- A temporary file is new and empty. -/
theorem openTemporary_cases {outcome : Except Raised String} (h : calls.openTemporary s = (outcome, t)) :
    ((∃ error, outcome = .error error) ∧ t.directory = s.directory) ∨
      ∃ temporary, outcome = .ok temporary ∧ HasSuffix ".tmp" temporary ∧ s.directory temporary = none ∧
        t.directory = Function.update s.directory temporary (some (.file [])) := by
  rw [PublicationCalls.openTemporary] at h
  rcases bind_cases h with ⟨error, layout, rfl⟩ | ⟨_, s₁, layout, h⟩
  · exact .inl ⟨⟨error, rfl⟩, perform_directory layout⟩
  have first := perform_directory layout
  cases taken : s₁.directory (publishName (calls.random s₁.made)) with
  | some entry =>
    simp [nextCall, bind_apply, taken] at h
    exact .inl ⟨⟨_, h.1.symm⟩, by rw [← h.2]; exact first⟩
  | none =>
    cases answered : calls.answer s₁.made with
    | error error =>
      simp [nextCall, bind_apply, taken, answered] at h
      exact .inl ⟨⟨_, h.1.symm⟩, by rw [← h.2]; exact first⟩
    | ok =>
      simp [nextCall, bind_apply, taken, answered] at h
      exact .inr ⟨_, h.1.symm, hasSuffix_append _ _, first ▸ taken, by rw [← h.2]; exact first ▸ rfl⟩

/-- A copy puts the stream at the destination, or leaves it. -/
theorem publishCopy_cases {name : String} (captures : calls.Captures name stream) (observes : capture.Observes stream)
    (plain : ¬ HasSuffix ".tmp" destination) {outcome : Except Raised (Bool × Bool)}
    (h : calls.publishCopy name destination capture s = (outcome, t)) :
    Republished capture root destination stream (∃ result, outcome = .ok result) s t ∧
      ∀ exhausted, outcome = .ok (true, exhausted) → t.directory destination = some (.file stream) := by
  rw [PublicationCalls.publishCopy] at h
  rcases bind_cases h with ⟨error, opened, rfl⟩ | ⟨temporary, s₁, opened, h⟩
  · obtain ⟨-, same⟩ | ⟨_, same, _⟩ := openTemporary_cases opened
    · exact ⟨.of_same same, nofun⟩
    · cases same
  obtain ⟨⟨_, failed⟩, -⟩ | ⟨_, ⟨⟩, suffix, fresh, first⟩ := openTemporary_cases opened
  · cases failed
  have uses : capture.Uses root temporary := .inr suffix
  have other : temporary ≠ destination := by
    rintro rfl
    exact plain suffix
  obtain ⟨body, s₂, ran, h⟩ := attempt_bind h
  -- either the stream is at the destination, or the temporary file still holds a part of it
  have settled : (∃ entry, s₂.directory = Function.update s.directory temporary entry) ∧ (∃ error, body = .error error) ∨
      s₂.directory = Function.update (Function.update s.directory temporary none) destination (some (.file stream)) := by
    have held : s₁.directory temporary = some (.file []) := by rw [first, Function.update_self]
    rcases bind_cases ran with ⟨error, copied, rfl⟩ | ⟨_, r, copied, ran⟩
    · obtain ⟨content, after, -⟩ := copyObserved_file captures observes held copied
      exact .inl ⟨⟨_, by rw [after, first, Function.update_idem]⟩, error, rfl⟩
    obtain ⟨content, after, whole⟩ := copyObserved_file captures observes held copied
    rw [whole rfl, first, Function.update_idem] at after
    rcases bind_cases ran with ⟨error, checked, rfl⟩ | ⟨_, r', checked, ran⟩
    · exact .inl ⟨⟨_, (perform_directory checked).trans after⟩, error, rfl⟩
    have copy := (perform_directory checked).trans after
    have present : r'.directory temporary = some (.file stream) := by rw [copy, Function.update_self]
    rcases bind_cases ran with ⟨error, replaced, rfl⟩ | ⟨_, r'', replaced, ran⟩
    · obtain ⟨-, same⟩ | ⟨ended, -⟩ := replaceFile_cases present replaced
      · exact .inl ⟨⟨_, same.trans copy⟩, error, rfl⟩
      · cases ended
    obtain ⟨⟨_, failed⟩, -⟩ | ⟨-, moved⟩ := replaceFile_cases present replaced
    · cases failed
    rw [copy, Function.update_idem] at moved
    exact .inr ((perform_directory ran).trans moved)
  cases body with
  | ok =>
    obtain ⟨-, _, failed⟩ | moved := settled
    · cases failed
    obtain ⟨rfl, rfl⟩ := Prod.mk.inj h
    exact ⟨.of_stream uses (fun _ => .inl fresh.symm) moved, fun _ _ => by
      show s₂.directory destination = _
      rw [moved, Function.update_self]⟩
  | error error =>
    rcases bind_cases h with ⟨error', removed, rfl⟩ | ⟨_, s₃, removed, h⟩
    · have same := perform_directory removed
      refine ⟨?_, nofun⟩
      obtain ⟨⟨entry, kept⟩, -⟩ | moved := settled
      · exact .of_used uses other (fun ⟨_, ended⟩ => (nomatch ended)) (same.trans kept)
      · exact .of_stream uses (fun ⟨_, ended⟩ => (nomatch ended)) (same.trans moved)
    have same := perform_directory removed
    have erased : t.directory = Function.update s₂.directory temporary none ∧
        ∀ exhausted, outcome ≠ .ok (true, exhausted) := by
      rw [modify_bind] at h
      split at h <;> obtain ⟨rfl, rfl⟩ := Prod.mk.inj h
      · exact ⟨by rw [← same], fun _ => nofun⟩
      · exact ⟨by rw [← same], fun _ => nofun⟩
    refine ⟨?_, fun exhausted ended => absurd ended (erased.2 exhausted)⟩
    obtain ⟨⟨entry, kept⟩, -⟩ | moved := settled
    · exact .of_used uses other (fun _ => .inl fresh.symm) (erased.1.trans (by rw [kept, Function.update_idem]))
    · have erasure : t.directory = Function.update (Function.update s.directory temporary none) destination
          (some (.file stream)) := by
        rw [erased.1, moved, Function.update_comm other.symm, Function.update_idem]
      exact .of_stream uses (fun _ => .inl fresh.symm) erasure

/-- A promotion moves the capture to the destination, or changes nothing. -/
theorem promoteCapture_cases {source : CapturePath} {outcome : Except Raised Bool}
    (h : calls.promoteCapture root source destination s = (outcome, t)) :
    t.directory = s.directory ∧ outcome ≠ .ok true ∨
      ∃ content, source.Staged root ∧ s.directory source.name = some (.file content) ∧
        t.directory = Function.update (Function.update s.directory source.name none) destination
          (some (.file content)) := by
  rw [PublicationCalls.promoteCapture] at h
  rcases bind_cases h with ⟨error, checked, rfl⟩ | ⟨found, s₁, checked, h⟩
  · exact .inl ⟨(stagedCapture_cases checked).1, nofun⟩
  obtain ⟨first, holds⟩ := stagedCapture_cases checked
  obtain ⟨staged, present⟩ := holds found rfl
  cases found with
  | none =>
    obtain ⟨rfl, rfl⟩ := Prod.mk.inj h
    exact .inl ⟨first, nofun⟩
  | some content =>
    rcases bind_cases h with ⟨error, valid, rfl⟩ | ⟨_, s₂, valid, h⟩
    · exact .inl ⟨(perform_directory valid).trans first, nofun⟩
    have second := (perform_directory valid).trans first
    have held : s₂.directory source.name = some (.file content) := by rw [second, present]; rfl
    rcases bind_cases h with ⟨error, replaced, rfl⟩ | ⟨_, s₃, replaced, h⟩
    · obtain ⟨-, same⟩ | ⟨ended, -⟩ := replaceFile_cases held replaced
      · exact .inl ⟨same.trans second, nofun⟩
      · cases ended
    obtain ⟨⟨_, failed⟩, -⟩ | ⟨-, moved⟩ := replaceFile_cases held replaced
    · cases failed
    refine .inr ⟨content, staged, present, ?_⟩
    rw [← second, ← moved]
    rcases bind_cases h with ⟨error, valid', rfl⟩ | ⟨_, s₄, valid', h⟩
    · exact perform_directory valid'
    · obtain ⟨-, rfl⟩ := Prod.mk.inj h
      exact perform_directory valid'

/-- The suffix is appended to the capture, as far as the writes get. -/
theorem appendCaptureSuffix_cases {source : CapturePath} {content suffix : List UInt8} {expectedSize : Nat}
    (held : s.directory source.name = some (.file content)) {outcome : Except Raised Unit}
    (h : calls.appendCaptureSuffix source suffix expectedSize s = (outcome, t)) :
    ∃ part, t.directory = Function.update s.directory source.name (some (.file part)) ∧
      (outcome = .ok () → part = content ++ suffix) := by
  have same : s.directory = Function.update s.directory source.name (some (.file content)) := by
    rw [← held, Function.update_eq_self]
  rw [PublicationCalls.appendCaptureSuffix] at h
  rcases bind_cases h with ⟨error, valid, rfl⟩ | ⟨_, s₁, valid, h⟩
  · exact ⟨content, (perform_directory valid).trans same, nofun⟩
  rcases bind_cases h with ⟨error, opened, rfl⟩ | ⟨_, s₂, opened, h⟩
  · exact ⟨content, ((perform_directory opened).trans (perform_directory valid)).trans same, nofun⟩
  have second := (perform_directory opened).trans (perform_directory valid)
  obtain ⟨body, s₃, ran, h⟩ := attempt_bind h
  have written : ∃ part, s₃.directory = Function.update s.directory source.name (some (.file part)) ∧
      (body = .ok () → part = content ++ suffix) := by
    rcases bind_cases ran with ⟨error, checked, rfl⟩ | ⟨_, r, checked, ran⟩
    · exact ⟨content, ((unchangedCapture_directory checked).trans second).trans same, nofun⟩
    have third := (unchangedCapture_directory checked).trans second
    obtain ⟨k, -, after, whole⟩ := writeBytes_file (Nat.le_refl _) (third ▸ held) ran
    refine ⟨_, third ▸ after, fun ended => ?_⟩
    rw [whole ended, List.take_length]
  obtain ⟨part, after, whole⟩ := written
  rcases bind_cases h with ⟨error, closed, rfl⟩ | ⟨_, s₄, closed, h⟩
  · exact ⟨part, (perform_directory closed).trans after, nofun⟩
  have closed := (perform_directory closed).trans after
  rcases bind_cases h with ⟨error, failed, rfl⟩ | ⟨_, s₅, ended, h⟩
  · obtain ⟨-, rfl⟩ := Prod.mk.inj failed
    exact ⟨part, closed, nofun⟩
  obtain ⟨returned, rfl⟩ := lift_ok.mp ended
  exact ⟨part, (perform_directory h).trans closed, fun _ => whole returned⟩

/-- A stable capture is promoted as the whole stream, or not at all. -/
theorem completeStableCapture_cases {source : CapturePath} {content : List UInt8}
    (owner : capture.source = some source) (staged : source.Staged root) (apart : source.name ≠ destination) (observes : capture.Observes stream)
    (held : s.directory source.name = some (.file content)) (inside : content <+: stream)
    {outcome : Except Raised Bool}
    (h : calls.completeStableCapture root source destination content.length capture s = (outcome, t)) :
    Republished capture root destination stream True s t ∧
      (outcome = .ok true → t.directory destination = some (.file stream)) := by
  have uses : capture.Uses root source.name := .inl ⟨source, owner, staged, rfl⟩
  have keeps {entry : Option Entry} (_ : True) : capture.MayKeep s source.name entry := .inr ⟨source, owner, rfl⟩
  have whole : content.length = stream.length → content = stream := fun size => inside.eq_of_length size
  rw [PublicationCalls.completeStableCapture, observes.bytes, observes.tail] at h
  rw [if_neg (Nat.not_lt.mpr inside.length_le)] at h
  split at h
  case isFalse full =>
    have complete := whole (Nat.le_antisymm inside.length_le (Nat.not_lt.mp full))
    obtain ⟨same, unpublished⟩ | ⟨found, -, present, moved⟩ := promoteCapture_cases h
    · exact ⟨.of_same same, fun ended => absurd ended unpublished⟩
    · cases held.symm.trans present
      rw [complete] at moved
      exact ⟨.of_stream uses keeps moved, fun _ => by rw [moved, Function.update_self]⟩
  case isTrue missing =>
    dsimp only at h
    split at h
    case isTrue =>
      obtain ⟨rfl, rfl⟩ := Prod.mk.inj h
      exact ⟨.of_same rfl, nofun⟩
    case isFalse reaches =>
      split at h
      case isTrue =>
        obtain ⟨rfl, rfl⟩ := Prod.mk.inj h
        exact ⟨.of_same rfl, nofun⟩
      case isFalse =>
        have joined := append_diagnosticTail inside (Nat.not_lt.mp reaches)
        rcases bind_cases h with ⟨error, appended, rfl⟩ | ⟨_, s₁, appended, h⟩
        · obtain ⟨part, after, -⟩ := appendCaptureSuffix_cases held appended
          exact ⟨.of_used uses apart keeps after, nofun⟩
        obtain ⟨part, after, ended⟩ := appendCaptureSuffix_cases held appended
        rw [ended rfl, joined] at after
        obtain ⟨same, unpublished⟩ | ⟨found, -, present, moved⟩ := promoteCapture_cases h
        · exact ⟨.of_used uses apart keeps (same.trans after), fun ended => absurd ended unpublished⟩
        · rw [after, Function.update_self] at present
          cases present
          rw [after, Function.update_idem] at moved
          exact ⟨.of_stream uses keeps moved, fun _ => by rw [moved, Function.update_self]⟩

/-- What a capture and what was observed of it have to do with the stream. That a
complete capture holds all of it is what `_capture_result` promises. -/
structure CaptureResult.Describes (capture : CaptureResult) (calls : PublicationCalls) (root : String)
    (stream : List UInt8) (s : Publishing) : Prop extends capture.Observes stream where
  inside : ∀ source content, capture.source = some source → source.Staged root →
    s.directory source.name = some (.file content) → content <+: stream
  whole : ∀ source content, capture.source = some source → source.Staged root → capture.complete = true →
    s.directory source.name = some (.file content) → content = stream
  captures : ∀ source, capture.source = some source → calls.Captures source.name stream

/-- A capture file is never the destination. -/
theorem staged_apart {source : CapturePath} (staged : source.Staged root) (plain : ¬ HasSuffix ".capture" destination) :
    source.name ≠ destination := by
  intro same
  exact plain (same ▸ staged.2)

/-- The fallback for a capture that is not stable: the recovered bytes, or nothing. -/
theorem publishPartialCapture_cases {source : CapturePath} (owner : capture.source = some source)
    (describes : capture.Describes calls root stream s) (final : ¬ HasSuffix ".capture" destination)
    (plain : ¬ HasSuffix ".tmp" destination) {outcome : Except Raised (Bool × Bool)}
    (h : calls.publishPartialCapture root source destination capture s = (outcome, t)) :
    Republished capture root destination stream (∃ result, outcome = .ok result) s t ∧
      ∀ exhausted, outcome = .ok (true, exhausted) → t.directory destination = some (.file stream) := by
  rw [PublicationCalls.publishPartialCapture] at h
  rcases bind_cases h with ⟨error, checked, rfl⟩ | ⟨found, s₁, checked, h₁⟩
  · exact ⟨.of_same (stagedCapture_cases checked).1, nofun⟩
  obtain ⟨first, holds⟩ := stagedCapture_cases checked
  obtain ⟨staged, present⟩ := holds found rfl
  have carried {returned : Prop} {t : Publishing} (after : Republished capture root destination stream returned s₁ t) :
      Republished capture root destination stream returned s t := by
    obtain ⟨exact, frame, clean⟩ := after
    rw [first] at exact frame clean
    exact ⟨exact, frame, clean⟩
  cases found with
  | none =>
    obtain ⟨rfl, rfl⟩ := Prod.mk.inj h₁
    exact ⟨.of_same first, nofun⟩
  | some content =>
    dsimp only at h₁
    split at h₁
    case isTrue =>
      obtain ⟨body, s₂, ran, h₂⟩ := attempt_bind h₁
      have held : s₁.directory source.name = some (.file content) := by
        rw [first, present]
        rfl
      have inside := describes.inside source content owner staged present
      obtain ⟨after, published⟩ := completeStableCapture_cases owner staged (staged_apart staged final)
        describes.toObserves held inside ran
      cases body with
      | ok promoted =>
        obtain ⟨rfl, rfl⟩ := Prod.mk.inj h₂
        obtain ⟨exact, frame, clean⟩ := carried after
        refine ⟨⟨exact, frame, fun _ => clean trivial⟩, fun exhausted ended => published ?_⟩
        rw [Except.ok.injEq, Prod.mk.injEq] at ended
        rw [ended.1]
      | error error =>
        dsimp only at h₂
        split at h₂ <;> obtain ⟨rfl, rfl⟩ := Prod.mk.inj h₂
        · exact ⟨carried after.always, nofun⟩
        · exact ⟨carried after.always, nofun⟩
    case isFalse =>
      obtain ⟨after, published⟩ := publishCopy_cases (describes.captures source owner) describes.toObserves plain h₁
      exact ⟨carried after, published⟩

/-- All ways a stream is promoted, in the order the code tries them. -/
theorem promoteStream_cases (describes : capture.Describes calls root stream s)
    (final : ¬ HasSuffix ".capture" destination) (plain : ¬ HasSuffix ".tmp" destination)
    {outcome : Except Raised (Bool × Bool)} (h : calls.promoteStream root destination capture s = (outcome, t)) :
    Republished capture root destination stream (∃ result, outcome = .ok result) s t ∧
      ∀ exhausted, outcome = .ok (true, exhausted) → t.directory destination = some (.file stream) := by
  rw [PublicationCalls.promoteStream] at h
  cases owner : capture.source with
  | none =>
    rw [owner] at h
    obtain ⟨rfl, rfl⟩ := Prod.mk.inj h
    exact ⟨.of_same rfl, nofun⟩
  | some source =>
    rw [owner] at h
    dsimp only at h
    split at h
    case isFalse => exact publishPartialCapture_cases owner describes final plain h
    case isTrue complete =>
      have settled {outcome : Except Raised Bool} (h : calls.promoteCapture root source destination s = (outcome, t)) :
          Republished capture root destination stream True s t ∧
            (outcome = .ok true → t.directory destination = some (.file stream)) := by
        obtain ⟨same, unpublished⟩ | ⟨content, staged, present, moved⟩ := promoteCapture_cases h
        · exact ⟨.of_same same, fun ended => absurd ended unpublished⟩
        · rw [describes.whole source content owner staged complete present] at moved
          exact ⟨.of_stream (.inl ⟨source, owner, staged, rfl⟩) (fun _ => .inr ⟨source, owner, rfl⟩) moved, fun _ => by rw [moved, Function.update_self]⟩
      rcases bind_cases h with ⟨error, promoted, rfl⟩ | ⟨promoted, s₁, promoting, h₁⟩
      · exact ⟨(settled promoted).1.always, nofun⟩
      obtain ⟨rfl, rfl⟩ := Prod.mk.inj h₁
      obtain ⟨after, published⟩ := settled promoting
      refine ⟨after.always, fun exhausted ended => published ?_⟩
      rw [Except.ok.injEq, Prod.mk.injEq] at ended
      rw [ended.1]

/-- The stream or its fallback is at the destination when the publication returns; when it
raises the destination may still be what it was. -/
structure Published (capture : CaptureResult) (root destination fallback : String) (stream : List UInt8)
    (returned : Prop) (s t : Publishing) : Prop where
  exact : returned → t.directory destination = some (.file stream) ∨
    t.directory destination = some (.file (Utf8.encode fallback.toList))
  raised : t.directory destination = s.directory destination ∨ t.directory destination = some (.file stream) ∨
    t.directory destination = some (.file (Utf8.encode fallback.toList))
  frame : ∀ name, name ≠ destination → ¬ capture.Uses root name → t.directory name = s.directory name
  clean : returned → ∀ name, name ≠ destination → (∀ source, capture.source = some source → name ≠ source.name) →
    t.directory name = s.directory name

/-- Whatever way it took, a stream is published or its fallback is. -/
theorem publishStream_published (describes : capture.Describes calls root stream s)
    (final : ¬ HasSuffix ".capture" destination) (plain : ¬ HasSuffix ".tmp" destination) {fallback : String}
    {outcome : Except Raised Bool} (h : calls.publishStream root destination capture fallback s = (outcome, t)) :
    Published capture root destination fallback stream (∃ exhausted, outcome = .ok exhausted) s t := by
  rw [PublicationCalls.publishStream] at h
  rcases bind_cases h with ⟨error, promoted, rfl⟩ | ⟨⟨promoted, exhausted⟩, s₁, promoting, h₁⟩
  · obtain ⟨after, -⟩ := promoteStream_cases describes final plain promoted
    refine ⟨fun ⟨_, ended⟩ => (nomatch ended), ?_, after.frame, fun ⟨_, ended⟩ => (nomatch ended)⟩
    exact after.exact.imp_right .inl
  obtain ⟨after, published⟩ := promoteStream_cases describes final plain promoting
  -- the fallback replaces what was not promoted
  have written {outcome : Except Raised Unit} {s₂ : Publishing}
      (h : calls.writeFallback root destination fallback promoted s₁ = (outcome, s₂)) :
      Published capture root destination fallback stream (outcome = .ok ()) s s₂ := by
    rw [PublicationCalls.writeFallback] at h
    split at h
    case isTrue done =>
      obtain ⟨rfl, rfl⟩ := Prod.mk.inj h
      have exact := published exhausted (by rw [done])
      exact ⟨fun _ => .inl exact, .inr (.inl exact), after.frame, fun _ => after.clean ⟨_, rfl⟩⟩
    case isFalse =>
      rcases bind_cases h with ⟨_, numbered, -⟩ | ⟨n, r, numbered, h'⟩
      · cases numbered
      obtain ⟨-, rfl⟩ := Prod.mk.inj numbered
      obtain ⟨rfl, rfl⟩ := Prod.mk.inj h'
      obtain ⟨wrote, ended⟩ := atomicWrite_plain_cases (Prod.eta (atomicWriteText
        ⟨root ++ "/" ++ destination, destination⟩ fallback (calls.answer n) (calls.atomic n) s₁.directory)).symm
      refine ⟨fun returned => .inr ?_, ?_, fun name different unused => ?_, fun returned name different foreign => ?_⟩
      · rw [ended returned]
        exact Function.update_self _ _ _
      · obtain kept | moved := wrote.destination
        · obtain same | exact := after.exact
          · exact .inl (kept.trans same)
          · exact .inr (.inl (kept.trans exact))
        · exact .inr (.inr moved)
      · have distinct : ∀ random, name ≠ temporaryName destination random := by
          rintro random rfl
          exact unused (.inr (hasSuffix_append _ _))
        exact (wrote.frame name different distinct).trans (after.frame name different unused)
      · rw [ended returned]
        refine (Function.update_of_ne different _ _).trans ?_
        exact after.clean ⟨_, rfl⟩ name different foreign
  rcases bind_cases h₁ with ⟨error, failed, rfl⟩ | ⟨_, s₂, wrote, h₂⟩
  · exact ⟨fun ⟨_, ended⟩ => (nomatch ended), (written failed).raised, (written failed).frame,
      fun ⟨_, ended⟩ => (nomatch ended)⟩
  obtain ⟨exact, raised, frame, clean⟩ := written wrote
  have same : t.directory = s₂.directory := by
    rcases bind_cases h₂ with ⟨error, checked, rfl⟩ | ⟨_, s₃, checked, h₃⟩
    · exact perform_directory checked
    · obtain ⟨-, rfl⟩ := Prod.mk.inj h₃
      exact perform_directory checked
  rw [← same] at exact raised frame clean
  exact ⟨fun _ => exact rfl, raised, frame, fun _ => clean rfl⟩

end Destination

end SprintTicket
