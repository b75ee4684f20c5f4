import SprintTicket.Codex.Publication

/-!
# What is published

The publication changes a destination to the stream or to its fallback, whatever the
system answers (`publishStream_published`). Where the calls of the system succeed it
returns, and publishes what a stable capture and the tail hold between them
(`publishStream_returns`). `published_exact` puts this together for both streams.
-/

set_option autoImplicit false

namespace SprintTicket

open Checks Effects Effects.Effect

/-! ## When the calls work -/

/-- All calls of an atomic write succeed. -/
structure WriteCalls.Working (calls : WriteCalls) : Prop where
  opens : ∃ random rest, calls.candidates = (random, .ok ()) :: rest
  makeParent : calls.makeParent = .ok ()
  openDescriptor : calls.openDescriptor = .ok ()
  flush : calls.flush = .ok ()
  sync : calls.sync = .ok ()
  close : calls.close = .ok ()
  replace : calls.replace = .ok ()
  syncParent : calls.syncParent = .ok ()

/-- With working calls the atomic write succeeds. -/
theorem atomicWriteText_returns {target : WriteTarget} {value : String} {calls : WriteCalls} {before : Listing}
    (working : calls.Working) (fresh : ∀ random, before (temporaryName target.name random) = none)
    (free : before target.name ≠ some .directory) :
    (atomicWriteText target value (.ok ()) calls before).1 = .ok () := by
  obtain ⟨⟨random, rest, opens⟩, makeParent, openDescriptor, flush, sync, close, replace, syncParent⟩ := working
  have other := temporaryName_ne target.name random
  simp [atomicWriteText, atomicWriteTextPayload, atomicWrite, textPayload, bind_apply, makeParent, opens, makeTemporary,
    fresh, openDescriptor, fillTemporary, flush, sync, close, Commit.plain, Commit.run, replaceDestination, replace,
    Function.update_of_ne other.symm, free, syncParent]

/-- All calls of a publication succeed, and every read or write moves bytes. -/
structure PublicationCalls.Working (calls : PublicationCalls) : Prop where
  answers : ∀ n, calls.answer n = .ok ()
  links : ∀ n, calls.links n = 1
  progress : ∀ n, 0 < calls.amount n
  atomic : ∀ n, (calls.atomic n).Working

/-- The directory that the publication of a stream starts from. -/
structure CaptureResult.Ready (capture : CaptureResult) (root destination : String) (s : Publishing) : Prop where
  tidy : ∀ name, HasSuffix ".tmp" name → s.directory name = none
  free : s.directory destination ≠ some .directory
  staged : ∀ source, capture.source = some source → source.Staged root
  regular : ∀ source, capture.source = some source →
    s.directory source.name = none ∨ ∃ content, s.directory source.name = some (.file content)

/-- The capture holds the stream, or it is stable and the tail has what it misses. -/
def CaptureResult.Recoverable (capture : CaptureResult) (stream : List UInt8) (s : Publishing) : Prop :=
  ∃ source content, capture.source = some source ∧ s.directory source.name = some (.file content) ∧
    (capture.complete = true ∨
      capture.stable = true ∧ stream.length ≤ content.length + capture.observedTail.length)

/-- What stops a copy without an error of the system. -/
def Excused {α : Type} (outcome : Except Raised α) : Prop :=
  ∀ error, outcome = .error error → error = publicationExpired ∨ error = partialCaptureUnavailable

section Working

variable {calls : PublicationCalls} {capture : CaptureResult} {source : CapturePath} {root destination name : String}
  {stream content : List UInt8} {s t : Publishing}

theorem perform_returns (working : calls.Working) {outcome : Except Raised Unit}
    (h : calls.perform s = (outcome, t)) : outcome = .ok () := by
  obtain ⟨rfl, -⟩ := Prod.mk.inj h
  exact working.answers _

/-- The only excuse is the deadline, and only where it is asked for. -/
theorem keepTime_excused {timed : Bool} {outcome : Except Raised Unit} (h : calls.keepTime timed s = (outcome, t)) :
    outcome = .ok () ∨ timed = true ∧ outcome = .error publicationExpired := by
  cases timed
  · obtain ⟨rfl, -⟩ := Prod.mk.inj h
    exact .inl rfl
  · obtain ⟨rfl, -⟩ := Prod.mk.inj h
    show raiseIf _ _ = _ ∨ _
    unfold raiseIf
    split
    · exact .inr ⟨rfl, rfl⟩
    · exact .inl rfl

/-- A working write makes progress. -/
theorem writeSome_returns (working : calls.Working) {view : List UInt8} (left : view ≠ [])
    {outcome : Except Raised Nat} (h : calls.writeSome name view s = (outcome, t)) :
    ∃ written, outcome = .ok written ∧ 0 < written := by
  simp only [PublicationCalls.writeSome, nextCall, bind_apply, modify_apply, lift_apply, working.answers] at h
  obtain ⟨rfl, -⟩ := Prod.mk.inj h
  have some := List.length_pos_iff.mpr left
  have progress := working.progress s.made
  exact ⟨_, rfl, by omega⟩

/-- A write with a deadline stops only for it. -/
theorem writeBytes_excused (working : calls.Working) {timed : Bool} {fuel : Nat} {view : List UInt8}
    {outcome : Except Raised Unit} (h : calls.writeBytes timed name fuel view s = (outcome, t)) :
    outcome = .ok () ∨ timed = true ∧ outcome = .error publicationExpired := by
  induction fuel generalizing view s with
  | zero =>
    obtain ⟨rfl, -⟩ := Prod.mk.inj h
    exact .inl rfl
  | succ fuel ih =>
    rw [PublicationCalls.writeBytes] at h
    split at h
    case isTrue =>
      obtain ⟨rfl, -⟩ := Prod.mk.inj h
      exact .inl rfl
    case isFalse left =>
      rcases bind_cases h with ⟨error, checked, rfl⟩ | ⟨_, s₁, -, h₁⟩
      · obtain ended | ⟨limited, ended⟩ := keepTime_excused checked
        · cases ended
        · exact .inr ⟨limited, ended⟩
      rcases bind_cases h₁ with ⟨error, failed, rfl⟩ | ⟨written, s₂, wrote, h₂⟩
      · obtain ⟨_, ended, -⟩ := writeSome_returns working left failed
        cases ended
      obtain ⟨_, ⟨⟩, moved⟩ := writeSome_returns working left wrote
      rcases bind_cases h₂ with ⟨error, stalled, rfl⟩ | ⟨_, s₃, -, h₃⟩
      · rw [lift_apply, raiseIf, if_neg (Nat.ne_of_gt moved)] at stalled
        cases stalled
      · exact ih h₃

/-- Copying fails by the deadline alone. -/
theorem copyCapture_excused (working : calls.Working) {temporary : String} {fuel remaining copied : Nat}
    {outcome : Except Raised Nat} (h : calls.copyCapture name temporary fuel remaining copied s = (outcome, t)) :
    Excused outcome := by
  induction fuel generalizing remaining copied s with
  | zero =>
    obtain ⟨rfl, -⟩ := Prod.mk.inj h
    exact nofun
  | succ fuel ih =>
    rw [PublicationCalls.copyCapture] at h
    split at h
    case isTrue =>
      obtain ⟨rfl, -⟩ := Prod.mk.inj h
      exact nofun
    case isFalse =>
      rcases bind_cases h with ⟨error, checked, rfl⟩ | ⟨_, s₁, -, h₁⟩
      · obtain ended | ⟨-, ended⟩ := @keepTime_excused _ _ _ true _ checked
        · cases ended
        · rintro _ ⟨⟩
          cases ended
          exact .inl rfl
      rcases bind_cases h₁ with ⟨error, failed, rfl⟩ | ⟨chunk, s₂, -, h₂⟩
      · simp [PublicationCalls.readSome, nextCall, bind_apply, working.answers] at failed
      split at h₂
      · obtain ⟨rfl, -⟩ := Prod.mk.inj h₂
        exact nofun
      · rcases bind_cases h₂ with ⟨error, failed, rfl⟩ | ⟨_, s₃, -, h₃⟩
        · obtain ended | ⟨-, ended⟩ := writeBytes_excused working failed
          · cases ended
          · rintro _ ⟨⟩
            cases ended
            exact .inl rfl
        · exact ih h₃

theorem copyObserved_excused (working : calls.Working) {temporary : String} {outcome : Except Raised Unit}
    (h : calls.copyObserved name temporary capture s = (outcome, t)) : Excused outcome := by
  rcases bind_cases h with ⟨error, failed, rfl⟩ | ⟨_, s₁, -, h₁⟩
  · cases perform_returns working failed
  obtain ⟨body, s₂, ran, h₂⟩ := attempt_bind h₁
  have excused : Excused body := by
    rcases bind_cases ran with ⟨error, failed, rfl⟩ | ⟨copied, r, -, ran₁⟩
    · intro error' same
      cases same
      exact copyCapture_excused working failed error rfl
    rcases bind_cases ran₁ with ⟨error, missing, rfl⟩ | ⟨_, r', -, ran₂⟩
    · rintro _ ⟨⟩
      have raised := (Prod.mk.inj missing).1
      unfold raiseIf at raised
      split at raised <;> cases raised
      exact .inr rfl
    · intro error same
      obtain ended | ⟨-, ended⟩ := writeBytes_excused working ran₂
      · cases ended.symm.trans same
      · cases ended.symm.trans same
        exact .inl rfl
  rcases bind_cases h₂ with ⟨error, failed, rfl⟩ | ⟨_, s₃, -, h₃⟩
  · cases perform_returns working failed
  · obtain ⟨rfl, -⟩ := Prod.mk.inj h₃
    exact excused

/-- The replace succeeds on a file that is there and a target that is not a directory. -/
theorem replaceFile_returns (working : calls.Working) (held : s.directory name = some (.file content))
    (free : s.directory destination ≠ some .directory) {outcome : Except Raised Unit}
    (h : calls.replaceFile name destination s = (outcome, t)) : outcome = .ok () := by
  simp [PublicationCalls.replaceFile, nextCall, bind_apply, onDirectory, replaceDestination, working.answers, held,
    free] at h
  exact h.1.symm

/-- Opening the capture answers, with the file or with its absence. -/
theorem stagedCapture_returns (working : calls.Working) (staged : source.Staged root)
    (regular : s.directory source.name = none ∨ ∃ content, s.directory source.name = some (.file content))
    {outcome : Except Raised (Option (List UInt8))} (h : calls.stagedCapture root source s = (outcome, t)) :
    ∃ found, outcome = .ok found := by
  obtain absent | ⟨content, present⟩ := regular
  · simp [PublicationCalls.stagedCapture, PublicationCalls.perform, nextCall, bind_apply, working.answers, raiseIf,
      staged, absent] at h
    exact ⟨_, h.1.symm⟩
  · simp [PublicationCalls.stagedCapture, PublicationCalls.perform, nextCall, bind_apply, working.answers, raiseIf,
      staged, present, working.links] at h
    exact ⟨_, h.1.symm⟩

theorem promoteCapture_returns (working : calls.Working) (staged : source.Staged root)
    (regular : s.directory source.name = none ∨ ∃ content, s.directory source.name = some (.file content))
    (free : s.directory destination ≠ some .directory) {outcome : Except Raised Bool}
    (h : calls.promoteCapture root source destination s = (outcome, t)) :
    outcome = .ok (s.directory source.name).isSome := by
  rcases bind_cases h with ⟨error, failed, rfl⟩ | ⟨found, s₁, checked, h₁⟩
  · obtain ⟨_, ended⟩ := stagedCapture_returns working staged regular failed
    cases ended
  obtain ⟨first, holds⟩ := stagedCapture_cases checked
  have present := (holds found rfl).2
  cases found with
  | none =>
    obtain ⟨rfl, -⟩ := Prod.mk.inj h₁
    rw [present]
    rfl
  | some content =>
    rcases bind_cases h₁ with ⟨error, failed, rfl⟩ | ⟨_, s₂, valid, h₂⟩
    · cases perform_returns working failed
    have same := (perform_directory valid).trans first
    have held : s₂.directory source.name = some (.file content) := by rw [same, present]; rfl
    rw [← same] at free
    rcases bind_cases h₂ with ⟨error, failed, rfl⟩ | ⟨_, s₃, -, h₃⟩
    · cases replaceFile_returns working held free failed
    rcases bind_cases h₃ with ⟨error, failed, rfl⟩ | ⟨_, s₄, -, h₄⟩
    · cases perform_returns working failed
    obtain ⟨rfl, -⟩ := Prod.mk.inj h₄
    rw [present]
    rfl

theorem appendCaptureSuffix_returns (working : calls.Working) {suffix : List UInt8}
    (held : s.directory source.name = some (.file content)) {outcome : Except Raised Unit}
    (h : calls.appendCaptureSuffix source suffix content.length s = (outcome, t)) : outcome = .ok () := by
  rcases bind_cases h with ⟨error, failed, rfl⟩ | ⟨_, s₁, valid, h₁⟩
  · cases perform_returns working failed
  rcases bind_cases h₁ with ⟨error, failed, rfl⟩ | ⟨_, s₂, opened, h₂⟩
  · cases perform_returns working failed
  have same := (perform_directory opened).trans (perform_directory valid)
  obtain ⟨body, s₃, ran, h₃⟩ := attempt_bind h₂
  have written : body = .ok () := by
    rcases bind_cases ran with ⟨error, failed, rfl⟩ | ⟨_, r, -, ran₁⟩
    · rw [← same] at held
      simp [PublicationCalls.unchangedCapture, PublicationCalls.perform, nextCall, bind_apply, working.answers, raiseIf,
        held, working.links] at failed
    · obtain ended | ⟨limited, -⟩ := writeBytes_excused working ran₁
      · exact ended
      · cases limited
  rcases bind_cases h₃ with ⟨error, failed, rfl⟩ | ⟨_, s₄, -, h₄⟩
  · cases perform_returns working failed
  rw [written] at h₄
  exact perform_returns working h₄

/-- A stable capture is promoted when the tail has what it misses. -/
theorem completeStableCapture_returns (working : calls.Working) (staged : source.Staged root)
    (observes : capture.Observes stream) (held : s.directory source.name = some (.file content))
    (inside : content <+: stream) (apart : source.name ≠ destination)
    (free : s.directory destination ≠ some .directory) {outcome : Except Raised Bool}
    (h : calls.completeStableCapture root source destination content.length capture s = (outcome, t)) :
    ∃ promoted, outcome = .ok promoted ∧
      (stream.length ≤ content.length + capture.observedTail.length → promoted = true) := by
  rw [PublicationCalls.completeStableCapture, observes.bytes, if_neg (Nat.not_lt.mpr inside.length_le)] at h
  have promotes {s' : Publishing} {part : List UInt8} {outcome : Except Raised Bool}
      (held : s'.directory source.name = some (.file part)) (free : s'.directory destination ≠ some .directory)
      (h : calls.promoteCapture root source destination s' = (outcome, t)) : outcome = .ok true := by
    rw [promoteCapture_returns working staged (.inr ⟨part, held⟩) free h, held]
    rfl
  split at h
  case isFalse => exact ⟨true, promotes held free h, fun _ => rfl⟩
  case isTrue missing =>
    dsimp only at h
    split at h
    case isTrue short =>
      obtain ⟨rfl, -⟩ := Prod.mk.inj h
      exact ⟨false, rfl, fun covers => by omega⟩
    case isFalse reaches =>
      split at h
      case isTrue odd =>
        have size : capture.observedTail.length ≤ stream.length := by
          rw [observes.tail, diagnosticTail, List.length_drop]
          omega
        rw [List.length_drop] at odd
        omega
      case isFalse =>
        rcases bind_cases h with ⟨error, failed, rfl⟩ | ⟨_, s₁, appended, h₁⟩
        · cases appendCaptureSuffix_returns working held failed
        obtain ⟨part, after, -⟩ := appendCaptureSuffix_cases held appended
        have held₁ : s₁.directory source.name = some (.file part) := by rw [after, Function.update_self]
        have free₁ : s₁.directory destination ≠ some .directory := by
          rw [after, Function.update_of_ne apart.symm]
          exact free
        exact ⟨true, promotes held₁ free₁ h₁, fun _ => rfl⟩

/-- A copy that cannot be made gives way to the fallback. -/
theorem publishCopy_returns (working : calls.Working) (captures : calls.Captures name stream)
    (observes : capture.Observes stream) (plain : ¬ HasSuffix ".tmp" destination)
    (tidy : ∀ name, HasSuffix ".tmp" name → s.directory name = none)
    (free : s.directory destination ≠ some .directory) {outcome : Except Raised (Bool × Bool)}
    (h : calls.publishCopy name destination capture s = (outcome, t)) : ∃ result, outcome = .ok result := by
  rcases bind_cases h with ⟨error, failed, rfl⟩ | ⟨temporary, s₁, opened, h₁⟩
  · have fresh := tidy _ (hasSuffix_append (".codex-publish-" ++ calls.random (s.made + 1)) ".tmp")
    simp [PublicationCalls.openTemporary, PublicationCalls.perform, nextCall, bind_apply, working.answers,
      publishName, fresh] at failed
  obtain ⟨⟨_, failed⟩, -⟩ | ⟨_, ⟨⟩, suffix, -, first⟩ := openTemporary_cases opened
  · cases failed
  have other : temporary ≠ destination := by
    rintro rfl
    exact plain suffix
  obtain ⟨body, s₂, ran, h₂⟩ := attempt_bind h₁
  have excused : Excused body := by
    have held : s₁.directory temporary = some (.file []) := by rw [first, Function.update_self]
    rcases bind_cases ran with ⟨error, failed, rfl⟩ | ⟨_, r, copied, ran₁⟩
    · intro error' same
      cases same
      exact copyObserved_excused working failed error rfl
    obtain ⟨part, after, -⟩ := copyObserved_file captures observes held copied
    rw [first, Function.update_idem] at after
    rcases bind_cases ran₁ with ⟨error, failed, rfl⟩ | ⟨_, r₁, valid, ran₂⟩
    · cases perform_returns working failed
    have copy := (perform_directory valid).trans after
    have held₁ : r₁.directory temporary = some (.file part) := by rw [copy, Function.update_self]
    have free₁ : r₁.directory destination ≠ some .directory := by
      rw [copy, Function.update_of_ne other.symm]
      exact free
    rcases bind_cases ran₂ with ⟨error, failed, rfl⟩ | ⟨_, r₂, -, ran₃⟩
    · cases replaceFile_returns working held₁ free₁ failed
    · rw [perform_returns working ran₃]
      intro error same
      cases same
  cases body with
  | ok =>
    obtain ⟨rfl, -⟩ := Prod.mk.inj h₂
    exact ⟨_, rfl⟩
  | error error =>
    rcases bind_cases h₂ with ⟨error, failed, rfl⟩ | ⟨_, s₃, -, h₃⟩
    · cases perform_returns working failed
    rw [modify_bind] at h₃
    obtain rfl | rfl := excused error rfl
    · obtain ⟨rfl, -⟩ := Prod.mk.inj h₃
      exact ⟨_, rfl⟩
    · obtain ⟨rfl, -⟩ := Prod.mk.inj h₃
      exact ⟨_, rfl⟩

end Working

section Results

variable {calls : PublicationCalls} {capture : CaptureResult} {root destination fallback : String}
  {stream : List UInt8} {s t : Publishing}

theorem promoteStream_returns (working : calls.Working) (describes : capture.Describes calls root stream s)
    (ready : capture.Ready root destination s) (final : ¬ HasSuffix ".capture" destination)
    (plain : ¬ HasSuffix ".tmp" destination) {outcome : Except Raised (Bool × Bool)}
    (h : calls.promoteStream root destination capture s = (outcome, t)) :
    ∃ promoted exhausted, outcome = .ok (promoted, exhausted) ∧ (capture.Recoverable stream s → promoted = true) := by
  rw [PublicationCalls.promoteStream] at h
  cases owner : capture.source with
  | none =>
    rw [owner] at h
    obtain ⟨rfl, -⟩ := Prod.mk.inj h
    refine ⟨_, _, rfl, ?_⟩
    rintro ⟨source, content, own, -⟩
    cases owner.symm.trans own
  | some source =>
    rw [owner] at h
    have staged := ready.staged source owner
    have regular := ready.regular source owner
    dsimp only at h
    split at h
    case isTrue complete =>
      rcases bind_cases h with ⟨error, failed, rfl⟩ | ⟨promoted, s₁, promoting, h₁⟩
      · cases promoteCapture_returns working staged regular ready.free failed
      have ended := promoteCapture_returns working staged regular ready.free promoting
      obtain ⟨rfl, -⟩ := Prod.mk.inj h₁
      refine ⟨promoted, false, rfl, ?_⟩
      rintro ⟨source', content, own, present, -⟩
      cases owner.symm.trans own
      rw [present] at ended
      exact Except.ok.inj ended
    case isFalse partly =>
      rw [PublicationCalls.publishPartialCapture] at h
      rcases bind_cases h with ⟨error, failed, rfl⟩ | ⟨found, s₁, checked, h₁⟩
      · obtain ⟨_, ended⟩ := stagedCapture_returns working staged regular failed
        cases ended
      obtain ⟨first, holds⟩ := stagedCapture_cases checked
      have present := (holds found rfl).2
      cases found with
      | none =>
        obtain ⟨rfl, -⟩ := Prod.mk.inj h₁
        refine ⟨_, _, rfl, ?_⟩
        rintro ⟨source', content, own, there, -⟩
        cases owner.symm.trans own
        cases there.symm.trans present
      | some content =>
        have held : s₁.directory source.name = some (.file content) := by rw [first, present]; rfl
        have free : s₁.directory destination ≠ some .directory := by rw [first]; exact ready.free
        dsimp only at h₁
        split at h₁
        case isTrue =>
          obtain ⟨body, s₂, ran, h₂⟩ := attempt_bind h₁
          obtain ⟨promoted, rfl, covers⟩ := completeStableCapture_returns working staged describes.toObserves held
            (describes.inside source content owner staged present) (staged_apart staged final) free ran
          obtain ⟨rfl, -⟩ := Prod.mk.inj h₂
          refine ⟨promoted, _, rfl, ?_⟩
          rintro ⟨source', content', own, there, whole | ⟨-, reaches⟩⟩
          · exact absurd whole partly
          · cases owner.symm.trans own
            cases there.symm.trans present
            exact covers reaches
        case isFalse unstable =>
          have tidy : ∀ name, HasSuffix ".tmp" name → s₁.directory name = none := by rw [first]; exact ready.tidy
          obtain ⟨⟨promoted, exhausted⟩, ended⟩ :=
            publishCopy_returns working (describes.captures source owner) describes.toObserves plain tidy free h₁
          refine ⟨promoted, exhausted, ended, ?_⟩
          rintro ⟨source', content', own, there, whole | ⟨stable, -⟩⟩
          · exact absurd whole partly
          · exact absurd stable unstable

/-- With working calls the publication returns, and what can be recovered is published. -/
theorem publishStream_returns (working : calls.Working) (describes : capture.Describes calls root stream s)
    (ready : capture.Ready root destination s) (final : ¬ HasSuffix ".capture" destination)
    (plain : ¬ HasSuffix ".tmp" destination) {outcome : Except Raised Bool}
    (h : calls.publishStream root destination capture fallback s = (outcome, t)) :
    (∃ exhausted, outcome = .ok exhausted) ∧
      (capture.Recoverable stream s → t.directory destination = some (.file stream)) := by
  rcases bind_cases h with ⟨error, failed, rfl⟩ | ⟨⟨promoted, exhausted⟩, s₁, promoting, h₁⟩
  · obtain ⟨_, _, ended, -⟩ := promoteStream_returns working describes ready final plain failed
    cases ended
  obtain ⟨after, published⟩ := promoteStream_cases describes final plain promoting
  obtain ⟨_, _, same, recovered⟩ := promoteStream_returns working describes ready final plain promoting
  cases same
  have written {outcome : Except Raised Unit} {s₂ : Publishing}
      (h : calls.writeFallback root destination fallback promoted s₁ = (outcome, s₂)) :
      outcome = .ok () ∧ (promoted = true → s₂ = s₁) := by
    rw [PublicationCalls.writeFallback] at h
    split at h
    case isTrue =>
      obtain ⟨rfl, rfl⟩ := Prod.mk.inj h
      exact ⟨rfl, fun _ => rfl⟩
    case isFalse unpromoted =>
      rcases bind_cases h with ⟨_, numbered, -⟩ | ⟨n, r, numbered, h'⟩
      · cases numbered
      obtain ⟨-, rfl⟩ := Prod.mk.inj numbered
      obtain ⟨rfl, -⟩ := Prod.mk.inj h'
      refine ⟨?_, fun promoted => absurd promoted unpromoted⟩
      rw [working.answers]
      apply atomicWriteText_returns (working.atomic n)
      · intro random
        have temporary : HasSuffix ".tmp" (temporaryName destination random) := hasSuffix_append _ _
        have different : temporaryName destination random ≠ destination := temporaryName_ne _ _
        have foreign : ∀ source, capture.source = some source → temporaryName destination random ≠ source.name := by
          intro source owner same
          have capture := (ready.staged source owner).2
          rw [← same] at capture
          have clash := List.suffix_or_suffix_of_suffix capture temporary
          revert clash
          decide
        exact (after.clean ⟨_, rfl⟩ _ different foreign).trans (ready.tidy _ temporary)
      · intro blocked
        obtain same | exact := after.exact
        · exact ready.free (same.symm.trans blocked)
        · cases exact.symm.trans blocked
  rcases bind_cases h₁ with ⟨error, failed, rfl⟩ | ⟨_, s₂, wrote, h₂⟩
  · cases (written failed).1
  obtain ⟨-, kept⟩ := written wrote
  rcases bind_cases h₂ with ⟨error, failed, rfl⟩ | ⟨_, s₃, checked, h₃⟩
  · cases perform_returns working failed
  obtain ⟨rfl, rfl⟩ := Prod.mk.inj h₃
  refine ⟨⟨_, rfl⟩, fun recoverable => ?_⟩
  have done := recovered recoverable
  rw [perform_directory checked, kept done]
  exact published exhausted (by rw [done])

end Results

section Both

variable {calls : PublicationCalls} {stdout stderr : CaptureResult} {root stdoutFallback stderrFallback : String}
  {out err : List UInt8} {s t : Publishing}

/-- A stream, or the text that is kept in its place. -/
def HoldsOutput (stream : List UInt8) (fallback : String) (entry : Option Entry) : Prop :=
  entry = some (.file stream) ∨ entry = some (.file (Utf8.encode fallback.toList))

/-- The captures of the two streams are different files. -/
def SeparateCaptures (stdout stderr : CaptureResult) : Prop :=
  ∀ first second, stdout.source = some first → stderr.source = some second → first.name ≠ second.name

/-- Publishing one stream does not touch the capture file of the other. -/
theorem capture_unused {source : CapturePath} (staged : source.Staged root) {capture : CaptureResult}
    (separate : ∀ other, capture.source = some other → other.name ≠ source.name) :
    ¬ capture.Uses root source.name := by
  rintro (⟨other, owner, -, same⟩ | temporary)
  · exact separate other owner same.symm
  · have clash := List.suffix_or_suffix_of_suffix staged.2 temporary
    revert clash
    decide

theorem artifact_unused {capture : CaptureResult} {name : String} (final : ¬ HasSuffix ".capture" name)
    (plain : ¬ HasSuffix ".tmp" name) : ¬ capture.Uses root name := by
  rintro (⟨source, -, staged, rfl⟩ | temporary)
  · exact final staged.2
  · exact plain temporary

/-- A capture stays described as long as its own file is left alone. -/
theorem CaptureResult.Describes.moved {capture : CaptureResult} {stream : List UInt8} {s' : Publishing}
    (describes : capture.Describes calls root stream s)
    (same : ∀ source, capture.source = some source → source.Staged root →
      s'.directory source.name = s.directory source.name) : capture.Describes calls root stream s' where
  toObserves := describes.toObserves
  inside := fun source content owner staged present =>
    describes.inside source content owner staged (same source owner staged ▸ present)
  whole := fun source content owner staged complete present =>
    describes.whole source content owner staged complete (same source owner staged ▸ present)
  captures := describes.captures

theorem CaptureResult.Ready.moved {capture : CaptureResult} {destination : String} {s' : Publishing}
    (ready : capture.Ready root destination s)
    (tidy : ∀ name, HasSuffix ".tmp" name → s'.directory name = s.directory name)
    (free : s'.directory destination = s.directory destination)
    (same : ∀ source, capture.source = some source → source.Staged root →
      s'.directory source.name = s.directory source.name) : capture.Ready root destination s' where
  tidy := fun name temporary => (tidy name temporary).trans (ready.tidy name temporary)
  free := free ▸ ready.free
  staged := ready.staged
  regular := by
    intro source owner
    rw [same source owner (ready.staged source owner)]
    exact ready.regular source owner

/-- How the publication of both streams goes. -/
theorem publishProcessOutput_cases {outcome : Except Raised ProcessOutputPublication}
    (h : publishProcessOutput calls root stdout stderr stdoutFallback stderrFallback s = (outcome, t)) :
    (∃ error, outcome = .error error ∧ calls.perform s = (.error error, t)) ∨
      ∃ s₁, s₁.directory = s.directory ∧
        ((∃ error, outcome = .error error ∧
            calls.publishStream root eventsArtifact stdout stdoutFallback s₁ = (.error error, t)) ∨
          ∃ exhausted s₂, calls.publishStream root eventsArtifact stdout stdoutFallback s₁ = (.ok exhausted, s₂) ∧
            ∃ second, calls.publishStream root stderrArtifact stderr stderrFallback s₂ = (second, t) ∧
              ((∃ publication, outcome = .ok publication) ↔ ∃ exhausted, second = .ok exhausted)) := by
  rcases bind_cases h with ⟨error, failed, rfl⟩ | ⟨_, r, valid, h₁⟩
  · exact .inl ⟨error, rfl, failed⟩
  rcases bind_cases h₁ with ⟨_, expired, -⟩ | ⟨started, s₁, expired, h₂⟩
  · cases expired
  refine .inr ⟨s₁, (deadlineExhausted_directory expired).trans (perform_directory valid), ?_⟩
  rcases bind_cases h₂ with ⟨error, failed, rfl⟩ | ⟨exhausted, s₂, publishing, h₃⟩
  · exact .inl ⟨error, rfl, failed⟩
  refine .inr ⟨exhausted, s₂, publishing, ?_⟩
  rcases bind_cases h₃ with ⟨error, failed, rfl⟩ | ⟨exhausted', s₃, publishing', h₄⟩
  · exact ⟨_, failed, ⟨fun ⟨_, ended⟩ => (nomatch ended), fun ⟨_, ended⟩ => (nomatch ended)⟩⟩
  · obtain ⟨rfl, rfl⟩ := Prod.mk.inj h₄
    exact ⟨_, publishing', ⟨fun _ => ⟨_, rfl⟩, fun _ => ⟨_, rfl⟩⟩⟩

/-- Neither artifact is named like a capture or a temporary file. -/
theorem eventsArtifact_final : ¬ HasSuffix ".capture" eventsArtifact ∧ ¬ HasSuffix ".tmp" eventsArtifact := by decide

theorem stderrArtifact_final : ¬ HasSuffix ".capture" stderrArtifact ∧ ¬ HasSuffix ".tmp" stderrArtifact := by decide

theorem stderrArtifact_ne : stderrArtifact ≠ eventsArtifact := by decide

/-- The publication of one stream leaves the capture of the other one. -/
theorem Published.leaves {returned : Prop} (published : Published stdout root eventsArtifact stdoutFallback out returned s t)
    (separate : SeparateCaptures stdout stderr) :
    t.directory stderrArtifact = s.directory stderrArtifact ∧
      ∀ source, stderr.source = some source → source.Staged root →
        t.directory source.name = s.directory source.name := by
  refine ⟨published.frame _ stderrArtifact_ne (artifact_unused stderrArtifact_final.1 stderrArtifact_final.2), ?_⟩
  intro source owner staged
  exact published.frame source.name (staged_apart staged eventsArtifact_final.1)
    (capture_unused staged fun other own => separate other source own owner)

/-- Each destination holds its stream or its fallback when the publication returns, and
never anything else that was not there before. -/
theorem publishProcessOutput_published (stdoutDescribes : stdout.Describes calls root out s)
    (stderrDescribes : stderr.Describes calls root err s) (separate : SeparateCaptures stdout stderr)
    {outcome : Except Raised ProcessOutputPublication}
    (h : publishProcessOutput calls root stdout stderr stdoutFallback stderrFallback s = (outcome, t)) :
    ((∃ publication, outcome = .ok publication) →
      HoldsOutput out stdoutFallback (t.directory eventsArtifact) ∧
        HoldsOutput err stderrFallback (t.directory stderrArtifact)) ∧
    (t.directory eventsArtifact = s.directory eventsArtifact ∨
      HoldsOutput out stdoutFallback (t.directory eventsArtifact)) ∧
    (t.directory stderrArtifact = s.directory stderrArtifact ∨
      HoldsOutput err stderrFallback (t.directory stderrArtifact)) := by
  obtain ⟨error, rfl, failed⟩ | ⟨s₁, start, phases⟩ := publishProcessOutput_cases h
  · have same := perform_directory failed
    exact ⟨fun ⟨_, ended⟩ => (nomatch ended), .inl (by rw [same]), .inl (by rw [same])⟩
  have describes := stdoutDescribes.moved fun source _ _ => congrFun start source.name
  obtain ⟨error, rfl, failed⟩ | ⟨exhausted, s₂, publishing, second, publishing', returned⟩ := phases
  · have first := publishStream_published describes eventsArtifact_final.1 eventsArtifact_final.2 failed
    have raised := first.raised
    have kept := (first.leaves separate).1
    rw [start] at raised kept
    exact ⟨fun ⟨_, ended⟩ => (nomatch ended), raised, .inl kept⟩
  have first := publishStream_published describes eventsArtifact_final.1 eventsArtifact_final.2 publishing
  obtain ⟨kept, between⟩ := first.leaves separate
  rw [start] at kept between
  have last := publishStream_published (stderrDescribes.moved between) stderrArtifact_final.1
    stderrArtifact_final.2 publishing'
  have unmoved := last.frame eventsArtifact stderrArtifact_ne.symm
    (artifact_unused eventsArtifact_final.1 eventsArtifact_final.2)
  have held : HoldsOutput out stdoutFallback (t.directory eventsArtifact) := by
    rw [HoldsOutput, unmoved]
    exact first.exact ⟨_, rfl⟩
  have raised := last.raised
  rw [kept] at raised
  exact ⟨fun ended => ⟨held, last.exact (returned.mp ended)⟩, .inr held, raised⟩

/-- With working calls the publication returns, and what can be recovered is published. -/
theorem publishProcessOutput_returns (stdoutDescribes : stdout.Describes calls root out s)
    (stderrDescribes : stderr.Describes calls root err s) (separate : SeparateCaptures stdout stderr)
    (working : calls.Working) (stdoutReady : stdout.Ready root eventsArtifact s)
    (stderrReady : stderr.Ready root stderrArtifact s) {outcome : Except Raised ProcessOutputPublication}
    (h : publishProcessOutput calls root stdout stderr stdoutFallback stderrFallback s = (outcome, t)) :
    (∃ publication, outcome = .ok publication) ∧
      (stdout.Recoverable out s → t.directory eventsArtifact = some (.file out)) ∧
      (stderr.Recoverable err s → t.directory stderrArtifact = some (.file err)) := by
  obtain ⟨error, rfl, failed⟩ | ⟨s₁, start, phases⟩ := publishProcessOutput_cases h
  · cases perform_returns working failed
  have describes := stdoutDescribes.moved fun source _ _ => congrFun start source.name
  have ready := stdoutReady.moved (fun name _ => congrFun start name) (congrFun start _) fun source _ _ =>
    congrFun start source.name
  obtain ⟨error, rfl, failed⟩ | ⟨exhausted, s₂, publishing, second, publishing', returned⟩ := phases
  · obtain ⟨⟨_, ended⟩, -⟩ :=
      publishStream_returns working describes ready eventsArtifact_final.1 eventsArtifact_final.2 failed
    cases ended
  obtain ⟨-, recovered⟩ :=
    publishStream_returns working describes ready eventsArtifact_final.1 eventsArtifact_final.2 publishing
  have first := publishStream_published describes eventsArtifact_final.1 eventsArtifact_final.2 publishing
  have clean := first.clean ⟨_, rfl⟩
  obtain ⟨kept, between⟩ := first.leaves separate
  rw [start] at kept between clean
  have describes' := stderrDescribes.moved between
  -- the temporary files of the first stream are gone
  have ready' : stderr.Ready root stderrArtifact s₂ := by
    refine stderrReady.moved (fun name temporary => clean name ?_ fun source owner same => ?_) kept between
    · rintro rfl
      exact eventsArtifact_final.2 temporary
    · have clash := List.suffix_or_suffix_of_suffix (same ▸ (stdoutReady.staged source owner).2) temporary
      revert clash
      decide
  obtain ⟨ended, recovered'⟩ :=
    publishStream_returns working describes' ready' stderrArtifact_final.1 stderrArtifact_final.2 publishing'
  have unmoved := (publishStream_published describes' stderrArtifact_final.1 stderrArtifact_final.2 publishing').frame
    eventsArtifact stderrArtifact_ne.symm (artifact_unused eventsArtifact_final.1 eventsArtifact_final.2)
  refine ⟨returned.mpr ended, ?_, ?_⟩
  · rintro ⟨source, content, owner, present, covers⟩
    rw [unmoved]
    exact recovered ⟨source, content, owner, (congrFun start source.name).trans present, covers⟩
  · rintro ⟨source, content, owner, present, covers⟩
    have there := (between source owner (stderrReady.staged source owner)).trans present
    exact recovered' ⟨source, content, owner, there, covers⟩

/-- **Published output.** Each destination holds its stream or its fallback when the
publication returns, and never anything else that was not there before. With working
calls it returns, and publishes every stream that a stable capture and the tail hold. -/
theorem published_exact (stdoutDescribes : stdout.Describes calls root out s)
    (stderrDescribes : stderr.Describes calls root err s) (separate : SeparateCaptures stdout stderr)
    {outcome : Except Raised ProcessOutputPublication}
    (h : publishProcessOutput calls root stdout stderr stdoutFallback stderrFallback s = (outcome, t)) :
    ((∃ publication, outcome = .ok publication) →
      HoldsOutput out stdoutFallback (t.directory eventsArtifact) ∧
        HoldsOutput err stderrFallback (t.directory stderrArtifact)) ∧
    (t.directory eventsArtifact = s.directory eventsArtifact ∨
      HoldsOutput out stdoutFallback (t.directory eventsArtifact)) ∧
    (t.directory stderrArtifact = s.directory stderrArtifact ∨
      HoldsOutput err stderrFallback (t.directory stderrArtifact)) ∧
    (calls.Working → stdout.Ready root eventsArtifact s → stderr.Ready root stderrArtifact s →
      (∃ publication, outcome = .ok publication) ∧
      (stdout.Recoverable out s → t.directory eventsArtifact = some (.file out)) ∧
      (stderr.Recoverable err s → t.directory stderrArtifact = some (.file err))) := by
  obtain ⟨returned, events, errors⟩ := publishProcessOutput_published stdoutDescribes stderrDescribes separate h
  refine ⟨returned, events, errors, fun working stdoutReady stderrReady => ?_⟩
  exact publishProcessOutput_returns stdoutDescribes stderrDescribes separate working stdoutReady stderrReady h

end Both

/-- A system whose calls succeed. -/
def exampleCalls : PublicationCalls where
  answer := fun _ => .ok ()
  expired := fun _ => false
  links := fun _ => 1
  captured := fun _ _ => []
  amount := fun _ => 2
  random := fun _ => "1"
  atomic := fun _ => { unsyncedCalls with syncDirectory := .ok () }

/-- A capture that misses the last of three bytes. -/
def exampleCapture : CaptureResult where
  source := some ⟨"/attempt", ".codex-events-1.capture"⟩
  complete := false
  stable := true
  prefixBytes := 2
  observedBytes := 3
  observedTail := [1, 2, 3]

def silentCapture : CaptureResult where
  source := none
  complete := false
  stable := false
  prefixBytes := 0
  observedBytes := 0
  observedTail := []

def examplePublishing : Publishing :=
  ⟨Function.update (fun _ => none) ".codex-events-1.capture" (some (.file [1, 2])), 0⟩

theorem exampleCalls_working : exampleCalls.Working :=
  ⟨fun _ => rfl, fun _ => rfl, fun _ => Nat.two_pos,
    fun _ => ⟨⟨_, _, rfl⟩, rfl, rfl, rfl, rfl, rfl, rfl, rfl⟩⟩

theorem published_exact_example :
    (publishProcessOutput exampleCalls "/attempt" exampleCapture silentCapture "" "" examplePublishing).2.directory
      eventsArtifact = some (.file [1, 2, 3]) := by
  have held : examplePublishing.directory ".codex-events-1.capture" = some (.file [1, 2]) := by
    simp [examplePublishing]
  have stdoutDescribes : exampleCapture.Describes exampleCalls "/attempt" [1, 2, 3] examplePublishing := by
    refine ⟨⟨rfl, by simp [exampleCapture, diagnosticTail, diagnosticTailBytes, readSize]⟩, ?_, by simp [exampleCapture], ?_⟩
    · rintro source content ⟨⟩ - present
      cases held.symm.trans present
      exact ⟨[3], rfl⟩
    · intro _ _ _
      exact List.nil_prefix
  have stderrDescribes : silentCapture.Describes exampleCalls "/attempt" [] examplePublishing :=
    ⟨⟨rfl, rfl⟩, by simp [silentCapture], by simp [silentCapture], by simp [silentCapture]⟩
  have tidy : ∀ name, HasSuffix ".tmp" name → examplePublishing.directory name = none := by
    intro name temporary
    have other : name ≠ ".codex-events-1.capture" := by
      rintro rfl
      revert temporary
      decide
    simp [examplePublishing, other]
  have ready : exampleCapture.Ready "/attempt" eventsArtifact examplePublishing := by
    refine ⟨tidy, by decide, ?_, ?_⟩
    · rintro source ⟨⟩
      decide
    · rintro source ⟨⟩
      exact .inr ⟨_, held⟩
  have ready' : silentCapture.Ready "/attempt" stderrArtifact examplePublishing :=
    ⟨tidy, by decide, by simp [silentCapture], by simp [silentCapture]⟩
  have recoverable : exampleCapture.Recoverable [1, 2, 3] examplePublishing :=
    ⟨_, _, rfl, held, .inr ⟨rfl, by decide⟩⟩
  have separate : SeparateCaptures exampleCapture silentCapture := by simp [SeparateCaptures, silentCapture]
  exact ((published_exact stdoutDescribes stderrDescribes separate (Prod.eta _).symm).2.2.2 exampleCalls_working ready ready').2.1
    recoverable

end SprintTicket
