import SprintTicket.Locking.Protocol

/-!
# What the repository lock says about its owner

A refused acquisition is to mean that a run owns the repository, and the
metadata of an active lock is to name who held it. Both hold but for the probe:
its own test of the lock refuses a run, and it reads the metadata before it
knows whether the file is left over.
-/

set_option autoImplicit false

namespace SprintTicket

variable {ι : Type} [DecidableEq ι]

namespace LockFiles

variable (identity : ι → ProcessIdentity)

/-- In the run a process tries the lock in one state and comes out in the next. -/
def Tries (events : List (LockEvent ι)) (process : ι) (files next : LockFiles ι) : Prop :=
  ∃ before after, events = before ++ .tryLock process :: after ∧
    Transition.run (LockFiles.step identity) initial before = some files ∧ files.step identity (.tryLock process) = some next

/-- `acquire_repository_run_lock` is about to raise a `RepositoryLockError`. -/
def Refused (files : LockFiles ι) (process : ι) : Prop := ∃ request, files.run process = .refused request

/-- The run of some process holds the lock. -/
def Owned (files : LockFiles ι) : Prop := ∃ owner, files.holder = some (.run owner)

/-- Some probe is between its test of the lock and its unlocking. -/
def Probed (files : LockFiles ι) : Prop := ∃ process, (files.probe process).tests = true

variable {identity}

/-- An attempt is refused exactly when somebody holds the lock. -/
theorem refused_iff {files next : LockFiles ι} {process : ι}
    (h : files.step identity (.tryLock process) = some next) : next.Refused process ↔ files.holder ≠ none := by
  unfold step at h
  split at h
  · cases h
  · obtain ⟨acted, done, same⟩ := Option.map_eq_some_iff.mp h
    have states : next.run process = acted.run process := by rw [← same]
    rw [Refused, states]
    simp only [act] at done
    split at done
    · rename_i request opened
      split at done
      · rename_i free
        cases done
        simp [setRun, free]
      · rename_i file held
        cases done
        simp [setRun, held]
    · cases done

/-- Every refusal of a run has an owner behind it exactly when no attempt falls
between a probe's test and its unlocking. -/
theorem refusals_have_owners_iff (identity : ι → ProcessIdentity) (events : List (LockEvent ι)) :
    (∀ process files next, Tries identity events process files next → next.Refused process → files.Owned) ↔
      ∀ process files next, Tries identity events process files next → ¬files.Probed := by
  constructor
  · intro owned process files next tries
    rintro ⟨prober, tests⟩
    obtain ⟨before, after, split, reached, tried⟩ := tries
    have consistent := consistent_of_run reached
    have holder := (consistent.probe prober).mp tests
    have refused : next.Refused process := (refused_iff tried).mpr (by simp [holder])
    obtain ⟨owner, held⟩ := owned process files next ⟨before, after, split, reached, tried⟩ refused
    rw [holder] at held
    cases held
  · intro unprobed process files next tries refused
    have quiet := unprobed process files next tries
    obtain ⟨before, after, split, reached, tried⟩ := tries
    have consistent := consistent_of_run reached
    cases holder : files.holder with
    | none => exact absurd holder ((refused_iff tried).mp refused)
    | some file =>
      cases file with
      | run owner => exact ⟨owner, holder⟩
      | probe prober => exact absurd ⟨prober, (consistent.probe prober).mpr holder⟩ quiet

def exampleRequest : LockRequest := ⟨"/repo", "/repo", some "run", some "PREPARING"⟩

def exampleIdentity (process : Nat) : ProcessIdentity := ⟨process, "host"⟩

/-- A process takes the lock, writes its metadata and dies. -/
def diedOwner : List (LockEvent Nat) :=
  [.openLock 0 exampleRequest, .tryLock 0, .create 0 "2026-01-01T00:00:00Z" "2026-01-01T00:00:00Z" true, .crash 0]

/-- A probe that tests the lock of a dead owner refuses the next run. -/
theorem probe_refuses_run : ∃ files next,
    Tries exampleIdentity (diedOwner ++ [.list 1, .read 1, .openTest 1, .test 1, .openLock 2 exampleRequest, .tryLock 2])
        2 files next ∧ next.Refused 2 ∧ ¬files.Owned := by
  refine ⟨_, _, ⟨diedOwner ++ [.list 1, .read 1, .openTest 1, .test 1, .openLock 2 exampleRequest], [], rfl, rfl, rfl⟩,
    ⟨exampleRequest, rfl⟩, ?_⟩
  rintro ⟨owner, held⟩
  cases held

/-! ## Metadata -/

/-- The holder at a moment up to now. -/
def holderAt (files : LockFiles ι) (moment : Nat) : Option (OpenFile ι) :=
  if moment = files.clock then files.holder else files.past moment

/-- The process held the lock at some moment since the given one. -/
def HeldSince (files : LockFiles ι) (since : Nat) (process : ι) : Prop :=
  ∃ moment, since ≤ moment ∧ moment ≤ files.clock ∧ files.holderAt moment = some (.run process)

/-- In the run the call that began at `since` reads the metadata file, in this state. -/
def Reads (identity : ι → ProcessIdentity) (events : List (LockEvent ι)) (process : ι) (since : Nat)
    (files : LockFiles ι) (entry : WrittenMetadata ι) : Prop :=
  ∃ before after, events = before ++ .read process :: after ∧
    Transition.run (LockFiles.step identity) initial before = some files ∧ files.probe process = .listed since ∧
      files.metadata = some entry

/-- In the run a call tests the lock, in this state, after it read the metadata file. -/
def Tests (identity : ι → ProcessIdentity) (events : List (LockEvent ι)) (process : ι) (since : Nat)
    (files : LockFiles ι) (entry : WrittenMetadata ι) : Prop :=
  ∃ before after, events = before ++ .test process :: after ∧
    Transition.run (LockFiles.step identity) initial before = some files ∧ files.probe process = .opened since entry

/-- A call reads a file whose writer does not hold the lock, and tests the lock while
yet another holds it. -/
def Misled (identity : ι → ProcessIdentity) (events : List (LockEvent ι)) : Prop :=
  ∃ process since reading testing entry, Reads identity events process since reading entry ∧
    Tests identity events process since testing entry ∧ reading.holder ≠ some (.run entry.writer) ∧
      testing.holder ≠ none ∧ testing.holder ≠ some (.run entry.writer)

section History

variable {identity : ι → ProcessIdentity} {files next : LockFiles ι} {event : LockEvent ι}

/-- The recorded past stays. -/
theorem holderAt_step (h : files.step identity event = some next) {moment : Nat} (earlier : moment ≤ files.clock) :
    next.holderAt moment = files.holderAt moment ∧ moment ≤ next.clock := by
  obtain ⟨acted, -, rfl⟩ := step_effect h
  refine ⟨?_, Nat.le_succ_of_le earlier⟩
  show (if moment = files.clock + 1 then _ else Function.update files.past files.clock files.holder moment) = _
  rw [if_neg (by omega), Function.update_apply]
  rfl

/-- What a step does to the calls: nothing, or it moves the call of its process. The
call then has no entry, or the one it had, or it has just read the file. -/
theorem act_probe {acted : LockFiles ι} (h : files.act identity event = some acted) :
    acted.probe = files.probe ∨ ∃ state, acted.probe = (files.setProbe event.process state).probe ∧
      (state.entryOf = none ∨
        state.since? = (files.probe event.process).since? ∧ state.entryOf = (files.probe event.process).entryOf ∨
        ∃ since entry, event = .read event.process ∧ files.probe event.process = .listed since ∧
          files.metadata = some entry ∧ state = .read since entry) := by
  cases event with
  | openLock | raiseRefusal | unlock =>
    simp only [act] at h
    split at h <;> cases h
    exact .inl rfl
  | tryLock | create | update | unlink =>
    simp only [act] at h
    split at h
    · split at h <;> cases h <;> exact .inl rfl
    · cases h
  | list process =>
    simp only [act] at h
    split at h
    · split at h <;> cases h
      · exact .inr ⟨.listed files.clock, rfl, .inl rfl⟩
      · exact .inl rfl
    · cases h
  | read process =>
    simp only [act] at h
    split at h
    case h_2 => cases h
    rename_i since listed
    split at h
    · rename_i entry found
      cases h
      refine .inr ⟨_, rfl, ?_⟩
      split
      · exact .inr (.inr ⟨since, entry, rfl, listed, found, rfl⟩)
      · exact .inl rfl
    · cases h
      exact .inr ⟨.idle, rfl, .inl rfl⟩
  | openTest process =>
    simp only [act] at h
    split at h
    · rename_i since entry read
      cases h
      have same : files.probe (LockEvent.openTest process).process = .read since entry := read
      exact .inr ⟨.opened since entry, rfl, .inr (.inl (by rw [same]; exact ⟨rfl, rfl⟩))⟩
    · cases h
  | test process =>
    simp only [act] at h
    split at h
    case h_2 => cases h
    rename_i since entry opened
    have same : files.probe (LockEvent.test process).process = .opened since entry := opened
    split at h <;> cases h
    · exact .inr ⟨.testing since entry, rfl, .inr (.inl (by rw [same]; exact ⟨rfl, rfl⟩))⟩
    · exact .inr ⟨.idle, rfl, .inl rfl⟩
  | unlockTest process =>
    simp only [act] at h
    split at h <;> cases h
    exact .inr ⟨.idle, rfl, .inl rfl⟩
  | crash process =>
    cases h
    exact .inr ⟨.idle, rfl, .inl rfl⟩

/-- Only a reading step gives a call its entry. -/
theorem entryOf_step (h : files.step identity event = some next) {process : ι} {since : Nat}
    {entry : WrittenMetadata ι} (began : (next.probe process).since? = some since)
    (present : (next.probe process).entryOf = some entry) :
    (files.probe process).since? = some since ∧ (files.probe process).entryOf = some entry ∨
      event = .read process ∧ files.probe process = .listed since ∧ files.metadata = some entry := by
  unfold step at h
  split at h
  · cases h
  obtain ⟨acted, done, rfl⟩ := Option.map_eq_some_iff.mp h
  have began : (acted.probe process).since? = some since := began
  have present : (acted.probe process).entryOf = some entry := present
  rcases act_probe done with same | ⟨state, moved, kind⟩
  · rw [same] at began present
    exact .inl ⟨began, present⟩
  rw [moved, setProbe_since] at began
  rw [moved, setProbe_entry] at present
  by_cases own : process = event.process
  · subst own
    rw [if_pos rfl] at began present
    rcases kind with none | ⟨started, kept⟩ | ⟨start, found, reading, listed, held, rfl⟩
    · rw [none] at present
      cases present
    · exact .inl ⟨started ▸ began, kept ▸ present⟩
    · cases began
      cases present
      exact .inr ⟨reading, listed, held⟩
  · rw [if_neg own] at began present
    exact .inl ⟨began, present⟩

/-- Behind every entry of a call stands the step that read it. -/
theorem reads_of_entry {events : List (LockEvent ι)} {files : LockFiles ι} {process : ι} {since : Nat}
    {entry : WrittenMetadata ι} (reached : Transition.run (LockFiles.step identity) initial events = some files)
    (began : (files.probe process).since? = some since) (present : (files.probe process).entryOf = some entry) :
    ∃ reading, Reads identity events process since reading entry ∧ reading.clock ≤ files.clock ∧
      files.holderAt reading.clock = reading.holder := by
  induction events using List.reverseRecOn generalizing files with
  | nil =>
    cases reached
    cases present
  | append_singleton events event ih =>
    obtain ⟨before, start, stepped⟩ := Transition.run_snoc.mp reached
    rcases entryOf_step stepped began present with ⟨began, present⟩ | ⟨rfl, listed, found⟩
    · obtain ⟨reading, ⟨first, rest, rfl, reads⟩, earlier, holder⟩ := ih start began present
      obtain ⟨same, later⟩ := holderAt_step stepped earlier
      exact ⟨reading, ⟨first, rest ++ [event], by simp, reads⟩, later, same.trans holder⟩
    · obtain ⟨same, later⟩ := holderAt_step stepped (Nat.le_refl before.clock)
      refine ⟨before, ⟨events, [], rfl, start, listed, found⟩, later, same.trans ?_⟩
      rw [holderAt, if_pos rfl]

end History

/-- In the run a probe finds the lock held and returns an entry. -/
def Returns (identity : ι → ProcessIdentity) (events : List (LockEvent ι)) (process : ι) (files : LockFiles ι)
    (since : Nat) (entry : WrittenMetadata ι) : Prop :=
  ∃ before after next, events = before ++ .test process :: after ∧
    Transition.run (LockFiles.step identity) initial before = some files ∧ files.step identity (.test process) = some next ∧
      files.probe process = .opened since entry ∧ files.holder ≠ none

/-- A returned entry names a process that held the lock during the call, in every run
in which no call is misled. -/
theorem returned_entries_name_holders (identity : ι → ProcessIdentity) (events : List (LockEvent ι))
    (unmisled : ¬Misled identity events) :
    ∀ process files since entry, Returns identity events process files since entry →
      files.HeldSince since entry.writer := by
  rintro process files since entry ⟨before, after, next, rfl, reached, -, opened, held⟩
  have began : (files.probe process).since? = some since := by simp [opened, ProbeState.since?]
  have present : (files.probe process).entryOf = some entry := by simp [opened, ProbeState.entryOf]
  obtain ⟨reading, reads, earlier, holder⟩ := reads_of_entry reached began present
  obtain ⟨first, rest, rfl, start, listed, found⟩ := reads
  by_cases fresh : reading.holder = some (.run entry.writer)
  · -- the writer held the lock when its file was read
    have listening : (reading.probe process).since? = some since := by simp [listed, ProbeState.since?]
    exact ⟨reading.clock, (consistent_of_run start).calls process since listening, earlier, holder.trans fresh⟩
  by_cases own : files.holder = some (.run entry.writer)
  · -- it holds the lock now
    refine ⟨files.clock, (consistent_of_run reached).calls process since began, Nat.le_refl _, ?_⟩
    rw [holderAt, if_pos rfl, own]
  · refine absurd ⟨process, since, reading, files, entry, ?_, ?_, fresh, held, own⟩ unmisled
    · exact ⟨first, rest ++ .test process :: after, by simp, start, listed, found⟩
    · exact ⟨_, after, rfl, reached, opened⟩

/-- A probe while the owner lives. -/
def livingOwner : List (LockEvent Nat) :=
  [.openLock 0 exampleRequest, .tryLock 0, .create 0 "2026-01-01T00:00:00Z" "2026-01-01T00:00:00Z" true,
    .list 1, .read 1, .openTest 1, .test 1]

theorem returned_entries_name_holders_example : ∃ files entry,
    Returns exampleIdentity livingOwner 1 files 3 entry ∧ files.HeldSince 3 entry.writer := by
  have returns : ∃ files entry, Returns exampleIdentity livingOwner 1 files 3 entry :=
    ⟨_, _, livingOwner.dropLast, [], _, rfl, rfl, rfl, rfl, by decide⟩
  obtain ⟨files, entry, returned⟩ := returns
  refine ⟨files, entry, returned, returned_entries_name_holders exampleIdentity livingOwner ?_ 1 files 3 entry returned⟩
  rintro ⟨process, since, reading, testing, entry, ⟨before, after, split, reached, -, found⟩, -, stale, -⟩
  -- the file is read once, while its writer holds the lock
  rcases before with _ | ⟨_, _ | ⟨_, _ | ⟨_, _ | ⟨_, _ | ⟨_, _ | ⟨_, _ | ⟨_, _⟩⟩⟩⟩⟩⟩⟩ <;>
    simp only [livingOwner, List.nil_append, List.cons_append, List.cons.injEq, reduceCtorEq, false_and,
      and_false] at split
  · obtain ⟨rfl, rfl, rfl, rfl, -⟩ := split
    cases reached
    cases found
    exact stale rfl
  · simp at split

/-- A run of a probe between the death of an owner and the first write of the
next one. -/
def lateProbe : List (LockEvent Nat) :=
  diedOwner ++ [.list 1, .read 1, .openLock 2 exampleRequest, .tryLock 2, .openTest 1]

/-- The probe names the dead owner, who held nothing since the call began. -/
theorem dead_owner_named : ∃ files entry, Returns exampleIdentity (lateProbe ++ [.test 1]) 1 files 4 entry ∧
    ¬files.HeldSince 4 entry.writer := by
  obtain ⟨files, entry, next, reached, opened, writer, tested, held⟩ : ∃ files entry next,
      Transition.run (LockFiles.step exampleIdentity) initial lateProbe = some files ∧
        files.probe 1 = .opened 4 entry ∧ entry.writer = 0 ∧
          files.step exampleIdentity (.test 1) = some next ∧ files.holder ≠ none :=
    ⟨_, _, _, rfl, rfl, rfl, rfl, by decide⟩
  refine ⟨files, entry, ⟨lateProbe, [], next, rfl, reached, tested, opened, held⟩, ?_⟩
  have history : (Transition.run (LockFiles.step exampleIdentity) initial lateProbe).map
      (fun files => (files.clock, (List.range 10).map files.holderAt)) =
        some (9, [none, none, some (.run 0), some (.run 0), none, none, none, none, some (.run 2), some (.run 2)]) := by
    decide
  rw [reached, Option.map_some, Option.some.injEq, Prod.mk.injEq] at history
  obtain ⟨clock, holders⟩ := history
  rintro ⟨moment, lower, upper, holder⟩
  have known : ((List.range 10).map files.holderAt)[moment]? = some (some (.run 0)) := by
    have inRange : moment < 10 := by omega
    simp [inRange, holder, writer]
  rw [holders] at known
  obtain rfl | rfl | rfl | rfl | rfl | rfl : moment = 4 ∨ moment = 5 ∨ moment = 6 ∨ moment = 7 ∨ moment = 8 ∨
      moment = 9 := by omega
  all_goals simp at known

end LockFiles

end SprintTicket
