import SprintTicket.AtomicWrite
import SprintTicket.Attempts.Directory
import SprintTicket.Attempts.Update
import SprintTicket.Logic.AppendLog
import SprintTicket.Logic.Transition

/-!
# The attempts of a run as a log

One controller at a time starts, updates and completes the attempts of a run, one
step on the file system after another; it may raise or die at every step. Whatever
is left behind, `load_attempt_records` returns the log: the attempts whose
directory was renamed, each with the record that was last put in place
(`attempts_append_only`).
-/

set_option autoImplicit false

namespace SprintTicket

open AppendLog Canonical Checks Transition

/-- The arguments of `start_attempt`. -/
structure StartArguments where
  phase : AttemptPhase
  beforeWorkspaceFingerprint : Option String
  executionPath : Option String

/-- A call of `update_attempt` or of `complete_stage_attempt`. -/
inductive SaveCall
  | update (record : AttemptRecord) (changes : AttemptChanges)
  | complete (arguments : StageCompletionArguments) (evidenceExists : Bool)

/-- What a record file is written for. -/
inductive WriteGoal
  | create (arguments : StartArguments)
  | save (expected : AttemptRecord)

/-- Where the controller stands; the comment names the step ahead. -/
inductive Controller
  | idle
  | choosing (arguments : StartArguments)                                         -- the sequence, `mkdtemp`
  | preparing (arguments : StartArguments) (sequence : Nat) (temporary : String)  -- the record
  | writing (record : AttemptRecord) (folder : String) (payload : Option String) (goal : WriteGoal)
  | publishing (arguments : StartArguments) (record : AttemptRecord) (temporary : String)

structure AttemptsWorld where
  entries : AttemptsDirectory
  controller : Controller
  history : List (Event AttemptRecord)

/-- What the controller and its environment do next. -/
inductive AttemptsStep
  | start (arguments : StartArguments)
  | makeTemporary (random : String)
  | construct (now : Timestamp)
  | save (call : SaveCall) (now : Timestamp)
  /-- Write the temporary payload, up to `cut` bytes of it. -/
  | write (random : String) (cut : Nat)
  | replace
  | rename
  /-- The rename raises `FileExistsError`. -/
  | refuse (leftover : Option (String → Bool))
  /-- Any exception; what is cleaned up may keep some of its files. -/
  | raise (leftover : Option (String → Bool))
  | crash

def folderAt (entries : AttemptsDirectory) (name : String) : Option Files :=
  match entries.lookup name with
  | some (.folder files) => some files
  | _ => none

def temporaryDirectoryName (sequence : Nat) (phase : AttemptPhase) (random : String) : String :=
  "." ++ directoryName sequence phase ++ "-" ++ random ++ ".tmp"

/-- `_next_sequence` and `tempfile.mkdtemp`. -/
def makeTemporaryDirectory (root : String) (world : AttemptsWorld) (arguments : StartArguments) (random : String) :
    Option AttemptsWorld :=
  match nextSequence root world.entries with
  | .error _ => none
  | .ok sequence =>
    let temporary := temporaryDirectoryName sequence arguments.phase random
    if temporary ∈ world.entries.map Prod.fst then none
    else
      some
        { world with
          entries := assign temporary (.folder fun _ => none) world.entries
          controller := .preparing arguments sequence temporary }

def StartArguments.fields (arguments : StartArguments) (root : String) (sequence : Nat) (now : Timestamp) :
    AttemptFields where
  sequence
  phase := arguments.phase
  status := .started
  beforeWorkspaceFingerprint := arguments.beforeWorkspaceFingerprint
  afterWorkspaceFingerprint := none
  processStarted := false
  startedAt := now
  endedAt := none
  resultPath := (phaseDefinition arguments.phase).resultArtifactName
  executionPath := arguments.executionPath
  metadata := .empty
  artifactDirectory := root ++ "/" ++ directoryName sequence arguments.phase

def SaveCall.artifactDirectory : SaveCall → String
  | .update record _ => record.artifactDirectory
  | .complete arguments _ => arguments.attempt.artifactDirectory

def SaveCall.directoryName : SaveCall → String
  | .update record _ => record.directoryName
  | .complete arguments _ => SprintTicket.directoryName arguments.attempt.sequence arguments.attempt.phase

def recordMissing : Raised := ⟨.osError, "[Errno 2] No such file or directory"⟩

section Steps

variable (reader : AttemptReader) (reprFloat : Rat → List Char) (root : String)

def constructRecord (world : AttemptsWorld) (arguments : StartArguments) (sequence : Nat) (temporary : String)
    (now : Timestamp) : Option AttemptsWorld :=
  match constructAttempt reader (arguments.fields root sequence now) with
  | .ok record => some { world with controller := .writing record temporary none (.create arguments) }
  | .error _ => none

/-- `_load_attempt` of the record of an existing attempt. -/
def loadFiles (name : String) (files : Files) : Except Raised AttemptRecord :=
  loadPersisted reader root name ((files attemptRecordFile).elim (.error recordMissing) .ok)

/-- The record that a call expects on disk, and the one it replaces it with. -/
def SaveCall.prepare (name : String) (files : Files) (now : Timestamp) :
    SaveCall → Except Raised (AttemptRecord × AttemptRecord)
  | .update record changes => do
    let updated ← constructAttempt reader (changes.apply record.toAttemptFields now)
    .ok (record, updated)
  | .complete arguments evidenceExists => do
    let persisted ← loadFiles reader root name files
    requireStartedAttempt persisted arguments.attempt
    let changes := arguments.changes persisted evidenceExists
    let updated ← constructAttempt reader (changes.apply persisted.toAttemptFields now)
    .ok (persisted, updated)

/-- `require_expected_persisted_record`. -/
def requirePersisted (name : String) (files : Files) (expected updated : AttemptRecord) : Except Raised Unit := do
  let persisted ← loadFiles reader root name files
  requireExpectedPersistedRecord persisted updated (some expected)

/-- A call up to the early check of `save_attempt`. -/
def prepareSave (name : String) (files : Files) (call : SaveCall) (now : Timestamp) :
    Except Raised (AttemptRecord × AttemptRecord) := do
  raiseIf (call.artifactDirectory ≠ root ++ "/" ++ name)
    (attemptError "Attempt record does not belong to the supplied run directory.")
  let prepared ← call.prepare reader root name files now
  raiseIf (files attemptRecordFile = none)
    (attemptError "Attempt update requires the original persisted attempt record.")
  requirePersisted reader root name files prepared.1 prepared.2
  .ok prepared

def beginSave (world : AttemptsWorld) (call : SaveCall) (now : Timestamp) : Option AttemptsWorld :=
  match folderAt world.entries call.directoryName with
  | none => none
  | some files =>
    match prepareSave reader root call.directoryName files call now with
    | .ok (expected, updated) =>
      some { world with controller := .writing updated call.directoryName none (.save expected) }
    | .error _ => none

def writePayload (world : AttemptsWorld) (record : AttemptRecord) (folder : String) (payload : Option String)
    (goal : WriteGoal) (random : String) (cut : Nat) : Option AttemptsWorld :=
  let temporary := temporaryName attemptRecordFile random
  match folderAt world.entries folder with
  | none => none
  | some files =>
    if payload = some temporary ∨ (payload = none ∧ files temporary = none) then
      let written := (recordBytes reprFloat record.toAttemptFields).take cut
      some
        { world with
          entries := assign folder (.folder (Function.update files temporary (some written))) world.entries
          controller := .writing record folder (some temporary) goal }
    else none

/-- `os.replace` of the complete payload. -/
def movePayload (files : Files) (temporary : String) : Files :=
  Function.update (Function.update files temporary none) attemptRecordFile (files temporary)

/-- The replacement; for an update it follows the second check in the fence. -/
def replaceRecord (world : AttemptsWorld) (record : AttemptRecord) (folder : String) (temporary : String)
    (goal : WriteGoal) : Option AttemptsWorld :=
  match folderAt world.entries folder with
  | none => none
  | some files =>
    if files temporary = some (recordBytes reprFloat record.toAttemptFields) then
      let entries := assign folder (.folder (movePayload files temporary)) world.entries
      match goal with
      | .create arguments => some { world with entries, controller := .publishing arguments record folder }
      | .save expected =>
        match requirePersisted reader root folder files expected record with
        | .ok () => some { entries, controller := .idle, history := world.history ++ [.replaced record] }
        | .error _ => none
    else none

end Steps

/-- `os.rename`: it fails over a file; a directory in its place would be replaced. -/
def renameDirectory (world : AttemptsWorld) (record : AttemptRecord) (temporary : String) : Option AttemptsWorld :=
  match folderAt world.entries temporary with
  | none => none
  | some files =>
    match world.entries.lookup record.directoryName with
    | some .other => none
    | _ =>
      some
        { entries := assign record.directoryName (.folder files) (world.entries.filter fun entry => entry.1 ≠ temporary)
          controller := .idle
          history := world.history ++ [.appended record] }

/-- `_remove_temporary_attempt_directory`. -/
def removeTemporaryDirectory (entries : AttemptsDirectory) (temporary : String) (leftover : Option (String → Bool)) :
    AttemptsDirectory :=
  match leftover, folderAt entries temporary with
  | some keep, some files => assign temporary (.folder fun name => if keep name then files name else none) entries
  | _, _ => entries.filter fun entry => entry.1 ≠ temporary

/-- `temporary.unlink(missing_ok=True)`; with something left over it has failed. -/
def removePayload (entries : AttemptsDirectory) (folder : String) (payload : Option String)
    (leftover : Option (String → Bool)) : AttemptsDirectory :=
  match leftover, payload, folderAt entries folder with
  | none, some temporary, some files => assign folder (.folder (Function.update files temporary none)) entries
  | _, _, _ => entries

/-- An exception ends the call. -/
def raiseException (world : AttemptsWorld) (leftover : Option (String → Bool)) : AttemptsWorld :=
  match world.controller with
  | .idle | .choosing _ => { world with controller := .idle }
  | .preparing _ _ temporary | .publishing _ _ temporary | .writing _ temporary _ (.create _) =>
    { world with
      entries := removeTemporaryDirectory world.entries temporary leftover
      controller := .idle }
  | .writing _ folder payload (.save _) =>
    { world with
      entries := removePayload world.entries folder payload leftover
      controller := .idle }

def attemptsStep (reader : AttemptReader) (reprFloat : Rat → List Char) (root : String) (world : AttemptsWorld)
    (step : AttemptsStep) : Option AttemptsWorld :=
  match step, world.controller with
  | .start arguments, .idle => some { world with controller := .choosing arguments }
  | .makeTemporary random, .choosing arguments => makeTemporaryDirectory root world arguments random
  | .construct now, .preparing arguments sequence temporary =>
    constructRecord reader root world arguments sequence temporary now
  | .save call now, .idle => beginSave reader root world call now
  | .write random cut, .writing record folder payload goal =>
    writePayload reprFloat world record folder payload goal random cut
  | .replace, .writing record folder (some temporary) goal =>
    replaceRecord reader reprFloat root world record folder temporary goal
  | .rename, .publishing _ record temporary => renameDirectory world record temporary
  | .refuse leftover, .publishing arguments _ temporary =>
    some
      { world with
        entries := removeTemporaryDirectory world.entries temporary leftover
        controller := .choosing arguments }
  | .raise leftover, _ => some (raiseException world leftover)
  | .crash, _ => some { world with controller := .idle }
  | _, _ => none

section Entries

variable {entries : AttemptsDirectory} {name temporary : String} {content : List UInt8}

/-- In a directory without duplicates, a folder is found under its name. -/
theorem folderAt_some (distinct : (entries.map Prod.fst).Nodup) {files : Files} :
    folderAt entries name = some files ↔ (name, .folder files) ∈ entries := by
  rw [← lookup_eq_some_iff distinct]
  unfold folderAt
  split
  · rename_i own found
    rw [found, Option.some.injEq, Option.some.injEq, AttemptEntry.folder.injEq]
  · rename_i other
    simp only [reduceCtorEq, false_iff]
    exact other files

theorem nodup_remove (distinct : (entries.map Prod.fst).Nodup) :
    ((entries.filter fun entry => entry.1 ≠ temporary).map Prod.fst).Nodup :=
  distinct.sublist (List.filter_sublist.map Prod.fst)

/-- What is on view after the files of one directory have changed. -/
theorem onView_assign (distinct : (entries.map Prod.fst).Nodup) {folder : String} {files : Files} :
    OnView (assign folder (.folder files) entries) name content ↔ isHidden name = false ∧
      ((name = folder ∧ files attemptRecordFile = some content) ∨ (name ≠ folder ∧ OnView entries name content)) := by
  unfold OnView
  constructor
  · rintro ⟨shown, found, member, present⟩
    refine ⟨shown, ?_⟩
    rcases (mem_assign distinct).mp member with same | ⟨other, inside⟩
    · cases same
      exact .inl ⟨rfl, present⟩
    · exact .inr ⟨other, shown, found, inside, present⟩
  · rintro ⟨shown, ⟨rfl, present⟩ | ⟨other, -, found, inside, present⟩⟩
    · exact ⟨shown, files, (mem_assign distinct).mpr (.inl rfl), present⟩
    · exact ⟨shown, found, (mem_assign distinct).mpr (.inr ⟨other, inside⟩), present⟩

/-- What is under a hidden name is not part of the view. -/
theorem onView_assign_hidden (distinct : (entries.map Prod.fst).Nodup) (hidden : isHidden temporary = true)
    {files : Files} : OnView (assign temporary (.folder files) entries) name content ↔ OnView entries name content := by
  rw [onView_assign distinct]
  constructor
  · rintro ⟨shown, ⟨rfl, -⟩ | ⟨-, view⟩⟩
    · rw [hidden] at shown
      cases shown
    · exact view
  · intro view
    refine ⟨view.1, .inr ⟨?_, view⟩⟩
    rintro rfl
    exact absurd hidden (by simp [view.1])

theorem onView_remove (hidden : isHidden temporary = true) :
    OnView (entries.filter fun entry => entry.1 ≠ temporary) name content ↔ OnView entries name content := by
  unfold OnView
  constructor
  · rintro ⟨shown, files, member, present⟩
    exact ⟨shown, files, (List.mem_filter.mp member).1, present⟩
  · rintro ⟨shown, files, member, present⟩
    refine ⟨shown, files, List.mem_filter.mpr ⟨member, ?_⟩, present⟩
    simp only [decide_eq_true_eq]
    rintro rfl
    rw [hidden] at shown
    cases shown

/-- A file beside the record changes nothing on view. -/
theorem onView_beside (distinct : (entries.map Prod.fst).Nodup) {folder : String} {files changed : Files}
    (found : folderAt entries folder = some files)
    (same : changed attemptRecordFile = files attemptRecordFile) :
    OnView (assign folder (.folder changed) entries) name content ↔ OnView entries name content := by
  have inside := (folderAt_some distinct).mp found
  rw [onView_assign distinct, same]
  constructor
  · rintro ⟨shown, ⟨rfl, present⟩ | ⟨-, view⟩⟩
    · exact ⟨shown, files, inside, present⟩
    · exact view
  · rintro ⟨shown, own, member, present⟩
    refine ⟨shown, ?_⟩
    by_cases here : name = folder
    · subst here
      have only := (lookup_eq_some_iff distinct).mpr member
      rw [(lookup_eq_some_iff distinct).mpr inside] at only
      cases only
      exact .inl ⟨rfl, present⟩
    · exact .inr ⟨here, shown, own, member, present⟩

theorem Above.assign_hidden {sequence : Nat} (above : Above sequence entries)
    (distinct : (entries.map Prod.fst).Nodup) (hidden : isHidden temporary = true) {files : Files} :
    Above sequence (assign temporary (.folder files) entries) := by
  intro entry member n found
  rcases (mem_assign distinct).mp member with rfl | ⟨-, inside⟩
  · rw [entryNumber, hidden] at found
    cases found
  · exact above entry inside n found

end Entries

/-! ## The invariant -/

/-- The attempts of the log that a history makes. -/
abbrev attemptLog (history : List (Event AttemptRecord)) : List AttemptRecord :=
  replay (fun record => record.sequence) history

section Invariant

variable {reader : AttemptReader} {reprFloat : Rat → List Char} {root : String}

/-- A record whose directory does not exist yet. -/
structure Fresh (reader : AttemptReader) (root : String) (entries : AttemptsDirectory) (record : AttemptRecord) :
    Prop where
  placed : Placed reader root record
  above : Above record.sequence entries

/-- What the controller has done so far. -/
def Working (reader : AttemptReader) (reprFloat : Rat → List Char) (root : String) (entries : AttemptsDirectory) :
    Controller → Prop
  | .idle | .choosing _ => True
  | .preparing _ sequence temporary => isHidden temporary = true ∧ Above sequence entries
  | .writing record folder payload (.create _) =>
    isHidden folder = true ∧ Fresh reader root entries record ∧ payload ≠ some attemptRecordFile
  | .writing record folder payload (.save expected) =>
    folder = record.directoryName ∧ Placed reader root record ∧
      SameIdentity expected.toAttemptFields record.toAttemptFields ∧ payload ≠ some attemptRecordFile
  | .publishing _ record temporary => isHidden temporary = true ∧ Fresh reader root entries record ∧
    ∃ files, folderAt entries temporary = some files ∧
      files attemptRecordFile = some (recordBytes reprFloat record.toAttemptFields)

/-- The directory holds the log, and the controller works beside it. -/
structure KeepsLog (reader : AttemptReader) (reprFloat : Rat → List Char) (root : String) (world : AttemptsWorld) :
    Prop where
  stores : Stores reader reprFloat root world.entries (attemptLog world.history)
  working : Working reader reprFloat root world.entries world.controller

section Changes

variable {entries : AttemptsDirectory} {log : List AttemptRecord}

theorem Stores.directories_assign (stores : Stores reader reprFloat root entries log) {folder : String} {files : Files} :
    ∀ entry ∈ assign folder (.folder files) entries, entry.2 = .other → isHidden entry.1 = true := by
  intro entry member other
  rcases (mem_assign stores.distinct).mp member with rfl | ⟨-, inside⟩
  · cases other
  · exact stores.directories entry inside other

/-- A change of a directory that nothing on view shows keeps the log. -/
theorem Stores.assign_view (stores : Stores reader reprFloat root entries log) {folder : String} {files : Files}
    (same : ∀ name content, OnView (assign folder (.folder files) entries) name content ↔ OnView entries name content) :
    Stores reader reprFloat root (assign folder (.folder files) entries) log :=
  ⟨nodup_keys_assign stores.distinct, stores.directories_assign,
    fun name content => (same name content).trans (stores.on_view name content), stores.placed, stores.increasing⟩

/-- Removing a hidden directory keeps the stored log. -/
theorem Stores.remove (stores : Stores reader reprFloat root entries log) {temporary : String}
    (hidden : isHidden temporary = true) :
    Stores reader reprFloat root (entries.filter fun entry => entry.1 ≠ temporary) log :=
  ⟨nodup_remove stores.distinct, fun entry member => stores.directories entry (List.mem_filter.mp member).1,
    fun name content => (onView_remove hidden).trans (stores.on_view name content), stores.placed, stores.increasing⟩

end Changes

/-- The directory an attempt is prepared in starts with a dot. -/
theorem isHidden_temporaryDirectoryName (sequence : Nat) (phase : AttemptPhase) (random : String) :
    isHidden (temporaryDirectoryName sequence phase random) = true := by
  rw [isHidden, temporaryDirectoryName, String.append_assoc, String.append_assoc, String.append_assoc,
    String.toList_append]
  rfl

/-- The steps of `start_attempt` and of a save, one lemma each, from here on. -/
theorem KeepsLog.makeTemporaryDirectory {world after : AttemptsWorld} (keeps : KeepsLog reader reprFloat root world)
    {arguments : StartArguments} {random : String}
    (h : SprintTicket.makeTemporaryDirectory root world arguments random = some after) :
    KeepsLog reader reprFloat root after := by
  unfold SprintTicket.makeTemporaryDirectory at h
  split at h
  · cases h
  rename_i sequence next
  dsimp only at h
  split at h
  · cases h
  cases h
  have hidden := isHidden_temporaryDirectoryName sequence arguments.phase random
  have distinct := keeps.stores.distinct
  exact ⟨keeps.stores.assign_view fun _ _ => onView_assign_hidden distinct hidden, hidden,
    (above_nextSequence next).assign_hidden distinct hidden⟩

theorem KeepsLog.constructRecord {world after : AttemptsWorld} (keeps : KeepsLog reader reprFloat root world)
    {arguments : StartArguments} {sequence : Nat} {temporary : String} {now : Timestamp}
    (at_preparing : world.controller = .preparing arguments sequence temporary)
    (h : SprintTicket.constructRecord reader root world arguments sequence temporary now = some after) :
    KeepsLog reader reprFloat root after := by
  unfold SprintTicket.constructRecord at h
  split at h
  · rename_i record constructed
    cases h
    obtain ⟨fields, admitted⟩ := constructAttempt_ok.mp constructed
    have working := keeps.working
    rw [at_preparing] at working
    have placed : Placed reader root record := by
      refine ⟨?_, ?_⟩
      · rw [AttemptFields.directoryName, fields]
        rfl
      · rw [fields]
        exact admitted
    have above : Above record.sequence world.entries := by
      rw [fields]
      exact working.2
    exact ⟨keeps.stores, working.1, ⟨placed, above⟩, nofun⟩
  · cases h

/-- The file of a directory on view is loaded as the record of the log that it holds. -/
theorem Stores.loadFiles {entries : AttemptsDirectory} {log : List AttemptRecord}
    (stores : Stores reader reprFloat root entries log) {name : String} {files : Files}
    (shown : isHidden name = false) (found : folderAt entries name = some files) {record : AttemptRecord}
    (loaded : SprintTicket.loadFiles reader root name files = .ok record) :
    record ∈ log ∧ name = record.directoryName := by
  unfold SprintTicket.loadFiles at loaded
  cases present : files attemptRecordFile with
  | none =>
    rw [present] at loaded
    obtain ⟨_, failed, _⟩ := loadAttempt_iff.mp loaded
    cases failed
  | some content =>
    rw [present] at loaded
    have view : OnView entries name content := ⟨shown, files, (folderAt_some stores.distinct).mp found, present⟩
    obtain ⟨stored, inLog, own, written⟩ := (stores.on_view name content).mp view
    have again := @Placed.load reader reprFloat root _ (stores.placed stored inLog)
    rw [own, written] at loaded
    cases loaded.symm.trans again
    exact ⟨inLog, own⟩

/-- A save changes neither the number nor the phase of its record. -/
theorem SaveCall.prepare_ok {name : String} {files : Files} {call : SaveCall} {now : Timestamp}
    {expected updated : AttemptRecord} (h : call.prepare reader root name files now = .ok (expected, updated)) :
    SameIdentity expected.toAttemptFields updated.toAttemptFields ∧ updated.Admitted reader := by
  have constructed {changes : AttemptChanges} {own : AttemptRecord}
      (built : constructAttempt reader (changes.apply own.toAttemptFields now) = .ok updated) :
      SameIdentity own.toAttemptFields updated.toAttemptFields ∧ updated.Admitted reader := by
    obtain ⟨fields, admitted⟩ := constructAttempt_ok.mp built
    rw [fields]
    exact ⟨changes.apply_identity own.toAttemptFields now, admitted⟩
  cases call with
  | update record changes =>
    obtain ⟨built, done, same⟩ := bind_ok_iff.mp h
    cases same
    exact constructed done
  | complete arguments evidenceExists =>
    obtain ⟨persisted, _, rest⟩ := bind_ok_iff.mp h
    obtain ⟨_, rest⟩ := check_bind_ok.mp rest
    obtain ⟨built, done, same⟩ := bind_ok_iff.mp rest
    cases same
    exact constructed done

theorem requirePersisted_ok {name : String} {files : Files} {expected updated : AttemptRecord}
    (h : requirePersisted reader root name files expected updated = .ok ()) :
    SprintTicket.loadFiles reader root name files = .ok expected := by
  obtain ⟨persisted, loaded, same⟩ := bind_ok_iff.mp h
  rw [requireExpectedPersistedRecord_ok same] at loaded
  exact loaded

theorem SaveCall.shown (call : SaveCall) : isHidden call.directoryName = false := by
  cases call <;> exact isHidden_directoryName _ _

theorem KeepsLog.beginSave {world after : AttemptsWorld} (keeps : KeepsLog reader reprFloat root world)
    {call : SaveCall} {now : Timestamp} (h : SprintTicket.beginSave reader root world call now = some after) :
    KeepsLog reader reprFloat root after := by
  unfold SprintTicket.beginSave at h
  split at h
  · cases h
  rename_i files found
  split at h
  · rename_i expected updated prepared
    cases h
    obtain ⟨_, rest⟩ := check_bind_ok.mp prepared
    obtain ⟨pair, ready, rest⟩ := bind_ok_iff.mp rest
    obtain ⟨_, rest⟩ := check_bind_ok.mp rest
    obtain ⟨checked, same⟩ := check_bind_ok.mp rest
    cases same
    obtain ⟨identity, admitted⟩ := SaveCall.prepare_ok ready
    obtain ⟨inLog, own⟩ := keeps.stores.loadFiles call.shown found (requirePersisted_ok checked)
    have name : call.directoryName = updated.directoryName := by
      rw [own, AttemptFields.directoryName, AttemptFields.directoryName, identity.sequence, identity.phase]
    refine ⟨keeps.stores, name, ⟨?_, admitted⟩, identity, nofun⟩
    rw [← identity.artifactDirectory, (keeps.stores.placed expected inLog).directory, ← own, name]
  · cases h

/-- A payload is not the record file. -/
theorem temporaryName_record (random : String) : attemptRecordFile ≠ temporaryName attemptRecordFile random :=
  (temporaryName_ne attemptRecordFile random).symm

/-- The payload is written beside `attempt.json`, under another name. -/
theorem KeepsLog.writePayload {world after : AttemptsWorld} (keeps : KeepsLog reader reprFloat root world)
    {record : AttemptRecord} {folder : String} {payload : Option String} {goal : WriteGoal} {random : String} {cut : Nat}
    (at_writing : world.controller = .writing record folder payload goal)
    (h : SprintTicket.writePayload reprFloat world record folder payload goal random cut = some after) :
    KeepsLog reader reprFloat root after := by
  unfold SprintTicket.writePayload at h
  dsimp only at h
  split at h
  · cases h
  rename_i files found
  split at h
  · cases h
    have distinct := keeps.stores.distinct
    have other : some (temporaryName attemptRecordFile random) ≠ some attemptRecordFile :=
      fun same => temporaryName_record random (Option.some.inj same).symm
    have beside : Function.update files (temporaryName attemptRecordFile random)
        (some ((recordBytes reprFloat record.toAttemptFields).take cut)) attemptRecordFile = files attemptRecordFile :=
      Function.update_of_ne (temporaryName_record random) _ _
    refine ⟨keeps.stores.assign_view fun _ _ => onView_beside distinct found beside, ?_⟩
    have working := keeps.working
    rw [at_writing] at working
    cases goal with
    | create arguments =>
      obtain ⟨hidden, fresh, -⟩ := working
      exact ⟨hidden, ⟨fresh.placed, fresh.above.assign_hidden distinct hidden⟩, other⟩
    | save expected =>
      obtain ⟨name, placed, identity, -⟩ := working
      exact ⟨name, placed, identity, other⟩
  · cases h

theorem folderAt_assign {entries : AttemptsDirectory} (distinct : (entries.map Prod.fst).Nodup) {folder : String}
    {files : Files} : folderAt (assign folder (.folder files) entries) folder = some files :=
  (folderAt_some (nodup_keys_assign distinct)).mpr ((mem_assign distinct).mpr (.inl rfl))

/-- The name of a directory on view belongs to one sequence. -/
theorem AttemptRecord.sequence_of_directoryName {left right : AttemptRecord}
    (same : left.directoryName = right.directoryName) : left.sequence = right.sequence := by
  have numbers := congrArg attemptDirectoryNumber same
  rw [AttemptFields.directoryName, AttemptFields.directoryName,
    attemptDirectoryNumber_directoryName left.Valid.sequence_pos,
    attemptDirectoryNumber_directoryName right.Valid.sequence_pos] at numbers
  exact Option.some.inj numbers

/-- The name of a published directory gives the number of its record. -/
theorem entryNumber_record (record : AttemptRecord) (files : Files) :
    entryNumber (record.directoryName, .folder files) = some record.sequence := by
  have shown : isHidden record.directoryName = false := isHidden_directoryName _ _
  have number := attemptDirectoryNumber_directoryName record.Valid.sequence_pos record.phase
  rw [entryNumber, shown, if_neg Bool.false_ne_true, AttemptFields.directoryName, number]

/-- Replacing a record of the log replaces it on view. -/
theorem Stores.replaceRecord {entries : AttemptsDirectory} {log : List AttemptRecord}
    (stores : Stores reader reprFloat root entries log) {expected record : AttemptRecord} {files : Files}
    (inLog : expected ∈ log) (identity : SameIdentity expected.toAttemptFields record.toAttemptFields)
    (placed : Placed reader root record)
    (written : files attemptRecordFile = some (recordBytes reprFloat record.toAttemptFields)) :
    Stores reader reprFloat root (assign record.directoryName (.folder files) entries)
      (replace (fun record => record.sequence) log record) := by
  have name : expected.directoryName = record.directoryName := by
    rw [AttemptFields.directoryName, AttemptFields.directoryName, identity.sequence, identity.phase]
  have own {other : AttemptRecord} (member : other ∈ log) :
      other.directoryName = record.directoryName ↔ other.sequence = record.sequence := by
    constructor
    · exact AttemptRecord.sequence_of_directoryName
    · intro same
      rw [← name, Latest.key_injective stores.increasing member inLog (same.trans identity.sequence.symm)]
  refine ⟨nodup_keys_assign stores.distinct, stores.directories_assign, fun directory content => ?_,
    fun other member => ?_, increasing_replace stores.increasing⟩
  · rw [onView_assign stores.distinct, written, stores.on_view]
    constructor
    · rintro ⟨-, ⟨rfl, present⟩ | ⟨other, stored, member, rfl, rfl⟩⟩
      · exact ⟨record, mem_replace.mpr (.inl ⟨rfl, expected, inLog, identity.sequence⟩), rfl,
          (Option.some.inj present).symm⟩
      · exact ⟨stored, mem_replace.mpr (.inr ⟨member, fun same => other ((own member).mpr same)⟩), rfl, rfl⟩
    · rintro ⟨stored, member, rfl, rfl⟩
      refine ⟨isHidden_directoryName _ _, ?_⟩
      rcases mem_replace.mp member with ⟨rfl, -⟩ | ⟨member, other⟩
      · exact .inl ⟨rfl, rfl⟩
      · exact .inr ⟨fun same => other ((own member).mp same), stored, member, rfl, rfl⟩
  · rcases mem_replace.mp member with ⟨rfl, -⟩ | ⟨member, -⟩
    · exact placed
    · exact stores.placed other member

/-- The replace of `attempt.json` is the step that moves the log. -/
theorem KeepsLog.replaceRecord {world after : AttemptsWorld} (keeps : KeepsLog reader reprFloat root world)
    {record : AttemptRecord} {folder temporary : String} {goal : WriteGoal}
    (at_writing : world.controller = .writing record folder (some temporary) goal)
    (h : SprintTicket.replaceRecord reader reprFloat root world record folder temporary goal = some after) :
    KeepsLog reader reprFloat root after := by
  unfold SprintTicket.replaceRecord at h
  split at h
  · cases h
  rename_i files found
  split at h
  case isFalse => cases h
  rename_i complete
  have distinct := keeps.stores.distinct
  have moved : movePayload files temporary attemptRecordFile =
      some (recordBytes reprFloat record.toAttemptFields) := by
    rw [movePayload, Function.update_self, complete]
  have working := keeps.working
  rw [at_writing] at working
  cases goal with
  | create arguments =>
    cases h
    obtain ⟨hidden, fresh, -⟩ := working
    exact ⟨keeps.stores.assign_view fun _ _ => onView_assign_hidden distinct hidden, hidden,
      ⟨fresh.placed, fresh.above.assign_hidden distinct hidden⟩, _, folderAt_assign distinct, moved⟩
  | save expected =>
    dsimp only at h
    split at h
    · rename_i checked
      cases h
      obtain ⟨rfl, placed, identity, -⟩ := working
      have inLog := (keeps.stores.loadFiles (isHidden_directoryName _ _) found (requirePersisted_ok checked)).1
      refine ⟨?_, trivial⟩
      rw [attemptLog, replay_snoc]
      exact keeps.stores.replaceRecord inLog identity placed moved
    · cases h

/-- A directory that did not exist appends its record. -/
theorem Stores.renameDirectory {entries : AttemptsDirectory} {log : List AttemptRecord}
    (stores : Stores reader reprFloat root entries log) {record : AttemptRecord} {temporary : String} {files : Files}
    (hidden : isHidden temporary = true) (fresh : Fresh reader root entries record)
    (written : files attemptRecordFile = some (recordBytes reprFloat record.toAttemptFields)) :
    Stores reader reprFloat root
      (assign record.directoryName (.folder files) (entries.filter fun entry => entry.1 ≠ temporary))
      (log ++ [record]) := by
  have removed := stores.remove hidden
  have distinct := removed.distinct
  have absent {content : List UInt8} : ¬ OnView entries record.directoryName content := by
    rintro ⟨-, found, member, -⟩
    exact lt_irrefl _ (fresh.above _ member record.sequence (entryNumber_record record found))
  refine ⟨nodup_keys_assign distinct, removed.directories_assign, fun directory content => ?_,
    fun other member => ?_, increasing_append stores.increasing fun old member => ?_⟩
  · rw [onView_assign distinct, onView_remove hidden, written]
    constructor
    · rintro ⟨-, ⟨rfl, present⟩ | ⟨-, view⟩⟩
      · exact ⟨record, by simp, rfl, (Option.some.inj present).symm⟩
      · obtain ⟨stored, member, name, same⟩ := (stores.on_view _ _).mp view
        exact ⟨stored, List.mem_append_left _ member, name, same⟩
    · rintro ⟨stored, member, rfl, rfl⟩
      refine ⟨isHidden_directoryName _ _, ?_⟩
      rcases List.mem_append.mp member with member | last
      · have view := (stores.on_view _ _).mpr ⟨stored, member, rfl, rfl⟩
        refine .inr ⟨fun same => absent (same ▸ view), view⟩
      · rw [List.mem_singleton.mp last]
        exact .inl ⟨rfl, rfl⟩
  · rcases List.mem_append.mp member with member | last
    · exact stores.placed other member
    · rw [List.mem_singleton.mp last]
      exact fresh.placed
  · obtain ⟨-, found, inside, -⟩ := (stores.on_view _ _).mpr ⟨old, member, rfl, rfl⟩
    exact fresh.above _ inside old.sequence (entryNumber_record old found)

/-- The rename of the prepared directory is the step that appends to it. -/
theorem KeepsLog.renameDirectory {world after : AttemptsWorld} (keeps : KeepsLog reader reprFloat root world)
    {arguments : StartArguments} {record : AttemptRecord} {temporary : String}
    (at_publishing : world.controller = .publishing arguments record temporary)
    (h : SprintTicket.renameDirectory world record temporary = some after) : KeepsLog reader reprFloat root after := by
  have working := keeps.working
  rw [at_publishing] at working
  obtain ⟨hidden, fresh, files, found, written⟩ := working
  unfold SprintTicket.renameDirectory at h
  rw [found] at h
  dsimp only at h
  split at h
  · cases h
  cases h
  refine ⟨?_, trivial⟩
  rw [attemptLog, replay_snoc]
  exact keeps.stores.renameDirectory hidden fresh written

/-- The cleanup of a failed start, complete or not, touches hidden entries only. -/
theorem Stores.removeTemporaryDirectory {entries : AttemptsDirectory} {log : List AttemptRecord}
    (stores : Stores reader reprFloat root entries log) {temporary : String} (hidden : isHidden temporary = true)
    (leftover : Option (String → Bool)) :
    Stores reader reprFloat root (SprintTicket.removeTemporaryDirectory entries temporary leftover) log := by
  unfold SprintTicket.removeTemporaryDirectory
  split
  · exact stores.assign_view fun _ _ => onView_assign_hidden stores.distinct hidden
  · exact stores.remove hidden

/-- The cleanup of a failed save leaves `attempt.json` alone. -/
theorem Stores.removePayload {entries : AttemptsDirectory} {log : List AttemptRecord}
    (stores : Stores reader reprFloat root entries log) {folder : String} {payload : Option String}
    (other : payload ≠ some attemptRecordFile) (leftover : Option (String → Bool)) :
    Stores reader reprFloat root (SprintTicket.removePayload entries folder payload leftover) log := by
  unfold SprintTicket.removePayload
  split
  · rename_i temporary files found
    have beside : Function.update files temporary none attemptRecordFile = files attemptRecordFile := by
      apply Function.update_of_ne
      rintro rfl
      exact other rfl
    exact stores.assign_view fun _ _ => onView_beside stores.distinct found beside
  · exact stores

/-- An exception at any point is cleaned up without touching what is published. -/
theorem KeepsLog.raiseException {world : AttemptsWorld} (keeps : KeepsLog reader reprFloat root world)
    (leftover : Option (String → Bool)) : KeepsLog reader reprFloat root (SprintTicket.raiseException world leftover) := by
  have working := keeps.working
  unfold SprintTicket.raiseException
  split
  case h_1 | h_2 => exact ⟨keeps.stores, trivial⟩
  case h_3 stands | h_4 stands | h_5 stands =>
    rw [stands] at working
    exact ⟨keeps.stores.removeTemporaryDirectory working.1 leftover, trivial⟩
  case h_6 stands =>
    rw [stands] at working
    exact ⟨keeps.stores.removePayload working.2.2.2 leftover, trivial⟩

/-- Every step keeps the log. -/
theorem KeepsLog.step {world after : AttemptsWorld} {step : AttemptsStep}
    (h : attemptsStep reader reprFloat root world step = some after) (keeps : KeepsLog reader reprFloat root world) :
    KeepsLog reader reprFloat root after := by
  unfold attemptsStep at h
  split at h
  case h_1 =>
    cases h
    exact ⟨keeps.stores, trivial⟩
  case h_2 => exact keeps.makeTemporaryDirectory h
  case h_3 stands => exact keeps.constructRecord stands h
  case h_4 => exact keeps.beginSave h
  case h_5 stands => exact keeps.writePayload stands h
  case h_6 stands => exact keeps.replaceRecord stands h
  case h_7 stands => exact keeps.renameDirectory stands h
  case h_8 stands =>
    cases h
    have working := keeps.working
    rw [stands] at working
    exact ⟨keeps.stores.removeTemporaryDirectory working.1 _, trivial⟩
  case h_9 =>
    cases h
    exact keeps.raiseException _
  case h_10 =>
    cases h
    exact ⟨keeps.stores, trivial⟩
  case h_11 => cases h

/-- A directory without a record. -/
def Recordless (entry : String × AttemptEntry) : Prop := ∃ files, entry.2 = .folder files ∧ files attemptRecordFile = none

/-- Directories without a record, and what is hidden, hold the empty log. -/
theorem Stores.recordless {entries : AttemptsDirectory} (distinct : (entries.map Prod.fst).Nodup)
    (recordless : ∀ entry ∈ entries, isHidden entry.1 = true ∨ Recordless entry) :
    Stores reader reprFloat root entries [] where
  distinct := distinct
  directories := by
    intro entry member other
    rcases recordless entry member with hidden | ⟨files, folder, -⟩
    · exact hidden
    · rw [other] at folder
      cases folder
  on_view := by
    intro name content
    simp only [List.not_mem_nil, false_and, exists_false, iff_false]
    rintro ⟨shown, files, member, present⟩
    rcases recordless _ member with hidden | ⟨own, folder, missing⟩
    · rw [hidden] at shown
      cases shown
    · cases folder
      rw [present] at missing
      cases missing
  placed := by
    intro record member
    exact absurd member List.not_mem_nil
  increasing := List.Pairwise.nil

/-- A directory that is renamed appends its record, with a sequence above all that stand there. -/
theorem KeepsLog.appended {world after : AttemptsWorld} (keeps : KeepsLog reader reprFloat root world)
    (h : attemptsStep reader reprFloat root world .rename = some after) :
    ∃ record, after.history = world.history ++ [.appended record] ∧ Above record.sequence world.entries := by
  have working := keeps.working
  cases stands : world.controller with
  | publishing arguments record temporary =>
    rw [stands] at working
    simp only [attemptsStep, stands] at h
    refine ⟨record, ?_, working.2.1.above⟩
    unfold SprintTicket.renameDirectory at h
    split at h
    · cases h
    split at h <;> cases h
    rfl
  | _ =>
    simp only [attemptsStep, stands, reduceCtorEq] at h

end Invariant

/-- **The ledger is an append-only log.** After any calls of one controller at a
time, each cut at any step, the loader returns the attempts whose directory was
renamed, in that order and with increasing sequences. -/
theorem attempts_append_only (reader : AttemptReader) (reprFloat : Rat → List Char) (root : String)
    {entries : AttemptsDirectory} (distinct : (entries.map Prod.fst).Nodup)
    (recordless : ∀ entry ∈ entries, isHidden entry.1 = true ∨ Recordless entry) {steps : List AttemptsStep}
    {world : AttemptsWorld}
    (ran : run (attemptsStep reader reprFloat root) ⟨entries, .idle, []⟩ steps = some world) :
    loadAttemptRecords reader root world.entries = .ok (attemptLog world.history) ∧
      (attemptLog world.history).map (fun record => record.sequence) =
        (world.history.filterMap Event.appended?).map (fun record => record.sequence) ∧
      (attemptLog world.history).Pairwise (fun earlier later => earlier.sequence < later.sequence) ∧
      (∀ after, attemptsStep reader reprFloat root world .rename = some after → ∃ record,
        after.history = world.history ++ [.appended record] ∧
          ∀ entry ∈ world.entries, ∀ n ∈ entryNumber entry, n < record.sequence) ∧
      ∀ phases statuses, latestAttemptIn reader root world.entries phases statuses =
        .ok ((attemptLog world.history).filter fun record => phases record.phase && statuses record.status).getLast? := by
  have keeps : KeepsLog reader reprFloat root world := run_invariant' KeepsLog.step ran
    ⟨.recordless distinct recordless, trivial⟩
  have loaded := keeps.stores.load
  refine ⟨loaded, keys_replay, keeps.stores.increasing, fun after h => keeps.appended h, fun phases statuses => ?_⟩
  rw [latestAttemptIn, ok_bind loaded, latestAttempt, Latest.getLast?_filter]

/-- What an earlier crash has left. -/
def orphanedDirectory : AttemptsDirectory := [("002-implementation", .folder fun _ => none)]

def reviewArguments : StartArguments := ⟨.reviewing, none, none⟩

def reviewRecord : AttemptRecord := ⟨begunReview, by decide⟩

def reviewBytes : List UInt8 := recordBytes (fun _ => []) begunReview

/-- The directory while a review is started. -/
def startingReview (files : Files) (controller : Controller) : AttemptsWorld :=
  ⟨orphanedDirectory ++ [(".003-review-k3.tmp", .folder files)], controller, []⟩

def reviewPayload : Files :=
  Function.update (fun _ => none) ".attempt.json.q7.tmp" (some (reviewBytes.take reviewBytes.length))

theorem begunReview_appended : ∃ world,
    run (attemptsStep exampleReader (fun _ => []) "runs/r1/attempts") ⟨orphanedDirectory, .idle, []⟩
      [.start reviewArguments, .makeTemporary "k3", .construct ⟨"2026-01-01T00:00:00Z"⟩,
        .write "q7" reviewBytes.length, .replace, .rename] = some world ∧
      loadAttemptRecords exampleReader "runs/r1/attempts" world.entries = .ok [reviewRecord] := by
  let step := attemptsStep exampleReader (fun _ => []) "runs/r1/attempts"
  have written : run step ⟨orphanedDirectory, .idle, []⟩ [.start reviewArguments, .makeTemporary "k3",
      .construct ⟨"2026-01-01T00:00:00Z"⟩, .write "q7" reviewBytes.length] =
        some (startingReview reviewPayload
          (.writing reviewRecord ".003-review-k3.tmp" (some ".attempt.json.q7.tmp") (.create reviewArguments))) := by
    rfl
  have full : reviewPayload ".attempt.json.q7.tmp" = some (recordBytes (fun _ => []) reviewRecord.toAttemptFields) := by
    rw [reviewPayload, Function.update_self, List.take_length]
    rfl
  have replaced : step (startingReview reviewPayload
      (.writing reviewRecord ".003-review-k3.tmp" (some ".attempt.json.q7.tmp") (.create reviewArguments))) .replace =
        some (startingReview (movePayload reviewPayload ".attempt.json.q7.tmp")
          (.publishing reviewArguments reviewRecord ".003-review-k3.tmp")) := if_pos full
  have renamed : ∃ entries, step (startingReview (movePayload reviewPayload ".attempt.json.q7.tmp")
      (.publishing reviewArguments reviewRecord ".003-review-k3.tmp")) .rename =
        some ⟨entries, .idle, [.appended reviewRecord]⟩ := ⟨_, rfl⟩
  obtain ⟨entries, renamed⟩ := renamed
  have ran : run step ⟨orphanedDirectory, .idle, []⟩ ([.start reviewArguments, .makeTemporary "k3",
      .construct ⟨"2026-01-01T00:00:00Z"⟩, .write "q7" reviewBytes.length] ++ [.replace, .rename]) =
        some ⟨entries, .idle, [.appended reviewRecord]⟩ := by
    rw [run_append, written, Option.bind_some, run_cons, replaced, Option.bind_some, run_cons, renamed]
    rfl
  refine ⟨_, ran, (attempts_append_only exampleReader (fun _ => []) "runs/r1/attempts" (by decide) ?_ ran).1⟩
  intro entry member
  rw [List.mem_singleton.mp member]
  exact .inr ⟨_, rfl, rfl⟩

end SprintTicket
