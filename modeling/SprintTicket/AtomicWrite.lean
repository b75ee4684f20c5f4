import Mathlib.Logic.Function.Basic
import SprintTicket.Errors
import SprintTicket.Logic.Effects
import SprintTicket.Logic.Utf8

/-!
# Atomic writes

An atomic write fills a temporary file beside its destination and moves it over
the destination. Every call into the operating system may raise, and the caller
of a JSON write may supply the step that commits the replacement.

`atomic_writes_claimed_iff` says which failures leave the directory as it was.
-/

set_option autoImplicit false

namespace SprintTicket

open Effects Effects.Effect

inductive Entry
  | file (content : List UInt8)
  | directory
  | link (target : String)
deriving DecidableEq

/-- What stands under each name; a directory that does not exist yet has none. -/
abbrev Listing := String → Option Entry

structure WriteTarget where
  path : String
  name : String

/-- What the operating system answers. -/
structure WriteCalls where
  makeParent : Except Raised Unit
  /-- The random names that `mkstemp` tries, with the outcome of each `os.open`. -/
  candidates : List (String × Except Raised Unit)
  openDescriptor : Except Raised Unit
  closeDescriptor : Except Raised Unit
  flush : Except Raised Unit
  sync : Except Raised Unit
  close : Except Raised Unit
  replace : Except Raised Unit
  windows : Bool
  openDirectory : Except Raised Unit
  syncDirectory : Except Raised Unit
  closeDirectory : Except Raised Unit
  removeTemporary : Except Raised Unit

/-- The encoded payload, and how `write_payload` ends after which bytes. -/
structure Payload where
  content : List UInt8
  flushed : List UInt8
  write : Except Raised Unit

def temporaryName (name random : String) : String := "." ++ name ++ "." ++ random ++ ".tmp"

/-- `tempfile.mkstemp`: a name that exists is passed over. -/
def makeTemporary (name : String) : List (String × Except Raised Unit) → Effect Listing Raised String
  | [] => raise ⟨.osError, "[Errno 17] No usable temporary file name found"⟩
  | (random, opened) :: rest => do
    let temporary := temporaryName name random
    if ((← get) temporary).isSome then makeTemporary name rest
    else
      lift opened
      modify fun listing => Function.update listing temporary (some (.file []))
      pure temporary

/-- The `with` block: write, flush, sync; leaving it closes the file. -/
def fillTemporary (calls : WriteCalls) (payload : Payload) (temporary : String) : Effect Listing Raised Unit := do
  let outcome ← attempt do
    modify fun listing => Function.update listing temporary (some (.file payload.flushed))
    lift payload.write
    modify fun listing => Function.update listing temporary (some (.file payload.content))
    lift calls.flush
    lift calls.sync
  lift calls.close
  lift outcome

/-- `temporary.unlink(missing_ok=True)`. -/
def unlinkTemporary (calls : WriteCalls) (temporary : String) : Effect Listing Raised Unit := do
  lift calls.removeTemporary
  modify fun listing => Function.update listing temporary none

def temporaryMissing : Raised := ⟨.osError, "[Errno 2] No such file or directory"⟩

def destinationIsDirectory : Raised := ⟨.osError, "[Errno 21] Is a directory"⟩

/-- `os.replace(temporary, destination)`, where the system lets it happen. -/
def replaceDestination (temporary name : String) (allowed : Except Raised Unit) : Effect Listing Raised Unit := do
  lift allowed
  let listing ← get
  match listing temporary with
  | none => raise temporaryMissing
  | some entry =>
    if listing name = some .directory then raise destinationIsDirectory
    else modify fun listing => Function.update (Function.update listing temporary none) name (some entry)

/-- What a `commit` does with the replacement it is given: it returns, raises, or
calls it and goes on with the outcome. -/
inductive Commit
  | done
  | raise (error : Raised)
  | replace (allowed : Except Raised Unit) (next : Except Raised Unit → Commit)

def Commit.run (temporary name : String) : Commit → Effect Listing Raised Unit
  | .done => pure ()
  | .raise error => Effect.raise error
  | .replace allowed next => do
    let outcome ← attempt (replaceDestination temporary name allowed)
    (next outcome).run temporary name

/-- `replace_destination()`. -/
def Commit.plain (allowed : Except Raised Unit) : Commit :=
  .replace allowed fun
    | .ok () => .done
    | .error error => .raise error

/-- `_sync_directory`. -/
def WriteCalls.syncParent (calls : WriteCalls) : Except Raised Unit :=
  if calls.windows then .ok ()
  else do
    calls.openDirectory
    match calls.syncDirectory with
    | .ok () => calls.closeDirectory
    | .error error => do
      calls.closeDirectory
      .error error

/-- What a failed write raises. -/
def writeFailure (description path : String) (error : Raised) : Raised :=
  if error.isinstance .exception = false then error
  else if error.isinstance .persistenceError then error
  else ⟨.persistenceError, "Could not atomically write " ++ description ++ " " ++ path ++ ": " ++ error.message⟩

/-- The `except` clause of a write; a descriptor that is still open is closed first. -/
def abandonWrite (calls : WriteCalls) (description path : String) (descriptor : Bool) (temporary : Option String)
    (error : Raised) : Effect Listing Raised Unit := do
  if descriptor then lift calls.closeDescriptor
  if let some temporary := temporary then unlinkTemporary calls temporary
  Effect.raise (writeFailure description path error)

/-- The shape both writers share; `commit` is what stands between the closed file
and the sync of the directory. -/
def atomicWrite (description : String) (target : WriteTarget) (payload : Payload) (commit : Commit)
    (calls : WriteCalls) : Effect Listing Raised Unit := do
  lift calls.makeParent
  match ← attempt (makeTemporary target.name calls.candidates) with
  | .error error => abandonWrite calls description target.path false none error
  | .ok temporary =>
    match calls.openDescriptor with
    | .error error => abandonWrite calls description target.path true (some temporary) error
    | .ok () =>
      let outcome ← attempt do
        fillTemporary calls payload temporary
        commit.run temporary target.name
        lift calls.syncParent
      match outcome with
      | .error error => abandonWrite calls description target.path false (some temporary) error
      | .ok () => pure ()

/-- `_atomic_write_text_payload`. -/
def atomicWriteTextPayload (description : String) (target : WriteTarget) (payload : Payload)
    (commit : Option Commit) (calls : WriteCalls) : Effect Listing Raised Unit :=
  match commit with
  | none => atomicWrite description target payload (.plain calls.replace) calls
  | some commit => atomicWrite description target payload commit calls

/-- What `json.dump` has written, and how it ended; a line feed follows. -/
def jsonPayload (dumped : List Char) (write : Except Raised Unit) : Payload :=
  ⟨Utf8.encode (dumped ++ ['\n']), Utf8.encode dumped, write⟩

def textPayload (value : String) (write : Except Raised Unit) : Payload := ⟨Utf8.encode value.toList, [], write⟩

def bytesPayload (value : List UInt8) (write : Except Raised Unit) : Payload := ⟨value, [], write⟩

/-- `atomic_write_json`. -/
def atomicWriteJson (target : WriteTarget) (dumped : List Char) (write : Except Raised Unit)
    (commit : Option Commit) (calls : WriteCalls) : Effect Listing Raised Unit :=
  atomicWriteTextPayload "JSON" target (jsonPayload dumped write) commit calls

/-- `atomic_write_text`. -/
def atomicWriteText (target : WriteTarget) (value : String) (write : Except Raised Unit) (calls : WriteCalls) :
    Effect Listing Raised Unit :=
  atomicWriteTextPayload "text" target (textPayload value write) none calls

/-- `atomic_write_bytes`. -/
def atomicWriteBytes (target : WriteTarget) (value : List UInt8) (write : Except Raised Unit) (calls : WriteCalls) :
    Effect Listing Raised Unit :=
  atomicWrite "bytes" target (bytesPayload value write) (.plain calls.replace) calls

/-- The temporary file is never the target: its name is longer. -/
theorem temporaryName_ne (name random : String) : temporaryName name random ≠ name := by
  intro same
  have lengths := congrArg (·.toList.length) same
  simp only [temporaryName, String.toList_append, List.length_append] at lengths
  have dots : (".".toList.length, ".tmp".toList.length) = (1, 4) := by decide
  rw [Prod.mk.injEq] at dots
  omega

/-- `mkstemp` leaves the directory, or adds an empty file under a new name. -/
theorem makeTemporary_cases {name : String} {candidates : List (String × Except Raised Unit)}
    {before after : Listing} {outcome : Except Raised String}
    (h : makeTemporary name candidates before = (outcome, after)) :
    (∃ error, outcome = .error error ∧ after = before) ∨
      ∃ temporary, outcome = .ok temporary ∧ temporary ≠ name ∧ before temporary = none ∧
        after = Function.update before temporary (some (.file [])) := by
  induction candidates with
  | nil => cases h; exact .inl ⟨_, rfl, rfl⟩
  | cons candidate rest ih =>
    obtain ⟨random, opened⟩ := candidate
    simp only [makeTemporary, get_bind] at h
    split at h
    case isTrue => exact ih h
    case isFalse absent =>
      cases opened with
      | error error => cases h; exact .inl ⟨error, rfl, rfl⟩
      | ok =>
        cases h
        exact .inr ⟨_, rfl, temporaryName_ne name random, by simpa using absent, rfl⟩

/-- The temporary file is written, flushed, synced and closed. -/
def WriteCalls.Fills (calls : WriteCalls) (payload : Payload) : Prop :=
  payload.write = .ok () ∧ calls.flush = .ok () ∧ calls.sync = .ok () ∧ calls.close = .ok ()

instance {calls : WriteCalls} {payload : Payload} : Decidable (calls.Fills payload) :=
  inferInstanceAs (Decidable (_ ∧ _))

/-- Filling touches the temporary file only, and succeeds exactly when every call does. -/
theorem fillTemporary_cases {calls : WriteCalls} {payload : Payload} {temporary : String} {base after : Listing}
    {content : List UInt8} {outcome : Except Raised Unit}
    (h : fillTemporary calls payload temporary (Function.update base temporary (some (.file content))) =
      (outcome, after)) :
    (calls.Fills payload ∧ outcome = .ok () ∧
        after = Function.update base temporary (some (.file payload.content))) ∨
      ¬ calls.Fills payload ∧ ∃ error content, outcome = .error error ∧
        after = Function.update base temporary (some (.file content)) := by
  unfold WriteCalls.Fills
  cases write : payload.write with
  | error error =>
    cases close : calls.close <;>
      simp [fillTemporary, bind_apply, write, close] at h <;> simp [← h.1, ← h.2] <;> exact ⟨_, rfl⟩
  | ok =>
    cases flush : calls.flush <;> cases sync : calls.sync <;> cases close : calls.close <;>
      simp [fillTemporary, bind_apply, write, flush, sync, close] at h <;> simp [← h.1, ← h.2] <;> exact ⟨_, rfl⟩

/-- The outcome of one call of the replacement. -/
def replaceOutcome (blocked replaced : Bool) (allowed : Except Raised Unit) : Except Raised Unit := do
  allowed
  if replaced then .error temporaryMissing
  else if blocked then .error destinationIsDirectory
  else .ok ()

/-- Whether a `commit` has replaced the destination in the end, and how it ends. -/
def Commit.settle (blocked replaced : Bool) : Commit → Bool × Except Raised Unit
  | .done => (replaced, .ok ())
  | .raise error => (replaced, .error error)
  | .replace allowed next =>
    let outcome := replaceOutcome blocked replaced allowed
    (next outcome).settle blocked (replaced || decide (outcome = .ok ()))

/-- The directory before and after the replacement. -/
def stagedListing (base : Listing) (temporary name : String) (content : List UInt8) (replaced : Bool) : Listing :=
  if replaced then Function.update base name (some (.file content))
  else Function.update base temporary (some (.file content))

section Staged

variable {base : Listing} {temporary name : String} {content : List UInt8}

/-- The replace moves the staged payload onto the target, or leaves both where they are. -/
theorem replaceDestination_staged (fresh : base temporary = none) (other : temporary ≠ name) {blocked : Bool}
    (directory : blocked = decide (base name = some .directory)) {replaced : Bool} {allowed : Except Raised Unit} :
    replaceDestination temporary name allowed (stagedListing base temporary name content replaced) =
      (replaceOutcome blocked replaced allowed, stagedListing base temporary name content
        (replaced || decide (replaceOutcome blocked replaced allowed = .ok ()))) := by
  cases allowed with
  | error error => simp [replaceDestination, replaceOutcome, bind, Except.bind]
  | ok =>
    cases replaced with
    | true =>
      have gone : stagedListing base temporary name content true temporary = none := by
        simp [stagedListing, Function.update_of_ne other, fresh]
      simp [replaceDestination, replaceOutcome, bind, Except.bind, gone]
    | false =>
      have same : Function.update base temporary (some (.file content)) name = base name :=
        Function.update_of_ne other.symm _ _
      have moved : Function.update base temporary none = base := by
        rw [← fresh, Function.update_eq_self]
      by_cases isDirectory : base name = some .directory <;>
        simp [replaceDestination, replaceOutcome, bind, Except.bind, stagedListing, same, moved, directory,
          isDirectory]

/-- A commit over the staged listing, whether or not it has replaced the target before it fails. -/
theorem Commit.run_staged (fresh : base temporary = none) (other : temporary ≠ name) {blocked : Bool}
    (directory : blocked = decide (base name = some .directory)) {replaced : Bool} {commit : Commit} :
    commit.run temporary name (stagedListing base temporary name content replaced) =
      ((commit.settle blocked replaced).2,
        stagedListing base temporary name content (commit.settle blocked replaced).1) := by
  induction commit generalizing replaced with
  | done => rfl
  | raise error => rfl
  | replace allowed next ih =>
    rw [Commit.run, bind_apply, attempt_apply, replaceDestination_staged fresh other directory]
    exact ih _

end Staged

/-! ## What a failed write leaves -/

/-- A write that raises leaves everything as it was; one that returns has put its
payload in place. -/
def Claimed (target : WriteTarget) (payload : Payload) (before : Listing) : Except Raised Unit × Listing → Prop
  | (.error _, after) => after = before
  | (.ok (), after) => after target.name = some (.file payload.content)

/-- `mkstemp` succeeds. -/
def WriteCalls.Creates (calls : WriteCalls) (name : String) (before : Listing) : Prop :=
  ∃ temporary, (makeTemporary name calls.candidates before).1 = .ok temporary

/-- Once there is a temporary file: it can be removed after a failure before the
replacement, and nothing fails after the replacement. It does not matter what
becomes of a payload that the destination holds already. -/
def Recoverable (target : WriteTarget) (payload : Payload) (commit : Commit) (calls : WriteCalls)
    (before : Listing) : Prop :=
  if calls.openDescriptor ≠ .ok () then calls.closeDescriptor = .ok () ∧ calls.removeTemporary = .ok ()
  else if ¬ calls.Fills payload then calls.removeTemporary = .ok ()
  else
    match commit.settle (before target.name = some .directory) false, calls.syncParent with
    | (true, .ok ()), .ok () => True
    | (true, _), _ => before target.name = some (.file payload.content)
    | (false, .ok ()), .ok () => before target.name = some (.file payload.content)
    | (false, _), _ => calls.removeTemporary = .ok ()

/-- The failures that leave the directory alone: those before there is a temporary
file, and those that are recoverable. -/
def FailsCleanly (target : WriteTarget) (payload : Payload) (commit : Commit) (calls : WriteCalls)
    (before : Listing) : Prop :=
  calls.makeParent = .ok () → calls.Creates target.name before → Recoverable target payload commit calls before

section Claims

variable {description : String} {target : WriteTarget} {payload : Payload} {commit : Commit} {calls : WriteCalls}
  {before : Listing}

/-- A failed write removes its temporary file where the calls of its handler succeed. -/
theorem abandonWrite_apply {path temporary : String} {descriptor : Bool} {error : Raised} {listing : Listing} :
    ∃ raised, abandonWrite calls description path descriptor (some temporary) error listing =
      (.error raised,
        if (descriptor = true → calls.closeDescriptor = .ok ()) ∧ calls.removeTemporary = .ok () then
          Function.update listing temporary none
        else listing) := by
  cases descriptor <;> cases close : calls.closeDescriptor <;> cases remove : calls.removeTemporary <;>
    simp [abandonWrite, unlinkTemporary, bind_apply, close, remove]

/-- Before the replacement nothing is left exactly when the temporary file is removed. -/
theorem claimed_abandon_before {path temporary : String} {descriptor : Bool} {error : Raised} {entry : Entry}
    (fresh : before temporary = none) :
    Claimed target payload before (abandonWrite calls description path descriptor (some temporary) error
        (Function.update before temporary (some entry))) ↔
      (descriptor = true → calls.closeDescriptor = .ok ()) ∧ calls.removeTemporary = .ok () := by
  obtain ⟨raised, result⟩ := @abandonWrite_apply description calls path temporary descriptor error
    (Function.update before temporary (some entry))
  rw [result, Claimed]
  split
  case isTrue removed =>
    have restored : Function.update before temporary none = before := by
      rw [← fresh, Function.update_eq_self]
    rw [Function.update_idem, restored]
    exact iff_of_true rfl removed
  case isFalse kept =>
    constructor
    · intro same
      have entries := congrFun same temporary
      rw [Function.update_self, fresh] at entries
      cases entries
    · intro removed
      exact absurd removed kept

/-- After it everything is as before exactly when the payload was there already. -/
theorem claimed_abandon_after {path temporary : String} {descriptor : Bool} {error : Raised}
    (fresh : before temporary = none) (other : temporary ≠ target.name) :
    Claimed target payload before (abandonWrite calls description path descriptor (some temporary) error
        (Function.update before target.name (some (.file payload.content)))) ↔
      before target.name = some (.file payload.content) := by
  obtain ⟨raised, result⟩ := @abandonWrite_apply description calls path temporary descriptor error
    (Function.update before target.name (some (.file payload.content)))
  have absent : Function.update before target.name (some (.file payload.content)) temporary = none := by
    rw [Function.update_of_ne other, fresh]
  have removed : Function.update (Function.update before target.name (some (.file payload.content))) temporary none =
      Function.update before target.name (some (.file payload.content)) := by
    rw [← absent, Function.update_eq_self]
  rw [result, removed, ite_self, Claimed]
  constructor
  · intro same
    rw [← same, Function.update_self]
  · intro held
    rw [← held, Function.update_eq_self]

/-- The shared helper does what is claimed exactly when its failures are clean. -/
theorem atomicWrite_claimed_iff :
    Claimed target payload before (atomicWrite description target payload commit calls before) ↔
      FailsCleanly target payload commit calls before := by
  unfold FailsCleanly
  cases parent : calls.makeParent with
  | error error => simp [atomicWrite, bind_apply, parent, Claimed]
  | ok =>
    rcases made : makeTemporary target.name calls.candidates before with ⟨outcome, listing⟩
    obtain ⟨error, rfl, rfl⟩ | ⟨temporary, rfl, other, fresh, rfl⟩ := makeTemporary_cases made
    · simp [atomicWrite, bind_apply, parent, made, abandonWrite, Claimed, WriteCalls.Creates]
    have creates : calls.Creates target.name before := ⟨temporary, by rw [made]⟩
    simp only [creates, forall_const]
    unfold Recoverable
    cases descriptor : calls.openDescriptor with
    | error error =>
      have result : atomicWrite description target payload commit calls before =
          abandonWrite calls description target.path true (some temporary) error
            (Function.update before temporary (some (.file []))) := by
        simp [atomicWrite, bind_apply, parent, made, descriptor]
      rw [result, claimed_abandon_before fresh]
      simp
    | ok =>
      rcases filled : fillTemporary calls payload temporary
        (Function.update before temporary (some (.file []))) with ⟨outcome, listing⟩
      obtain ⟨fills, rfl, rfl⟩ | ⟨unfilled, error, content, rfl, rfl⟩ := fillTemporary_cases filled
      case inr =>
        have result : atomicWrite description target payload commit calls before =
            abandonWrite calls description target.path false (some temporary) error
              (Function.update before temporary (some (.file content))) := by
          simp [atomicWrite, bind_apply, parent, made, descriptor, filled]
        rw [result, claimed_abandon_before fresh]
        simp [unfilled]
      case inl =>
        have ran : commit.run temporary target.name
            (Function.update before temporary (some (.file payload.content))) = _ :=
          @Commit.run_staged before temporary target.name payload.content fresh other _ rfl false commit
        rcases settled : commit.settle (before target.name = some .directory) false with ⟨replaced, ended⟩
        rw [settled] at ran
        -- the handler runs after a failure of the commit or of the sync of the directory
        have failed {error : Raised} (h : ended = .error error ∨ ended = .ok () ∧ calls.syncParent = .error error) :
            atomicWrite description target payload commit calls before =
              abandonWrite calls description target.path false (some temporary) error
                (stagedListing before temporary target.name payload.content replaced) := by
          rcases h with rfl | ⟨rfl, unsynced⟩
          · simp [atomicWrite, bind_apply, parent, made, descriptor, filled, ran]
          · simp [atomicWrite, bind_apply, parent, made, descriptor, filled, ran, unsynced]
        have settles (unfinished : ∃ error, ended = .error error ∨ ended = .ok () ∧ calls.syncParent = .error error) :
            Claimed target payload before (atomicWrite description target payload commit calls before) ↔
              if replaced then before target.name = some (.file payload.content)
              else calls.removeTemporary = .ok () := by
          obtain ⟨error, h⟩ := unfinished
          rw [failed h]
          cases replaced with
          | true => exact claimed_abandon_after fresh other
          | false => exact (claimed_abandon_before fresh).trans (by simp)
        simp only [fills, not_true_eq_false, ne_eq, if_false]
        cases ended with
        | error error =>
          rw [settles ⟨error, .inl rfl⟩]
          cases replaced <;> rfl
        | ok =>
          cases synced : calls.syncParent with
          | error error =>
            rw [settles ⟨error, .inr ⟨rfl, synced⟩⟩]
            cases replaced <;> rfl
          | ok =>
            have result : atomicWrite description target payload commit calls before =
                (.ok (), stagedListing before temporary target.name payload.content replaced) := by
              simp [atomicWrite, bind_apply, parent, made, descriptor, filled, ran, synced]
            rw [result, Claimed]
            cases replaced with
            | true => simp [stagedListing]
            | false => simp [stagedListing, Function.update_of_ne other.symm]

/-- Without a commit of its own, the payload is replaced as `os.replace` does. -/
theorem atomicWriteTextPayload_claimed_iff {commit : Option Commit} :
    Claimed target payload before (atomicWriteTextPayload description target payload commit calls before) ↔
      FailsCleanly target payload (commit.getD (.plain calls.replace)) calls before := by
  cases commit with
  | none => exact atomicWrite_claimed_iff
  | some commit => exact atomicWrite_claimed_iff

end Claims

/-- Which failures of the three writers leave everything as it was. -/
theorem atomic_writes_claimed_iff (target : WriteTarget) (calls : WriteCalls) (before : Listing) :
    (∀ dumped write commit, Claimed target (jsonPayload dumped write) before
        (atomicWriteJson target dumped write commit calls before) ↔
      FailsCleanly target (jsonPayload dumped write) (commit.getD (.plain calls.replace)) calls before) ∧
    (∀ value write, Claimed target (textPayload value write) before
        (atomicWriteText target value write calls before) ↔
      FailsCleanly target (textPayload value write) (.plain calls.replace) calls before) ∧
    (∀ value write, Claimed target (bytesPayload value write) before
        (atomicWriteBytes target value write calls before) ↔
      FailsCleanly target (bytesPayload value write) (.plain calls.replace) calls before) := by
  refine ⟨fun dumped write commit => ?_, fun value write => ?_, fun value write => ?_⟩
  · exact atomicWriteTextPayload_claimed_iff
  · exact atomicWriteTextPayload_claimed_iff
  · exact atomicWrite_claimed_iff

/-- A temporary file that exists carries a name made from the target's. -/
theorem makeTemporary_named {name temporary : String} {candidates : List (String × Except Raised Unit)}
    {before after : Listing} (h : makeTemporary name candidates before = (.ok temporary, after)) :
    ∃ random, temporary = temporaryName name random := by
  induction candidates with
  | nil => cases h
  | cons candidate rest ih =>
    obtain ⟨random, opened⟩ := candidate
    simp only [makeTemporary, get_bind] at h
    split at h
    case isTrue => exact ih h
    case isFalse =>
      cases opened with
      | error error => cases h
      | ok =>
        cases h
        exact ⟨random, rfl⟩

/-- A replacement that a plain write reports done is done. -/
theorem Commit.settle_plain {blocked : Bool} {allowed : Except Raised Unit}
    (returned : ((Commit.plain allowed).settle blocked false).2 = .ok ()) :
    ((Commit.plain allowed).settle blocked false).1 = true := by
  simp only [Commit.plain, Commit.settle] at returned ⊢
  cases outcome : replaceOutcome blocked false allowed with
  | error error =>
    rw [outcome] at returned
    cases returned
  | ok => rfl

/-- The destination has its old content or the payload, and only the temporary file is
there besides. -/
structure WroteAt (target : WriteTarget) (payload : Payload) (before after : Listing) : Prop where
  destination : after target.name = before target.name ∨ after target.name = some (.file payload.content)
  frame : ∀ name, name ≠ target.name → (∀ random, name ≠ temporaryName target.name random) → after name = before name

theorem WroteAt.of_temporary {target : WriteTarget} {payload : Payload} {before : Listing} {temporary : String}
    {entry : Option Entry} (named : ∃ random, temporary = temporaryName target.name random) :
    WroteAt target payload before (Function.update before temporary entry) := by
  obtain ⟨random, rfl⟩ := named
  refine ⟨.inl (Function.update_of_ne (temporaryName_ne _ _).symm _ _), fun name _ unused => ?_⟩
  exact Function.update_of_ne (unused random) _ _

/-- A plain write changes its destination and its temporary file only. The payload is in
place when it returns. -/
theorem atomicWrite_plain_cases {description : String} {target : WriteTarget} {payload : Payload}
    {allowed : Except Raised Unit} {calls : WriteCalls} {before after : Listing} {outcome : Except Raised Unit}
    (h : atomicWrite description target payload (.plain allowed) calls before = (outcome, after)) :
    WroteAt target payload before after ∧
        (outcome = .ok () → after = Function.update before target.name (some (.file payload.content))) := by
  have untouched : WroteAt target payload before before := ⟨.inl rfl, fun _ _ _ => rfl⟩
  rcases bind_cases h with ⟨error, parent, rfl⟩ | ⟨_, listing, parent, h₁⟩
  · cases (Prod.mk.inj parent).2
    exact ⟨untouched, nofun⟩
  have same := (Prod.mk.inj parent).2
  subst same
  obtain ⟨made, listing, making, h₂⟩ := attempt_bind h₁
  obtain ⟨error, rfl, rfl⟩ | ⟨temporary, rfl, other, fresh, rfl⟩ := makeTemporary_cases making
  · cases h₂
    exact ⟨untouched, nofun⟩
  have named := makeTemporary_named making
  have placed : WroteAt target payload before (Function.update before target.name (some (.file payload.content))) :=
    ⟨.inr (Function.update_self _ _ _), fun name different _ => Function.update_of_ne different _ _⟩
  -- the handler leaves the temporary file or removes it
  have abandoned {descriptor : Bool} {error : Raised} {listing : Listing}
      (wrote : listing = Function.update before target.name (some (.file payload.content)) ∨
        ∃ content, listing = Function.update before temporary (some (.file content)))
      (h : abandonWrite calls description target.path descriptor (some temporary) error listing = (outcome, after)) :
      WroteAt target payload before after ∧
        (outcome = .ok () → after = Function.update before target.name (some (.file payload.content))) := by
    obtain ⟨raised, result⟩ := @abandonWrite_apply description calls target.path temporary descriptor error listing
    rw [result] at h
    obtain ⟨rfl, rfl⟩ := Prod.mk.inj h
    refine ⟨?_, nofun⟩
    obtain rfl | ⟨content, rfl⟩ := wrote
    · have absent : Function.update before target.name (some (.file payload.content)) temporary = none := by
        rw [Function.update_of_ne other, fresh]
      rw [← absent, Function.update_eq_self, ite_self]
      exact placed
    · split
      · rw [Function.update_idem]
        exact .of_temporary named
      · exact .of_temporary named
  dsimp only at h₂
  cases descriptor : calls.openDescriptor with
  | error error =>
    rw [descriptor] at h₂
    exact abandoned (.inr ⟨[], rfl⟩) h₂
  | ok =>
    rw [descriptor] at h₂
    obtain ⟨body, listing, ran, h₃⟩ := attempt_bind h₂
    have settled : (listing = Function.update before target.name (some (.file payload.content)) ∨
        ∃ content, listing = Function.update before temporary (some (.file content))) ∧
          (body = .ok () → listing = Function.update before target.name (some (.file payload.content))) := by
      rcases bind_cases ran with ⟨error, filled, rfl⟩ | ⟨_, r, filled, ran₁⟩
      · obtain ⟨-, ended, -⟩ | ⟨-, _, content, -, rfl⟩ := fillTemporary_cases filled
        · cases ended
        · exact ⟨.inr ⟨content, rfl⟩, nofun⟩
      obtain ⟨-, -, rfl⟩ | ⟨-, _, _, ended, -⟩ := fillTemporary_cases filled
      case inr => cases ended
      have committed : (Commit.plain allowed).run temporary target.name
          (Function.update before temporary (some (.file payload.content))) = _ :=
        @Commit.run_staged before temporary target.name payload.content fresh other _ rfl false (.plain allowed)
      rcases staged : (Commit.plain allowed).settle (decide (before target.name = some .directory)) false with
        ⟨replaced, ended⟩
      rw [staged] at committed
      have either : stagedListing before temporary target.name payload.content replaced =
            Function.update before target.name (some (.file payload.content)) ∨
          ∃ content, stagedListing before temporary target.name payload.content replaced =
            Function.update before temporary (some (.file content)) := by
        cases replaced
        · exact .inr ⟨_, rfl⟩
        · exact .inl rfl
      rcases bind_cases ran₁ with ⟨error, failed, rfl⟩ | ⟨_, r', returned, ran₂⟩
      · obtain ⟨-, rfl⟩ := Prod.mk.inj (committed.symm.trans failed)
        exact ⟨either, nofun⟩
      obtain ⟨rfl, rfl⟩ := Prod.mk.inj (committed.symm.trans returned)
      obtain ⟨-, rfl⟩ := Prod.mk.inj ran₂
      refine ⟨either, fun _ => ?_⟩
      have done := Commit.settle_plain (congrArg Prod.snd staged)
      rw [staged] at done
      cases done
      rfl
    cases body with
    | error error => exact abandoned settled.1 h₃
    | ok =>
      obtain ⟨rfl, rfl⟩ := Prod.mk.inj h₃
      have result := settled.2 rfl
      exact ⟨by rw [result]; exact placed, fun _ => result⟩

def unsyncedCalls : WriteCalls where
  makeParent := .ok ()
  candidates := [("x1", .ok ())]
  openDescriptor := .ok ()
  closeDescriptor := .ok ()
  flush := .ok ()
  sync := .ok ()
  close := .ok ()
  replace := .ok ()
  windows := false
  openDirectory := .ok ()
  syncDirectory := .error ⟨.osError, "[Errno 5] Input/output error"⟩
  closeDirectory := .ok ()
  removeTemporary := .ok ()

/-- The write raises with its payload in place of the old content. -/
theorem sync_failure_replaces :
    ¬ ∀ (target : WriteTarget) (dumped : List Char) (write : Except Raised Unit) (commit : Option Commit)
      (calls : WriteCalls) (before : Listing), Claimed target (jsonPayload dumped write) before
        (atomicWriteJson target dumped write commit calls before) := by
  intro claim
  let before : Listing := Function.update (fun _ => none) "run.json" (some (.file []))
  have holds := claim ⟨"/runs/r1/run.json", "run.json"⟩ "\x7b\x7d".toList (.ok ()) none unsyncedCalls before
  rw [atomicWriteJson, atomicWriteTextPayload_claimed_iff] at holds
  have kept : before "run.json" = some (.file (jsonPayload "\x7b\x7d".toList (.ok ())).content) :=
    holds rfl ⟨temporaryName "run.json" "x1", by decide⟩
  revert kept
  decide

end SprintTicket
