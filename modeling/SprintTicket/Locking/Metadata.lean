import SprintTicket.Json

/-!
# Lock metadata

The file beside a repository lock says who owns it. `fromDict` takes what
`toDict` wrote unless a text of it is empty.
-/

set_option autoImplicit false

namespace SprintTicket

/-- `RepositoryLockMetadata`; the paths of the two files follow from the identity. -/
structure RepositoryLockMetadata where
  runId : String
  targetRepositoryPath : String
  canonicalRepositoryIdentity : String
  ownerPid : Int
  ownerHostname : String
  acquiredTimestamp : String
  updatedTimestamp : String
  currentState : Option String
deriving DecidableEq, Repr

namespace RepositoryLockMetadata

def toDict (metadata : RepositoryLockMetadata) : List (String × Json) :=
  [("schema_version", .int 1), ("format", .str "ticket_automation.repository_lock"),
    ("run_id", .str metadata.runId), ("target_repository_path", .str metadata.targetRepositoryPath),
    ("canonical_repository_identity", .str metadata.canonicalRepositoryIdentity),
    ("owner_pid", .int metadata.ownerPid), ("owner_hostname", .str metadata.ownerHostname),
    ("acquired_timestamp", .str metadata.acquiredTimestamp),
    ("updated_timestamp", .str metadata.updatedTimestamp),
    ("current_state", (metadata.currentState.map Json.str).getD .null)]

/-- A non-empty string. -/
def text? (data : List (String × Json)) (key : String) : Option String :=
  match Json.get data key with
  | .str value => if value = "" then none else some value
  | _ => none

def pid? (data : List (String × Json)) : Option Int :=
  match Json.get data "owner_pid" with
  | .int value => some value
  | _ => none

def state? (data : List (String × Json)) : Option (Option String) :=
  match Json.get data "current_state" with
  | .null => some none
  | .str value => some (some value)
  | _ => none

def fromDict (data : List (String × Json)) : Option RepositoryLockMetadata := do
  guard ((Json.get data "format").pyEq (.str "ticket_automation.repository_lock"))
  guard ((Json.get data "schema_version").pyEq (.int 1))
  let runId ← text? data "run_id"
  let targetRepositoryPath ← text? data "target_repository_path"
  let canonicalRepositoryIdentity ← text? data "canonical_repository_identity"
  let ownerPid ← pid? data
  let ownerHostname ← text? data "owner_hostname"
  let acquiredTimestamp ← text? data "acquired_timestamp"
  let updatedTimestamp ← text? data "updated_timestamp"
  let currentState ← state? data
  some
    { runId, targetRepositoryPath, canonicalRepositoryIdentity, ownerPid, ownerHostname, acquiredTimestamp
      updatedTimestamp, currentState }

/-- The texts the reader wants to be there. -/
def texts (metadata : RepositoryLockMetadata) : List String :=
  [metadata.runId, metadata.targetRepositoryPath, metadata.canonicalRepositoryIdentity, metadata.ownerHostname,
    metadata.acquiredTimestamp, metadata.updatedTimestamp]

/-- An empty text reads as no text. -/
theorem text?_str {data : List (String × Json)} {key value : String} (found : Json.get data key = .str value) :
    text? data key = if value = "" then none else some value := by
  rw [text?, found]

/-- The state is read as it was written, absent or not. -/
theorem state?_option {data : List (String × Json)} {state : Option String}
    (found : Json.get data "current_state" = (state.map Json.str).getD .null) : state? data = some state := by
  rw [state?, found]
  cases state <;> rfl

/-- What is read from a written file is what was written. -/
theorem fromDict_toDict (metadata : RepositoryLockMetadata) :
    fromDict metadata.toDict = if "" ∈ metadata.texts then none else some metadata := by
  have runId : text? metadata.toDict "run_id" = _ := text?_str rfl
  have path : text? metadata.toDict "target_repository_path" = _ := text?_str rfl
  have identity : text? metadata.toDict "canonical_repository_identity" = _ := text?_str rfl
  have host : text? metadata.toDict "owner_hostname" = _ := text?_str rfl
  have acquired : text? metadata.toDict "acquired_timestamp" = _ := text?_str rfl
  have updated : text? metadata.toDict "updated_timestamp" = _ := text?_str rfl
  have pid : pid? metadata.toDict = some metadata.ownerPid := rfl
  have state : state? metadata.toDict = some metadata.currentState := state?_option rfl
  have format : (Json.get metadata.toDict "format").pyEq (.str "ticket_automation.repository_lock") = true := by
    simp [Json.get, Json.lookup, toDict]
  have version : (Json.get metadata.toDict "schema_version").pyEq (.int 1) = true := by
    simp [Json.get, Json.lookup, toDict, Json.number?]
  unfold fromDict
  rw [runId, path, identity, host, acquired, updated, pid, state, format, version]
  by_cases empty : "" ∈ metadata.texts
  · rw [if_pos empty]
    simp only [texts, List.mem_cons, List.not_mem_nil, or_false] at empty
    rcases empty with empty | empty | empty | empty | empty | empty
    all_goals simp [← empty]
  · rw [if_neg empty]
    simp only [texts, List.mem_cons, List.not_mem_nil, or_false, not_or] at empty
    obtain ⟨first, second, third, fourth, fifth, sixth⟩ := empty
    simp [Ne.symm first, Ne.symm second, Ne.symm third, Ne.symm fourth, Ne.symm fifth, Ne.symm sixth]

end RepositoryLockMetadata

end SprintTicket
