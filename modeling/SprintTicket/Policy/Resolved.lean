import Mathlib.Data.List.Sort
import Mathlib.Data.String.Basic
import SprintTicket.AgentExecution

/-!
# Resolved run policies

The immutable policy captured when a run is created: repository, verification
commands, one task policy for each kind of task and the providers they are
assigned to. The constructors are the checks a policy passes, whether it was
resolved from a configuration or read back from `run.json`.
-/

set_option autoImplicit false

namespace SprintTicket

open Checks

/-- A `ResolvedRunPolicyError`. -/
def policyError (message : String) : Raised := ⟨.resolvedRunPolicyError, message⟩

inductive NetworkAccess
  | denied | allowed
deriving DecidableEq, Repr

def NetworkAccess.value : NetworkAccess → String
  | .denied => "denied"
  | .allowed => "allowed"

/-- The iteration order of `AgentTaskKind`. -/
def AgentTaskKind.all : List AgentTaskKind := [.implementation, .review, .correction]

/-- `float(n)`, rounded half to even; `none` when the integer is too large. -/
def floatOfNat (n : Nat) : Option Nat :=
  let unit := 2 ^ (Nat.log2 n - 52)
  let kept := n / unit
  let rest := n % unit
  let rounded := if unit < rest * 2 ∨ (unit = rest * 2 ∧ kept % 2 = 1) then kept + 1 else kept
  if rounded * unit < 2 ^ 1024 then some (rounded * unit) else none

/-- `AgentExecutionPolicy`. -/
structure AgentExecutionPolicy where
  timeoutSeconds : Option Rat
  networkAccess : NetworkAccess
  positive : timeoutSeconds.all (fun seconds => 0 < seconds) = true
deriving DecidableEq

/-- `_task_repository_access`. -/
def taskRepositoryAccess : AgentTaskKind → RepositoryAccess
  | .review => .readOnly
  | .implementation => .workspaceWrite
  | .correction => .workspaceWrite

/-- `_task_execution_policy`. -/
def taskExecutionPolicy (kind : AgentTaskKind) (timeoutSeconds : Nat) (positive : 0 < timeoutSeconds) :
    AgentExecutionPolicy where
  timeoutSeconds := some timeoutSeconds
  networkAccess := match kind with
    | .review => .denied
    | .implementation | .correction => .allowed
  positive := by simpa using positive

/-- A whole number of seconds that a float holds exactly. -/
def ResolvedTimeout (seconds : Nat) : Prop := 0 < seconds ∧ floatOfNat seconds = some seconds

instance (seconds : Nat) : Decidable (ResolvedTimeout seconds) := inferInstanceAs (Decidable (_ ∧ _))

theorem resolvedTimeout_hour : ResolvedTimeout 3600 := by decide +kernel

/-- `ResolvedTaskPolicy`. Its constructor fixes access, capabilities and network
by the kind of the task and leaves a whole timeout. -/
structure ResolvedTaskPolicy (kind : AgentTaskKind) where
  providerId : ProviderId
  repositoryAccess : RepositoryAccess
  requiredCapabilities : Finset AgentCapability
  executionPolicy : AgentExecutionPolicy
  access_eq : repositoryAccess = taskRepositoryAccess kind
  capabilities_eq : requiredCapabilities = requiredExecutionCapabilities repositoryAccess
  execution_eq : ∃ seconds, ∃ timeout : ResolvedTimeout seconds,
    executionPolicy = taskExecutionPolicy kind seconds timeout.1

/-- `_resolved_task_policy` for a typed provider. -/
def resolvedTaskPolicy (kind : AgentTaskKind) (providerId : ProviderId) (timeoutSeconds : Nat) :
    Except Raised (ResolvedTaskPolicy kind) :=
  if timeout : ResolvedTimeout timeoutSeconds then
    .ok
      { providerId
        repositoryAccess := taskRepositoryAccess kind
        requiredCapabilities := requiredExecutionCapabilities (taskRepositoryAccess kind)
        executionPolicy := taskExecutionPolicy kind timeoutSeconds timeout.1
        access_eq := rfl
        capabilities_eq := rfl
        execution_eq := ⟨timeoutSeconds, timeout, rfl⟩ }
  else .error (policyError ("resolved_policy task " ++ kind.value ++
    " execution_policy.timeout_seconds must be a finite, positive whole number of seconds that " ++
    "is exactly representable by the execution policy."))

/-- A task policy is determined by its provider and its timeout. -/
theorem ResolvedTaskPolicy.eq_resolved {kind : AgentTaskKind} (policy : ResolvedTaskPolicy kind) :
    ∃ seconds, ∃ timeout : ResolvedTimeout seconds,
      policy.executionPolicy = taskExecutionPolicy kind seconds timeout.1 ∧
        resolvedTaskPolicy kind policy.providerId seconds = .ok policy := by
  obtain ⟨provider, access, capabilities, execution, rfl, rfl, seconds, timeout, rfl⟩ := policy
  exact ⟨seconds, timeout, rfl, dif_pos timeout⟩

/-- `json.loads` and `_canonical_json`, the sorted compact text of a JSON value. -/
structure JsonText where
  loads : String → Except Raised Json
  canonical : Json → Except Raised String

@[ext]
structure ResolvedProviderPolicy where
  providerId : ProviderId
  adapterPolicyVersion : String
  declaredCapabilities : Finset AgentCapability
  payloadJson : String
  version_nonblank : isBlank adapterPolicyVersion = false

instance : DecidableEq ResolvedProviderPolicy := fun _ _ => decidable_of_iff _ ResolvedProviderPolicy.ext_iff.symm

/-- `ResolvedProviderPolicy.payload`. -/
def ResolvedProviderPolicy.payload (text : JsonText) (policy : ResolvedProviderPolicy) : Except Raised Json :=
  text.loads policy.payloadJson

/-- The constructor of `ResolvedProviderPolicy`. -/
def ResolvedProviderPolicy.ofFields (text : JsonText) (providerId : ProviderId) (adapterPolicyVersion : String)
    (declaredCapabilities : Finset AgentCapability) (payloadJson : String) :
    Except Raised ResolvedProviderPolicy :=
  if nonblank : isBlank adapterPolicyVersion = false then do
    let payload ← reraise .valueError (fun _ => policyError "resolved provider payload must use valid JSON.")
      (text.loads payloadJson)
    let again ← text.canonical payload
    raiseIf (again ≠ payloadJson) (policyError "resolved provider payload must use canonical JSON.")
    pure ⟨providerId, adapterPolicyVersion, declaredCapabilities, payloadJson, nonblank⟩
  else .error (policyError "resolved provider adapter policy version must be non-empty.")

/-- A constructed provider policy holds the canonical text of its payload. -/
theorem ResolvedProviderPolicy.ofFields_ok {text : JsonText} {providerId : ProviderId} {version payloadJson : String}
    {capabilities : Finset AgentCapability} {policy : ResolvedProviderPolicy}
    (h : ResolvedProviderPolicy.ofFields text providerId version capabilities payloadJson = .ok policy) :
    ∃ payload, text.loads payloadJson = .ok payload ∧ text.canonical payload = .ok payloadJson ∧
      ∃ nonblank, policy = ⟨providerId, version, capabilities, payloadJson, nonblank⟩ := by
  unfold ResolvedProviderPolicy.ofFields at h
  split at h
  · rename_i nonblank
    obtain ⟨payload, loaded, h⟩ := bind_ok_iff.mp h
    obtain ⟨again, written, h⟩ := bind_ok_iff.mp h
    obtain ⟨same, h⟩ := check_bind_ok.mp h
    rw [raiseIf_ok, not_not] at same
    rw [reraise_ok] at loaded
    rw [same] at written
    exact ⟨payload, loaded, written, nonblank, (pure_ok.mp h).symm⟩
  · cases h

/-! ## Policies -/

structure VerificationCommand where
  name : String
  argv : List String
  timeoutSeconds : Nat
deriving DecidableEq, Repr

/-- The names of `_POLICY_ASSETS`. -/
def policyAssetNames : List String :=
  ["prompt.implementation", "prompt.correction", "prompt.review", "result-contract.implementation",
    "result-contract.review"]

/-- `_is_sha` on a text. -/
def isSha (value : String) : Bool :=
  (value.toList.length = 40 || value.toList.length = 64) &&
    value.toList.all fun c => "0123456789abcdef".toList.contains c

/-- `Path.is_absolute` of a POSIX path. -/
def isAbsolute (path : String) : Bool := path.toList.head? = some '/'

/-- The fields of `ResolvedRunPolicy`, not yet validated. `taskPolicy` is the
complete and ordered tuple of the three task policies, and its lookup. -/
structure ResolvedPolicyFields where
  targetRepositoryPath : String
  protectedBranches : List String
  verificationCommands : List VerificationCommand
  maxCorrectionRounds : Nat
  taskPolicy : (kind : AgentTaskKind) → ResolvedTaskPolicy kind
  providerPolicies : List ResolvedProviderPolicy
  ticketAutomationPackage : String
  ticketAutomationVersion : String
  ticketAutomationSourceKind : String
  ticketAutomationSourceRevision : Option String
  policyAssetSha256 : List (String × String)

/-- One command of `_validate_verification_commands`. -/
def validateVerificationCommand (index : Nat) (command : VerificationCommand) : Except Raised Unit := do
  raiseIf (isBlank command.name)
    (policyError s!"resolved_policy verification.commands[{index}].name is invalid.")
  raiseIf (command.argv = [] ∨ command.argv.any isBlank)
    (policyError s!"resolved_policy verification.commands[{index}].argv is invalid.")
  raiseIf (command.timeoutSeconds < 1)
    (policyError s!"resolved_policy verification.commands[{index}].timeout_seconds is invalid.")

/-- `_validate_source_identity`. -/
def validateSourceIdentity (kind : String) (revision : Option String) : Except Raised Unit :=
  if kind = "git" then
    raiseIf (revision.all fun sha => !isSha sha)
      (policyError "resolved_policy ticket_automation.source.revision must be a SHA.")
  else if kind = "installed-package" then
    raiseIf (revision ≠ none)
      (policyError "resolved_policy installed-package source revision must be null.")
  else .error (policyError "resolved_policy ticket_automation.source.kind is unsupported.")

/-- `_validate_policy_assets`. -/
def validatePolicyAssets (assets : List (String × String)) : Except Raised Unit :=
  raiseIf (¬(assets.map Prod.fst).Nodup ∨ (assets.map Prod.fst).toFinset ≠ policyAssetNames.toFinset ∨
      assets.insertionSort NameOrder ≠ assets ∨ assets.any fun asset => !isSha asset.2)
    (policyError "resolved_policy policy_assets is incomplete or invalid.")

/-- The provider the relationships look up for a task. -/
def declaredCapabilities (providers : List ResolvedProviderPolicy) (id : ProviderId) : Finset AgentCapability :=
  ((providers.find? fun provider => provider.providerId = id).map
    ResolvedProviderPolicy.declaredCapabilities).getD ∅

/-- `_validate_policy_relationships`. -/
def validatePolicyRelationships (policy : ResolvedPolicyFields) : Except Raised Unit := do
  let referenced := AgentTaskKind.all.map fun kind => (policy.taskPolicy kind).providerId
  let configured := policy.providerPolicies.map ResolvedProviderPolicy.providerId
  raiseIf (¬configured.Nodup ∨ configured.toFinset ≠ referenced.toFinset)
    (policyError "resolved_policy providers must exactly match task assignments.")
  checkEach (fun _ kind =>
    let task := policy.taskPolicy kind
    raiseIf (¬task.requiredCapabilities ⊆ declaredCapabilities policy.providerPolicies task.providerId)
      (policyError ("resolved_policy provider " ++ task.providerId.value ++
        " lacks capabilities required for " ++ kind.value ++ "."))) 0 AgentTaskKind.all

/-- The checks of the constructor, in the order of the source. -/
def validateResolvedPolicy (policy : ResolvedPolicyFields) : Except Raised Unit := do
  raiseIf (isBlank policy.targetRepositoryPath ∨ isAbsolute policy.targetRepositoryPath = false)
    (policyError "resolved_policy target_repository.path must be absolute.")
  raiseIf (policy.protectedBranches = [] ∨ policy.protectedBranches.any isBlank)
    (policyError "resolved_policy target_repository.protected_branches must be a non-empty string tuple.")
  raiseIf (policy.verificationCommands = [])
    (policyError "resolved_policy verification.commands must be non-empty.")
  checkEach validateVerificationCommand 1 policy.verificationCommands
  raiseIf (policy.maxCorrectionRounds < 1)
    (policyError "resolved_policy verification.max_correction_rounds must be positive.")
  raiseIf (policy.ticketAutomationPackage ≠ "ticket-automation")
    (policyError "resolved_policy ticket_automation.package is unsupported.")
  raiseIf (isBlank policy.ticketAutomationVersion)
    (policyError "resolved_policy ticket_automation.version must be non-empty.")
  validateSourceIdentity policy.ticketAutomationSourceKind policy.ticketAutomationSourceRevision
  validatePolicyAssets policy.policyAssetSha256
  validatePolicyRelationships policy

/-- `ResolvedRunPolicy`: validated fields. -/
structure ResolvedRunPolicy extends ResolvedPolicyFields where
  valid : validateResolvedPolicy toResolvedPolicyFields = .ok ()

/-- The constructor of `ResolvedRunPolicy`. -/
def ResolvedRunPolicy.ofFields (fields : ResolvedPolicyFields) : Except Raised ResolvedRunPolicy :=
  match h : validateResolvedPolicy fields with
  | .ok () => .ok ⟨fields, h⟩
  | .error error => .error error

theorem ResolvedRunPolicy.ofFields_ok {fields : ResolvedPolicyFields} {policy : ResolvedRunPolicy} :
    ResolvedRunPolicy.ofFields fields = .ok policy ↔ policy.toResolvedPolicyFields = fields := by
  unfold ResolvedRunPolicy.ofFields
  constructor
  · intro h
    split at h
    · cases h; rfl
    · cases h
  · rintro rfl
    split
    · rfl
    · rename_i error invalid
      rw [policy.valid] at invalid
      cases invalid

/-- The one payload of the example provider, and its text. -/
def nullText : JsonText where
  loads text := if text = "null" then .ok .null else .error ⟨.valueError, "Expecting value"⟩
  canonical
    | .null => .ok "null"
    | _ => .error (policyError "Provider resolved payload must be valid JSON.")

def examplePolicyFields : ResolvedPolicyFields where
  targetRepositoryPath := "/repo"
  protectedBranches := ["main"]
  verificationCommands := [⟨"tests", ["pytest", "-q"], 600⟩]
  maxCorrectionRounds := 2
  taskPolicy kind :=
    { providerId := exampleProvider
      repositoryAccess := taskRepositoryAccess kind
      requiredCapabilities := requiredExecutionCapabilities (taskRepositoryAccess kind)
      executionPolicy := taskExecutionPolicy kind 3600 (by decide)
      access_eq := rfl
      capabilities_eq := rfl
      execution_eq := ⟨3600, resolvedTimeout_hour, rfl⟩ }
  providerPolicies :=
    [⟨exampleProvider, "1", {.readOnlyExecution, .workspaceWriteExecution, .structuredResult, .isolatedInvocation,
      .diagnosticArtifactCapture, .networkPolicyControl}, "null", by decide⟩]
  ticketAutomationPackage := "ticket-automation"
  ticketAutomationVersion := "0.1.0"
  ticketAutomationSourceKind := "installed-package"
  ticketAutomationSourceRevision := none
  policyAssetSha256 :=
    [("prompt.correction", "0000000000000000000000000000000000000000"),
      ("prompt.implementation", "0000000000000000000000000000000000000000"),
      ("prompt.review", "0000000000000000000000000000000000000000"),
      ("result-contract.implementation", "0000000000000000000000000000000000000000"),
      ("result-contract.review", "0000000000000000000000000000000000000000")]

def examplePolicy : ResolvedRunPolicy := ⟨examplePolicyFields, by decide +kernel⟩

end SprintTicket
