import SprintTicket.Config
import SprintTicket.Policy.Codec

/-!
# Resolving the policy of a run

`resolveRunPolicy` builds the policy of a new run from its configuration and
the registered providers. `resolved_policy_round_trip_iff` says when the policy
of a resumed run is the one that was created: the configuration and the
registrations pass texts on that the reader of the policy strips.
-/

set_option autoImplicit false

namespace SprintTicket

open Checks PolicyCodec

/-- `ProviderPolicyCodec`, over the provider's own type of policies. -/
structure ProviderRegistration (Policy : Type) where
  providerId : ProviderId
  policyVersion : String
  capabilities : Finset AgentCapability
  encodeRunPolicy : Policy → Except Raised Json
  decodeRunPolicy : Json → Except Raised Policy

/-- What resolving reads of the installation and the file system. -/
structure Installation where
  /-- `str(Path(path).resolve())`. -/
  resolvePath : String → Except Raised String
  applicationVersion : String
  /-- `_ticket_automation_git_sha`. -/
  gitSha : Option String
  /-- The digest of a policy asset. -/
  assetSha256 : String → Except Raised String

/-- `_policy_asset_sha256`. -/
def policyAssetSha256 (installation : Installation) : List String → Except Raised (List (String × String))
  | [] => .ok []
  | name :: rest => do
    let digest ← reraise .osError
      (fun error => policyError ("Could not read TicketAutomation policy asset: " ++ error.message))
      (installation.assetSha256 name)
    let others ← policyAssetSha256 installation rest
    pure ((name, digest) :: others)

/-- The task policy of an assigned kind of task. -/
def assignedTaskPolicy (kind : AgentTaskKind) (assignment : Option ProviderId) (timeoutSeconds : Nat) :
    Except Raised (ResolvedTaskPolicy kind) :=
  match assignment with
  | none => .error (policyError ("Missing typed provider assignment for " ++ kind.value ++ "."))
  | some id => resolvedTaskPolicy kind id timeoutSeconds

section Providers

variable {Policy : Type} (text : JsonText) (policies : List (ProviderId × Policy))
  (registrations : List (ProviderId × ProviderRegistration Policy))

/-- The payload text of one provider, which its own decoder accepts. -/
def encodePayload (registration : ProviderRegistration Policy) (policy : Policy) : Except Raised String := do
  let payload ← registration.encodeRunPolicy policy
  let payloadJson ← text.canonical payload
  let again ← text.loads payloadJson
  let _ ← registration.decodeRunPolicy again
  pure payloadJson

/-- The policy of one referenced provider. -/
def resolveProvider (id : ProviderId) : Except Raised ResolvedProviderPolicy :=
  match registrations.lookup id, policies.lookup id with
  | some registration, some policy => do
    raiseIf (registration.providerId ≠ id)
      (policyError ("Provider registration identity does not match " ++ id.value ++ "."))
    raiseIf (isBlank registration.policyVersion)
      (policyError ("Provider " ++ id.value ++ " policy version must be a non-empty string."))
    let payloadJson ← reraiseAny [.osError, .runtimeError, .typeError, .valueError]
      (fun error => policyError
        ("Provider " ++ id.value ++ " could not encode its resolved policy: " ++ error.message))
      (encodePayload text registration policy)
    ResolvedProviderPolicy.ofFields text id registration.policyVersion registration.capabilities payloadJson
  | _, _ => .error (policyError "Resolved provider policies must exactly match task assignments.")

/-- The policies of the referenced providers, in their order. -/
def resolveProviders : List ProviderId → Except Raised (List ResolvedProviderPolicy)
  | [] => .ok []
  | id :: rest => do
    let provider ← resolveProvider text policies registrations id
    let others ← resolveProviders rest
    pure (provider :: others)

end Providers

/-- `sorted(referenced, key=str)`. -/
def ProviderIdOrder (left right : ProviderId) : Prop := left.value ≤ right.value

instance : DecidableRel ProviderIdOrder := fun left right => inferInstanceAs (Decidable (left.value ≤ right.value))

instance : Std.Total ProviderIdOrder := ⟨fun left right => le_total left.value right.value⟩

instance : IsTrans ProviderId ProviderIdOrder := ⟨fun _ _ _ => le_trans⟩

section Resolve

variable {Policy : Type} (text : JsonText) (installation : Installation) (config : AppConfig)
  (targetRepositoryPath : String) (assignments : AgentTaskKind → Option ProviderId)
  (policies : List (ProviderId × Policy)) (registrations : List (ProviderId × ProviderRegistration Policy))

/-- The three task policies, in the order of the kinds. -/
def resolveTasks : Except Raised ((kind : AgentTaskKind) → ResolvedTaskPolicy kind) := do
  let timeouts := config.agents.timeouts
  let implementation ← assignedTaskPolicy .implementation (assignments .implementation) (timeouts .implementation)
  let review ← assignedTaskPolicy .review (assignments .review) (timeouts .review)
  let correction ← assignedTaskPolicy .correction (assignments .correction) (timeouts .correction)
  pure fun
    | .implementation => implementation
    | .review => review
    | .correction => correction

/-- `resolve_run_policy`. -/
def resolveRunPolicy : Except Raised ResolvedRunPolicy := do
  let taskPolicy ← resolveTasks config assignments
  let referenced := AgentTaskKind.all.map fun kind => (taskPolicy kind).providerId
  raiseIf ((policies.map Prod.fst).toFinset ≠ referenced.toFinset)
    (policyError "Resolved provider policies must exactly match task assignments.")
  raiseIf ((registrations.map Prod.fst).toFinset ≠ referenced.toFinset)
    (policyError "Provider registrations must exactly match task assignments.")
  let providerPolicies ← resolveProviders text policies registrations
    (referenced.dedup.insertionSort ProviderIdOrder)
  let path ← installation.resolvePath targetRepositoryPath
  let assets ← policyAssetSha256 installation policyAssetNames
  ResolvedRunPolicy.ofFields
    { targetRepositoryPath := path
      protectedBranches := config.project.protectedBranches
      verificationCommands := config.verificationCommands
      maxCorrectionRounds := config.runner.maxCorrectionRounds
      taskPolicy, providerPolicies
      ticketAutomationPackage := "ticket-automation"
      ticketAutomationVersion := installation.applicationVersion
      ticketAutomationSourceKind := if installation.gitSha.isSome then "git" else "installed-package"
      ticketAutomationSourceRevision := installation.gitSha
      policyAssetSha256 := assets.insertionSort NameOrder }

end Resolve

section Resolved

variable {Policy : Type} {text : JsonText} {installation : Installation} {config : AppConfig}
  {targetRepositoryPath : String} {assignments : AgentTaskKind → Option ProviderId}
  {policies : List (ProviderId × Policy)} {registrations : List (ProviderId × ProviderRegistration Policy)}

/-- A provider policy made from the registration of its provider. -/
structure ResolvedFrom (text : JsonText) (registrations : List (ProviderId × ProviderRegistration Policy))
    (provider : ResolvedProviderPolicy) : Prop where
  version : ∃ registration, registrations.lookup provider.providerId = some registration ∧
    provider.adapterPolicyVersion = registration.policyVersion
  canonical : CanonicalPayload text provider

/-- A resolved provider comes from its registration. -/
theorem resolveProvider_ok {id : ProviderId} {provider : ResolvedProviderPolicy}
    (h : resolveProvider text policies registrations id = .ok provider) :
    provider.providerId = id ∧ ResolvedFrom text registrations provider := by
  unfold resolveProvider at h
  split at h
  · rename_i registration policy registered _
    obtain ⟨_, h⟩ := check_bind_ok.mp h
    obtain ⟨_, h⟩ := check_bind_ok.mp h
    obtain ⟨payloadJson, _, h⟩ := bind_ok_iff.mp h
    obtain ⟨payload, loaded, written, _, rfl⟩ := ResolvedProviderPolicy.ofFields_ok h
    exact ⟨rfl, ⟨registration, registered, rfl⟩, payload, loaded, written⟩
  · cases h

theorem resolveProviders_ok {ids : List ProviderId} {providers : List ResolvedProviderPolicy}
    (h : resolveProviders text policies registrations ids = .ok providers) :
    providers.map ResolvedProviderPolicy.providerId = ids ∧
      ∀ provider ∈ providers, ResolvedFrom text registrations provider := by
  induction ids generalizing providers with
  | nil =>
    cases h
    simp
  | cons id ids ih =>
    obtain ⟨provider, one, h⟩ := bind_ok_iff.mp h
    obtain ⟨others, rest, h⟩ := bind_ok_iff.mp h
    obtain ⟨identity, made⟩ := resolveProvider_ok one
    obtain ⟨identities, all⟩ := ih rest
    rw [← pure_ok.mp h, List.map_cons, identity, identities, List.forall_mem_cons]
    exact ⟨rfl, made, all⟩

/-- The parts of a resolved policy the reader strips, and the order of its providers. -/
structure Resolution (text : JsonText) (installation : Installation) (config : AppConfig)
    (targetRepositoryPath : String) (assignments : AgentTaskKind → Option ProviderId)
    (registrations : List (ProviderId × ProviderRegistration Policy)) (policy : ResolvedRunPolicy) : Prop where
  path : installation.resolvePath targetRepositoryPath = .ok policy.targetRepositoryPath
  branches : policy.protectedBranches = config.project.protectedBranches
  commands : policy.verificationCommands = config.verificationCommands
  version : policy.ticketAutomationVersion = installation.applicationVersion
  providers : ∀ provider ∈ policy.providerPolicies, ResolvedFrom text registrations provider
  assigned : ∀ id, id ∈ policy.providerPolicies.map ResolvedProviderPolicy.providerId ↔
    ∃ kind, assignments kind = some id
  ordered : policy.providerPolicies.Pairwise ProviderOrder

theorem assignedTaskPolicy_ok {kind : AgentTaskKind} {assignment : Option ProviderId} {seconds : Nat}
    {task : ResolvedTaskPolicy kind} (h : assignedTaskPolicy kind assignment seconds = .ok task) :
    assignment = some task.providerId := by
  unfold assignedTaskPolicy at h
  split at h
  · cases h
  · rename_i id
    unfold resolvedTaskPolicy at h
    split at h
    · cases h
      rfl
    · cases h

theorem resolveTasks_ok {taskPolicy : (kind : AgentTaskKind) → ResolvedTaskPolicy kind}
    (h : resolveTasks config assignments = .ok taskPolicy) (kind : AgentTaskKind) :
    assignments kind = some (taskPolicy kind).providerId := by
  obtain ⟨implementation, first, h⟩ := bind_ok_iff.mp h
  obtain ⟨review, second, h⟩ := bind_ok_iff.mp h
  obtain ⟨correction, third, h⟩ := bind_ok_iff.mp h
  rw [← pure_ok.mp h]
  cases kind with
  | implementation => exact assignedTaskPolicy_ok first
  | review => exact assignedTaskPolicy_ok second
  | correction => exact assignedTaskPolicy_ok third

theorem AgentTaskKind.mem_all (kind : AgentTaskKind) : kind ∈ AgentTaskKind.all := by
  cases kind <;> decide

/-- What a policy is that `resolve_run_policy` returns. -/
theorem resolveRunPolicy_ok {policy : ResolvedRunPolicy}
    (h : resolveRunPolicy text installation config targetRepositoryPath assignments policies registrations =
      .ok policy) :
    Resolution text installation config targetRepositoryPath assignments registrations policy := by
  obtain ⟨taskPolicy, tasks, h⟩ := bind_ok_iff.mp h
  obtain ⟨_, h⟩ := check_bind_ok.mp h
  obtain ⟨_, h⟩ := check_bind_ok.mp h
  obtain ⟨providers, made, h⟩ := bind_ok_iff.mp h
  obtain ⟨path, resolved, h⟩ := bind_ok_iff.mp h
  obtain ⟨assets, _, h⟩ := bind_ok_iff.mp h
  have fields := ResolvedRunPolicy.ofFields_ok.mp h
  obtain ⟨identities, all⟩ := resolveProviders_ok made
  have own : policy.providerPolicies = providers := congrArg ResolvedPolicyFields.providerPolicies fields
  have assigned := resolveTasks_ok tasks
  refine
    { path := ?_, assigned := ?_, ordered := ?_
      providers := own ▸ all
      branches := congrArg ResolvedPolicyFields.protectedBranches fields
      commands := congrArg ResolvedPolicyFields.verificationCommands fields
      version := congrArg ResolvedPolicyFields.ticketAutomationVersion fields }
  · rw [resolved, congrArg ResolvedPolicyFields.targetRepositoryPath fields]
  · intro id
    rw [own, identities, List.mem_insertionSort, List.mem_dedup, List.mem_map]
    constructor
    · rintro ⟨kind, _, rfl⟩
      exact ⟨kind, assigned kind⟩
    · rintro ⟨kind, known⟩
      rw [assigned kind, Option.some.injEq] at known
      exact ⟨kind, kind.mem_all, known⟩
  · have sorted := List.pairwise_insertionSort ProviderIdOrder
      (AgentTaskKind.all.map fun kind => (taskPolicy kind).providerId).dedup
    rw [← identities, List.pairwise_map] at sorted
    rw [own]
    exact sorted

/-! ## The round trip -/

/-- The texts that are passed on as they are and stripped when the policy is
read back have no surrounding whitespace. -/
structure TrimmedInputs (raw : ConfigTable) (installation : Installation) (targetRepositoryPath : String)
    (assignments : AgentTaskKind → Option ProviderId)
    (registrations : List (ProviderId × ProviderRegistration Policy)) : Prop where
  /-- The resolved path of the target repository. -/
  path : ∀ path, installation.resolvePath targetRepositoryPath = .ok path → strip path = path
  /-- The items of `project.protected_branches`. -/
  branches : ∀ project items, raw.lookup "project" = some (.table project) →
    project.lookup "protected_branches" = some (.arr items) → ∀ branch, .str branch ∈ items → strip branch = branch
  /-- The policy versions of the assigned providers. -/
  registrations : ∀ kind id registration, assignments kind = some id →
    registrations.lookup id = some registration → strip registration.policyVersion = registration.policyVersion
  version : strip installation.applicationVersion = installation.applicationVersion

/-- A resolved policy is trimmed exactly when its inputs are. -/
theorem Resolution.trimmed_iff {raw : ConfigTable} {policy : ResolvedRunPolicy} (parsed : parseConfig raw = .ok config)
    (resolution : Resolution text installation config targetRepositoryPath assignments registrations policy) :
    policy.Trimmed ↔ TrimmedInputs raw installation targetRepositoryPath assignments registrations := by
  obtain ⟨⟨project, projected, listed⟩, commands⟩ := parseConfig_ok parsed
  constructor
  · intro trimmed
    refine { path := ?_, branches := ?_, registrations := ?_, version := ?_ }
    · intro path resolved
      rw [resolution.path, Except.ok.injEq] at resolved
      rw [← resolved]
      exact trimmed.path
    · intro table items found named branch member
      rw [projected, Option.some.injEq, ConfigValue.table.injEq] at found
      rw [← found, listed, Option.some.injEq, ConfigValue.arr.injEq] at named
      rw [← named] at member
      refine trimmed.branches branch ?_
      rw [resolution.branches]
      simpa using member
    · intro kind id registration known registered
      obtain ⟨provider, member, rfl⟩ := List.mem_map.mp ((resolution.assigned id).mpr ⟨kind, known⟩)
      obtain ⟨other, found, version⟩ := (resolution.providers provider member).version
      rw [registered, Option.some.injEq] at found
      rw [found, ← version]
      exact trimmed.providers provider member
    · rw [← resolution.version]
      exact trimmed.version
  · intro inputs
    refine { path := ?_, branches := ?_, commands := ?_, providers := ?_, version := ?_ }
    · exact inputs.path _ resolution.path
    · intro branch member
      rw [resolution.branches] at member
      exact inputs.branches project _ projected listed branch (List.mem_map_of_mem member)
    · rw [resolution.commands]
      exact commands
    · intro provider member
      obtain ⟨registration, registered, version⟩ := (resolution.providers provider member).version
      obtain ⟨kind, known⟩ := (resolution.assigned provider.providerId).mp (List.mem_map_of_mem member)
      rw [version]
      exact inputs.registrations kind _ registration known registered
    · rw [resolution.version]
      exact inputs.version

/-- A resolved policy is read back as it is exactly when it is trimmed. -/
theorem Resolution.round_trip_iff {policy : ResolvedRunPolicy}
    (resolution : Resolution text installation config targetRepositoryPath assignments registrations policy) :
    (policy.toDict text >>= ResolvedRunPolicy.fromDict text) = .ok policy ↔ policy.Trimmed := by
  rw [policy.fromDict_toDict (fun provider member => (resolution.providers provider member).canonical)
    resolution.ordered, ResolvedRunPolicy.ofFields_ok, eq_comm, ResolvedPolicyFields.stripped_eq_self_iff]

/-- The policy of a resumed run is the one that was created exactly when none of
the texts that are only stripped when they are read back has surrounding
whitespace. -/
theorem resolved_policy_round_trip_iff {raw : ConfigTable} {policy : ResolvedRunPolicy}
    (parsed : parseConfig raw = .ok config)
    (resolved : resolveRunPolicy text installation config targetRepositoryPath assignments policies registrations =
      .ok policy) :
    (policy.toDict text >>= ResolvedRunPolicy.fromDict text) = .ok policy ↔
      TrimmedInputs raw installation targetRepositoryPath assignments registrations := by
  have resolution := resolveRunPolicy_ok resolved
  rw [resolution.round_trip_iff, resolution.trimmed_iff parsed]

end Resolved

/-- A configuration with one protected branch, command and provider. -/
def exampleConfig (branch : String) : ConfigTable :=
  [("project", .table [("name", .str "Demo"), ("repo", .str "/repo"), ("protected_branches", .arr [.str branch])]),
    ("runner", .table [("max_correction_rounds", .int 1)]),
    ("agents", .table
      [("assignments", .table [("implementation", .str "codex-cli"), ("review", .str "codex-cli"),
        ("correction", .str "codex-cli")]),
        ("providers", .table [("codex-cli", .table [("model", .str "gpt-5.5")])])]),
    ("verification", .table [("commands", .arr [.table [("name", .str "tests"), ("argv", .arr [.str "pytest"]),
      ("timeout_seconds", .int 600)]])])]

def exampleRegistration : ProviderRegistration Unit where
  providerId := exampleProvider
  policyVersion := "1"
  capabilities := {.readOnlyExecution, .workspaceWriteExecution, .structuredResult, .isolatedInvocation,
    .diagnosticArtifactCapture, .networkPolicyControl}
  encodeRunPolicy _ := .ok .null
  decodeRunPolicy _ := .ok ()

def exampleInstallation : Installation where
  resolvePath := .ok
  applicationVersion := "0.1.0"
  gitSha := none
  assetSha256 _ := .ok "0000000000000000000000000000000000000000000000000000000000000000"

/-- Resolving the example configuration. -/
def resolveExample (branch : String) : Except Raised (AppConfig × ResolvedRunPolicy) := do
  let config ← parseConfig (exampleConfig branch)
  let policy ← resolveRunPolicy nullText exampleInstallation config "/repo" (fun _ => some exampleProvider)
    [(exampleProvider, ())] [(exampleProvider, exampleRegistration)]
  pure (config, policy)

theorem resolveExample_ok {branch : String} (h : (fun _ => ()) <$> resolveExample branch = .ok ()) :
    ∃ config policy, parseConfig (exampleConfig branch) = .ok config ∧
      resolveRunPolicy nullText exampleInstallation config "/repo" (fun _ => some exampleProvider)
        [(exampleProvider, ())] [(exampleProvider, exampleRegistration)] = .ok policy := by
  obtain ⟨_, h, _⟩ := map_ok_iff.mp h
  obtain ⟨config, parsed, h⟩ := bind_ok_iff.mp h
  obtain ⟨policy, resolved, _⟩ := bind_ok_iff.mp h
  exact ⟨config, policy, parsed, resolved⟩

theorem resolved_policy_round_trip_iff_example :
    ∃ config policy, parseConfig (exampleConfig "main") = .ok config ∧
      resolveRunPolicy nullText exampleInstallation config "/repo" (fun _ => some exampleProvider)
        [(exampleProvider, ())] [(exampleProvider, exampleRegistration)] = .ok policy ∧
      ((policy.toDict nullText >>= ResolvedRunPolicy.fromDict nullText) = .ok policy ↔
        TrimmedInputs (exampleConfig "main") exampleInstallation "/repo" (fun _ => some exampleProvider)
          [(exampleProvider, exampleRegistration)]) := by
  obtain ⟨config, policy, parsed, resolved⟩ := resolveExample_ok (show (fun _ => ()) <$> resolveExample "main" = .ok () by decide +kernel)
  exact ⟨config, policy, parsed, resolved, resolved_policy_round_trip_iff parsed resolved⟩

/-- The protected branch `" main"` is accepted as it is, and read back as another branch. -/
theorem padded_branch_changed :
    ∃ config policy, parseConfig (exampleConfig " main") = .ok config ∧
      resolveRunPolicy nullText exampleInstallation config "/repo" (fun _ => some exampleProvider)
        [(exampleProvider, ())] [(exampleProvider, exampleRegistration)] = .ok policy ∧
      (policy.toDict nullText >>= ResolvedRunPolicy.fromDict nullText) ≠ .ok policy := by
  obtain ⟨config, policy, parsed, resolved⟩ := resolveExample_ok (show (fun _ => ()) <$> resolveExample " main" = .ok () by decide +kernel)
  refine ⟨config, policy, parsed, resolved, ?_⟩
  have resolution := resolveRunPolicy_ok resolved
  rw [ne_eq, resolution.round_trip_iff, resolution.trimmed_iff parsed]
  intro inputs
  have same := inputs.branches _ _ rfl rfl " main" List.mem_cons_self
  exact absurd same (by decide)

end SprintTicket
