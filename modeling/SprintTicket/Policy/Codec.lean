import Mathlib.Data.Finset.Card
import SprintTicket.Policy.Resolved

/-!
# The persisted form of a resolved policy

`ResolvedRunPolicy.toDict` is what `run.json` holds and `ResolvedRunPolicy.fromDict`
reads it back. The reader strips several texts the constructor takes as they are:
`fromDict_toDict` says that reading back constructs the stripped policy, which is
the policy itself exactly when none of these texts has surrounding whitespace.
-/

set_option autoImplicit false

namespace SprintTicket

open Checks

/-- `_require_exact_keys`, with the class of error of its module. -/
def requireExactKeys (cls : ExceptionClass) (data : List (String × Json)) (expected : List String)
    (context : String) : Except Raised Unit :=
  let actual := data.map Prod.fst
  let missing := expected.filter fun key => !actual.contains key
  let unexpected := actual.filter fun key => !expected.contains key
  let listed (label : String) (keys : List String) : List String :=
    if keys = [] then [] else [label ++ ", ".intercalate (keys.insertionSort (· ≤ ·))]
  raiseIf (missing ≠ [] ∨ unexpected ≠ [])
    ⟨cls, context ++ " fields are invalid: " ++
      "; ".intercalate (listed "missing " missing ++ listed "unexpected " unexpected) ++ "."⟩

namespace PolicyCodec

def encodeCommand (command : VerificationCommand) : Json :=
  .obj [("name", .str command.name), ("argv", .arr (command.argv.map .str)),
    ("timeout_seconds", .int command.timeoutSeconds)]

def encodeExecutionPolicy (policy : AgentExecutionPolicy) : Json :=
  .obj [("timeout_seconds", (policy.timeoutSeconds.map Json.float).getD .null),
    ("network_access", .str policy.networkAccess.value)]

/-- `ResolvedTaskPolicy.to_dict`. -/
def encodeTask {kind : AgentTaskKind} (task : ResolvedTaskPolicy kind) : Json :=
  .obj [("provider_id", .str task.providerId.value), ("repository_access", .str task.repositoryAccess.value),
    ("required_capabilities", .arr (encodeCapabilities task.requiredCapabilities)),
    ("execution_policy", encodeExecutionPolicy task.executionPolicy)]

/-- `ResolvedProviderPolicy.to_dict`. -/
def encodeProvider (text : JsonText) (provider : ResolvedProviderPolicy) : Except Raised Json := do
  let payload ← provider.payload text
  pure (.obj [("provider_id", .str provider.providerId.value),
    ("adapter_policy_version", .str provider.adapterPolicyVersion),
    ("declared_capabilities", .arr (encodeCapabilities provider.declaredCapabilities)), ("payload", payload)])

/-- The `providers` table, keyed by distinct IDs. -/
def encodeProviders (text : JsonText) : List ResolvedProviderPolicy → Except Raised (List (String × Json))
  | [] => .ok []
  | provider :: rest => do
    let entry ← encodeProvider text provider
    let others ← encodeProviders text rest
    pure ((provider.providerId.value, entry) :: others)

end PolicyCodec

open PolicyCodec in
/-- `ResolvedRunPolicy.to_dict`. -/
def ResolvedRunPolicy.toDict (text : JsonText) (policy : ResolvedRunPolicy) : Except Raised Json := do
  let providers ← encodeProviders text policy.providerPolicies
  pure (.obj
    [("schema_version", .int 3),
      ("target_repository", .obj [("path", .str policy.targetRepositoryPath),
        ("protected_branches", .arr (policy.protectedBranches.map .str))]),
      ("verification", .obj [("commands", .arr (policy.verificationCommands.map encodeCommand)),
        ("max_correction_rounds", .int policy.maxCorrectionRounds)]),
      ("tasks", .obj (AgentTaskKind.all.map fun kind => (kind.value, encodeTask (policy.taskPolicy kind)))),
      ("providers", .obj providers),
      ("ticket_automation", .obj [("package", .str policy.ticketAutomationPackage),
        ("version", .str policy.ticketAutomationVersion),
        ("source", .obj [("kind", .str policy.ticketAutomationSourceKind),
          ("revision", (policy.ticketAutomationSourceRevision.map Json.str).getD .null)])]),
      ("policy_assets", .obj (policy.policyAssetSha256.map fun asset => (asset.1, .str asset.2)))])

namespace PolicyCodec

/-- `_require_table`. -/
def requireTable (data : List (String × Json)) (key : String) : Except Raised (List (String × Json)) :=
  match Json.get data key with
  | .obj fields => .ok fields
  | _ => .error (policyError ("resolved_policy field must be an object: " ++ key ++ "."))

/-- `_require_string`, which strips. -/
def requireString (data : List (String × Json)) (key : String) : Except Raised String :=
  let invalid := policyError ("resolved_policy field must be a non-empty string: " ++ key ++ ".")
  match Json.get data key with
  | .str value => if isBlank value then .error invalid else .ok (strip value)
  | _ => .error invalid

/-- The items of `_require_string_tuple`. -/
def requireStringItems (key : String) : List Json → Except Raised (List String)
  | [] => .ok []
  | item :: rest => do
    let first ← requireString [(key, item)] key
    let others ← requireStringItems key rest
    pure (first :: others)

/-- `_require_string_tuple`. -/
def requireStringTuple (data : List (String × Json)) (key : String) : Except Raised (List String) :=
  let invalid := policyError ("resolved_policy field must be a non-empty string list: " ++ key ++ ".")
  match Json.get data key with
  | .arr [] => .error invalid
  | .arr items => requireStringItems key items
  | _ => .error invalid

/-- `_require_positive_int`. -/
def requirePositiveInt (data : List (String × Json)) (key : String) : Except Raised Nat :=
  let invalid := policyError ("resolved_policy field must be a positive integer: " ++ key ++ ".")
  match Json.get data key with
  | .int value => if value < 1 then .error invalid else .ok value.toNat
  | _ => .error invalid

/-- `_provider_id`. -/
def providerId (value : String) : Except Raised ProviderId :=
  if h : isBlank value = false ∧
      (value.toList.head?.any isSpace || value.toList.getLast?.any isSpace) = false then
    .ok ⟨value, h.1, h.2⟩
  else .error (policyError ("resolved_policy contains an invalid provider ID: " ++ pyRepr (fun _ => true) value ++ "."))

/-- A list of strings. -/
def texts? : List Json → Option (List String)
  | [] => some []
  | .str text :: rest => (texts? rest).map (text :: ·)
  | _ :: _ => none

/-- One command of `_parse_verification_commands`. -/
def parseVerificationCommand (index : Nat) (item : Json) : Except Raised VerificationCommand :=
  match item with
  | .obj command => do
    requireExactKeys .resolvedRunPolicyError command ["name", "argv", "timeout_seconds"]
      s!"resolved_policy verification.commands[{index}]"
    match Json.get command "argv" with
    | .arr items =>
      match texts? items with
      | some argv =>
        raiseIf (argv = [] ∨ argv.any isBlank)
          (policyError s!"resolved_policy verification.commands[{index}].argv is invalid.")
        let name ← requireString command "name"
        let timeoutSeconds ← requirePositiveInt command "timeout_seconds"
        pure ⟨name, argv, timeoutSeconds⟩
      | none => .error (policyError s!"resolved_policy verification.commands[{index}].argv is invalid.")
    | _ => .error (policyError s!"resolved_policy verification.commands[{index}].argv is invalid.")
  | _ => .error (policyError s!"resolved_policy verification.commands[{index}] must be an object.")

/-- `_parse_verification_commands`. -/
def parseVerificationCommands (verification : List (String × Json)) : Except Raised (List VerificationCommand) :=
  let invalid := policyError "resolved_policy verification.commands must be a non-empty list."
  match Json.get verification "commands" with
  | .arr [] => .error invalid
  | .arr items => decodeItems parseVerificationCommand 1 items
  | _ => .error invalid

/-- `_parse_capabilities`. -/
def parseCapabilities (data : List (String × Json)) (key : String) : Except Raised (Finset AgentCapability) :=
  let invalid := policyError ("resolved_policy field must be a non-empty capability list: " ++ key ++ ".")
  match Json.get data key with
  | .arr [] => .error invalid
  | .arr values =>
    match decodeCapabilities? values with
    | some parsed => do
      raiseIf (parsed.toFinset.card ≠ values.length)
        (policyError ("resolved_policy field contains duplicate capabilities: " ++ key ++ "."))
      pure parsed.toFinset
    | none => .error (policyError ("resolved_policy field contains an unsupported capability: " ++ key ++ "."))
  | _ => .error invalid

/-- The whole seconds of a timeout `_validate_resolved_timeout` lets pass. -/
def resolvedTimeout? : Json → Option Nat
  | .int seconds => if 0 < seconds ∧ ResolvedTimeout seconds.toNat then some seconds.toNat else none
  | .float seconds => if 0 < seconds ∧ seconds.den = 1 then some seconds.num.toNat else none
  | _ => none

def networkAccess? (text : String) : Option NetworkAccess :=
  [NetworkAccess.denied, .allowed].find? fun access => access.value = text

def repositoryAccess? (text : String) : Option RepositoryAccess :=
  [RepositoryAccess.readOnly, .workspaceWrite].find? fun access => access.value = text

/-- `_parse_execution_policy`: the whole seconds of the timeout and the access. -/
def parseExecutionPolicy (data : List (String × Json)) : Except Raised (Nat × NetworkAccess) := do
  requireExactKeys .resolvedRunPolicyError data ["timeout_seconds", "network_access"]
    "resolved_policy task execution_policy"
  match resolvedTimeout? (Json.get data "timeout_seconds") with
  | some seconds =>
    let network ← reraise .valueError
      (fun error => policyError ("resolved_policy task execution_policy is invalid: " ++ error.message))
      (requireString data "network_access")
    match networkAccess? network with
    | some access => pure (seconds, access)
    | none => .error (policyError ("resolved_policy task execution_policy is invalid: " ++
        pyRepr (fun _ => true) network ++ " is not a valid NetworkAccess"))
  | none => .error (policyError ("resolved_policy task execution_policy is invalid: " ++
      "resolved_policy task execution_policy.timeout_seconds must be a finite, positive whole number of " ++
      "seconds that is exactly representable by the execution policy."))

/-- One task of `_parse_task_policies`. -/
def parseTaskPolicy (data : List (String × Json)) (kind : AgentTaskKind) : Except Raised (ResolvedTaskPolicy kind) := do
  let task ← requireTable data kind.value
  requireExactKeys .resolvedRunPolicyError task
    ["provider_id", "repository_access", "required_capabilities", "execution_policy"]
    ("resolved_policy task " ++ kind.value)
  let id ← requireString task "provider_id"
  let provider ← providerId id
  let token ← requireString task "repository_access"
  match repositoryAccess? token with
  | some access =>
    let capabilities ← parseCapabilities task "required_capabilities"
    let table ← requireTable task "execution_policy"
    let execution ← parseExecutionPolicy table
    let expected ← resolvedTaskPolicy kind provider execution.1
    raiseIf (access ≠ expected.repositoryAccess ∨ capabilities ≠ expected.requiredCapabilities ∨
        execution.2 ≠ expected.executionPolicy.networkAccess)
      (policyError ("resolved_policy task requirements are incompatible: " ++ kind.value ++ "."))
    pure expected
  | none => .error (policyError ("resolved_policy task access is unsupported: " ++ kind.value ++ "."))

/-- `_parse_task_policies`. -/
def parseTaskPolicies (data : List (String × Json)) :
    Except Raised ((kind : AgentTaskKind) → ResolvedTaskPolicy kind) := do
  raiseIf ((data.map Prod.fst).toFinset ≠ (AgentTaskKind.all.map AgentTaskKind.value).toFinset)
    (policyError "resolved_policy tasks must contain implementation, review, and correction.")
  let implementation ← parseTaskPolicy data .implementation
  let review ← parseTaskPolicy data .review
  let correction ← parseTaskPolicy data .correction
  pure fun
    | .implementation => implementation
    | .review => review
    | .correction => correction

/-- One record of `_parse_provider_policies`. -/
def parseProviderPolicy (text : JsonText) (key : String) (value : Json) :
    Except Raised ResolvedProviderPolicy := do
  let id ← providerId key
  match value with
  | .obj fields =>
    requireExactKeys .resolvedRunPolicyError fields
      ["provider_id", "adapter_policy_version", "declared_capabilities", "payload"]
      ("resolved_policy provider " ++ key)
    let token ← requireString fields "provider_id"
    let own ← providerId token
    raiseIf (own ≠ id)
      (policyError ("resolved_policy provider key does not match its typed ID: " ++ key ++ "."))
    let version ← requireString fields "adapter_policy_version"
    let capabilities ← parseCapabilities fields "declared_capabilities"
    let payloadJson ← text.canonical (Json.get fields "payload")
    ResolvedProviderPolicy.ofFields text id version capabilities payloadJson
  | _ => .error (policyError ("resolved_policy provider record must be an object: " ++ key ++ "."))

/-- The loop of `_parse_provider_policies`. -/
def parseProviderEntries (text : JsonText) : List (String × Json) → Except Raised (List ResolvedProviderPolicy)
  | [] => .ok []
  | entry :: rest => do
    let provider ← parseProviderPolicy text entry.1 entry.2
    let others ← parseProviderEntries text rest
    pure (provider :: others)

/-- The order in which provider policies are kept. -/
def ProviderOrder (left right : ResolvedProviderPolicy) : Prop := left.providerId.value ≤ right.providerId.value

instance : DecidableRel ProviderOrder := fun left right =>
  inferInstanceAs (Decidable (left.providerId.value ≤ right.providerId.value))

/-- `_parse_provider_policies`. -/
def parseProviderPolicies (text : JsonText) (data : List (String × Json)) :
    Except Raised (List ResolvedProviderPolicy) := do
  let parsed ← parseProviderEntries text data
  raiseIf (parsed = []) (policyError "resolved_policy providers must contain at least one provider.")
  pure (parsed.insertionSort ProviderOrder)

/-- The names and digests of the assets. -/
def assetTexts? : List (String × Json) → Option (List (String × String))
  | [] => some []
  | (name, .str digest) :: rest => (assetTexts? rest).map ((name, digest) :: ·)
  | _ :: _ => none

/-- The checks of `from_dict` on `policy_assets`. -/
def parseAssets (assets : List (String × Json)) : Except Raised (List (String × String)) :=
  let invalid := policyError "resolved_policy policy_assets is incomplete or invalid."
  match assetTexts? assets with
  | some texts => do
    let sorted := texts.insertionSort NameOrder
    raiseIf ((sorted.map Prod.fst).toFinset ≠ policyAssetNames.toFinset ∨ sorted.any fun asset => !isSha asset.2)
      invalid
    pure sorted
  | none => .error invalid

/-- The checks of `from_dict` on the source identity. -/
def parseRevision (sourceKind : String) (revision : Json) : Except Raised (Option String) :=
  if sourceKind = "git" then
    match revision with
    | .str sha =>
      if isSha sha then .ok (some sha)
      else .error (policyError "resolved_policy ticket_automation.source.revision must be a SHA.")
    | _ => .error (policyError "resolved_policy ticket_automation.source.revision must be a SHA.")
  else if sourceKind = "installed-package" then
    match revision with
    | .null => .ok none
    | _ => .error (policyError "resolved_policy installed-package source revision must be null.")
  else .error (policyError "resolved_policy ticket_automation.source.kind is unsupported.")

/-- `_require_package_name`. -/
def requirePackageName (data : List (String × Json)) : Except Raised String := do
  let package ← requireString data "package"
  raiseIf (package ≠ "ticket-automation")
    (policyError "resolved_policy ticket_automation.package is unsupported.")
  pure package

end PolicyCodec

open PolicyCodec in
/-- `ResolvedRunPolicy.from_dict`. -/
def ResolvedRunPolicy.fromDict (text : JsonText) (value : Json) : Except Raised ResolvedRunPolicy :=
  match value with
  | .obj data => do
    raiseIf ((Json.get data "schema_version").isInt 3 = false)
      (policyError "Unsupported resolved policy schema version; expected 3.")
    requireExactKeys .resolvedRunPolicyError data
      ["schema_version", "target_repository", "verification", "tasks", "providers", "ticket_automation",
        "policy_assets"] "resolved_policy"
    let target ← requireTable data "target_repository"
    let verification ← requireTable data "verification"
    let package ← requireTable data "ticket_automation"
    let source ← requireTable package "source"
    let assets ← requireTable data "policy_assets"
    requireExactKeys .resolvedRunPolicyError target ["path", "protected_branches"]
      "resolved_policy target_repository"
    requireExactKeys .resolvedRunPolicyError verification ["commands", "max_correction_rounds"]
      "resolved_policy verification"
    requireExactKeys .resolvedRunPolicyError package ["package", "version", "source"]
      "resolved_policy ticket_automation"
    requireExactKeys .resolvedRunPolicyError source ["kind", "revision"]
      "resolved_policy ticket_automation.source"
    let targetRepositoryPath ← PolicyCodec.requireString target "path"
    raiseIf (isAbsolute targetRepositoryPath = false)
      (policyError "resolved_policy target_repository.path must be absolute.")
    let sourceKind ← PolicyCodec.requireString source "kind"
    let revision ← parseRevision sourceKind (Json.get source "revision")
    let parsedAssets ← parseAssets assets
    let protectedBranches ← PolicyCodec.requireStringTuple target "protected_branches"
    let verificationCommands ← parseVerificationCommands verification
    let maxCorrectionRounds ← requirePositiveInt verification "max_correction_rounds"
    let tasks ← requireTable data "tasks"
    let taskPolicy ← parseTaskPolicies tasks
    let providers ← requireTable data "providers"
    let providerPolicies ← parseProviderPolicies text providers
    let ticketAutomationPackage ← requirePackageName package
    let ticketAutomationVersion ← PolicyCodec.requireString package "version"
    ResolvedRunPolicy.ofFields
      { targetRepositoryPath, protectedBranches, verificationCommands, maxCorrectionRounds, taskPolicy
        providerPolicies, ticketAutomationPackage, ticketAutomationVersion
        ticketAutomationSourceKind := sourceKind
        ticketAutomationSourceRevision := revision
        policyAssetSha256 := parsedAssets }
  | _ => .error (policyError "resolved_policy must be an object.")

/-! ## Reading what was written -/

namespace PolicyCodec

/-- The readers accept what the encoder wrote, one lemma each. -/
theorem requireTable_obj {data fields : List (String × Json)} {key : String}
    (found : Json.get data key = .obj fields) : requireTable data key = .ok fields := by
  unfold requireTable
  rw [found]

theorem requireString_str {data : List (String × Json)} {key value : String}
    (found : Json.get data key = .str value) (nonblank : isBlank value = false) :
    requireString data key = .ok (strip value) := by
  unfold requireString
  rw [found]
  simp [nonblank]

theorem requireStringItems_strs {key : String} {texts : List String}
    (nonblank : ∀ text ∈ texts, isBlank text = false) :
    requireStringItems key (texts.map .str) = .ok (texts.map strip) := by
  induction texts with
  | nil => rfl
  | cons text texts ih =>
    rw [List.forall_mem_cons] at nonblank
    have first : requireString [(key, .str text)] key = .ok (strip text) :=
      requireString_str (by simp [Json.get, Json.lookup]) nonblank.1
    rw [List.map_cons, requireStringItems, first, ih nonblank.2]
    rfl

theorem requireStringTuple_strs {data : List (String × Json)} {key : String} {texts : List String}
    (found : Json.get data key = .arr (texts.map .str)) (nonempty : texts ≠ [])
    (nonblank : ∀ text ∈ texts, isBlank text = false) :
    requireStringTuple data key = .ok (texts.map strip) := by
  cases texts with
  | nil => exact absurd rfl nonempty
  | cons text texts =>
    unfold requireStringTuple
    rw [found]
    exact requireStringItems_strs nonblank

theorem requirePositiveInt_int {data : List (String × Json)} {key : String} {n : Nat}
    (found : Json.get data key = .int n) (positive : 1 ≤ n) : requirePositiveInt data key = .ok n := by
  unfold requirePositiveInt
  rw [found]
  have enough : ¬(n : Int) < 1 := by omega
  simp [enough]

theorem providerId_value (id : ProviderId) : providerId id.value = .ok id := dif_pos ⟨id.nonblank, id.stripped⟩

/-- The value of a provider id has nothing to strip. -/
theorem strip_providerId (id : ProviderId) : strip id.value = id.value := strip_eq_self_iff.mpr id.stripped

theorem texts?_strs (texts : List String) : texts? (texts.map .str) = some texts := by
  induction texts with
  | nil => rfl
  | cons text texts ih => simp [texts?, ih]

theorem assetTexts?_strs (assets : List (String × String)) :
    assetTexts? (assets.map fun asset => (asset.1, .str asset.2)) = some assets := by
  induction assets with
  | nil => rfl
  | cons asset assets ih => simp [assetTexts?, ih]

/-- What the check of a verification command asks for. -/
theorem validateVerificationCommand_ok {index : Nat} {command : VerificationCommand} :
    validateVerificationCommand index command = .ok () ↔
      isBlank command.name = false ∧ (command.argv ≠ [] ∧ command.argv.any isBlank = false) ∧
        ¬command.timeoutSeconds < 1 := by
  simp [validateVerificationCommand]

/-- The index only names the command in the error. -/
theorem validateVerificationCommand_each {commands : List VerificationCommand} {start : Nat}
    (valid : checkEach validateVerificationCommand start commands = .ok ()) :
    ∀ index, ∀ command ∈ commands, validateVerificationCommand index command = .ok () := by
  have anywhere : ∀ index command, validateVerificationCommand index command = .ok () ↔
      validateVerificationCommand 0 command = .ok () :=
    fun _ _ => validateVerificationCommand_ok.trans validateVerificationCommand_ok.symm
  intro index command member
  exact (anywhere index command).mpr ((checkEach_ok anywhere).mp valid command member)

/-- A command read back, its name stripped. -/
theorem parseVerificationCommand_encode {index : Nat} {command : VerificationCommand}
    (valid : validateVerificationCommand index command = .ok ()) :
    parseVerificationCommand index (encodeCommand command) = .ok { command with name := strip command.name } := by
  obtain ⟨name, ⟨nonempty, argv⟩, timeout⟩ := validateVerificationCommand_ok.mp valid
  refine check_bind_ok.mpr ⟨rfl, ?_⟩
  have argvField : Json.get [("name", Json.str command.name), ("argv", .arr (command.argv.map .str)),
      ("timeout_seconds", .int command.timeoutSeconds)] "argv" = .arr (command.argv.map .str) := rfl
  rw [argvField]
  simp only [texts?_strs]
  refine check_bind_ok.mpr ⟨raiseIf_ok.mpr (by simp [nonempty, argv]), ?_⟩
  refine bind_ok_iff.mpr ⟨_, requireString_str rfl name, ?_⟩
  exact bind_ok_iff.mpr ⟨_, requirePositiveInt_int rfl (by omega), rfl⟩

/-- The commands read back, each with its name stripped. -/
theorem parseVerificationCommands_encode {data : List (String × Json)} {commands : List VerificationCommand}
    (found : Json.get data "commands" = .arr (commands.map encodeCommand)) (nonempty : commands ≠ [])
    (valid : ∀ index, ∀ command ∈ commands, validateVerificationCommand index command = .ok ()) :
    parseVerificationCommands data =
      .ok (commands.map fun command => { command with name := strip command.name }) := by
  cases commands with
  | nil => exact absurd rfl nonempty
  | cons command commands =>
    unfold parseVerificationCommands
    rw [found]
    exact decodeItems_map_of (fun index command member => parseVerificationCommand_encode (valid index command member)) 1

/-- Capabilities are read back, unless there are none. -/
theorem parseCapabilities_encode {data : List (String × Json)} {key : String} {capabilities : Finset AgentCapability}
    (found : Json.get data key = .arr (encodeCapabilities capabilities)) (nonempty : capabilities.Nonempty) :
    parseCapabilities data key = .ok capabilities := by
  obtain ⟨members, decoded, unique, rfl, same⟩ := decodeCapabilities?_encode capabilities
  have listed := encodeCapabilities_ne_nil nonempty
  unfold parseCapabilities
  rw [found]
  generalize encodeCapabilities members.toFinset = values at *
  cases values with
  | nil => exact absurd rfl listed
  | cons value values =>
    simp only [decoded]
    refine check_bind_ok.mpr ⟨raiseIf_ok.mpr ?_, rfl⟩
    rw [not_not, List.toFinset_card_of_nodup unique, same]

theorem resolvedTimeout?_float {seconds : Nat} (timeout : ResolvedTimeout seconds) :
    resolvedTimeout? (.float seconds) = some seconds := by
  have positive : (0 : Rat) < seconds := by exact_mod_cast timeout.1
  simp [resolvedTimeout?, positive]

theorem networkAccess?_value (access : NetworkAccess) : networkAccess? (strip access.value) = some access := by
  cases access <;> decide

theorem repositoryAccess?_value (access : RepositoryAccess) :
    repositoryAccess? (strip access.value) = some access := by
  cases access <;> decide

/-- The execution policy of a task is read back as the one its kind and timeout give. -/
theorem parseExecutionPolicy_encode {kind : AgentTaskKind} {seconds : Nat} (timeout : ResolvedTimeout seconds)
    {data : List (String × Json)}
    (h : encodeExecutionPolicy (taskExecutionPolicy kind seconds timeout.1) = .obj data) :
    parseExecutionPolicy data = .ok (seconds, (taskExecutionPolicy kind seconds timeout.1).networkAccess) := by
  obtain ⟨keys, timeoutField, networkField⟩ :
      requireExactKeys .resolvedRunPolicyError data ["timeout_seconds", "network_access"]
          "resolved_policy task execution_policy" = .ok () ∧
        Json.get data "timeout_seconds" = .float seconds ∧
        Json.get data "network_access" =
          .str (taskExecutionPolicy kind seconds timeout.1).networkAccess.value := by
    cases h
    exact ⟨rfl, rfl, rfl⟩
  generalize (taskExecutionPolicy kind seconds timeout.1).networkAccess = access at *
  have nonblank : isBlank access.value = false := by cases access <;> decide
  refine check_bind_ok.mpr ⟨keys, ?_⟩
  rw [timeoutField, resolvedTimeout?_float timeout]
  refine bind_ok_iff.mpr ⟨_, reraise_ok.mpr (requireString_str networkField nonblank), ?_⟩
  rw [networkAccess?_value]
  rfl

/-- A task policy is read back as it is. -/
theorem parseTaskPolicy_encode {data : List (String × Json)} {kind : AgentTaskKind} (task : ResolvedTaskPolicy kind)
    (found : Json.get data kind.value = encodeTask task) : parseTaskPolicy data kind = .ok task := by
  obtain ⟨seconds, timeout, execution, resolved⟩ := task.eq_resolved
  have access : isBlank task.repositoryAccess.value = false := by cases task.repositoryAccess <;> decide
  have required : task.requiredCapabilities.Nonempty := by
    rw [task.capabilities_eq]
    exact ⟨.structuredResult, by simp [requiredExecutionCapabilities]⟩
  refine bind_ok_iff.mpr ⟨_, requireTable_obj found, check_bind_ok.mpr ⟨rfl, ?_⟩⟩
  refine bind_ok_iff.mpr ⟨_, requireString_str rfl task.providerId.nonblank, ?_⟩
  rw [strip_providerId]
  refine bind_ok_iff.mpr ⟨_, providerId_value _, ?_⟩
  refine bind_ok_iff.mpr ⟨_, requireString_str rfl access, ?_⟩
  rw [repositoryAccess?_value]
  refine bind_ok_iff.mpr ⟨_, parseCapabilities_encode rfl required, ?_⟩
  refine bind_ok_iff.mpr ⟨_, requireTable_obj rfl, ?_⟩
  refine bind_ok_iff.mpr ⟨_, parseExecutionPolicy_encode timeout (by rw [← execution]; rfl), ?_⟩
  refine bind_ok_iff.mpr ⟨_, resolved, ?_⟩
  refine check_bind_ok.mpr ⟨raiseIf_ok.mpr ?_, rfl⟩
  simp [execution]

theorem parseTaskPolicies_encode (taskPolicy : (kind : AgentTaskKind) → ResolvedTaskPolicy kind) :
    parseTaskPolicies (AgentTaskKind.all.map fun kind => (kind.value, encodeTask (taskPolicy kind))) =
      .ok taskPolicy := by
  refine check_bind_ok.mpr ⟨raiseIf_ok.mpr (not_not.mpr rfl), ?_⟩
  refine bind_ok_iff.mpr ⟨_, parseTaskPolicy_encode (taskPolicy .implementation) rfl, ?_⟩
  refine bind_ok_iff.mpr ⟨_, parseTaskPolicy_encode (taskPolicy .review) rfl, ?_⟩
  refine bind_ok_iff.mpr ⟨_, parseTaskPolicy_encode (taskPolicy .correction) rfl, ?_⟩
  refine pure_ok.mpr (funext fun kind => ?_)
  cases kind <;> rfl

/-- The payload text is the canonical text of what it stands for. -/
def CanonicalPayload (text : JsonText) (provider : ResolvedProviderPolicy) : Prop :=
  ∃ payload, text.loads provider.payloadJson = .ok payload ∧ text.canonical payload = .ok provider.payloadJson

/-- What reading back leaves of a provider policy. -/
def strippedProvider (provider : ResolvedProviderPolicy) : ResolvedProviderPolicy :=
  { provider with
    adapterPolicyVersion := strip provider.adapterPolicyVersion
    version_nonblank := isBlank_strip.trans provider.version_nonblank }

/-- A provider survives the stripping when its texts have nothing to strip. -/
theorem strippedProvider_eq_self_iff {provider : ResolvedProviderPolicy} :
    strippedProvider provider = provider ↔ strip provider.adapterPolicyVersion = provider.adapterPolicyVersion := by
  constructor
  · intro same
    exact congrArg ResolvedProviderPolicy.adapterPolicyVersion same
  · intro same
    cases provider
    simp_all [strippedProvider]

/-- A payload that is canonical is accepted unchanged. -/
theorem ofFields_canonical {text : JsonText} {provider : ResolvedProviderPolicy}
    (canonical : CanonicalPayload text provider) :
    ResolvedProviderPolicy.ofFields text provider.providerId provider.adapterPolicyVersion
      provider.declaredCapabilities provider.payloadJson = .ok provider := by
  obtain ⟨payload, loaded, written⟩ := canonical
  unfold ResolvedProviderPolicy.ofFields
  rw [dif_pos provider.version_nonblank]
  refine bind_ok_iff.mpr ⟨_, reraise_ok.mpr loaded, bind_ok_iff.mpr ⟨_, written, ?_⟩⟩
  exact check_bind_ok.mpr ⟨raiseIf_ok.mpr (not_not.mpr rfl), rfl⟩

/-- A provider is read back, but stripped. -/
theorem parseProviderPolicy_encode {text : JsonText} {provider : ResolvedProviderPolicy} {entry : Json}
    (canonical : CanonicalPayload text provider) (declared : provider.declaredCapabilities.Nonempty)
    (h : encodeProvider text provider = .ok entry) :
    parseProviderPolicy text provider.providerId.value entry = .ok (strippedProvider provider) := by
  obtain ⟨payload, loaded, written⟩ := canonical
  obtain ⟨other, again, h⟩ := bind_ok_iff.mp h
  rw [ResolvedProviderPolicy.payload, loaded, Except.ok.injEq] at again
  rw [← pure_ok.mp h, ← again]
  refine bind_ok_iff.mpr ⟨_, providerId_value _, check_bind_ok.mpr ⟨rfl, ?_⟩⟩
  refine bind_ok_iff.mpr ⟨_, requireString_str rfl provider.providerId.nonblank, ?_⟩
  rw [strip_providerId]
  refine bind_ok_iff.mpr ⟨_, providerId_value _, ?_⟩
  refine check_bind_ok.mpr ⟨raiseIf_ok.mpr (not_not.mpr rfl), ?_⟩
  refine bind_ok_iff.mpr ⟨_, requireString_str rfl provider.version_nonblank, ?_⟩
  refine bind_ok_iff.mpr ⟨_, parseCapabilities_encode rfl declared, ?_⟩
  refine bind_ok_iff.mpr ⟨_, written, ?_⟩
  exact @ofFields_canonical text (strippedProvider provider) ⟨payload, loaded, written⟩

/-- The table of the providers is read back provider by provider. -/
theorem parseProviderEntries_encode {text : JsonText} {providers : List ResolvedProviderPolicy}
    (canonical : ∀ provider ∈ providers, CanonicalPayload text provider)
    (declared : ∀ provider ∈ providers, provider.declaredCapabilities.Nonempty) :
    ∃ entries, encodeProviders text providers = .ok entries ∧
      parseProviderEntries text entries = .ok (providers.map strippedProvider) := by
  induction providers with
  | nil => exact ⟨[], rfl, rfl⟩
  | cons provider providers ih =>
    rw [List.forall_mem_cons] at canonical declared
    obtain ⟨entries, encoded, parsed⟩ := ih canonical.2 declared.2
    obtain ⟨payload, loaded, _⟩ := canonical.1
    obtain ⟨entry, one⟩ : ∃ entry, encodeProvider text provider = .ok entry :=
      ⟨_, bind_ok_iff.mpr ⟨payload, loaded, rfl⟩⟩
    refine ⟨(provider.providerId.value, entry) :: entries, ?_, ?_⟩
    · exact bind_ok_iff.mpr ⟨_, one, bind_ok_iff.mpr ⟨_, encoded, rfl⟩⟩
    · exact bind_ok_iff.mpr ⟨_, parseProviderPolicy_encode canonical.1 declared.1 one,
        bind_ok_iff.mpr ⟨_, parsed, rfl⟩⟩

/-- Providers in order stay in order. -/
theorem parseProviderPolicies_encode {text : JsonText} {providers : List ResolvedProviderPolicy}
    (canonical : ∀ provider ∈ providers, CanonicalPayload text provider)
    (declared : ∀ provider ∈ providers, provider.declaredCapabilities.Nonempty) (nonempty : providers ≠ [])
    (ordered : providers.Pairwise ProviderOrder) :
    ∃ entries, encodeProviders text providers = .ok entries ∧
      parseProviderPolicies text entries = .ok (providers.map strippedProvider) := by
  obtain ⟨entries, encoded, parsed⟩ := parseProviderEntries_encode canonical declared
  refine ⟨entries, encoded, bind_ok_iff.mpr ⟨_, parsed, ?_⟩⟩
  have still : (providers.map strippedProvider).Pairwise ProviderOrder := List.pairwise_map.mpr ordered
  refine check_bind_ok.mpr ⟨raiseIf_ok.mpr (by simpa using nonempty), ?_⟩
  rw [still.insertionSort_eq]
  rfl

theorem parseAssets_encode {assets : List (String × String)} (valid : validatePolicyAssets assets = .ok ()) :
    parseAssets (assets.map fun asset => (asset.1, .str asset.2)) = .ok assets := by
  simp only [validatePolicyAssets, raiseIf_ok, not_or, not_not, Bool.not_eq_true] at valid
  obtain ⟨_, names, sorted, digests⟩ := valid
  unfold parseAssets
  rw [assetTexts?_strs]
  refine check_bind_ok.mpr ⟨raiseIf_ok.mpr ?_, ?_⟩
  · rw [sorted, not_or, not_not]
    exact ⟨names, by simp [digests]⟩
  · rw [sorted]
    rfl

theorem strip_sourceKind {kind : String} {revision : Option String}
    (valid : validateSourceIdentity kind revision = .ok ()) :
    isBlank kind = false ∧ strip kind = kind ∧
      parseRevision kind ((revision.map Json.str).getD .null) = .ok revision := by
  unfold validateSourceIdentity at valid
  by_cases git : kind = "git"
  · rw [if_pos git, raiseIf_ok] at valid
    cases revision with
    | none => simp at valid
    | some sha =>
      refine ⟨by rw [git]; decide, by rw [git]; decide, ?_⟩
      have digest : isSha sha = true := by simpa using valid
      simp [parseRevision, git, digest]
  · rw [if_neg git] at valid
    by_cases installed : kind = "installed-package"
    · rw [if_pos installed, raiseIf_ok, not_not] at valid
      refine ⟨by rw [installed]; decide, by rw [installed]; decide, ?_⟩
      simp [parseRevision, installed, valid]
    · rw [if_neg installed] at valid
      cases valid

theorem requirePackageName_encode {data : List (String × Json)} {package : String}
    (found : Json.get data "package" = .str package) (own : package = "ticket-automation") :
    requirePackageName data = .ok package := by
  subst own
  refine bind_ok_iff.mpr ⟨_, requireString_str found (by decide), ?_⟩
  exact check_bind_ok.mpr ⟨raiseIf_ok.mpr (by decide), by decide⟩

/-- Stripping keeps a path absolute. -/
theorem isAbsolute_strip {path : String} (absolute : isAbsolute path = true) :
    isAbsolute (strip path) = true := by
  have slash : isSpace '/' = false := by decide
  simp only [isAbsolute, decide_eq_true_eq, strip, String.toList_ofList] at absolute ⊢
  generalize path.toList = chars at absolute
  cases chars with
  | nil => simp at absolute
  | cons c rest =>
    have first : c = '/' := by simpa using absolute
    subst first
    rw [List.dropWhile_cons_of_neg (by simp [slash])]
    obtain ⟨dropped, split⟩ := List.rdropWhile_prefix isSpace ('/' :: rest)
    cases kept : ('/' :: rest).rdropWhile isSpace with
    | nil =>
      rw [List.rdropWhile_eq_nil_iff] at kept
      have space := kept '/' List.mem_cons_self
      rw [slash] at space
      cases space
    | cons d more =>
      rw [kept, List.cons_append, List.cons.injEq] at split
      simp [split.1]

end PolicyCodec

open PolicyCodec

/-- What reading back leaves of a policy. -/
def ResolvedPolicyFields.stripped (policy : ResolvedPolicyFields) : ResolvedPolicyFields :=
  { policy with
    targetRepositoryPath := strip policy.targetRepositoryPath
    protectedBranches := policy.protectedBranches.map strip
    verificationCommands := policy.verificationCommands.map fun command =>
      { command with name := strip command.name }
    providerPolicies := policy.providerPolicies.map strippedProvider
    ticketAutomationVersion := strip policy.ticketAutomationVersion }

theorem map_eq_self_iff {α : Type} {f : α → α} {items : List α} :
    items.map f = items ↔ ∀ item ∈ items, f item = item := by
  conv_lhs => rhs; rw [← List.map_id items]
  exact List.map_inj_left

/-- The texts the reader strips have no surrounding whitespace. -/
structure ResolvedPolicyFields.Trimmed (policy : ResolvedPolicyFields) : Prop where
  path : strip policy.targetRepositoryPath = policy.targetRepositoryPath
  branches : ∀ branch ∈ policy.protectedBranches, strip branch = branch
  commands : ∀ command ∈ policy.verificationCommands, strip command.name = command.name
  providers : ∀ provider ∈ policy.providerPolicies,
    strip provider.adapterPolicyVersion = provider.adapterPolicyVersion
  version : strip policy.ticketAutomationVersion = policy.ticketAutomationVersion

/-- The fields survive the stripping when they are trimmed. -/
theorem ResolvedPolicyFields.stripped_eq_self_iff {policy : ResolvedPolicyFields} :
    policy.stripped = policy ↔ policy.Trimmed := by
  constructor
  · intro same
    refine
      { path := congrArg ResolvedPolicyFields.targetRepositoryPath same
        branches := ?_, commands := ?_, providers := ?_
        version := congrArg ResolvedPolicyFields.ticketAutomationVersion same }
    · exact map_eq_self_iff.mp (congrArg ResolvedPolicyFields.protectedBranches same)
    · intro command member
      have each := map_eq_self_iff.mp (congrArg ResolvedPolicyFields.verificationCommands same) command member
      exact congrArg VerificationCommand.name each
    · intro provider member
      have each := map_eq_self_iff.mp (congrArg ResolvedPolicyFields.providerPolicies same) provider member
      exact strippedProvider_eq_self_iff.mp each
  · intro trimmed
    have commands : ∀ command ∈ policy.verificationCommands,
        ({ command with name := strip command.name } : VerificationCommand) = command := by
      intro command member
      rw [trimmed.commands command member]
    have providers : ∀ provider ∈ policy.providerPolicies, strippedProvider provider = provider :=
      fun provider member => strippedProvider_eq_self_iff.mpr (trimmed.providers provider member)
    unfold ResolvedPolicyFields.stripped
    rw [trimmed.path, trimmed.version, map_eq_self_iff.mpr trimmed.branches, map_eq_self_iff.mpr commands,
      map_eq_self_iff.mpr providers]

/-- Every provider is assigned to a task, and declares what the task requires. -/
theorem declared_nonempty {policy : ResolvedPolicyFields} (valid : validatePolicyRelationships policy = .ok ()) :
    policy.providerPolicies ≠ [] ∧
      ∀ provider ∈ policy.providerPolicies, provider.declaredCapabilities.Nonempty := by
  rw [validatePolicyRelationships, check_bind_ok, raiseIf_ok, not_or, not_not, not_not] at valid
  obtain ⟨⟨unique, assigned⟩, loop⟩ := valid
  have required : ∀ kind ∈ AgentTaskKind.all, (policy.taskPolicy kind).requiredCapabilities ⊆
      declaredCapabilities policy.providerPolicies (policy.taskPolicy kind).providerId :=
    (checkEach_ok (P := fun kind => (policy.taskPolicy kind).requiredCapabilities ⊆
      declaredCapabilities policy.providerPolicies (policy.taskPolicy kind).providerId)
      fun _ _ => raiseIf_ok.trans not_not).mp loop
  have looked : ∀ provider ∈ policy.providerPolicies,
      declaredCapabilities policy.providerPolicies provider.providerId = provider.declaredCapabilities := by
    intro provider member
    unfold declaredCapabilities
    cases found : policy.providerPolicies.find? fun other => other.providerId = provider.providerId with
    | none => simpa using List.find?_eq_none.mp found provider member
    | some other =>
      have same : other.providerId = provider.providerId := by simpa using List.find?_some found
      rw [List.inj_on_of_nodup_map unique (List.mem_of_find?_eq_some found) member same]
      rfl
  constructor
  · intro none
    have listed : (policy.taskPolicy .review).providerId ∈
        (AgentTaskKind.all.map fun kind => (policy.taskPolicy kind).providerId).toFinset := by
      simp [AgentTaskKind.all]
    rw [← assigned, none] at listed
    simp at listed
  · intro provider member
    have listed : provider.providerId ∈ (AgentTaskKind.all.map fun kind => (policy.taskPolicy kind).providerId).toFinset := by
      rw [← assigned]
      simpa using ⟨provider, member, rfl⟩
    obtain ⟨kind, kinds, same⟩ := List.mem_map.mp (List.mem_toFinset.mp listed)
    have covered := required kind kinds
    rw [same, looked provider member] at covered
    have structured : AgentCapability.structuredResult ∈ (policy.taskPolicy kind).requiredCapabilities := by
      rw [(policy.taskPolicy kind).capabilities_eq]
      simp [requiredExecutionCapabilities]
    exact ⟨_, covered structured⟩

/-- Reading back constructs the stripped policy. -/
theorem ResolvedRunPolicy.fromDict_toDict {text : JsonText} (policy : ResolvedRunPolicy)
    (canonical : ∀ provider ∈ policy.providerPolicies, CanonicalPayload text provider)
    (ordered : policy.providerPolicies.Pairwise ProviderOrder) :
    (policy.toDict text >>= ResolvedRunPolicy.fromDict text) =
      ResolvedRunPolicy.ofFields policy.toResolvedPolicyFields.stripped := by
  have valid := policy.valid
  simp only [validateResolvedPolicy, check_bind_ok, raiseIf_ok, not_or, Bool.not_eq_true, Bool.not_eq_false,
    not_not] at valid
  obtain ⟨⟨path, absolute⟩, ⟨branched, branches⟩, commanded, commands, rounds, package, version, source, assets,
    relations⟩ := valid
  obtain ⟨provided, declared⟩ := declared_nonempty relations
  obtain ⟨entries, encoded, parsed⟩ := parseProviderPolicies_encode canonical declared provided ordered
  obtain ⟨kind, kindStrip, revision⟩ := strip_sourceKind source
  have branchTexts : ∀ branch ∈ policy.protectedBranches, isBlank branch = false := by
    simpa using branches
  rw [ResolvedRunPolicy.toDict, ok_bind encoded]
  refine Eq.trans (ok_bind rfl) ?_
  unfold ResolvedRunPolicy.fromDict
  -- the schema version, the fields of all tables and the tables themselves
  iterate 11 refine Eq.trans (ok_bind rfl) ?_
  refine Eq.trans (ok_bind (PolicyCodec.requireString_str rfl path)) ?_
  refine Eq.trans (ok_bind (a := ()) (raiseIf_ok.mpr (by simp [isAbsolute_strip absolute]))) ?_
  refine Eq.trans (ok_bind (PolicyCodec.requireString_str rfl kind)) ?_
  rw [kindStrip]
  refine Eq.trans (ok_bind revision) ?_
  refine Eq.trans (ok_bind (parseAssets_encode assets)) ?_
  refine Eq.trans (ok_bind (PolicyCodec.requireStringTuple_strs rfl branched branchTexts)) ?_
  refine Eq.trans (ok_bind (parseVerificationCommands_encode rfl commanded (validateVerificationCommand_each commands))) ?_
  refine Eq.trans (ok_bind (requirePositiveInt_int rfl (by omega))) ?_
  refine Eq.trans (ok_bind rfl) ?_
  refine Eq.trans (ok_bind (parseTaskPolicies_encode policy.taskPolicy)) ?_
  refine Eq.trans (ok_bind rfl) ?_
  refine Eq.trans (ok_bind parsed) ?_
  refine Eq.trans (ok_bind (requirePackageName_encode rfl package)) ?_
  exact ok_bind (PolicyCodec.requireString_str rfl version)

theorem examplePolicy_round_trip :
    (examplePolicy.toDict nullText >>= ResolvedRunPolicy.fromDict nullText) = .ok examplePolicy := by
  have canonical : ∀ provider ∈ examplePolicy.providerPolicies, CanonicalPayload nullText provider := by
    intro provider member
    rw [List.mem_singleton.mp member]
    exact ⟨.null, rfl, rfl⟩
  rw [examplePolicy.fromDict_toDict canonical (List.pairwise_singleton _ _), ResolvedRunPolicy.ofFields_ok,
    eq_comm, ResolvedPolicyFields.stripped_eq_self_iff]
  refine ⟨by decide, ?_, ?_, ?_, by decide⟩
  · intro branch member
    rw [List.mem_singleton.mp member]
    decide
  · intro command member
    rw [List.mem_singleton.mp member]
    decide
  · intro provider member
    rw [List.mem_singleton.mp member]
    decide

end SprintTicket
