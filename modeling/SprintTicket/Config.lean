import SprintTicket.Policy.Resolved

/-!
# Configuration

`parseConfig` reads the merged TOML tables. It strips names and provider IDs but
keeps protected branches and command arguments as they are written.
-/

set_option autoImplicit false

namespace SprintTicket

open Checks

/-- A TOML value; floats, dates and times are texts no check reads. -/
inductive ConfigValue
  | bool (value : Bool)
  | int (value : Int)
  | str (value : String)
  | scalar (text : String)
  | arr (items : List ConfigValue)
  | table (fields : List (String × ConfigValue))

/-- A TOML table. -/
abbrev ConfigTable : Type := List (String × ConfigValue)

/-- A `ConfigError`. -/
def configError (message : String) : Raised := ⟨.configError, message⟩

structure ProjectSettings where
  name : String
  repo : String
  protectedBranches : List String

structure RunnerSettings where
  maxCorrectionRounds : Nat

/-- `AgentSettings`: total mappings, every task assigned to a configured provider. -/
structure AgentSettings where
  assignments : AgentTaskKind → ProviderId
  providers : List (ProviderId × ConfigTable)
  timeouts : AgentTaskKind → Nat
  configured : ∀ kind ∈ AgentTaskKind.all, assignments kind ∈ providers.map Prod.fst
  representable : ∀ kind, ResolvedTimeout (timeouts kind)

structure AppConfig where
  project : ProjectSettings
  runner : RunnerSettings
  agents : AgentSettings
  verificationCommands : List VerificationCommand

namespace Config

/-- `_require_table`. -/
def requireTable (raw : ConfigTable) (key : String) : Except Raised ConfigTable :=
  match raw.lookup key with
  | some (.table fields) => .ok fields
  | _ => .error (configError ("Missing required [" ++ key ++ "] configuration section."))

/-- `_require_nested_table`. -/
def requireNestedTable (table : ConfigTable) (key dottedName : String) : Except Raised ConfigTable :=
  match table.lookup key with
  | some (.table fields) => .ok fields
  | _ => .error (configError ("Missing required [" ++ dottedName ++ "] configuration section."))

/-- `_require_non_empty_string`, which strips; `key` is the last part of the name. -/
def requireNonEmptyString (table : ConfigTable) (key dottedName : String) : Except Raised String :=
  match table.lookup key with
  | some (.str value) =>
    if isBlank value then .error (configError ("Missing required non-empty string: " ++ dottedName ++ "."))
    else .ok (strip value)
  | _ => .error (configError ("Missing required non-empty string: " ++ dottedName ++ "."))

/-- `_require_positive_int`. -/
def requirePositiveInt (table : ConfigTable) (key dottedName : String) : Except Raised Nat :=
  match table.lookup key with
  | some (.int value) =>
    if value < 1 then .error (configError (dottedName ++ " must be a positive integer."))
    else .ok value.toNat
  | _ => .error (configError (dottedName ++ " must be a positive integer."))

/-- The items of `_require_string_tuple`, kept as they are. -/
def requireStringItems (dottedName : String) : List ConfigValue → Except Raised (List String)
  | [] => .ok []
  | .str item :: rest => do
    raiseIf (isBlank item) (configError (dottedName ++ " must contain only non-empty strings."))
    let others ← requireStringItems dottedName rest
    pure (item :: others)
  | _ :: _ => .error (configError (dottedName ++ " must contain only non-empty strings."))

/-- `_require_string_tuple` with `allow_empty=False`. -/
def requireStringTuple (table : ConfigTable) (key dottedName : String) : Except Raised (List String) :=
  match table.lookup key with
  | some (.arr []) => .error (configError (dottedName ++ " must contain at least one value."))
  | some (.arr items) => requireStringItems dottedName items
  | _ => .error (configError (dottedName ++ " must be a list of strings."))

/-- `_provider_id`. -/
def providerId (value dottedName : String) : Except Raised ProviderId :=
  if nonblank : isBlank value = false then
    if stripped : (value.toList.head?.any isSpace || value.toList.getLast?.any isSpace) = false then
      .ok ⟨value, nonblank, stripped⟩
    else .error (configError ("Invalid provider ID at " ++ dottedName ++
      ": provider id must not contain surrounding whitespace."))
  else .error (configError ("Invalid provider ID at " ++ dottedName ++
    ": provider id must be a non-empty string."))

/-- The assignment of one task. -/
def parseAssignment (table : ConfigTable) (kind : AgentTaskKind) : Except Raised ProviderId := do
  let dottedName := "agents.assignments." ++ kind.value
  let value ← requireNonEmptyString table kind.value dottedName
  providerId value dottedName

/-- The configured providers with their settings. -/
def parseProviders : ConfigTable → Except Raised (List (ProviderId × ConfigTable))
  | [] => .ok []
  | (raw, settings) :: rest => do
    raiseIf (isBlank raw) (configError "agents.providers keys must be non-empty provider IDs.")
    let id ← providerId raw ("agents.providers." ++ raw)
    match settings with
    | .table fields =>
      let others ← parseProviders rest
      pure ((id, fields) :: others)
    | _ => .error (configError ("agents.providers." ++ id.value ++ " must be a configuration table."))

def timeoutKey (kind : AgentTaskKind) : String := kind.value ++ "_seconds"

/-- The timeout of one task, with its default. -/
def parseTimeout (raw : ConfigTable) (kind : AgentTaskKind) :
    Except Raised { seconds : Nat // ResolvedTimeout seconds } :=
  let dottedName := "agents.timeouts." ++ timeoutKey kind
  match raw.lookup (timeoutKey kind) with
  | none => .ok ⟨3600, resolvedTimeout_hour⟩
  | some _ => do
    let seconds ← requirePositiveInt raw (timeoutKey kind) dottedName
    if representable : ResolvedTimeout seconds then pure ⟨seconds, representable⟩
    else .error (configError (dottedName ++ " must be exactly representable by the execution policy."))

/-- `agents.get("timeouts", {})`. -/
def timeoutTable (agents : ConfigTable) : Except Raised ConfigTable :=
  match agents.lookup "timeouts" with
  | none => .ok []
  | some (.table fields) => .ok fields
  | some _ => .error (configError "agents.timeouts must be a configuration table.")

/-- A value for each kind of task, in the order of the kinds. -/
def forEachTask {α : Type} (parse : AgentTaskKind → Except Raised α) : Except Raised (AgentTaskKind → α) := do
  let implementation ← parse .implementation
  let review ← parse .review
  let correction ← parse .correction
  pure fun
    | .implementation => implementation
    | .review => review
    | .correction => correction

/-- `_parse_agent_settings`. -/
def parseAgentSettings (agents : ConfigTable) : Except Raised AgentSettings := do
  let assignmentsTable ← requireNestedTable agents "assignments" "agents.assignments"
  let providersTable ← requireNestedTable agents "providers" "agents.providers"
  let rawTimeouts ← timeoutTable agents
  let unknownTimeouts := (rawTimeouts.map Prod.fst).filter fun key =>
    !(AgentTaskKind.all.map timeoutKey).contains key
  raiseIf (unknownTimeouts ≠ [])
    (configError ("Unknown agents.timeouts field(s): " ++
      ", ".intercalate (unknownTimeouts.insertionSort (· ≤ ·)) ++ "."))
  let unknownTasks := (assignmentsTable.map Prod.fst).filter fun key =>
    !(AgentTaskKind.all.map AgentTaskKind.value).contains key
  raiseIf (unknownTasks ≠ [])
    (configError ("Unknown agent task assignment(s): " ++
      ", ".intercalate (unknownTasks.insertionSort (· ≤ ·)) ++ "."))
  let assignments ← forEachTask (parseAssignment assignmentsTable)
  let providers ← parseProviders providersTable
  if configured : ∀ kind ∈ AgentTaskKind.all, assignments kind ∈ providers.map Prod.fst then
    let timeouts ← forEachTask (parseTimeout rawTimeouts)
    pure
      { assignments, providers, configured
        timeouts := fun kind => (timeouts kind).1
        representable := fun kind => (timeouts kind).2 }
  else
    let unassigned := AgentTaskKind.all.filter fun kind => assignments kind ∉ providers.map Prod.fst
    .error (configError (match unassigned with
      | [] => ""
      | kind :: _ => kind.value ++ " is assigned to unconfigured provider " ++ (assignments kind).value ++
          "; add [agents.providers." ++ (assignments kind).value ++ "]."))

/-- One command of `_parse_verification_commands`. -/
def parseVerificationCommand (index : Nat) (item : ConfigValue) : Except Raised VerificationCommand :=
  match item with
  | .table command => do
    let name ← requireNonEmptyString command "name" s!"verification.commands[{index}].name"
    let argv ← requireStringTuple command "argv" s!"verification.commands[{index}].argv"
    let timeoutSeconds ← requirePositiveInt command "timeout_seconds"
      s!"verification.commands[{index}].timeout_seconds"
    pure ⟨name, argv, timeoutSeconds⟩
  | _ => .error (configError s!"verification.commands[{index}] must be a table.")

/-- The loop of `_parse_verification_commands`. -/
def parseCommandItems (index : Nat) : List ConfigValue → Except Raised (List VerificationCommand)
  | [] => .ok []
  | item :: rest => do
    let command ← parseVerificationCommand index item
    let others ← parseCommandItems (index + 1) rest
    pure (command :: others)

/-- `_parse_verification_commands`. -/
def parseVerificationCommands (verification : ConfigTable) : Except Raised (List VerificationCommand) :=
  match verification.lookup "commands" with
  | some (.arr (item :: rest)) => parseCommandItems 1 (item :: rest)
  | _ => .error (configError "verification.commands must contain at least one command.")

end Config

open Config in
/-- `parse_config`. -/
def parseConfig (raw : ConfigTable) : Except Raised AppConfig := do
  let unknownSections := (raw.map Prod.fst).filter fun key =>
    !(["project", "runner", "agents", "verification"].contains key)
  raiseIf (unknownSections ≠ [])
    (configError ("Unknown top-level configuration section(s): " ++
      ", ".intercalate (unknownSections.insertionSort (· ≤ ·)) ++ "."))
  let project ← requireTable raw "project"
  let runner ← requireTable raw "runner"
  let agents ← requireTable raw "agents"
  let verification ← requireTable raw "verification"
  let name ← requireNonEmptyString project "name" "project.name"
  let repo ← requireNonEmptyString project "repo" "project.repo"
  let protectedBranches ← Config.requireStringTuple project "protected_branches" "project.protected_branches"
  let maxCorrectionRounds ← requirePositiveInt runner "max_correction_rounds" "runner.max_correction_rounds"
  let settings ← parseAgentSettings agents
  let verificationCommands ← parseVerificationCommands verification
  pure ⟨⟨name, repo, protectedBranches⟩, ⟨maxCorrectionRounds⟩, settings, verificationCommands⟩

/-! ## What was configured -/

namespace Config

/-- The check keeps the strings and their order. -/
theorem requireStringItems_ok {dottedName : String} {items : List ConfigValue} {texts : List String}
    (h : requireStringItems dottedName items = .ok texts) : items = texts.map .str := by
  induction items generalizing texts with
  | nil =>
    cases h
    rfl
  | cons item rest ih =>
    unfold requireStringItems at h
    split at h
    · contradiction
    · rename_i text others same
      cases same
      obtain ⟨_, h⟩ := check_bind_ok.mp h
      obtain ⟨more, read, h⟩ := bind_ok_iff.mp h
      rw [← pure_ok.mp h, ih read, List.map_cons]
    · cases h

/-- A configured list of texts is taken as it is written. -/
theorem requireStringTuple_ok {table : ConfigTable} {key dottedName : String} {texts : List String}
    (h : Config.requireStringTuple table key dottedName = .ok texts) :
    table.lookup key = some (.arr (texts.map .str)) := by
  unfold Config.requireStringTuple at h
  split at h
  · cases h
  · rename_i items _ found
    rw [found, requireStringItems_ok h]
  · cases h

/-- A configured text is stripped. -/
theorem requireNonEmptyString_ok {table : ConfigTable} {key dottedName text : String}
    (h : requireNonEmptyString table key dottedName = .ok text) : strip text = text := by
  unfold requireNonEmptyString at h
  split at h
  · split at h
    · cases h
    · cases h
      exact strip_strip
  · cases h

/-- The name of a parsed command has been stripped. -/
theorem parseCommandItems_ok {items : List ConfigValue} {index : Nat} {commands : List VerificationCommand}
    (h : parseCommandItems index items = .ok commands) :
    ∀ command ∈ commands, strip command.name = command.name := by
  induction items generalizing index commands with
  | nil =>
    cases h
    simp
  | cons item rest ih =>
    obtain ⟨command, parsed, h⟩ := bind_ok_iff.mp h
    obtain ⟨others, read, h⟩ := bind_ok_iff.mp h
    rw [← pure_ok.mp h, List.forall_mem_cons]
    refine ⟨?_, ih read⟩
    unfold parseVerificationCommand at parsed
    split at parsed
    · obtain ⟨name, named, parsed⟩ := bind_ok_iff.mp parsed
      obtain ⟨argv, _, parsed⟩ := bind_ok_iff.mp parsed
      obtain ⟨timeout, _, parsed⟩ := bind_ok_iff.mp parsed
      rw [← pure_ok.mp parsed]
      exact requireNonEmptyString_ok named
    · cases parsed

end Config

open Config in
/-- The protected branches are those of the `project` table, and the names of
the commands are stripped. -/
theorem parseConfig_ok {raw : ConfigTable} {config : AppConfig} (h : parseConfig raw = .ok config) :
    (∃ project, raw.lookup "project" = some (.table project) ∧
        project.lookup "protected_branches" = some (.arr (config.project.protectedBranches.map .str))) ∧
      ∀ command ∈ config.verificationCommands, strip command.name = command.name := by
  obtain ⟨_, h⟩ := check_bind_ok.mp h
  obtain ⟨project, projected, h⟩ := bind_ok_iff.mp h
  obtain ⟨runner, _, h⟩ := bind_ok_iff.mp h
  obtain ⟨agents, _, h⟩ := bind_ok_iff.mp h
  obtain ⟨verification, _, h⟩ := bind_ok_iff.mp h
  obtain ⟨name, _, h⟩ := bind_ok_iff.mp h
  obtain ⟨repo, _, h⟩ := bind_ok_iff.mp h
  obtain ⟨branches, branched, h⟩ := bind_ok_iff.mp h
  obtain ⟨rounds, _, h⟩ := bind_ok_iff.mp h
  obtain ⟨settings, _, h⟩ := bind_ok_iff.mp h
  obtain ⟨commands, commanded, h⟩ := bind_ok_iff.mp h
  rw [← pure_ok.mp h]
  refine ⟨⟨project, ?_, Config.requireStringTuple_ok branched⟩, ?_⟩
  · unfold requireTable at projected
    split at projected
    · rename_i fields found
      cases projected
      exact found
    · cases projected
  · unfold parseVerificationCommands at commanded
    split at commanded
    · exact parseCommandItems_ok commanded
    · cases commanded

end SprintTicket
