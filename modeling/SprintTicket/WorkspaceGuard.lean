import SprintTicket.VerificationEvidence

/-!
# The workspace guard

A scan of the target repository for local Python and Conda environment roots,
before and after a writable invocation. The inspection of the pair requires a
human when a root is new or when either scan is incomplete.
-/

set_option autoImplicit false

namespace SprintTicket

open Checks

structure LocalEnvironment where
  kind : String
  rootPath : String
  markerPaths : List String
deriving DecidableEq, Repr

structure WorkspaceEnvironmentSnapshot where
  repositoryPath : String
  environments : List LocalEnvironment
  inspectionErrors : List String
deriving DecidableEq, Repr

def WorkspaceEnvironmentSnapshot.inspectionComplete (snapshot : WorkspaceEnvironmentSnapshot) : Bool :=
  snapshot.inspectionErrors = []

structure WorkspaceGuardInspection where
  phase : AttemptPhase
  timestamp : Timestamp
  artifactPath : Option String
  before : WorkspaceEnvironmentSnapshot
  after : WorkspaceEnvironmentSnapshot
  newEnvironments : List LocalEnvironment
deriving DecidableEq, Repr

namespace WorkspaceGuardInspection

variable (inspection : WorkspaceGuardInspection)

def hasViolation : Bool := inspection.newEnvironments ≠ []

def hasInspectionFailure : Bool :=
  !(inspection.before.inspectionComplete && inspection.after.inspectionComplete)

def requiresHuman : Bool := inspection.hasViolation || inspection.hasInspectionFailure

variable {inspection}

/-- A guard that lets the run go on saw both scans complete and no new root. -/
theorem requiresHuman_false :
    inspection.requiresHuman = false ↔ inspection.newEnvironments = [] ∧
      inspection.before.inspectionErrors = [] ∧ inspection.after.inspectionErrors = [] := by
  simp [requiresHuman, hasViolation, hasInspectionFailure, WorkspaceEnvironmentSnapshot.inspectionComplete]

end WorkspaceGuardInspection

/-- `new_environments`; `identity` is `_path_identity`, which resolves the path. -/
def newEnvironments (identity : PathResolver) (before after : WorkspaceEnvironmentSnapshot) :
    Except Raised (List LocalEnvironment) := do
  let beforeRoots ← before.environments.mapM fun environment => identity environment.rootPath
  after.environments.filterM fun environment => do
    let root ← identity environment.rootPath
    pure (!beforeRoots.contains root)

/-! ## Messages -/

/-- `_kind_label`. -/
def kindLabel (kind : String) : String :=
  if kind = "conda" then "Conda environment" else "Python virtual environment"

/-- `_format_root`. -/
def formatRoot (value : String) : String :=
  if value = "." then value
  else String.ofList (value.toList.reverse.dropWhile (· = '/')).reverse ++ "/"

/-- `_format_environment`; `relative` is `_relative_path`. -/
def formatEnvironment (relative : String → String → String) (environment : LocalEnvironment)
    (repositoryPath : String) : String :=
  let marker := relative (environment.markerPaths.headD "") repositoryPath
  s!"{formatRoot (relative environment.rootPath repositoryPath)} ({kindLabel environment.kind}; marker: {marker})"

/-- `format_workspace_hygiene_violation`. -/
def formatWorkspaceHygieneViolation (relative : String → String → String)
    (inspection : WorkspaceGuardInspection) (operation runDir gitSafety : String) : String :=
  let environments := "; ".intercalate (inspection.newEnvironments.map fun environment =>
    formatEnvironment relative environment inspection.after.repositoryPath)
  let artifact := match inspection.artifactPath with
    | none => "writable execution record"
    | some path => relative path runDir
  "Workspace hygiene violation: The writable agent operation for " ++ operation ++
    " created a new local Python/Conda environment inside the target repository: " ++ environments ++
    ". The environment did not exist before that writable operation. Git safety: " ++ gitSafety ++
    ". TicketAutomation has stopped for human inspection. No files were deleted automatically. " ++
    "Workspace-guard artifact: " ++ artifact ++ "."

end SprintTicket
