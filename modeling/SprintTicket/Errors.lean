import Mathlib.Data.List.Basic

/-!
# Exceptions

Fallible code returns `Except Raised`. A `Raised` value carries the class of a
Python exception and its text; `Raised.isinstance` follows the class hierarchy
of the source, since every `except` clause of the controller selects by class.
-/

set_option autoImplicit false

namespace SprintTicket

inductive ExceptionClass
  | exception | runtimeError | valueError | typeError | osError | keyboardInterrupt
  | attemptError | runOwnershipError | persistenceError | codecError | agentContractError
  | gitCommandError | configError | runError | correctionError | implementationError | reviewError
  | verificationError | timeoutError | resultValidationError | persistenceCodecError
  | verificationArtifactError | resolvedRunPolicyError | overflowError | jsonDecodeError | unicodeDecodeError
  | unicodeEncodeError | recursionError | partialCaptureUnavailable | fileNotFoundError | codexScratchDirectoryError
deriving DecidableEq, Repr

/-- The classes an instance belongs to besides its own, `BaseException` left out. -/
def ExceptionClass.bases : ExceptionClass → List ExceptionClass
  | .exception => []
  | .keyboardInterrupt => []
  | .runtimeError | .valueError | .typeError | .osError => [.exception]
  | .timeoutError | .fileNotFoundError => [.osError, .exception]
  | .overflowError => [.exception]
  | .jsonDecodeError | .unicodeDecodeError | .unicodeEncodeError => [.valueError, .exception]
  | .recursionError | .partialCaptureUnavailable => [.runtimeError, .exception]
  | .attemptError | .runOwnershipError | .persistenceError | .gitCommandError | .runError
  | .codexScratchDirectoryError => [.runtimeError, .exception]
  | .codecError | .agentContractError | .configError | .resultValidationError
  | .persistenceCodecError | .verificationArtifactError | .resolvedRunPolicyError => [.valueError, .exception]
  | .correctionError | .implementationError | .reviewError | .verificationError =>
    [.runError, .runtimeError, .exception]

/-- `type(error).__name__`. -/
def ExceptionClass.name : ExceptionClass → String
  | .exception => "Exception"
  | .runtimeError => "RuntimeError"
  | .valueError => "ValueError"
  | .typeError => "TypeError"
  | .osError => "OSError"
  | .keyboardInterrupt => "KeyboardInterrupt"
  | .attemptError => "AttemptError"
  | .runOwnershipError => "RunOwnershipError"
  | .persistenceError => "PersistenceError"
  | .codecError => "CodecError"
  | .agentContractError => "AgentContractError"
  | .gitCommandError => "GitCommandError"
  | .configError => "ConfigError"
  | .runError => "RunError"
  | .correctionError => "CorrectionError"
  | .implementationError => "ImplementationError"
  | .reviewError => "ReviewError"
  | .verificationError => "VerificationError"
  | .timeoutError => "TimeoutError"
  | .resultValidationError => "ResultValidationError"
  | .persistenceCodecError => "PersistenceCodecError"
  | .verificationArtifactError => "_VerificationArtifactError"
  | .resolvedRunPolicyError => "ResolvedRunPolicyError"
  | .overflowError => "OverflowError"
  | .jsonDecodeError => "JSONDecodeError"
  | .unicodeDecodeError => "UnicodeDecodeError"
  | .unicodeEncodeError => "UnicodeEncodeError"
  | .recursionError => "RecursionError"
  | .partialCaptureUnavailable => "_PartialCaptureUnavailable"
  | .fileNotFoundError => "FileNotFoundError"
  | .codexScratchDirectoryError => "CodexScratchDirectoryError"

/-- A raised exception with `str(error)`. -/
structure Raised where
  cls : ExceptionClass
  message : String
deriving DecidableEq, Repr

def Raised.isinstance (error : Raised) (cls : ExceptionClass) : Bool :=
  error.cls = cls || error.cls.bases.contains cls

/-- Everything but an interruption is an `Exception`. -/
theorem Raised.isinstance_exception {error : Raised} :
    error.isinstance .exception = true ↔ error.cls ≠ .keyboardInterrupt := by
  obtain ⟨cls, message⟩ := error
  cases cls <;> simp [Raised.isinstance, ExceptionClass.bases]

/-- What `encode("utf-8")` raises at a lone surrogate. -/
def surrogatesNotAllowed : Raised := ⟨.unicodeEncodeError, "'utf-8' codec can't encode: surrogates not allowed"⟩

/-- `except cls as error: raise handler(error)`. -/
def reraise {α : Type} (cls : ExceptionClass) (handler : Raised → Raised) (body : Except Raised α) :
    Except Raised α :=
  body.mapError fun error => if error.isinstance cls then handler error else error

@[simp] theorem reraise_ok {α : Type} {cls : ExceptionClass} {handler : Raised → Raised}
    {body : Except Raised α} {a : α} : reraise cls handler body = .ok a ↔ body = .ok a := by
  cases body <;> simp [reraise, Except.mapError]

/-- `except classes as error: raise handler(error)`. -/
def reraiseAny {α : Type} (classes : List ExceptionClass) (handler : Raised → Raised)
    (body : Except Raised α) : Except Raised α :=
  body.mapError fun error => if classes.any error.isinstance then handler error else error

@[simp] theorem reraiseAny_ok {α : Type} {classes : List ExceptionClass} {handler : Raised → Raised}
    {body : Except Raised α} {a : α} : reraiseAny classes handler body = .ok a ↔ body = .ok a := by
  cases body <;> simp [reraiseAny, Except.mapError]

/-- `try: body / except classes as error: return handler(error)`. -/
def handling {α : Type} (classes : List ExceptionClass) (body : Except Raised α) (handler : Raised → α) :
    Except Raised α :=
  match body with
  | .ok a => .ok a
  | .error error => if classes.any error.isinstance then .ok (handler error) else .error error

/-- A handled body returned by itself, or its exception was turned into the answer. -/
theorem handling_ok {α : Type} {classes : List ExceptionClass} {body : Except Raised α}
    {handler : Raised → α} {a : α} (h : handling classes body handler = .ok a) :
    body = .ok a ∨ ∃ error, body = .error error ∧ a = handler error := by
  unfold handling at h
  split at h
  · cases h; exact .inl rfl
  · rename_i error
    split at h
    · cases h; exact .inr ⟨error, rfl, rfl⟩
    · cases h

end SprintTicket
