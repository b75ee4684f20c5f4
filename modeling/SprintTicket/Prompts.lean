import SprintTicket.Logic.Checks
import SprintTicket.Logic.Substitution
import SprintTicket.Runs

/-!
# Rendering prompts

The prompts of a correction and of a review are templates whose placeholders are
replaced one after another by `str.replace`, over a text that already holds the
values put in before. `prompts_verbatim_iff` says for which values that fills the
template and nothing else.

The templates are the files of the package, cut at their placeholders.
-/

set_option autoImplicit false

namespace SprintTicket

open Checks Substitution

def originalTicketToken : String := "\x7b\x7bORIGINAL_TICKET\x7d\x7d"

def correctionTicketToken : String := "\x7b\x7bCORRECTION_TICKET\x7d\x7d"

def repositoryContextToken : String := "\x7b\x7bREPOSITORY_CONTEXT\x7d\x7d"

def baselineShaToken : String := "\x7b\x7bBASELINE_SHA\x7d\x7d"

def startingBranchToken : String := "\x7b\x7bSTARTING_BRANCH\x7d\x7d"

def currentBranchToken : String := "\x7b\x7bCURRENT_BRANCH\x7d\x7d"

def verificationResultsToken : String := "\x7b\x7bVERIFICATION_RESULTS\x7d\x7d"

def implementationSummaryToken : String := "\x7b\x7bIMPLEMENTATION_SUMMARY\x7d\x7d"

/-- `correct.md`. -/
def correctionPromptTemplate : List (Segment Char) :=
  [
    .text "# Correction Agent

You are a fresh correction agent working in the target repository.

## Role

Perform one writable corrective round for the generated corrective ticket.
Do not resume or rely on hidden context from the implementation agent, the reviewer agent, or an earlier correction agent.

Existing uncommitted changes are the implementation of the original ticket. Preserve valid existing work and make only the changes necessary to satisfy this corrective round.

## Repository Authority

Treat the target repository as authoritative.
Inspect and obey:

- AGENTS.md
- applicable ADRs
- repository documentation
- tests
- existing architectural conventions

Repository authority takes precedence over unsupported assumptions in this generated prompt.
The original ticket remains authoritative except where the corrective ticket identifies a specific defect that must be addressed.

## Git Restrictions

Do not create or switch branches.
Do not stage files.
Do not commit.
Do not amend commits.
Do not reset or revert existing work.
Do not stash.
Do not clean the repository.

## Scope

Address only the generated corrective ticket.
Do not broaden the ticket.
Do not perform unrelated refactoring.
Run relevant targeted validation after making the correction.

## Environment And Tooling

Existing uncommitted source changes are the implementation being corrected. Use the target repository's existing configured development environment and project tooling to validate those changes.
Do not create a new virtual environment, Conda environment, dependency environment, package cache, or large generated dependency tree inside the target repository merely to perform correction or validation, unless the original or corrective ticket explicitly requires that artifact.
Do not install project dependencies globally or mutate unrelated machine-level Python, Node, Conda, or system environments as a workaround.
Do not modify `.gitignore` merely to hide local validation environments or generated dependency trees.
If required validation cannot be performed using the repository's existing environment/tooling, run only the safe validation that is available and report the limitation. Return `BLOCKED` when the missing environment prevents safe completion.

## Temporary Validation Files

The runner sets `TEMP`, `TMP`, and `TMPDIR` to a per-operation scratch directory outside the target repository. Keep those values and use that location for temporary validation output.

Do not create pytest temporary directories, including `pytest --basetemp`, anywhere inside the target repository. If a test command requires `--basetemp`, place it under the runner-provided temporary directory.

## Repository Context

".toList,
    .hole repositoryContextToken.toList,
    .text "

## Original Ticket

The complete original ticket is included verbatim below. Do not summarize away requirements.

BEGIN ORIGINAL TICKET
".toList,
    .hole originalTicketToken.toList,
    .text "
END ORIGINAL TICKET

## Corrective Ticket

The generated corrective ticket is included verbatim below. It is rendered mechanically from structured verification or review data.

BEGIN CORRECTIVE TICKET
".toList,
    .hole correctionTicketToken.toList,
    .text "
END CORRECTIVE TICKET

## Output

Return only structured JSON matching the provided schema.
Use `COMPLETED` only when the corrective work has been applied.
Use `BLOCKED` when repository evidence is insufficient to safely resolve the corrective ticket.
".toList]

/-- `review.md`. -/
def reviewPromptTemplate : List (Segment Char) :=
  [
    .text "# Review Agent

You are a fresh review agent working in the target repository.

## Role

Perform an independent, read-only review of the complete ticket implementation.
Do not resume or rely on any hidden context from the implementation agent, a correction agent, or an earlier review.
Use only the original ticket, the repository contents, the Git diff relative to the baseline, repository authority, deterministic verification results, and the implementation summary below.

## Repository Authority

Treat the target repository as authoritative.
Where relevant, inspect and respect:

- AGENTS.md
- ADRs
- architecture documentation
- scientific contracts
- public/API contracts
- validation rules
- provenance rules
- tests
- documentation
- established implementation patterns

Repository authority takes precedence over unsupported assumptions in this generated prompt.

## Review Scope

Inspect this full range:

baseline SHA -> complete current working tree

Review all current uncommitted implementation changes relative to the original ticket baseline.
Do not limit review scope to the latest changed file, the most recent provider invocation, a correction delta, files mentioned by the implementation agent, or a previous review finding.

Do not require unrelated improvements merely because you notice them while reading the repository.
Observations outside the approved ticket scope should normally be classified as `FOLLOW_UP`, not `REQUIRED`, unless the implementation introduced an actual regression.

## Required Review Dimensions

Assess at least:

- ticket completeness
- functional correctness
- scientific correctness where applicable
- architecture
- public/API compatibility
- validation boundaries
- provenance
- tests
- documentation
- regression risk
- scope discipline

Identify genuine implementation defects without turning unrelated improvement opportunities into mandatory corrective work.

## Evidence-Based Requirement Review

Before returning `PASS`, trace every testable ticket requirement and acceptance
criterion to both the implementation that enforces it and the evidence that
protects it. Inspect the tests themselves; a passing command or a test name is
not evidence that the relevant behaviour is covered.

For every changed executable behaviour, check the following where applicable:

- The test exercises the behaviour through the public API or the supported
  repository boundary that owns the contract. Do not accept a private-helper
  test as the only evidence when a stable assembly, execution, or provenance
  boundary can demonstrate the required behaviour.
- A valid, ordinary-workflow case demonstrates that the new or changed feature
  works. For validation, plan, or configuration contracts, inspect every
  supported construction path, including trusted or internal direct
  construction when repository patterns permit it.
- Invalid inputs and incompatible cross-field combinations are rejected at the
  owning validation boundary. Check required fields, mutually dependent fields,
  and new constraints introduced by the ticket.
- Deferred, contract-only, or intentionally unsupported functionality fails at
  its execution boundary with the promised typed and actionable error. When
  practical, a test must also establish that the failed attempt leaves input
  data and observable state unchanged.
- Changes to serialization or provenance are tested through the supported
  provenance-assembly boundary and cover the ticket-required payload or record
  fields.

Do not demand redundant tests when an existing behavioural test already proves
the requirement at the appropriate boundary. Do raise a `REQUIRED` finding when
a ticket requirement or implementation change lacks practical behavioural
coverage, or when its only coverage bypasses the contract it is meant to
protect. Classify a refactor-sensitive private-helper test as `ADVISORY` when
the required behaviour is otherwise covered through a supported boundary.

## Run Context

Baseline SHA: ".toList,
    .hole baselineShaToken.toList,
    .text "\nStarting branch: ".toList,
    .hole startingBranchToken.toList,
    .text "\nCurrent branch: ".toList,
    .hole currentBranchToken.toList,
    .text "

## Deterministic Verification Results

These runner-owned deterministic verification results already passed before this review was requested.

```json
".toList,
    .hole verificationResultsToken.toList,
    .text "
```

## Implementation Summary

".toList,
    .hole implementationSummaryToken.toList,
    .text "

## Original Ticket

The complete original ticket is included verbatim below. Do not summarize away requirements.

BEGIN ORIGINAL TICKET
".toList,
    .hole originalTicketToken.toList,
    .text "
END ORIGINAL TICKET

## Output

Return only structured JSON matching the provided schema.
Use `PASS` only when there are no REQUIRED findings.
Use `CORRECTIONS_REQUIRED` only when at least one REQUIRED finding must be corrected before the ticket can pass.
Use `HUMAN_REVIEW_REQUIRED` when repository evidence is insufficient to resolve an architectural, scientific, or scope ambiguity safely.

Finding dispositions:

- `REQUIRED`: must be corrected before ticket acceptance; only these findings may later enter an automated corrective loop.
- `ADVISORY`: useful observation that does not block ticket acceptance and must not trigger corrective implementation automatically.
- `FOLLOW_UP`: useful improvement outside the current ticket scope and must not trigger corrective implementation automatically.

Scope relations:

- `TICKET`: the required change is directly required by the original ticket.
- `IMPLEMENTATION`: the finding identifies a defect or regression introduced by this implementation.
- `REPOSITORY_AUTHORITY`: repository rules or contracts raise a conflict that requires a human decision.
- `OUT_OF_SCOPE`: the observation is outside the approved ticket and must not drive this ticket's corrective work.
- `AMBIGUOUS`: the available ticket or repository evidence cannot establish a safe corrective action.

Only `REQUIRED` findings with `TICKET` or `IMPLEMENTATION` scope relations may enter automatic correction. Classify any required finding that needs human judgment with its actual scope relation and use `HUMAN_REVIEW_REQUIRED` when appropriate.
".toList]

/-- The text of a template file. -/
def templateText (template : List (Segment Char)) : List Char := fill id template

/-- The replacements of a prompt as lists of characters. -/
def characters (replacements : List (String × String)) : List (List Char × List Char) :=
  replacements.map fun replacement => (replacement.1.toList, replacement.2.toList)

/-- The body of the two functions: every placeholder must be in the template, and
they are replaced in the order of the dictionary. -/
def renderPrompt (cls : ExceptionClass) (kind : String) (template : List Char) (replacements : List (String × String)) :
    Except Raised String := do
  let missing := (replacements.map Prod.fst).filter fun token => ¬token.toList <:+: template
  raiseIf (missing ≠ [])
    ⟨cls, kind ++ " prompt template is missing placeholders: " ++
      ", ".intercalate (missing.insertionSort (· ≤ ·))⟩
  pure (String.ofList (substituteAll (characters replacements) template))

def correctionReplacements (originalTicket correctionTicket repositoryContext : String) : List (String × String) :=
  [(originalTicketToken, originalTicket), (correctionTicketToken, correctionTicket),
    (repositoryContextToken, repositoryContext)]

/-- `render_correction_prompt`. -/
def renderCorrectionPrompt (originalTicket correctionTicket repositoryContext : String) : Except Raised String :=
  renderPrompt .correctionError "Correction" (templateText correctionPromptTemplate)
    (correctionReplacements originalTicket correctionTicket repositoryContext)

def reviewReplacements (ticketText : String) (runRecord : RunRecord)
    (currentBranch verificationResults implementationSummary : String) : List (String × String) :=
  [(originalTicketToken, ticketText), (baselineShaToken, runRecord.baselineSha),
    (startingBranchToken, runRecord.startingBranch), (currentBranchToken, currentBranch),
    (verificationResultsToken, verificationResults), (implementationSummaryToken, implementationSummary)]

/-- `_render_review_prompt`. -/
def renderReviewPrompt (ticketText : String) (runRecord : RunRecord)
    (currentBranch verificationResults implementationSummary : String) : Except Raised String :=
  renderPrompt .reviewError "Review" (templateText reviewPromptTemplate)
    (reviewReplacements ticketText runRecord currentBranch verificationResults implementationSummary)

/-! ## When the values appear unchanged -/

/-- The tokens of the replacements, in order. -/
def tokensOf (replacements : List (String × String)) : List (List Char) := (characters replacements).map Prod.fst

/-- The prompt is the template with every placeholder replaced by its value, and
so is the text after each replacement for the placeholders replaced so far. -/
structure RendersVerbatim (rendered : Except Raised String) (template : List (Segment Char))
    (replacements : List (String × String)) : Prop where
  rendered : rendered = .ok (String.ofList (fill (assigned (characters replacements)) template))
  throughout : Faithful (characters replacements) template

/-- No value holds a placeholder that is replaced after it, unless by itself. -/
def NoLaterPlaceholder (replacements : List (String × String)) : Prop :=
  replacements.Pairwise fun earlier later =>
    later.2 = later.1 ∨ ¬later.1.toList <:+: earlier.2.toList

/-- No later placeholder is in an inserted value, on characters as on texts. -/
theorem unambiguous_characters_iff {replacements : List (String × String)} :
    Unambiguous (characters replacements) ↔ NoLaterPlaceholder replacements := by
  rw [Unambiguous, characters, List.pairwise_map]
  simp only [String.toList_inj, NoLaterPlaceholder]

/-- The texts of a template have no braces. -/
def plainSegment : Segment Char → Bool
  | .text symbols => '\x7b' ∉ symbols
  | .hole _ => true

def holeOf : Segment Char → Option (List Char)
  | .text _ => none
  | .hole token => some token

/-- The checks a template passes whose placeholders stand between other symbols. -/
theorem sound_of_checks {tokens : List (List Char)} {template : List (Segment Char)}
    (braces : ∀ token ∈ tokens, '\x7b' ∈ token) (distinct : tokens.Nodup)
    (separate : ∀ token ∈ tokens, ∀ other ∈ tokens, token <:+: other → token = other)
    (holes : (template.filterMap holeOf).Perm tokens) (plain : template.all plainSegment = true)
    (apart : ∀ token ∈ tokens, template.IsChain fun left right => left.apart token right = true) :
    Sound tokens template where
  filled token member := List.ne_nil_of_mem (braces token member)
  distinct
  separate
  holes token := by
    rw [← holes.mem_iff, List.mem_filterMap]
    constructor
    · exact fun member => ⟨_, member, rfl⟩
    · rintro ⟨segment, member, same⟩
      cases segment with
      | text _ => cases same
      | hole other =>
        cases same
        exact member
  texts := by
    intro symbols inside token member found
    have outside := List.all_eq_true.mp plain _ inside
    simp only [plainSegment, decide_eq_true_eq] at outside
    exact outside (found.subset (braces token member))
  apart

/-- A template with all of its placeholders is rendered by the replacements. -/
theorem renderPrompt_eq {cls : ExceptionClass} {kind : String} {template : List (Segment Char)}
    {replacements : List (String × String)} (sound : Sound (tokensOf replacements) template) :
    renderPrompt cls kind (templateText template) replacements =
      .ok (String.ofList (substituteAll (characters replacements) (templateText template))) := by
  have complete : (replacements.map Prod.fst).filter (fun token => ¬token.toList <:+: templateText template) = [] := by
    rw [List.filter_eq_nil_iff]
    intro token member
    obtain ⟨replacement, listed, rfl⟩ := List.mem_map.mp member
    have known : replacement.1.toList ∈ tokensOf replacements :=
      List.mem_map.mpr ⟨_, List.mem_map_of_mem listed, rfl⟩
    have present : replacement.1.toList <:+: templateText template :=
      List.infix_of_mem_flatten (List.mem_map_of_mem (f := Segment.fill id) ((sound.holes _).mpr known))
    simpa using present
  simp only [renderPrompt, complete]
  rfl

/-- The renderer is verbatim exactly when the substitution is faithful. -/
theorem rendersVerbatim_iff {cls : ExceptionClass} {kind : String} {template : List (Segment Char)}
    {replacements : List (String × String)} (sound : Sound (tokensOf replacements) template) :
    RendersVerbatim (renderPrompt cls kind (templateText template) replacements) template replacements ↔
      NoLaterPlaceholder replacements := by
  have known : ∀ replacement ∈ characters replacements, replacement.1 ∈ tokensOf replacements :=
    fun _ member => List.mem_map_of_mem member
  rw [← unambiguous_characters_iff, ← faithful_iff sound known sound.distinct]
  constructor
  · exact RendersVerbatim.throughout
  · intro faithful
    refine ⟨?_, faithful⟩
    rw [renderPrompt_eq sound, templateText, faithful _ (List.prefix_refl _)]

def correctionTokens : List (List Char) :=
  [originalTicketToken, correctionTicketToken, repositoryContextToken].map String.toList

def reviewTokens : List (List Char) :=
  [originalTicketToken, baselineShaToken, startingBranchToken, currentBranchToken, verificationResultsToken,
    implementationSummaryToken].map String.toList

/-- The facts about the two real templates, by evaluation. -/
theorem correctionTokens_checks :
    (∀ token ∈ correctionTokens, '\x7b' ∈ token) ∧ correctionTokens.Nodup ∧
      (∀ token ∈ correctionTokens, ∀ other ∈ correctionTokens, token <:+: other → token = other) ∧
        correctionPromptTemplate.all plainSegment = true ∧
          ∀ token ∈ correctionTokens,
            correctionPromptTemplate.IsChain fun left right => left.apart token right = true := by
  simp only [correctionTokens, originalTicketToken, correctionTicketToken, repositoryContextToken,
    correctionPromptTemplate, List.map_cons, List.map_nil]
  repeat rw [String.toList_ofList]
  decide +kernel

theorem reviewTokens_checks :
    (∀ token ∈ reviewTokens, '\x7b' ∈ token) ∧ reviewTokens.Nodup ∧
      (∀ token ∈ reviewTokens, ∀ other ∈ reviewTokens, token <:+: other → token = other) ∧
        reviewPromptTemplate.all plainSegment = true ∧
          ∀ token ∈ reviewTokens, reviewPromptTemplate.IsChain fun left right => left.apart token right = true := by
  simp only [reviewTokens, originalTicketToken, baselineShaToken, startingBranchToken, currentBranchToken,
    verificationResultsToken, implementationSummaryToken, reviewPromptTemplate, List.map_cons, List.map_nil]
  repeat rw [String.toList_ofList]
  decide +kernel

theorem correctionPromptTemplate_sound : Sound correctionTokens correctionPromptTemplate := by
  obtain ⟨braces, distinct, separate, plain, apart⟩ := correctionTokens_checks
  refine sound_of_checks braces distinct separate ?_ plain apart
  have rotated : ([repositoryContextToken].map String.toList ++
      [originalTicketToken, correctionTicketToken].map String.toList).Perm correctionTokens := List.perm_append_comm
  exact rotated

theorem reviewPromptTemplate_sound : Sound reviewTokens reviewPromptTemplate := by
  obtain ⟨braces, distinct, separate, plain, apart⟩ := reviewTokens_checks
  refine sound_of_checks braces distinct separate ?_ plain apart
  have rotated : ([baselineShaToken, startingBranchToken, currentBranchToken, verificationResultsToken,
      implementationSummaryToken].map String.toList ++ [originalTicketToken].map String.toList).Perm reviewTokens :=
    List.perm_append_comm
  exact rotated

/-- The placeholders are replaced in the order of the table. -/
theorem tokensOf_correctionReplacements (originalTicket correctionTicket repositoryContext : String) :
    tokensOf (correctionReplacements originalTicket correctionTicket repositoryContext) = correctionTokens := by
  simp [tokensOf, characters, correctionReplacements, correctionTokens]

theorem tokensOf_reviewReplacements (ticketText : String) (runRecord : RunRecord)
    (currentBranch verificationResults implementationSummary : String) :
    tokensOf (reviewReplacements ticketText runRecord currentBranch verificationResults implementationSummary) =
      reviewTokens := by
  simp [tokensOf, characters, reviewReplacements, reviewTokens]

/-- **Verbatim substitution.** Both prompts are their templates with every value in
the place of its placeholder, at each step of the way, exactly when no value holds
a placeholder that is replaced after it. -/
theorem prompts_verbatim_iff (originalTicket correctionTicket repositoryContext ticketText : String)
    (runRecord : RunRecord) (currentBranch verificationResults implementationSummary : String) :
    (RendersVerbatim (renderCorrectionPrompt originalTicket correctionTicket repositoryContext)
        correctionPromptTemplate (correctionReplacements originalTicket correctionTicket repositoryContext) ↔
      NoLaterPlaceholder (correctionReplacements originalTicket correctionTicket repositoryContext)) ∧
      (RendersVerbatim
          (renderReviewPrompt ticketText runRecord currentBranch verificationResults implementationSummary)
          reviewPromptTemplate
          (reviewReplacements ticketText runRecord currentBranch verificationResults implementationSummary) ↔
        NoLaterPlaceholder
          (reviewReplacements ticketText runRecord currentBranch verificationResults implementationSummary)) := by
  constructor
  · apply rendersVerbatim_iff
    rw [tokensOf_correctionReplacements]
    exact correctionPromptTemplate_sound
  · apply rendersVerbatim_iff
    rw [tokensOf_reviewReplacements]
    exact reviewPromptTemplate_sound

/-- A ticket that names the placeholder of the corrective ticket does not appear
unchanged. -/
theorem ticket_placeholder_replaced :
    ∃ text, renderCorrectionPrompt correctionTicketToken "Fix it." "" = .ok text ∧
      text ≠ String.ofList (fill (assigned (characters (correctionReplacements correctionTicketToken "Fix it." "")))
        correctionPromptTemplate) := by
  refine ⟨_, renderPrompt_eq ?_, ?_⟩
  · rw [tokensOf_correctionReplacements]
    exact correctionPromptTemplate_sound
  · intro same
    rw [String.ofList_inj] at same
    revert same
    simp only [correctionReplacements, characters, templateText, originalTicketToken, correctionTicketToken,
      repositoryContextToken, correctionPromptTemplate, List.map_cons, List.map_nil]
    repeat rw [String.toList_ofList]
    decide +kernel

end SprintTicket
