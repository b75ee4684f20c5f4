import Mathlib.Data.List.Basic
import Mathlib.Data.List.Chain

/-!
# Replacing tokens in a text

`replace` replaces every occurrence of one token, from left to right. A document
is a list of texts and holes; filling its holes with their own tokens gives a
template, and the values may be put in one after another, each by a `replace` of
the whole text so far. `substituteAll_faithful_iff` says when that is the same as
filling the holes at every step: a value that is already in the text must not
hold a token that is still to be replaced.
-/

set_option autoImplicit false

namespace Substitution

variable {α : Type} [DecidableEq α]

/-- Replace after leaving out what is left of an occurrence. -/
def replaceAfter (token value : List α) : Nat → List α → List α
  | _, [] => []
  | skip + 1, _ :: rest => replaceAfter token value skip rest
  | 0, a :: rest =>
    if token <+: a :: rest then value ++ replaceAfter token value (token.length - 1) rest
    else a :: replaceAfter token value 0 rest

/-- `text.replace(token, value)` of a token that is not empty. -/
def replace (token value text : List α) : List α := replaceAfter token value 0 text

section Replace

variable {token value : List α}

@[simp] theorem replace_nil : replace token value [] = [] := rfl

theorem replaceAfter_skip (skipped rest : List α) :
    replaceAfter token value skipped.length (skipped ++ rest) = replace token value rest := by
  induction skipped with
  | nil => rfl
  | cons a skipped ih => exact ih

/-- An occurrence at the front is replaced and the rest goes on after it. -/
theorem replace_token (filled : token ≠ []) (rest : List α) :
    replace token value (token ++ rest) = value ++ replace token value rest := by
  cases token with
  | nil => exact absurd rfl filled
  | cons a token =>
    have front : a :: token <+: a :: (token ++ rest) := List.prefix_append (a :: token) rest
    rw [replace, List.cons_append, replaceAfter, if_pos front]
    exact congrArg _ (replaceAfter_skip token rest)

/-- A symbol at which no occurrence starts stays. -/
theorem replace_cons {a : α} {rest : List α} (other : ¬token <+: a :: rest) :
    replace token value (a :: rest) = a :: replace token value rest := by
  rw [replace, replaceAfter, if_neg other]
  rfl

/-- Induction along the scan: at an occurrence, or past one symbol. -/
@[elab_as_elim]
theorem replace_induction {motive : List α → Prop} (filled : token ≠ []) (nil : motive [])
    (occurrence : ∀ after, motive after → motive (token ++ after))
    (symbol : ∀ a rest, ¬token <+: a :: rest → motive rest → motive (a :: rest)) (text : List α) : motive text := by
  induction length : text.length using Nat.strongRecOn generalizing text with
  | ind n ih =>
    cases text with
    | nil => exact nil
    | cons a rest =>
      by_cases front : token <+: a :: rest
      · obtain ⟨after, same⟩ := front
        have positive := List.length_pos_iff.mpr filled
        have total := congrArg List.length same
        rw [List.length_append, length] at total
        rw [← same]
        exact occurrence after (ih after.length (by omega) after rfl)
      · rw [List.length_cons] at length
        exact symbol a rest front (ih rest.length (by omega) rest rfl)

/-- A shorter value makes the text no longer, a longer one no shorter. -/
theorem length_replace_le (filled : token ≠ []) (shorter : value.length ≤ token.length) (text : List α) :
    (replace token value text).length ≤ text.length := by
  induction text using replace_induction filled with
  | nil => exact Nat.le_refl _
  | occurrence after ih =>
    rw [replace_token filled, List.length_append, List.length_append]
    omega
  | symbol a rest other ih =>
    rw [replace_cons other, List.length_cons, List.length_cons]
    omega

theorem le_length_replace (filled : token ≠ []) (longer : token.length ≤ value.length) (text : List α) :
    text.length ≤ (replace token value text).length := by
  induction text using replace_induction filled with
  | nil => exact Nat.le_refl _
  | occurrence after ih =>
    rw [replace_token filled, List.length_append, List.length_append]
    omega
  | symbol a rest other ih =>
    rw [replace_cons other, List.length_cons, List.length_cons]
    omega

/-- A text without the token stays as it is. -/
theorem replace_of_absent {text : List α} (absent : ¬token <:+: text) : replace token value text = text := by
  induction text with
  | nil => rfl
  | cons a rest ih =>
    rw [List.infix_cons_iff, not_or] at absent
    rw [replace_cons absent.1, ih absent.2]

/-- A text survives a replacement exactly when it does not hold the token, or the
token is replaced by itself. -/
theorem replace_eq_self_iff (filled : token ≠ []) {text : List α} :
    replace token value text = text ↔ value = token ∨ ¬token <:+: text := by
  constructor
  · intro same
    induction text using replace_induction filled with
    | nil => exact .inr fun found => filled (List.infix_nil.mp found)
    | occurrence after ih =>
      left
      rw [replace_token filled] at same
      have total := congrArg List.length same
      rw [List.length_append, List.length_append] at total
      rcases Nat.le_total value.length token.length with shorter | longer
      · have rest := length_replace_le filled shorter after
        exact (List.append_inj same (by omega)).1
      · have rest := le_length_replace filled longer after
        exact (List.append_inj same (by omega)).1
    | symbol a rest other ih =>
      rw [replace_cons other, List.cons.injEq] at same
      refine (ih same.2).imp_right fun absent => ?_
      rw [List.infix_cons_iff, not_or]
      exact ⟨other, absent⟩
  · rintro (rfl | absent)
    · induction text using replace_induction filled with
      | nil => rfl
      | occurrence after ih => rw [replace_token filled, ih]
      | symbol a rest other ih => rw [replace_cons other, ih]
    · exact replace_of_absent absent

/-- A symbol that is not in the token separates the occurrences before it from
those after it. -/
theorem replace_append_cons (filled : token ≠ []) {separator : α} (foreign : separator ∉ token) (left right : List α) :
    replace token value (left ++ separator :: right) =
      replace token value left ++ separator :: replace token value right := by
  induction left using replace_induction filled with
  | nil =>
    have other : ¬token <+: separator :: right := by
      rintro ⟨after, same⟩
      cases token with
      | nil => exact filled rfl
      | cons a token =>
        obtain ⟨rfl, _⟩ := List.cons.inj same
        exact foreign List.mem_cons_self
    rw [List.nil_append, replace_cons other]
    rfl
  | occurrence after ih => rw [List.append_assoc, replace_token filled, replace_token filled, ih, List.append_assoc]
  | symbol a rest other ih =>
    have apart : ¬token <+: a :: (rest ++ separator :: right) := by
      rintro ⟨after, same⟩
      rw [← List.cons_append] at same
      rcases List.append_eq_append_iff.mp same with ⟨more, whole, _⟩ | ⟨more, whole, front⟩
      · exact other ⟨more, whole.symm⟩
      · cases more with
        | nil => exact other ⟨[], by rw [List.append_nil, whole, List.append_nil]⟩
        | cons b more =>
          obtain ⟨rfl, _⟩ := List.cons.inj front
          exact foreign (by simp [whole])
    rw [List.cons_append, replace_cons apart, replace_cons other, ih, List.cons_append]

/-- A left part that ends with a separator is replaced on its own. -/
theorem replace_append_of_last (filled : token ≠ []) {left : List α} (foreign : left.getLast?.any (· ∉ token) = true)
    (right : List α) : replace token value (left ++ right) = replace token value left ++ replace token value right := by
  cases left using List.reverseRecOn with
  | nil => rfl
  | append_singleton left separator =>
    have outside : separator ∉ token := by simpa using foreign
    rw [List.append_assoc, List.singleton_append, replace_append_cons filled outside,
      replace_append_cons filled outside, replace_nil, List.append_assoc, List.singleton_append]

/-- A right part that starts with a separator is replaced on its own. -/
theorem replace_append_of_head (filled : token ≠ []) {right : List α} (foreign : right.head?.any (· ∉ token) = true)
    (left : List α) : replace token value (left ++ right) = replace token value left ++ replace token value right := by
  cases right with
  | nil => cases foreign
  | cons separator right =>
    have outside : separator ∉ token := by simpa using foreign
    have front : replace token value ([] ++ separator :: right) = _ := replace_append_cons filled outside [] right
    rw [List.nil_append, replace_nil, List.nil_append] at front
    rw [replace_append_cons filled outside, front]

end Replace

/-- A part of a document: a text, or a hole that is named by its token. -/
inductive Segment (α : Type)
  | text (symbols : List α)
  | hole (token : List α)

/-- A segment with its hole filled. -/
def Segment.fill (value : List α → List α) : Segment α → List α
  | .text symbols => symbols
  | .hole token => value token

/-- A document with its holes filled. -/
def fill (value : List α → List α) (document : List (Segment α)) : List α := document.flatMap (Segment.fill value)

/-- No occurrence of the token reaches from one segment into the next, whatever
the holes are filled with: one side of their border is a symbol of a text that is
not in the token. -/
def Segment.apart (token : List α) : Segment α → Segment α → Bool
  | .text left, .text right => left.getLast?.any (· ∉ token) || right.head?.any (· ∉ token)
  | .text left, .hole _ => left.getLast?.any (· ∉ token)
  | .hole _, .text right => right.head?.any (· ∉ token)
  | .hole _, .hole _ => false

/-- The replacement fills the segments of a document whose pieces stand apart. -/
theorem replace_fill {token value : List α} {assigned : List α → List α} (filled : token ≠ [])
    {document : List (Segment α)} (apart : document.IsChain fun left right => left.apart token right = true) :
    replace token value (fill assigned document) =
      document.flatMap fun segment => replace token value (segment.fill assigned) := by
  induction document with
  | nil => rfl
  | cons segment rest ih =>
    have later := ih apart.tail
    rw [fill, List.flatMap_cons, List.flatMap_cons, ← later]
    cases rest with
    | nil => simp [fill]
    | cons next rest =>
      have border := (List.isChain_cons_cons.mp apart).1
      have last : ∀ symbols, symbols.getLast?.any (· ∉ token) = true → segment = .text symbols →
          replace token value (segment.fill assigned ++ fill assigned (next :: rest)) =
            replace token value (segment.fill assigned) ++ replace token value (fill assigned (next :: rest)) := by
        rintro symbols foreign rfl
        exact replace_append_of_last filled foreign _
      have head : ∀ symbols, symbols.head?.any (· ∉ token) = true → next = .text symbols →
          replace token value (segment.fill assigned ++ fill assigned (next :: rest)) =
            replace token value (segment.fill assigned) ++ replace token value (fill assigned (next :: rest)) := by
        rintro symbols foreign rfl
        refine replace_append_of_head filled ?_ _
        cases symbols with
        | nil => cases foreign
        | cons separator symbols => exact foreign
      cases segment with
      | text left =>
        cases next with
        | text right =>
          rcases Bool.or_eq_true_iff.mp border with foreign | foreign
          · exact last left foreign rfl
          · exact head right foreign rfl
        | hole _ => exact last left border rfl
      | hole _ =>
        cases next with
        | text right => exact head right border rfl
        | hole _ => cases border

omit [DecidableEq α] in
/-- Two concatenations that are the same, part by part no longer one than the
other, have the same parts. -/
theorem eq_of_flatMap_eq {β : Type} {f g : β → List α} {items : List β}
    (shorter : ∀ item ∈ items, (f item).length ≤ (g item).length) (same : items.flatMap f = items.flatMap g) :
    ∀ item ∈ items, f item = g item := by
  have total : ∀ items : List β, (∀ item ∈ items, (f item).length ≤ (g item).length) →
      (items.flatMap f).length ≤ (items.flatMap g).length := by
    intro items shorter
    induction items with
    | nil => exact Nat.le_refl _
    | cons item rest ih =>
      rw [List.forall_mem_cons] at shorter
      have later := ih shorter.2
      rw [List.flatMap_cons, List.flatMap_cons, List.length_append, List.length_append]
      omega
  induction items with
  | nil => exact fun _ member => absurd member List.not_mem_nil
  | cons item rest ih =>
    rw [List.forall_mem_cons] at shorter ⊢
    rw [List.flatMap_cons, List.flatMap_cons] at same
    have later := total rest shorter.2
    have length := congrArg List.length same
    rw [List.length_append, List.length_append] at length
    obtain ⟨first, others⟩ := List.append_inj same (by omega)
    exact ⟨first, ih shorter.2 others⟩

/-! ## Replacing one token after another -/

/-- The replacements in order. -/
def substituteAll (replacements : List (List α × List α)) (text : List α) : List α :=
  replacements.foldl (fun text replacement => replace replacement.1 replacement.2 text) text

/-- The value of a token that has one; other tokens stand for themselves. -/
def assigned (replacements : List (List α × List α)) (token : List α) : List α :=
  (replacements.lookup token).getD token

/-- A document whose holes are those of the tokens, set off from its texts. -/
structure Sound (tokens : List (List α)) (document : List (Segment α)) : Prop where
  filled : ∀ token ∈ tokens, token ≠ []
  distinct : tokens.Nodup
  separate : ∀ token ∈ tokens, ∀ other ∈ tokens, token <:+: other → token = other
  holes : ∀ token, .hole token ∈ document ↔ token ∈ tokens
  texts : ∀ symbols, .text symbols ∈ document → ∀ token ∈ tokens, ¬token <:+: symbols
  apart : ∀ token ∈ tokens, document.IsChain fun left right => left.apart token right = true

/-- At every step the text is the document with the holes filled so far. -/
def Faithful (replacements : List (List α × List α)) (document : List (Segment α)) : Prop :=
  ∀ done, done <+: replacements → substituteAll done (fill id document) = fill (assigned done) document

/-- No value holds a token that is replaced after it, unless by itself. -/
def Unambiguous (replacements : List (List α × List α)) : Prop :=
  replacements.Pairwise fun earlier later => later.2 = later.1 ∨ ¬later.1 <:+: earlier.2

section Steps

variable {tokens : List (List α)} {document : List (Segment α)}

/-- A token that was not replaced stands for itself. -/
theorem assigned_of_not_mem {done : List (List α × List α)} {token : List α} (fresh : token ∉ done.map Prod.fst) :
    done.lookup token = none ∧ assigned done token = token := by
  have none : done.lookup token = none := by
    rw [List.lookup_eq_none_iff]
    intro replacement member
    rw [bne_iff_ne]
    intro same
    exact fresh (List.mem_map.mpr ⟨replacement, member, same.symm⟩)
  exact ⟨none, by rw [assigned, none, Option.getD_none]⟩

theorem assigned_concat {done : List (List α × List α)} {token value : List α} (fresh : token ∉ done.map Prod.fst)
    (other : List α) :
    assigned (done ++ [(token, value)]) other = if other = token then value else assigned done other := by
  rw [assigned, List.lookup_append]
  by_cases same : other = token
  · have own : [(token, value)].lookup token = some value := by simp
    rw [if_pos same, same, (assigned_of_not_mem fresh).1, own]
    rfl
  · have skipped : (other == token) = false := beq_eq_false_iff_ne.mpr same
    have none : [(token, value)].lookup other = none := by simp [List.lookup_cons, skipped]
    rw [if_neg same, none, Option.or_none]
    rfl

/-- A token that was replaced stands for its value. -/
theorem assigned_of_mem {done : List (List α × List α)} (once : (done.map Prod.fst).Nodup)
    {replacement : List α × List α} (member : replacement ∈ done) : assigned done replacement.1 = replacement.2 := by
  induction done with
  | nil => exact absurd member List.not_mem_nil
  | cons first rest ih =>
    rw [List.map_cons, List.nodup_cons] at once
    rcases List.mem_cons.mp member with rfl | later
    · rw [assigned, List.lookup_cons_self]
      rfl
    · have other : replacement.1 ≠ first.1 := by
        intro same
        exact once.1 (same ▸ List.mem_map_of_mem later)
      have skipped : (replacement.1 == first.1) = false := beq_eq_false_iff_ne.mpr other
      have found := ih once.2 later
      rw [assigned, List.lookup_cons, skipped]
      exact found

/-- A segment is replaced as it should be, or it holds a value put in before. -/
theorem segment_cases (sound : Sound tokens document) {done : List (List α × List α)} {token : List α}
    (value : List α) (once : (done.map Prod.fst).Nodup) (member : token ∈ tokens)
    (fresh : token ∉ done.map Prod.fst) {segment : Segment α} (inside : segment ∈ document) :
    replace token value (segment.fill (assigned done)) = segment.fill (assigned (done ++ [(token, value)])) ∨
      ∃ replacement ∈ done, segment.fill (assigned done) = replacement.2 ∧
        segment.fill (assigned (done ++ [(token, value)])) = replacement.2 := by
  cases segment with
  | text symbols => exact .inl (replace_of_absent (sound.texts symbols inside token member))
  | hole other =>
    have listed := (sound.holes other).mp inside
    simp only [Segment.fill, assigned_concat fresh]
    by_cases same : other = token
    · subst same
      have own := (assigned_of_not_mem fresh).2
      have whole : replace other value (other ++ []) = _ := replace_token (sound.filled other member) []
      rw [List.append_nil, replace_nil, List.append_nil] at whole
      left
      rw [own, whole, if_pos rfl]
    · rw [if_neg same]
      by_cases before : other ∈ done.map Prod.fst
      · obtain ⟨replacement, found, rfl⟩ := List.mem_map.mp before
        have own := assigned_of_mem once found
        exact .inr ⟨replacement, found, own, own⟩
      · have own := (assigned_of_not_mem before).2
        left
        rw [own]
        refine replace_of_absent fun found => same ?_
        exact (sound.separate token member other listed found).symm

/-- One more token is replaced in the right places exactly when no value put in
before holds it. -/
theorem replace_faithful_iff (sound : Sound tokens document) {done : List (List α × List α)} {token : List α}
    (value : List α) (known : ∀ replacement ∈ done, replacement.1 ∈ tokens) (once : (done.map Prod.fst).Nodup)
    (member : token ∈ tokens) (fresh : token ∉ done.map Prod.fst) :
    replace token value (fill (assigned done) document) = fill (assigned (done ++ [(token, value)])) document ↔
      value = token ∨ ∀ replacement ∈ done, ¬token <:+: replacement.2 := by
  have filled := sound.filled token member
  have cases : ∀ segment ∈ document, _ ∨ _ := fun segment inside => segment_cases sound value once member fresh inside
  rw [replace_fill filled (sound.apart token member)]
  constructor
  · intro same
    have parts : ∀ segment ∈ document, replace token value (segment.fill (assigned done)) =
        segment.fill (assigned (done ++ [(token, value)])) := by
      rcases Nat.le_total value.length token.length with shorter | longer
      · refine eq_of_flatMap_eq (fun segment inside => ?_) same
        rcases cases segment inside with equal | ⟨_, _, before, after⟩
        · exact Nat.le_of_eq (congrArg List.length equal)
        · rw [before, after]
          exact length_replace_le filled shorter _
      · refine fun segment inside => (eq_of_flatMap_eq (fun segment inside => ?_) same.symm segment inside).symm
        rcases cases segment inside with equal | ⟨_, _, before, after⟩
        · exact Nat.le_of_eq (congrArg List.length equal.symm)
        · rw [before, after]
          exact le_length_replace filled longer _
    by_cases own : value = token
    · exact .inl own
    · refine .inr fun replacement found => ?_
      have other : replacement.1 ≠ token := fun same => fresh (same ▸ List.mem_map_of_mem found)
      have part := parts (.hole replacement.1) ((sound.holes _).mpr (known replacement found))
      simp only [Segment.fill, assigned_concat fresh, if_neg other, assigned_of_mem once found] at part
      exact ((replace_eq_self_iff filled).mp part).resolve_left own
  · intro unambiguous
    refine congrArg List.flatten (List.map_congr_left fun segment inside => ?_)
    rcases cases segment inside with equal | ⟨replacement, found, before, after⟩
    · exact equal
    · rw [before, after, replace_eq_self_iff filled]
      exact unambiguous.imp_right fun absent => absent replacement found

/-- **Replacing the tokens one after another is filling the holes**, at every
step, exactly when no value holds a token that is replaced after it. -/
theorem faithful_iff (sound : Sound tokens document) {replacements : List (List α × List α)}
    (known : ∀ replacement ∈ replacements, replacement.1 ∈ tokens) (once : (replacements.map Prod.fst).Nodup) :
    Faithful replacements document ↔ Unambiguous replacements := by
  induction replacements using List.reverseRecOn with
  | nil =>
    constructor
    · exact fun _ => List.Pairwise.nil
    · intro _ done front
      rw [List.prefix_nil.mp front]
      rfl
  | append_singleton done replacement ih =>
    obtain ⟨token, value⟩ := replacement
    rw [List.forall_mem_append] at known
    rw [List.map_append, List.nodup_append] at once
    have fresh : token ∉ done.map Prod.fst := fun member => once.2.2 token member token List.mem_cons_self rfl
    have earlier := ih known.1 once.1
    have step := replace_faithful_iff sound value known.1 once.1 (known.2 _ List.mem_cons_self) fresh
    have text : substituteAll (done ++ [(token, value)]) (fill id document) =
        replace token value (substituteAll done (fill id document)) := by
      rw [substituteAll, List.foldl_append]
      rfl
    rw [Unambiguous, List.pairwise_append]
    constructor
    · intro faithful
      have before : Faithful done document := fun front prefixed => faithful front (prefixed.trans (List.prefix_append _ _))
      have last := faithful _ (List.prefix_refl _)
      rw [text, before done (List.prefix_refl _), step] at last
      refine ⟨earlier.mp before, List.pairwise_singleton _ _, fun first member later same => ?_⟩
      rw [List.mem_singleton] at same
      subst same
      exact last.imp_right fun absent => absent first member
    · rintro ⟨before, _, last⟩
      have faithful := earlier.mpr before
      intro front prefixed
      rcases List.prefix_concat_iff.mp prefixed with rfl | shorter
      · rw [text, faithful done (List.prefix_refl _), step, or_iff_not_imp_left]
        intro other first member
        exact (last first member (token, value) List.mem_cons_self).resolve_left other
      · exact faithful front shorter

end Steps

end Substitution
