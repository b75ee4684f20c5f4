import SprintTicket.Errors
import SprintTicket.Json
import SprintTicket.Logic.Checks
import SprintTicket.Logic.Records
import SprintTicket.Logic.Utf8Stream

/-!
# Observing the events of an agent

The standard output of an agent is a stream of JSON records, one a line. The
observer is fed the bytes as they are read: it decodes them incrementally, keeps
the line it is in, and interprets every line that is complete. A line that grows
too long before it ends is given up; one that ends in the piece that makes it too
long is not. `chunking_irrelevant_iff` says for which streams the pieces do not
matter.

`json.loads` and the clock are parameters.
-/

set_option autoImplicit false

namespace SprintTicket

open Checks Records Utf8

/-- The outcome of `json.loads`: a value, a `JSONDecodeError` or `TypeError`, or
another exception. -/
inductive Loaded
  | value (json : Json)
  | invalid
  | raised (error : Raised)

/-- What `_CodexEventObserver` has observed, and how often it has read its clock. -/
structure Observed where
  terminalEventType : Option String
  terminalEventElapsedSeconds : Option Rat
  structuredMessage : Option String
  structuredMessageElapsedSeconds : Option Rat
  problem : Option String
  problemElapsedSeconds : Option Rat
  clockReads : Nat

def Observed.start : Observed := ⟨none, none, none, none, none, none, 0⟩

/-- The terminal event, the structured message and the problem, without their times. -/
def Observed.events (observed : Observed) : Option String × Option String × Option String :=
  (observed.terminalEventType, observed.structuredMessage, observed.problem)

/-- The monotonic clock of an observer, by its readings. -/
structure ObserverClock where
  started : Rat
  reading : Nat → Rat

/-- The text of a completed agent message. -/
def agentMessage : Json → Option String
  | .obj item =>
    match Json.get item "type", Json.get item "text" with
    | .str kind, .str text => if kind = "agent_message" then some text else none
    | _, _ => none
  | _ => none

/-- What an event of some type changes. -/
def observeEvent (clock : ObserverClock) (observed : Observed) (eventType : String) (record : List (String × Json)) :
    Observed :=
  let elapsed := max 0 (clock.reading observed.clockReads - clock.started)
  let observed := { observed with clockReads := observed.clockReads + 1 }
  if eventType = "item.completed" then
    match agentMessage (Json.get record "item") with
    | some text =>
      let observed :=
        if observed.terminalEventType ≠ none then
          { observed with
            problem := some "agent message arrived after a terminal event"
            problemElapsedSeconds := some elapsed }
        else observed
      { observed with structuredMessage := some text, structuredMessageElapsedSeconds := some elapsed }
    | none => observed
  else if eventType ∉ ["turn.completed", "turn.failed", "turn.cancelled"] then observed
  else
    match observed.terminalEventType with
    | some terminal =>
      if terminal ≠ eventType then
        { observed with
          problem := some ("contradictory terminal events: " ++ terminal ++ " and " ++ eventType)
          problemElapsedSeconds := some elapsed }
      else observed
    | none => { observed with terminalEventType := some eventType, terminalEventElapsedSeconds := some elapsed }

/-- `_observe_line`. -/
def observeLine (loads : String → Loaded) (clock : ObserverClock) (observed : Observed) (line : String) :
    Except Raised Observed :=
  match loads line with
  | .raised error => .error error
  | .value (.obj record) =>
    match Json.get record "type" with
    | .str eventType => .ok (observeEvent clock observed eventType record)
    | _ => .ok observed
  | _ => .ok observed

/-- `_MAX_OBSERVED_RECORD_CHARS`. -/
def maxObservedRecordChars : Nat := 8 * 1024 * 1024

/-- The state of an observer: what its decoder keeps, the line it is in, whether
it is giving up a line, and what it has observed. -/
structure Observer (ω : Type) where
  decoder : List UInt8
  pending : List Char
  discardingOversizedRecord : Bool
  observed : ω

def Observer.start {ω : Type} (observed : ω) : Observer ω := ⟨[], [], false, observed⟩

/-- `line.rstrip("\r")`. -/
def lineText (line : List Char) : String := String.ofList (line.rdropWhile (· == '\r'))

/-- Interpret the lines in order. -/
def interpret {ω : Type} (observe : ω → String → Except Raised ω) (observed : ω) (lines : List (List Char)) :
    Except Raised ω :=
  lines.foldlM (fun observed line => observe observed (lineText line)) observed

/-- The text after the next newline, if there is one. -/
def afterNewline : List Char → Option (List Char)
  | [] => none
  | c :: rest => if c = '\n' then some rest else afterNewline rest

/-- What `feed` does with the decoded text, under the lock. -/
def feedText {ω : Type} (observe : ω → String → Except Raised ω) (final : Bool) (observer : Observer ω)
    (text : List Char) : Except Raised (Observer ω) :=
  match (if observer.discardingOversizedRecord then afterNewline text else some text) with
  | none => .ok observer
  | some text => do
    let lines := split '\n' (observer.pending ++ text)
    let observed ← interpret observe observer.observed lines.1
    let oversized := maxObservedRecordChars < lines.2.length
    pure
      { observer with
        pending := if oversized ∨ final = true then [] else lines.2
        discardingOversizedRecord := decide oversized
        observed }

/-- `feed`, with `_observe_line` as a parameter. -/
def feed {ω : Type} (observe : ω → String → Except Raised ω) (final : Bool) (observer : Observer ω)
    (chunk : List UInt8) : Except Raised (Observer ω) :=
  let bytes := observer.decoder ++ chunk
  let decoded := if final then (decode bytes, []) else decodePartial bytes
  feedText observe final { observer with decoder := decoded.2 } decoded.1

/-- Feed the chunks, then make the final call. -/
def observeStream {ω : Type} (observe : ω → String → Except Raised ω) (chunks : List (List UInt8)) (observed : ω) :
    Except Raised (Observer ω) := do
  let fed ← chunks.foldlM (feed observe false) (Observer.start observed)
  feed observe true fed []

/-- The observer that also lists the lines it interprets. -/
def recording {ω : Type} (observe : ω → String → Except Raised ω) (state : ω × List String) (line : String) :
    Except Raised (ω × List String) := do
  let observed ← observe state.1 line
  pure (observed, state.2 ++ [line])

/-- The newline-terminated records of a stream. -/
def streamRecords (stream : List UInt8) : List (List Char) := (split '\n' (decode stream)).1

/-- A record the observer may keep. -/
def Short (record : List Char) : Prop := record.length ≤ maxObservedRecordChars

instance : DecidablePred Short := fun _ => inferInstanceAs (Decidable (_ ≤ _))

section Feed

variable {ω : Type} {observe : ω → String → Except Raised ω} {start : ω}

/-- The lines of two texts are interpreted one after the other. -/
theorem interpret_append (observed : ω) (lines more : List (List Char)) :
    interpret observe observed (lines ++ more) =
      interpret observe observed lines >>= fun observed => interpret observe observed more :=
  List.foldlM_append

/-- Either there is no newline, or the text splits at the first. -/
theorem afterNewline_cases (text : List Char) :
    (afterNewline text = none ∧ '\n' ∉ text) ∨
      ∃ before rest, '\n' ∉ before ∧ text = before ++ '\n' :: rest ∧ afterNewline text = some rest := by
  induction text with
  | nil => exact .inl ⟨rfl, List.not_mem_nil⟩
  | cons c text ih =>
    by_cases newline : c = '\n'
    · subst newline
      exact .inr ⟨[], text, List.not_mem_nil, rfl, rfl⟩
    · rw [afterNewline, if_neg newline]
      rcases ih with ⟨none, plain⟩ | ⟨before, rest, plain, rfl, found⟩
      · refine .inl ⟨none, ?_⟩
        rw [List.mem_cons, not_or]
        exact ⟨fun same => newline same.symm, plain⟩
      · refine .inr ⟨c :: before, rest, ?_, rfl, found⟩
        rw [List.mem_cons, not_or]
        exact ⟨fun same => newline same.symm, plain⟩

/-- The observer after the text of a line that is kept. -/
def Observer.keep (observer : Observer ω) (final : Bool) (text : List Char) (observed : ω) : Observer ω :=
  let last := (split '\n' (observer.pending ++ text)).2
  { observer with
    pending := if maxObservedRecordChars < last.length ∨ final = true then [] else last
    discardingOversizedRecord := decide (maxObservedRecordChars < last.length)
    observed }

/-- In a line that is kept the text goes on. -/
theorem feedText_keeping {observer next : Observer ω} {text : List Char} {final : Bool}
    (keeping : observer.discardingOversizedRecord = false) :
    feedText observe final observer text = .ok next ↔ ∃ observed,
      interpret observe observer.observed (split '\n' (observer.pending ++ text)).1 = .ok observed ∧
        next = observer.keep final text observed := by
  rw [feedText, keeping]
  show (interpret observe observer.observed (split '\n' (observer.pending ++ text)).1 >>= _) = .ok next ↔ _
  rw [bind_ok_iff]
  refine exists_congr fun observed => and_congr_right fun _ => ?_
  rw [pure_ok, eq_comm]
  rfl

/-- What is kept for later has no newline in it. -/
theorem Observer.keep_pending {observer : Observer ω} {final : Bool} {text : List Char} {observed : ω} :
    '\n' ∉ (observer.keep final text observed).pending := by
  show '\n' ∉ (if _ then [] else (split '\n' (observer.pending ++ text)).2)
  split
  · exact List.not_mem_nil
  · exact not_mem_split _

/-- In a line that is given up all text is passed over that does not end it. -/
theorem feedText_discarding {observer : Observer ω} {text : List Char} {final : Bool}
    (discarding : observer.discardingOversizedRecord = true) (plain : '\n' ∉ text) :
    feedText observe final observer text = .ok observer := by
  rw [feedText, discarding, if_pos rfl]
  rcases afterNewline_cases text with ⟨none, _⟩ | ⟨before, rest, _, rfl, _⟩
  · rw [none]
  · exact absurd (by simp) plain

/-- The observer has been fed a text: it has interpreted its records, and it is in
its last line or giving it up. -/
structure FedText (observe : ω → String → Except Raised ω) (start : ω) (text : List Char) (observer : Observer ω) :
    Prop where
  interpreted : interpret observe start (split '\n' text).1 = .ok observer.observed
  line : (observer.discardingOversizedRecord = false ∧ observer.pending = (split '\n' text).2 ∧
      Short (split '\n' text).2) ∨
    (observer.discardingOversizedRecord = true ∧ observer.pending = [] ∧ ¬Short (split '\n' text).2)

/-- More text, as long as its records are short and can be interpreted. -/
theorem FedText.feedText {text more : List Char} {observer : Observer ω} (fed : FedText observe start text observer)
    (short : ∀ record ∈ (split '\n' (text ++ more)).1, Short record) {observed : ω}
    (interpreted : interpret observe start (split '\n' (text ++ more)).1 = .ok observed) (final : Bool) :
    ∃ next, SprintTicket.feedText observe final observer more = .ok next ∧ next.decoder = observer.decoder ∧
      next.observed = observed ∧ (final = false → FedText observe start (text ++ more) next) := by
  have parts : split '\n' (text ++ more) = _ := split_append text more
  have whole := interpreted
  rw [parts] at short whole
  rw [interpret_append, fed.interpreted] at whole
  have later : interpret observe observer.observed (split '\n' ((split '\n' text).2 ++ more)).1 = .ok observed := whole
  rcases fed.line with ⟨keeping, pending, _⟩ | ⟨discarding, pending, long⟩
  · rw [← pending] at later parts
    refine ⟨_, (feedText_keeping keeping).mpr ⟨observed, later, rfl⟩, rfl, rfl, ?_⟩
    rintro rfl
    refine ⟨interpreted, ?_⟩
    rw [parts]
    by_cases long : maxObservedRecordChars < (split '\n' (observer.pending ++ more)).2.length
    · exact .inr ⟨decide_eq_true long, if_pos (.inl long), Nat.not_le.mpr long⟩
    · exact .inl ⟨decide_eq_false long, if_neg (by simpa using long), Nat.not_lt.mp long⟩
  · rcases afterNewline_cases more with ⟨_, plain⟩ | ⟨before, rest, plain, rfl, _⟩
    · -- the line goes on, and stays too long
      have unended : '\n' ∉ (split '\n' text).2 ++ more := by
        rw [List.mem_append, not_or]
        exact ⟨not_mem_split text, plain⟩
      rw [split_of_not_mem unended] at later parts
      cases later
      refine ⟨observer, feedText_discarding discarding plain, rfl, rfl, fun _ => ⟨interpreted, ?_⟩⟩
      refine .inr ⟨discarding, pending, fun short => long ?_⟩
      rw [parts] at short
      refine Nat.le_trans ?_ short
      rw [List.length_append]
      omega
    · -- the line ends: it is a record that is too long
      have unended : '\n' ∉ (split '\n' text).2 ++ before := by
        rw [List.mem_append, not_or]
        exact ⟨not_mem_split text, plain⟩
      rw [← List.append_assoc, split_record unended] at short
      have record := short ((split '\n' text).2 ++ before) (by simp)
      refine absurd (Nat.le_trans ?_ record) long
      rw [List.length_append]
      omega

/-- The observer has been fed some bytes. -/
structure Fed (observe : ω → String → Except Raised ω) (start : ω) (bytes : List UInt8) (text : List Char)
    (observer : Observer ω) : Prop extends FedText observe start text observer where
  decoded : ∀ more, decode (bytes ++ more) = text ++ decode (observer.decoder ++ more)

/-- The records of a part of the stream are the first of its records. -/
theorem streamRecords_of_decode {bytes : List UInt8} {text rest : List Char} (decoded : decode bytes = text ++ rest) :
    (split '\n' text).1 <+: streamRecords bytes := by
  rw [streamRecords, decoded, split_append]
  exact List.prefix_append _ _

/-- Records that can be interpreted can be interpreted from the first on. -/
theorem interpret_prefix {lines more : List (List Char)} {observed : ω} (part : lines <+: more)
    (interpreted : interpret observe start more = .ok observed) : ∃ before, interpret observe start lines = .ok before := by
  obtain ⟨rest, rfl⟩ := part
  rw [interpret_append] at interpreted
  obtain ⟨before, ran, _⟩ := bind_ok_iff.mp interpreted
  exact ⟨before, ran⟩

/-- Chunks of a stream of short records are fed one after another. -/
theorem Fed.chunks {observed : ω} (chunks : List (List UInt8)) {bytes : List UInt8} {text : List Char}
    {observer : Observer ω} (fed : Fed observe start bytes text observer)
    (short : ∀ record ∈ streamRecords (bytes ++ chunks.flatten), Short record)
    (interpreted : interpret observe start (streamRecords (bytes ++ chunks.flatten)) = .ok observed) :
    ∃ next text, chunks.foldlM (feed observe false) observer = .ok next ∧
      Fed observe start (bytes ++ chunks.flatten) text next := by
  induction chunks generalizing bytes text observer with
  | nil => exact ⟨observer, text, rfl, by simpa using fed⟩
  | cons chunk rest ih =>
    have decoded : ∀ more, decode (bytes ++ chunk ++ more) =
        text ++ (decodePartial (observer.decoder ++ chunk)).1 ++
          decode ((decodePartial (observer.decoder ++ chunk)).2 ++ more) := by
      intro more
      rw [List.append_assoc, fed.decoded, ← List.append_assoc, decode_append, List.append_assoc]
    have part := streamRecords_of_decode (decoded rest.flatten)
    rw [List.append_assoc, ← List.flatten_cons] at part
    obtain ⟨before, ran⟩ := interpret_prefix part interpreted
    have kept : FedText observe start text { observer with decoder := (decodePartial (observer.decoder ++ chunk)).2 } :=
      ⟨fed.interpreted, fed.line⟩
    obtain ⟨next, one, decoder, _, after⟩ := kept.feedText (fun record member => short record (part.subset member)) ran false
    have step : Fed observe start (bytes ++ chunk) (text ++ (decodePartial (observer.decoder ++ chunk)).1) next :=
      { after rfl with
        decoded := by
          rw [decoder]
          exact decoded }
    rw [List.flatten_cons, ← List.append_assoc] at short interpreted ⊢
    obtain ⟨last, final, others, done⟩ := ih step short interpreted
    refine ⟨last, final, ?_, done⟩
    rw [List.foldlM_cons]
    exact (ok_bind one).trans others

/-- **A stream of short records** is interpreted record by record, however it is cut. -/
theorem observeStream_short {stream : List UInt8} (short : ∀ record ∈ streamRecords stream, Short record)
    {observed : ω} (interpreted : interpret observe start (streamRecords stream) = .ok observed)
    {chunks : List (List UInt8)} (cut : chunks.flatten = stream) :
    ∃ observer, observeStream observe chunks start = .ok observer ∧ observer.observed = observed := by
  have fresh : Fed observe start [] [] (Observer.start start) :=
    { interpreted := rfl, line := .inl ⟨rfl, rfl, Nat.zero_le _⟩, decoded := fun _ => rfl }
  subst cut
  obtain ⟨fed, text, ran, after⟩ := Fed.chunks chunks fresh short interpreted
  rw [List.nil_append] at after
  have whole := after.decoded []
  rw [List.append_nil] at whole
  have kept : FedText observe start text { fed with decoder := [] } := ⟨after.interpreted, after.line⟩
  rw [streamRecords, whole] at short interpreted
  obtain ⟨last, final, _, same, _⟩ := kept.feedText short interpreted true
  exact ⟨last, (ok_bind ran).trans final, same⟩

/-- The last bytes a decoder keeps hold no newline. -/
theorem decodePartial_rest (bytes : List UInt8) : '\n' ∉ decode (decodePartial bytes).2 := by
  intro member
  have feed := lineFeed_mem_of_decodeAfter member
  rcases partialAfter_incomplete 0 bytes with none | kept
  · rw [decodePartial, none] at feed
    exact List.not_mem_nil feed
  · exact not_lineFeed_of_incomplete kept feed

/-- Text without a newline is fed without interpreting anything. -/
theorem feedText_unended {observer next : Observer ω} {text : List Char} {final : Bool}
    (ran : feedText observe final observer text = .ok next) (pending : '\n' ∉ observer.pending) (plain : '\n' ∉ text) :
    next.observed = observer.observed := by
  cases discarding : observer.discardingOversizedRecord with
  | true =>
    rw [feedText_discarding discarding plain] at ran
    cases ran
    rfl
  | false =>
    have unended : '\n' ∉ observer.pending ++ text := by
      rw [List.mem_append, not_or]
      exact ⟨pending, plain⟩
    obtain ⟨observed, interpreted, rfl⟩ := (feedText_keeping discarding).mp ran
    rw [split_of_not_mem unended] at interpreted
    cases interpreted
    rfl

/-- A stream fed at once is interpreted record by record, however long they are. -/
theorem observeStream_whole {stream : List UInt8} {observer : Observer ω}
    (ran : observeStream observe [stream] start = .ok observer) :
    interpret observe start (streamRecords stream) = .ok observer.observed := by
  obtain ⟨fed, all, last⟩ := bind_ok_iff.mp ran
  obtain ⟨fed', one, same⟩ := bind_ok_iff.mp all
  rw [pure_ok.mp same] at one
  have first : feedText observe false ⟨(decodePartial stream).2, [], false, start⟩ (decodePartial stream).1 = .ok fed := one
  have final : feedText observe true { fed with decoder := [] } (decode (fed.decoder ++ [])) = .ok observer := last
  obtain ⟨observed, interpreted, kept⟩ := (feedText_keeping rfl).mp first
  have rest := decodePartial_rest stream
  have decoder : fed.decoder = (decodePartial stream).2 := by
    rw [kept]
    rfl
  have pending : '\n' ∉ fed.pending := by
    rw [kept]
    exact Observer.keep_pending
  rw [List.append_nil, decoder] at final
  have unchanged : observer.observed = observed := by
    rw [feedText_unended final pending rest, kept]
    rfl
  have unended : '\n' ∉ (split '\n' (decodePartial stream).1).2 ++ decode (decodePartial stream).2 := by
    rw [List.mem_append, not_or]
    exact ⟨not_mem_split _, rest⟩
  have whole := decode_append stream []
  rw [List.append_nil, List.append_nil] at whole
  rw [streamRecords, whole, split_append, split_of_not_mem unended, List.append_nil, unchanged]
  exact interpreted

end Feed

/-! ## When the chunks do not matter -/

section Lines

variable {loads : String → Loaded} {clock : ObserverClock}

/-- One line is interpreted unless `json.loads` raises something it should not. -/
theorem observeLine_ok_iff {observed : Observed} {line : String} :
    (∃ next, observeLine loads clock observed line = .ok next) ↔ ∀ error, loads line ≠ .raised error := by
  unfold observeLine
  split
  · rename_i error raised
    simp [raised]
  · rename_i record value
    split <;> simp [value]
  · rename_i other _
    simp only [Except.ok.injEq, exists_eq', true_iff]
    exact other

/-- The interpretation fails only where `json.loads` raises. -/
theorem interpret_observeLine_iff {observed : Observed} {lines : List (List Char)} :
    (∃ last, interpret (observeLine loads clock) observed lines = .ok last) ↔
      ∀ line ∈ lines, ∀ error, loads (lineText line) ≠ .raised error := by
  induction lines generalizing observed with
  | nil => exact ⟨fun _ _ member => absurd member List.not_mem_nil, fun _ => ⟨observed, rfl⟩⟩
  | cons line rest ih =>
    rw [List.forall_mem_cons]
    constructor
    · rintro ⟨last, interpreted⟩
      obtain ⟨next, one, others⟩ := bind_ok_iff.mp interpreted
      exact ⟨observeLine_ok_iff.mp ⟨next, one⟩, ih.mp ⟨last, others⟩⟩
    · rintro ⟨one, others⟩
      obtain ⟨next, ran⟩ := observeLine_ok_iff.mpr one
      obtain ⟨last, done⟩ := ih.mpr others
      exact ⟨last, (ok_bind ran).trans done⟩

/-- Recording the lines changes nothing else. -/
theorem interpret_recording {ω : Type} {observe : ω → String → Except Raised ω} {observed : ω} {texts : List String}
    {lines : List (List Char)} :
    interpret (recording observe) (observed, texts) lines =
      (fun last => (last, texts ++ lines.map lineText)) <$> interpret observe observed lines := by
  induction lines generalizing observed texts with
  | nil => simp [interpret, pure, Except.pure, Functor.map, Except.map]
  | cons line rest ih =>
    show (recording observe (observed, texts) (lineText line) >>= fun next => interpret (recording observe) next rest) =
      _ <$> (observe observed (lineText line) >>= fun next => interpret observe next rest)
    cases one : observe observed (lineText line) with
    | error error =>
      rw [recording, one]
      rfl
    | ok next =>
      have recorded : recording observe (observed, texts) (lineText line) = .ok (next, texts ++ [lineText line]) := by
        rw [recording, one]
        rfl
      rw [ok_bind recorded, ih, ok_bind rfl, List.append_assoc, List.map_cons, List.singleton_append]

/-- The events observed do not depend on the clock. -/
theorem observeEvent_events {clock' : ObserverClock} {observed observed' : Observed} {eventType : String}
    {record : List (String × Json)} (same : observed.events = observed'.events) :
    (observeEvent clock observed eventType record).events = (observeEvent clock' observed' eventType record).events := by
  simp only [Observed.events, Prod.mk.injEq] at same
  obtain ⟨terminal, message, problem⟩ := same
  simp only [observeEvent, terminal]
  by_cases completed : eventType = "item.completed"
  · rw [if_pos completed, if_pos completed]
    cases agentMessage (Json.get record "item") with
    | none => simp [Observed.events, message, problem]
    | some text => by_cases ended : observed'.terminalEventType = none <;> simp [Observed.events, ended, problem]
  · rw [if_neg completed, if_neg completed]
    by_cases ends : eventType ∈ ["turn.completed", "turn.failed", "turn.cancelled"]
    · rw [if_neg (not_not.mpr ends), if_neg (not_not.mpr ends)]
      cases ended : observed'.terminalEventType with
      | none => simp [Observed.events, message, problem]
      | some earlier => by_cases same : earlier = eventType <;> simp [Observed.events, same, message, problem]
    · rw [if_pos ends, if_pos ends]
      simp [Observed.events, message, problem]

/-- The clock has no part in which events are seen. -/
theorem observeLine_events {clock' : ObserverClock} {observed observed' next next' : Observed} {line : String}
    (same : observed.events = observed'.events) (first : observeLine loads clock observed line = .ok next)
    (second : observeLine loads clock' observed' line = .ok next') : next.events = next'.events := by
  unfold observeLine at first second
  cases loaded : loads line with
  | raised error =>
    rw [loaded] at first
    cases first
  | invalid =>
    rw [loaded] at first second
    cases first
    cases second
    exact same
  | value json =>
    rw [loaded] at first second
    cases json with
    | obj record =>
      dsimp only at first second
      cases kind : Json.get record "type" with
      | str eventType =>
        rw [kind] at first second
        cases first
        cases second
        exact observeEvent_events same
      | _ =>
        rw [kind] at first second
        cases first
        cases second
        exact same
    | _ =>
      cases first
      cases second
      exact same

theorem interpret_events {clock' : ObserverClock} {observed observed' last last' : Observed} {lines : List (List Char)}
    (same : observed.events = observed'.events) (first : interpret (observeLine loads clock) observed lines = .ok last)
    (second : interpret (observeLine loads clock') observed' lines = .ok last') : last.events = last'.events := by
  induction lines generalizing observed observed' with
  | nil =>
    cases first
    cases second
    exact same
  | cons line rest ih =>
    obtain ⟨next, one, first⟩ := bind_ok_iff.mp first
    obtain ⟨next', one', second⟩ := bind_ok_iff.mp second
    exact ih (observeLine_events same one one') first second

end Lines

/-- However a stream is cut into chunks, the observer interprets its short records,
each once and in order, and nothing else, and observes the same events. -/
structure ChunkingIrrelevant (loads : String → Loaded) (stream : List UInt8) : Prop where
  interprets : ∀ (clock : ObserverClock) (chunks : List (List UInt8)), chunks.flatten = stream →
    ∃ observer recorded, observeStream (observeLine loads clock) chunks .start = .ok observer ∧
      observeStream (recording (observeLine loads clock)) chunks (.start, []) = .ok recorded ∧
        recorded.observed = (observer.observed, ((streamRecords stream).filter fun record => Short record).map lineText)
  agrees : ∀ (clock clock' : ObserverClock) (chunks chunks' : List (List UInt8)),
    chunks.flatten = stream → chunks'.flatten = stream → ∀ observer observer',
      observeStream (observeLine loads clock) chunks .start = .ok observer →
        observeStream (observeLine loads clock') chunks' .start = .ok observer' →
          observer.observed.events = observer'.observed.events

/-- Chunks do not matter exactly when no newline-terminated record is longer than
the limit, and `json.loads` raises nothing unexpected on any. -/
theorem chunking_irrelevant_iff (loads : String → Loaded) (stream : List UInt8) :
    ChunkingIrrelevant loads stream ↔ ∀ record ∈ streamRecords stream,
      record.length ≤ maxObservedRecordChars ∧ ∀ error, loads (lineText record) ≠ .raised error := by
  constructor
  · intro irrelevant
    obtain ⟨observer, recorded, ran, listed, same⟩ := irrelevant.interprets ⟨0, fun _ => 0⟩ [stream] (by simp)
    have interpreted := observeStream_whole ran
    have texts := observeStream_whole listed
    rw [interpret_recording, interpreted, same] at texts
    have calm := interpret_observeLine_iff.mp ⟨_, interpreted⟩
    have equal := congrArg List.length (congrArg Prod.snd (Except.ok.inj texts))
    simp only [List.nil_append, List.length_map] at equal
    intro record member
    refine ⟨?_, calm record member⟩
    exact of_decide_eq_true (List.length_filter_eq_length_iff.mp equal.symm record member)
  · intro harmless
    have short : ∀ record ∈ streamRecords stream, Short record := fun record member => (harmless record member).1
    have calm : ∀ record ∈ streamRecords stream, ∀ error, loads (lineText record) ≠ .raised error :=
      fun record member => (harmless record member).2
    have all : (streamRecords stream).filter (fun record => Short record) = streamRecords stream :=
      List.filter_eq_self.mpr fun record member => decide_eq_true (short record member)
    have runs : ∀ clock chunks, chunks.flatten = stream → ∃ observer,
        observeStream (observeLine loads clock) chunks .start = .ok observer ∧
          interpret (observeLine loads clock) .start (streamRecords stream) = .ok observer.observed := by
      intro clock chunks cut
      obtain ⟨last, interpreted⟩ : ∃ last,
          interpret (observeLine loads clock) .start (streamRecords stream) = .ok last :=
        interpret_observeLine_iff.mpr calm
      obtain ⟨observer, ran, rfl⟩ := observeStream_short short interpreted cut
      exact ⟨observer, ran, interpreted⟩
    constructor
    · intro clock chunks cut
      obtain ⟨observer, ran, interpreted⟩ := runs clock chunks cut
      have texts : interpret (recording (observeLine loads clock)) (.start, []) (streamRecords stream) = _ :=
        interpret_recording
      rw [interpreted] at texts
      obtain ⟨recorded, listed, same⟩ := observeStream_short short texts cut
      refine ⟨observer, recorded, ran, listed, ?_⟩
      rw [same, all]
      rfl
    · intro clock clock' chunks chunks' cut cut' observer observer' ran ran'
      obtain ⟨_, again, interpreted⟩ := runs clock chunks cut
      obtain ⟨_, again', interpreted'⟩ := runs clock' chunks' cut'
      cases ran.symm.trans again
      cases ran'.symm.trans again'
      exact interpret_events rfl interpreted interpreted'

def exampleEvent : List Char := "\x7b\"type\":\"turn.completed\"\x7d".toList

/-- A terminal event and spaces after it. -/
def spacedEvent (spaces : Nat) : List Char := exampleEvent ++ List.replicate spaces ' '

/-- `json.loads` on a terminal event with spaces after it. -/
def exampleLoads (text : String) : Loaded :=
  if exampleEvent <+: text.toList ∧ (text.toList.drop exampleEvent.length).all (· = ' ') then
    .value (.obj [("type", .str "turn.completed")])
  else .invalid

def exampleObserve : Observed → String → Except Raised Observed := observeLine exampleLoads ⟨0, fun _ => 0⟩

section Oversized

variable {spaces : Nat}

theorem mem_spacedEvent {c : Char} (member : c ∈ spacedEvent spaces) : c ∈ exampleEvent ∨ c = ' ' :=
  (List.mem_append.mp member).imp_right List.eq_of_mem_replicate

theorem spacedEvent_plain : '\n' ∉ spacedEvent spaces := by
  intro member
  rcases mem_spacedEvent member with inside | same
  · exact absurd inside (by decide)
  · exact absurd same (by decide)

theorem spacedEvent_ascii : ∀ byte ∈ encode (spacedEvent spaces), byte < 128 := by
  intro byte member
  obtain ⟨c, inside, printed⟩ := List.mem_flatMap.mp member
  have every : ((' ' :: exampleEvent).all fun c => (String.utf8EncodeChar c).all (· < 128)) = true := by decide +kernel
  have listed : c ∈ ' ' :: exampleEvent := by
    rcases mem_spacedEvent inside with event | rfl
    · exact List.mem_cons_of_mem _ event
    · exact List.mem_cons_self
  have small := List.all_eq_true.mp (List.all_eq_true.mp every c listed) byte printed
  exact of_decide_eq_true small

/-- The padded event is ASCII, so it decodes wherever it is cut. -/
theorem decodePartial_spacedEvent {more : List UInt8} (small : ∀ byte ∈ more, byte < 128) :
    decodePartial (encode (spacedEvent spaces) ++ more) = (spacedEvent spaces ++ asciiText more, []) := by
  have own : asciiText (encode (spacedEvent spaces)) = spacedEvent spaces :=
    encode_injective (encode_asciiText spacedEvent_ascii)
  rw [decodePartial_ascii (List.forall_mem_append.mpr ⟨spacedEvent_ascii, small⟩), asciiText, List.map_append]
  exact congrArg (fun text => (text ++ asciiText more, [])) own

/-- Read whole, the padded event is seen. -/
theorem observe_spacedEvent :
    ∃ observed, interpret exampleObserve .start [spacedEvent spaces] = .ok observed ∧
      observed.events = (some "turn.completed", none, none) := by
  have kept : (spacedEvent spaces).rdropWhile (· == '\r') = spacedEvent spaces := by
    rw [rdropWhile_eq_self_iff_last]
    cases last : (spacedEvent spaces).getLast? with
    | none => rfl
    | some c =>
      rcases mem_spacedEvent (List.mem_of_getLast? last) with event | rfl
      · have plain : (exampleEvent.all fun c => (c == '\r') == false) = true := by decide
        exact eq_of_beq (List.all_eq_true.mp plain c event)
      · rfl
  have loaded : exampleLoads (lineText (spacedEvent spaces)) = .value (.obj [("type", .str "turn.completed")]) := by
    rw [lineText, kept, exampleLoads, String.toList_ofList, if_pos]
    refine ⟨List.prefix_append _ _, ?_⟩
    rw [spacedEvent, List.drop_left, List.all_replicate]
    simp
  have line : exampleObserve .start (lineText (spacedEvent spaces)) =
      .ok (observeEvent ⟨0, fun _ => 0⟩ .start "turn.completed" [("type", .str "turn.completed")]) := by
    rw [exampleObserve, observeLine, loaded]
    rfl
  have run : interpret exampleObserve .start [spacedEvent spaces] =
      .ok (observeEvent ⟨0, fun _ => 0⟩ .start "turn.completed" [("type", .str "turn.completed")]) := by
    rw [interpret, List.foldlM_cons, line]
    rfl
  exact ⟨_, run, by decide +kernel⟩

/-- The final call of an observer that is between two lines. -/
theorem feed_final (observed : Observed) :
    feed exampleObserve true ⟨[], [], false, observed⟩ [] = .ok ⟨[], [], false, observed⟩ := rfl

/-- The record is interpreted when its newline arrives with it. -/
theorem observeStream_together :
    ∃ observer, observeStream exampleObserve [encode (spacedEvent spaces) ++ [lineFeed]] .start = .ok observer ∧
      observer.observed.events = (some "turn.completed", none, none) := by
  have decoded : decodePartial (encode (spacedEvent spaces) ++ [lineFeed]) = (spacedEvent spaces ++ ['\n'], []) :=
    decodePartial_spacedEvent (List.forall_mem_singleton.mpr (by decide))
  have lines : split '\n' (spacedEvent spaces ++ ['\n']) = ([spacedEvent spaces], []) :=
    split_record spacedEvent_plain []
  obtain ⟨observed, interpreted, events⟩ := @observe_spacedEvent spaces
  have one : feed exampleObserve false (.start .start) (encode (spacedEvent spaces) ++ [lineFeed]) =
      .ok ⟨[], [], false, observed⟩ := by
    show feedText exampleObserve false ⟨(decodePartial (encode (spacedEvent spaces) ++ [lineFeed])).2, [], false, .start⟩
      (decodePartial (encode (spacedEvent spaces) ++ [lineFeed])).1 = _
    rw [decoded, feedText_keeping rfl]
    refine ⟨observed, ?_, ?_⟩
    · rw [List.nil_append, lines]
      exact interpreted
    · rw [Observer.keep, List.nil_append, lines]
      rfl
  refine ⟨⟨[], [], false, observed⟩, ?_, events⟩
  rw [observeStream, List.foldlM_cons, one]
  exact feed_final observed

/-- It is given up when it is too long and its newline arrives later. -/
theorem observeStream_apart (long : maxObservedRecordChars < (spacedEvent spaces).length) :
    ∃ observer, observeStream exampleObserve [encode (spacedEvent spaces), [lineFeed]] .start = .ok observer ∧
      observer.observed.events = (none, none, none) := by
  have decoded : decodePartial (encode (spacedEvent spaces)) = (spacedEvent spaces, []) := by
    have whole : decodePartial (encode (spacedEvent spaces) ++ []) = _ := decodePartial_spacedEvent nofun
    simpa [asciiText] using whole
  have lines : split '\n' (spacedEvent spaces) = ([], spacedEvent spaces) := split_of_not_mem spacedEvent_plain
  have one : feed exampleObserve false (.start .start) (encode (spacedEvent spaces)) = .ok ⟨[], [], true, .start⟩ := by
    show feedText exampleObserve false ⟨(decodePartial (encode (spacedEvent spaces))).2, [], false, .start⟩
      (decodePartial (encode (spacedEvent spaces))).1 = _
    rw [decoded, feedText_keeping rfl]
    refine ⟨.start, ?_, ?_⟩
    · rw [List.nil_append, lines]
      rfl
    · rw [Observer.keep, List.nil_append, lines]
      simp only [long, true_or, if_true, decide_true]
  have two : feed exampleObserve false ⟨[], [], true, .start⟩ [lineFeed] = .ok ⟨[], [], false, .start⟩ := by
    rfl
  refine ⟨⟨[], [], false, .start⟩, ?_, rfl⟩
  rw [observeStream, List.foldlM_cons, one]
  show (feed exampleObserve false ⟨[], [], true, .start⟩ [lineFeed] >>= _) >>= _ = _
  rw [two]
  exact feed_final .start

end Oversized

/-- Fed in one chunk the record is interpreted, and with its newline in a chunk of
its own it is given up. -/
theorem oversized_record_observed :
    ∃ observer observer',
      observeStream exampleObserve [encode (spacedEvent maxObservedRecordChars) ++ [lineFeed]] .start = .ok observer ∧
        observeStream exampleObserve [encode (spacedEvent maxObservedRecordChars), [lineFeed]] .start = .ok observer' ∧
          observer.observed.events = (some "turn.completed", none, none) ∧
            observer'.observed.events = (none, none, none) ∧
              ¬ChunkingIrrelevant exampleLoads (encode (spacedEvent maxObservedRecordChars) ++ [lineFeed]) := by
  have long : maxObservedRecordChars < (spacedEvent maxObservedRecordChars).length := by
    rw [spacedEvent, List.length_append, List.length_replicate]
    exact Nat.lt_add_of_pos_left (by decide)
  obtain ⟨observer, together, completed⟩ := @observeStream_together maxObservedRecordChars
  obtain ⟨observer', apart, unseen⟩ := observeStream_apart long
  refine ⟨observer, observer', together, apart, completed, unseen, fun irrelevant => ?_⟩
  have same := irrelevant.agrees ⟨0, fun _ => 0⟩ ⟨0, fun _ => 0⟩ _ _ (by simp) (by simp) _ _ together apart
  rw [completed, unseen] at same
  cases same

end SprintTicket
