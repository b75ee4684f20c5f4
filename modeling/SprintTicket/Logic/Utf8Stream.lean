import SprintTicket.Logic.Utf8

/-!
# UTF-8 in pieces

An incremental decoder is fed the bytes in pieces. It decodes as far as it can
and keeps the start of a character that is still incomplete. `decode_append` says
that nothing depends on where the bytes are cut: what the decoder gave for the
first piece, and then the decoding of what it kept and of all that follows, is
the decoding of the whole.
-/

set_option autoImplicit false

namespace Utf8

/-- A proper part of a well-formed sequence, from its start. -/
def incomplete : List UInt8 → Bool
  | [first] => 0xC2 ≤ first && first ≤ 0xF4
  | [first, second] => 0xE0 ≤ first && first ≤ 0xF4 && isSecond first second
  | [first, second, third] => 0xF0 ≤ first && first ≤ 0xF4 && isSecond first second && isContinuation third
  | _ => false

/-- Decode up to an incomplete character, after leaving out some bytes. -/
def partialAfter : Nat → List UInt8 → List Char × List UInt8
  | _, [] => ([], [])
  | skip + 1, _ :: rest => partialAfter skip rest
  | 0, byte :: rest =>
    if incomplete (byte :: rest) then ([], byte :: rest)
    else
      match next? (byte :: rest) with
      | some c => (c :: (partialAfter (c.utf8Size - 1) rest).1, (partialAfter (c.utf8Size - 1) rest).2)
      | none =>
        ('\uFFFD' :: (partialAfter (illFormed (byte :: rest) - 1) rest).1,
          (partialAfter (illFormed (byte :: rest) - 1) rest).2)

/-- What the decoder gives for its bytes, and the bytes it keeps. -/
def decodePartial (bytes : List UInt8) : List Char × List UInt8 := partialAfter 0 bytes

/-- A character that is complete does not change with what follows. -/
theorem next?_append {bytes : List UInt8} {c : Char} (first : next? bytes = some c) (more : List UInt8) :
    next? (bytes ++ more) = some c := by
  unfold next? at first ⊢
  rw [List.toByteArray_append]
  exact ByteArray.utf8DecodeChar?_append_eq_some first _

/-- The bytes start with the encoding of their first character. -/
theorem encodeChar_split {bytes : List UInt8} {c : Char} (first : next? bytes = some c) :
    String.utf8EncodeChar c <+: bytes := by
  obtain ⟨rest, split⟩ := ByteArray.exists_of_utf8DecodeChar?_eq_some first
  have bytes := congrArg (fun array => array.data.toList) split
  simp only [List.data_toByteArray, List.toList_toArray, ByteArray.data_append, Array.toList_append] at bytes
  exact ⟨_, bytes.symm⟩

/-- A proper part of the encoding of a character is incomplete. The cases are the
lengths of the encoding and of the part. -/
theorem incomplete_of_part {c : Char} {part more : List UInt8} (split : String.utf8EncodeChar c = part ++ more)
    (started : part ≠ []) (unfinished : more ≠ []) : incomplete part = true := by
  have valid : c.val.toNat < 0xD800 ∨ (0xDFFF < c.val.toNat ∧ c.val.toNat < 0x110000) := c.valid
  obtain ⟨first, part, rfl⟩ := List.exists_cons_of_ne_nil started
  obtain ⟨next, more, rfl⟩ := List.exists_cons_of_ne_nil unfinished
  simp only [String.utf8EncodeChar] at split
  generalize c.val.toNat = n at split valid
  split at split
  · simp at split
  · split at split
    · have only : part = [] := by
        cases part with
        | nil => rfl
        | cons second part => simp at split
      subst only
      obtain ⟨rfl, _⟩ := List.cons.inj split
      simp only [incomplete, UInt8.le_iff_toNat_le, UInt8.toNat_ofNat', UInt8.reduceToNat, Bool.and_eq_true,
        decide_eq_true_eq]
      omega
    · split at split
      · rcases part with _ | ⟨second, _ | ⟨third, part⟩⟩
        · obtain ⟨rfl, _⟩ := List.cons.inj split
          simp [incomplete, UInt8.le_iff_toNat_le]
          omega
        · simp only [List.cons_append, List.cons.injEq] at split
          obtain ⟨rfl, rfl, _⟩ := split
          simp [incomplete, isSecond, isContinuation, UInt8.le_iff_toNat_le, ← UInt8.toNat_inj]
          omega
        · simp at split
      · rcases part with _ | ⟨second, _ | ⟨third, _ | ⟨fourth, part⟩⟩⟩
        · obtain ⟨rfl, _⟩ := List.cons.inj split
          simp [incomplete, UInt8.le_iff_toNat_le]
          omega
        · simp only [List.cons_append, List.cons.injEq] at split
          obtain ⟨rfl, rfl, _⟩ := split
          simp [incomplete, isSecond, isContinuation, UInt8.le_iff_toNat_le, ← UInt8.toNat_inj]
          omega
        · simp only [List.cons_append, List.cons.injEq] at split
          obtain ⟨rfl, rfl, rfl, _⟩ := split
          simp [incomplete, isSecond, isContinuation, UInt8.le_iff_toNat_le, ← UInt8.toNat_inj]
          omega
        · simp at split

section Front

variable {bytes : List UInt8}

/-- What the bytes start with is settled unless they are incomplete. -/
theorem next?_append_eq (started : bytes ≠ []) (settled : incomplete bytes = false) (more : List UInt8) :
    next? (bytes ++ more) = next? bytes := by
  cases first : next? bytes with
  | some c => exact next?_append first more
  | none =>
    rw [Option.eq_none_iff_forall_ne_some]
    intro c later
    obtain ⟨rest, split⟩ := encodeChar_split later
    rcases List.append_eq_append_iff.mp split with ⟨middle, whole, _⟩ | ⟨middle, part, _⟩
    · have found := next?_encode c middle
      rw [← whole, first] at found
      cases found
    · cases middle with
      | nil =>
        have found := next?_encode c []
        rw [part, List.append_nil, List.append_nil, first] at found
        cases found
      | cons byte middle =>
        rw [incomplete_of_part part started (List.cons_ne_nil _ _)] at settled
        cases settled

/-- An ill-formed part does not grow: the bytes that could go on are incomplete. -/
theorem illFormed_append (started : bytes ≠ []) (settled : incomplete bytes = false) (more : List UInt8) :
    illFormed (bytes ++ more) = illFormed bytes := by
  rcases bytes with _ | ⟨first, _ | ⟨second, _ | ⟨third, rest⟩⟩⟩
  · exact absurd rfl started
  · have outside : (first < 0xE0 || 0xF4 < first) = true := by
      simp only [incomplete, UInt8.le_iff_toNat_le, UInt8.reduceToNat, Bool.and_eq_false_iff,
        decide_eq_false_iff_not] at settled
      simp only [UInt8.lt_iff_toNat_lt, UInt8.reduceToNat, Bool.or_eq_true, decide_eq_true_eq]
      omega
    rcases more with _ | ⟨second, _ | ⟨third, rest⟩⟩
    · rfl
    · simp [illFormed, outside]
    · simp [illFormed, outside]
  · have outside : (first < 0xE0 || 0xF4 < first || !isSecond first second) = true := by
      cases possible : isSecond first second with
      | false => simp
      | true =>
        simp only [incomplete, possible, UInt8.le_iff_toNat_le, UInt8.reduceToNat, Bool.and_true,
          Bool.and_eq_false_iff, decide_eq_false_iff_not] at settled
        simp only [UInt8.lt_iff_toNat_lt, UInt8.reduceToNat, Bool.or_eq_true, decide_eq_true_eq, Bool.not_true,
          Bool.false_eq_true, or_false]
        omega
    rcases more with _ | ⟨third, rest⟩
    · rfl
    · simp [illFormed, outside]
  · rfl

theorem illFormed_le (started : bytes ≠ []) : illFormed bytes ≤ bytes.length := by
  rcases bytes with _ | ⟨first, _ | ⟨second, _ | ⟨third, rest⟩⟩⟩
  · exact absurd rfl started
  · exact Nat.le_refl _
  · rw [illFormed]
    split <;> simp
  · rw [illFormed]
    simp only [List.length_cons]
    split
    · omega
    · split <;> omega

end Front

/-! ## Decoding in pieces -/

/-- What the decoder keeps is incomplete. -/
theorem partialAfter_incomplete (skip : Nat) (bytes : List UInt8) :
    (partialAfter skip bytes).2 = [] ∨ incomplete (partialAfter skip bytes).2 = true := by
  fun_induction partialAfter skip bytes with
  | case1 => exact .inl rfl
  | case2 skip _ rest ih => exact ih
  | case3 byte rest kept => exact .inr kept
  | case4 byte rest _ c _ ih => exact ih
  | case5 byte rest _ _ ih => exact ih

/-- A line feed is decoded from the byte of a line feed. -/
theorem lineFeed_mem_of_decodeAfter {skip : Nat} {bytes : List UInt8} (member : '\n' ∈ decodeAfter skip bytes) :
    lineFeed ∈ bytes := by
  fun_induction decodeAfter skip bytes with
  | case1 => exact absurd member List.not_mem_nil
  | case2 skip byte rest ih => exact List.mem_cons_of_mem _ (ih member)
  | case3 byte rest c first ih =>
    rcases List.mem_cons.mp member with rfl | later
    · have front := encodeChar_split first
      rw [encode_lineFeed] at front
      exact front.subset List.mem_cons_self
    · exact List.mem_cons_of_mem _ (ih later)
  | case4 byte rest _ ih =>
    rcases List.mem_cons.mp member with same | later
    · exact absurd same (by decide)
    · exact List.mem_cons_of_mem _ (ih later)

/-- The bytes that are kept back contain no newline. -/
theorem not_lineFeed_of_incomplete {bytes : List UInt8} (kept : incomplete bytes = true) : lineFeed ∉ bytes := by
  have continues : ∀ byte, isContinuation byte = true → byte ≠ lineFeed := by
    rintro byte continued rfl
    exact absurd continued (by decide)
  have second : ∀ first byte, isSecond first byte = true → byte ≠ lineFeed := by
    intro first byte possible
    simp only [isSecond, Bool.and_eq_true] at possible
    exact continues byte possible.1.1.1.1
  have leads : ∀ bound byte : UInt8, 0xC2 ≤ bound → bound ≤ byte → byte ≠ lineFeed := by
    rintro bound byte lower le rfl
    exact absurd (UInt8.le_trans lower le) (by decide)
  rcases bytes with _ | ⟨first, _ | ⟨byte, _ | ⟨third, _ | ⟨fourth, rest⟩⟩⟩⟩
  · cases kept
  · simp only [incomplete, Bool.and_eq_true, decide_eq_true_eq] at kept
    simpa using (leads _ _ (by decide) kept.1).symm
  · simp only [incomplete, Bool.and_eq_true, decide_eq_true_eq] at kept
    simpa using ⟨(leads _ _ (by decide) kept.1.1).symm, (second _ _ kept.2).symm⟩
  · simp only [incomplete, Bool.and_eq_true, decide_eq_true_eq] at kept
    simpa using ⟨(leads _ _ (by decide) kept.1.1.1).symm, (second _ _ kept.1.2).symm, (continues _ kept.2).symm⟩
  · cases kept

/-- **Decoding in pieces.** -/
theorem decodeAfter_append {skip : Nat} {bytes : List UInt8} (within : skip ≤ bytes.length) (more : List UInt8) :
    decodeAfter skip (bytes ++ more) = (partialAfter skip bytes).1 ++ decode ((partialAfter skip bytes).2 ++ more) := by
  induction bytes generalizing skip with
  | nil =>
    obtain rfl : skip = 0 := Nat.le_zero.mp within
    rfl
  | cons byte rest ih =>
    cases skip with
    | succ skip => exact ih (Nat.le_of_succ_le_succ within)
    | zero =>
      cases settled : incomplete (byte :: rest) with
      | true =>
        have kept : partialAfter 0 (byte :: rest) = ([], byte :: rest) := by rw [partialAfter, if_pos settled]
        rw [kept]
        rfl
      | false =>
        have started : byte :: rest ≠ [] := List.cons_ne_nil _ _
        have front := next?_append_eq started settled more
        rw [List.cons_append] at front
        rw [List.cons_append, decodeAfter, partialAfter, front, if_neg (by simp [settled])]
        cases first : next? (byte :: rest) with
        | some c =>
          have size := (encodeChar_split first).length_le
          rw [String.length_utf8EncodeChar, List.length_cons] at size
          exact congrArg _ (ih (by omega))
        | none =>
          have size := illFormed_le started
          have same := illFormed_append started settled more
          rw [List.cons_append] at same
          rw [List.length_cons] at size
          simp only [same]
          exact congrArg _ (ih (by omega))

theorem decode_append (bytes more : List UInt8) :
    decode (bytes ++ more) = (decodePartial bytes).1 ++ decode ((decodePartial bytes).2 ++ more) :=
  decodeAfter_append (Nat.zero_le _) more

/-- ASCII is decoded at once. -/
theorem decodePartial_ascii {bytes : List UInt8} (small : ∀ byte ∈ bytes, byte < 128) :
    decodePartial bytes = (asciiText bytes, []) := by
  induction bytes with
  | nil => rfl
  | cons byte rest ih =>
    rw [List.forall_mem_cons] at small
    have single : String.utf8EncodeChar (Char.ofNat byte.toNat) = [byte] := by
      have own : encode (asciiText [byte]) = [byte] := encode_asciiText (by simpa using small.1)
      simpa [asciiText] using own
    have first := next?_encode (Char.ofNat byte.toNat) rest
    have size := String.length_utf8EncodeChar (Char.ofNat byte.toNat)
    rw [single] at first size
    have settled : incomplete (byte :: rest) = false := by
      have below : byte.toNat < 128 := small.1
      rcases rest with _ | ⟨second, _ | ⟨third, _ | ⟨fourth, rest⟩⟩⟩
      all_goals simp [incomplete, UInt8.le_iff_toNat_le]
      all_goals omega
    have whole := ih small.2
    have taken : (Char.ofNat byte.toNat).utf8Size - 1 = 0 := by
      rw [List.length_singleton] at size
      omega
    rw [List.singleton_append] at first
    rw [decodePartial] at whole
    rw [decodePartial, partialAfter, settled, if_neg Bool.false_ne_true, first]
    simp only [taken, whole]
    rfl

end Utf8
