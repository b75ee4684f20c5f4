import Mathlib.Data.List.DropRight

/-!
# UTF-8 with replacement

`encode` is the encoding of a text and `decode` a decoder that never fails: each
maximal part of an ill-formed sequence becomes one replacement character. They
are inverse on what is well formed, and a line feed splits the encoding exactly
where it splits the text.
-/

set_option autoImplicit false

namespace Utf8

/-- The byte of `'\n'`. -/
def lineFeed : UInt8 := 10

/-- The byte of `'\r'`. -/
def carriageReturn : UInt8 := 13

def encode (text : List Char) : List UInt8 := text.flatMap String.utf8EncodeChar

/-- The character a well-formed sequence starts with. -/
def next? (bytes : List UInt8) : Option Char := bytes.toByteArray.utf8DecodeChar? 0

def isContinuation (byte : UInt8) : Bool := 0x80 ≤ byte && byte ≤ 0xBF

/-- The second bytes a sequence of three or four may have after its first. -/
def isSecond (first second : UInt8) : Bool :=
  isContinuation second && (first != 0xE0 || 0xA0 ≤ second) && (first != 0xED || second ≤ 0x9F) &&
    (first != 0xF0 || 0x90 ≤ second) && (first != 0xF4 || second ≤ 0x8F)

/-- The number of bytes one replacement character stands for. -/
def illFormed : List UInt8 → Nat
  | first :: second :: third :: _ =>
    if first < 0xE0 || 0xF4 < first || !isSecond first second then 1
    else if first < 0xF0 || !isContinuation third then 2
    else 3
  | [first, second] => if first < 0xE0 || 0xF4 < first || !isSecond first second then 1 else 2
  | _ => 1

/-- Decode after leaving out some bytes that were taken already. -/
def decodeAfter : Nat → List UInt8 → List Char
  | _, [] => []
  | skip + 1, _ :: rest => decodeAfter skip rest
  | 0, byte :: rest =>
    match next? (byte :: rest) with
    | some c => c :: decodeAfter (c.utf8Size - 1) rest
    | none => '\uFFFD' :: decodeAfter (illFormed (byte :: rest) - 1) rest

/-- `bytes.decode("utf-8", errors="replace")`. -/
def decode (bytes : List UInt8) : List Char := decodeAfter 0 bytes

/-- The encoding of some text. -/
def Valid (bytes : List UInt8) : Prop := ∃ text, bytes = encode text

@[simp] theorem encode_nil : encode [] = [] := rfl

@[simp] theorem encode_cons {c : Char} {text : List Char} :
    encode (c :: text) = String.utf8EncodeChar c ++ encode text := rfl

@[simp] theorem encode_append {left right : List Char} : encode (left ++ right) = encode left ++ encode right :=
  List.flatMap_append

theorem encode_eq_nil_iff {text : List Char} : encode text = [] ↔ text = [] := by
  cases text with
  | nil => simp
  | cons c text => simp [String.utf8EncodeChar_ne_nil]

/-- The bytes of a character that is decoded are skipped. -/
theorem decodeAfter_skip (skipped rest : List UInt8) : decodeAfter skipped.length (skipped ++ rest) = decode rest := by
  induction skipped with
  | nil => rfl
  | cons byte skipped ih => exact ih

/-- The first character of encoded text is the one that was encoded. -/
theorem next?_encode (c : Char) (rest : List UInt8) : next? (String.utf8EncodeChar c ++ rest) = some c := by
  unfold next?
  rw [List.toByteArray_append]
  exact ByteArray.utf8DecodeChar?_utf8EncodeChar_append

theorem decode_encodeChar (c : Char) (rest : List UInt8) :
    decode (String.utf8EncodeChar c ++ rest) = c :: decode rest := by
  have first := next?_encode c rest
  have size := String.length_utf8EncodeChar c
  cases bytes : String.utf8EncodeChar c with
  | nil => exact absurd bytes String.utf8EncodeChar_ne_nil
  | cons byte more =>
    rw [bytes, List.cons_append] at first
    rw [bytes, List.length_cons] at size
    have taken : c.utf8Size - 1 = more.length := by omega
    rw [List.cons_append, decode, decodeAfter, first]
    show c :: decodeAfter (c.utf8Size - 1) (more ++ rest) = c :: decode rest
    rw [taken, decodeAfter_skip]

/-- **Round trip.** -/
theorem decode_encode (text : List Char) : decode (encode text) = text := by
  induction text with
  | nil => rfl
  | cons c text ih => rw [encode_cons, decode_encodeChar, ih]

/-- Well-formed bytes are exactly those that decoding loses nothing of. -/
theorem valid_iff {bytes : List UInt8} : Valid bytes ↔ encode (decode bytes) = bytes := by
  constructor
  · rintro ⟨text, rfl⟩
    rw [decode_encode]
  · intro same
    exact ⟨decode bytes, same.symm⟩

instance (bytes : List UInt8) : Decidable (Valid bytes) := decidable_of_iff _ valid_iff.symm

/-! ## Line feeds in the encoding -/

/-- A byte below 128 is a whole character. -/
theorem encodeChar_ascii {c : Char} {byte : UInt8} (small : byte < 128) (member : byte ∈ String.utf8EncodeChar c) :
    String.utf8EncodeChar c = [byte] := by
  have below : byte.toNat < 128 := by simpa [UInt8.lt_iff_toNat_lt] using small
  have large : ∀ n : Nat, 128 ≤ n → n < 256 → byte ≠ UInt8.ofNat n := by
    intro n lower upper same
    rw [same, UInt8.toNat_ofNat'] at below
    omega
  simp only [String.utf8EncodeChar] at member ⊢
  split at member
  · rename_i ascii
    rw [if_pos ascii]
    rw [List.mem_singleton.mp member]
  · exfalso
    split at member
    · simp only [List.mem_cons, List.not_mem_nil, or_false] at member
      rcases member with same | same
      · exact large _ (by omega) (by omega) same
      · exact large _ (by omega) (by omega) same
    · split at member
      · simp only [List.mem_cons, List.not_mem_nil, or_false] at member
        rcases member with same | same | same
        · exact large _ (by omega) (by omega) same
        · exact large _ (by omega) (by omega) same
        · exact large _ (by omega) (by omega) same
      · simp only [List.mem_cons, List.not_mem_nil, or_false] at member
        rcases member with same | same | same | same
        · exact large _ (by omega) (by omega) same
        · exact large _ (by omega) (by omega) same
        · exact large _ (by omega) (by omega) same
        · exact large _ (by omega) (by omega) same

/-- The text of ASCII bytes. -/
def asciiText (bytes : List UInt8) : List Char := bytes.map fun byte => Char.ofNat byte.toNat

/-- Bytes below 128 are their own encoding. -/
theorem encode_asciiText {bytes : List UInt8} (small : ∀ byte ∈ bytes, byte < 128) : encode (asciiText bytes) = bytes := by
  have single : ∀ n : Fin 128, String.utf8EncodeChar (Char.ofNat n.val) = [UInt8.ofNat n.val] := by decide +kernel
  induction bytes with
  | nil => rfl
  | cons byte bytes ih =>
    rw [List.forall_mem_cons] at small
    have first : String.utf8EncodeChar (Char.ofNat byte.toNat) = [byte] := by
      have own := single ⟨byte.toNat, small.1⟩
      rwa [UInt8.ofNat_toNat] at own
    rw [asciiText, List.map_cons, encode_cons, first]
    exact congrArg _ (ih small.2)

/-- The encoding determines the character. -/
theorem encodeChar_injective {left right : Char} (same : String.utf8EncodeChar left = String.utf8EncodeChar right) :
    left = right := by
  have first := next?_encode left []
  rw [same, next?_encode] at first
  exact (Option.some.inj first).symm

/-- Different texts are encoded differently. -/
theorem encode_injective {left right : List Char} (same : encode left = encode right) : left = right := by
  rw [← decode_encode left, same, decode_encode]

/-- A small byte of the encoding comes from the character it is. -/
theorem mem_encode {text : List Char} {c : Char} {byte : UInt8} (small : byte < 128)
    (single : String.utf8EncodeChar c = [byte]) : byte ∈ encode text ↔ c ∈ text := by
  rw [encode, List.mem_flatMap]
  constructor
  · rintro ⟨d, member, inside⟩
    have same := encodeChar_ascii small inside
    rw [encodeChar_injective (same.trans single.symm)] at member
    exact member
  · intro member
    exact ⟨c, member, by simp [single]⟩

theorem encode_lineFeed : String.utf8EncodeChar '\n' = [lineFeed] := by decide

theorem encode_carriageReturn : String.utf8EncodeChar '\r' = [carriageReturn] := by decide

/-- A line feed splits what is well formed into well-formed parts. -/
theorem valid_split {left right : List UInt8} (valid : Valid (left ++ lineFeed :: right)) :
    Valid left ∧ Valid right := by
  obtain ⟨text, same⟩ := valid
  induction text generalizing left with
  | nil => simp at same
  | cons c text ih =>
    rw [encode_cons, eq_comm] at same
    rcases List.append_eq_append_iff.mp same with ⟨more, split, rest⟩ | ⟨more, split, rest⟩
    · obtain ⟨⟨before, same⟩, later⟩ := ih rest.symm
      exact ⟨⟨c :: before, by rw [split, same, encode_cons]⟩, later⟩
    · cases more with
      | nil =>
        have front : [] ++ lineFeed :: right = encode text := by simpa using rest
        exact ⟨⟨[c], by simpa using split.symm⟩, (ih front).2⟩
      | cons byte more =>
        obtain ⟨rfl, remaining⟩ := List.cons.inj rest
        have member : lineFeed ∈ String.utf8EncodeChar c := by simp [split]
        have single : left ++ lineFeed :: more = [lineFeed] := split ▸ encodeChar_ascii (by decide) member
        obtain ⟨rfl, rfl⟩ : left = [] ∧ more = [] := by
          cases left with
          | nil => simpa using single
          | cons first left => simp at single
        exact ⟨⟨[], rfl⟩, ⟨text, by simpa using remaining⟩⟩

/-- Dropping the line feeds at the end commutes with the encoding. -/
theorem rdropWhile_encode (text : List Char) :
    (encode text).rdropWhile (· == lineFeed) = encode (text.rdropWhile (· == '\n')) := by
  induction text using List.reverseRecOn with
  | nil => rfl
  | append_singleton text c ih =>
    by_cases feed : c = '\n'
    · subst feed
      rw [encode_append, encode_cons, encode_nil, List.append_nil, encode_lineFeed,
        List.rdropWhile_concat_pos _ _ _ (by decide), List.rdropWhile_concat_pos _ _ _ (by decide), ih]
    · have kept : (c == '\n') = false := by simpa using feed
      rw [List.rdropWhile_concat_neg _ _ _ (by simp [kept]), encode_append, encode_cons, encode_nil, List.append_nil]
      cases bytes : String.utf8EncodeChar c using List.reverseRecOn with
      | nil => exact absurd bytes String.utf8EncodeChar_ne_nil
      | append_singleton front last =>
        have other : ¬(last == lineFeed) = true := by
          intro same
          have member : lineFeed ∈ String.utf8EncodeChar c := by simp [bytes, eq_of_beq same]
          have single := encodeChar_ascii (by decide) member
          exact feed (encodeChar_injective (single.trans encode_lineFeed.symm))
        rw [← List.append_assoc, List.rdropWhile_concat_neg (· == lineFeed) _ _ other]

end Utf8
