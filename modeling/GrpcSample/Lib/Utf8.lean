import Mathlib.Data.List.Basic
import Mathlib.Tactic.Common

/-!
# Two decoders of UTF-8

The decoders that programs meet where bytes become text. The strict one refuses a sequence that is
not UTF-8. The replacing one puts U+FFFD in the place of what is malformed; how many bytes one such
character stands for differs between implementations, so it is a parameter: `more bs` is the number
of bytes replaced along with the first of `bs`.

The two agree on text without U+FFFD: both give it back for its own encoding and for nothing else
(`decode?_eq_some_iff`, `decodeReplacing_eq_iff`).
-/

namespace Utf8

/-- The bytes of a sequence of characters. -/
def encodeChars (cs : List Char) : List UInt8 :=
  cs.flatMap String.utf8EncodeChar

/-- The bytes of a string. -/
def encode (s : String) : List UInt8 :=
  encodeChars s.toList

/-- The string whose encoding the bytes are, if there is one. -/
def decode? (bs : List UInt8) : Option String :=
  String.fromUTF8? bs.toByteArray

/-- The character that the bytes start with, if they start with the encoding of one. -/
def first? (bs : List UInt8) : Option Char :=
  bs.toByteArray.utf8DecodeChar? 0

/-- U+FFFD. -/
def replacement : Char :=
  Char.ofNat 0xFFFD

/-- The characters of what remains of `bs` after `skip` bytes, malformed ones replaced. -/
def replace (more : List UInt8 → ℕ) : ℕ → List UInt8 → List Char
  | _, [] => []
  | skip + 1, _ :: bs => replace more skip bs
  | 0, b :: bs =>
    match first? (b :: bs) with
    | some c => c :: replace more (c.utf8Size - 1) bs
    | none => replacement :: replace more (more (b :: bs)) bs

/-- The string of the bytes, malformed ones replaced. -/
def decodeReplacing (more : List UInt8 → ℕ) (bs : List UInt8) : String :=
  String.ofList (replace more 0 bs)

/-- What starts with an encoded character starts with that character. -/
lemma first?_encode {c : Char} {bs : List UInt8} :
    first? (String.utf8EncodeChar c ++ bs) = some c := by
  rw [first?, List.toByteArray_append]
  exact ByteArray.utf8DecodeChar?_utf8EncodeChar_append

/-- Bytes that start with a character are its encoding and what remains. -/
lemma eq_of_first? {c : Char} {bs : List UInt8} (h : first? bs = some c) :
    bs = String.utf8EncodeChar c ++ bs.drop c.utf8Size := by
  obtain ⟨rest, eq⟩ := ByteArray.exists_of_utf8DecodeChar?_eq_some h
  have rest_eq : rest = rest.data.toList.toByteArray := by
    apply ByteArray.ext
    simp
  rw [rest_eq, ← List.toByteArray_append, List.toByteArray_inj] at eq
  rw [eq, List.drop_left' (String.length_utf8EncodeChar c)]

/-- A character is encoded by one byte or more. -/
lemma utf8EncodeChar_eq_cons (c : Char) :
    ∃ b bs, String.utf8EncodeChar c = b :: bs ∧ bs.length = c.utf8Size - 1 := by
  cases encoded : String.utf8EncodeChar c with
  | nil => exact absurd encoded String.utf8EncodeChar_ne_nil
  | cons b bs =>
    have length := String.length_utf8EncodeChar c
    rw [encoded, List.length_cons] at length
    exact ⟨b, bs, rfl, by omega⟩

/-- The encoding is that of the core library. -/
lemma toByteArray_encode {s : String} : (encode s).toByteArray = s.toByteArray :=
  String.utf8Encode_toList

/-- The strict decoder inverts the encoding. -/
theorem decode?_eq_some_iff {bs : List UInt8} {s : String} :
    decode? bs = some s ↔ bs = encode s := by
  rw [← List.toByteArray_inj, toByteArray_encode, decode?, String.fromUTF8?]
  constructor
  · intro decoded
    split at decoded
    · cases decoded
      rfl
    · cases decoded
  · intro eq
    have valid : bs.toByteArray.IsValidUTF8 := eq ▸ s.isValidUTF8
    rw [dif_pos valid]
    exact congrArg some (String.toByteArray_inj.mp eq)

section
variable {more : List UInt8 → ℕ} {bs : List UInt8} {cs : List Char}

/-- Skipping is dropping. -/
lemma replace_drop {skip : ℕ} : replace more skip bs = replace more 0 (bs.drop skip) := by
  induction bs generalizing skip with
  | nil => cases skip <;> rfl
  | cons b bs ih =>
    cases skip with
    | zero => rfl
    | succ skip => exact ih

/-- An encoded character is kept. -/
lemma replace_encodeChar {c : Char} :
    replace more 0 (String.utf8EncodeChar c ++ bs) = c :: replace more 0 bs := by
  have first : first? (String.utf8EncodeChar c ++ bs) = some c := first?_encode
  obtain ⟨b, rest, encoded, length⟩ := utf8EncodeChar_eq_cons c
  rw [encoded, List.cons_append] at first ⊢
  rw [replace, first]
  show c :: replace more (c.utf8Size - 1) (rest ++ bs) = _
  rw [replace_drop, List.drop_left' length]

/-- Nothing is replaced in what is well-formed. -/
lemma replace_encodeChars : replace more 0 (encodeChars cs) = cs := by
  induction cs with
  | nil => rfl
  | cons c cs ih => rw [encodeChars, List.flatMap_cons, replace_encodeChar, ← encodeChars, ih]

/-- What is replaced shows: text without U+FFFD is decoded from its own encoding only. -/
lemma replace_eq_iff (h : replacement ∉ cs) : replace more 0 bs = cs ↔ bs = encodeChars cs := by
  constructor
  · intro decoded
    induction cs generalizing bs with
    | nil =>
      cases bs with
      | nil => rfl
      | cons b bs =>
        rw [replace] at decoded
        split at decoded <;> cases decoded
    | cons c cs ih =>
      cases bs with
      | nil => cases decoded
      | cons b bs =>
        rw [replace] at decoded
        split at decoded
        · next c' first =>
          obtain ⟨rfl, rest⟩ := List.cons.inj decoded
          rw [replace_drop] at rest
          have tail := ih (fun mem => h (List.mem_cons_of_mem _ mem)) rest
          obtain ⟨k, size⟩ := Nat.exists_eq_succ_of_ne_zero (Nat.ne_of_gt c'.utf8Size_pos)
          rw [eq_of_first? first, encodeChars, List.flatMap_cons, size, List.drop_succ_cons]
          rw [size] at tail
          exact congrArg _ tail
        · obtain ⟨eq, _⟩ := List.cons.inj decoded
          exact absurd (eq ▸ List.mem_cons_self) h
  · rintro rfl
    exact replace_encodeChars

/-- The replacing decoder gives a text without U+FFFD for its encoding only. -/
theorem decodeReplacing_eq_iff {s : String} (h : replacement ∉ s.toList) :
    decodeReplacing more bs = s ↔ bs = encode s := by
  have replaced : replace more 0 bs = s.toList ↔ bs = encodeChars s.toList := replace_eq_iff h
  rw [encode, ← replaced, decodeReplacing]
  constructor
  · rintro rfl
    exact String.toList_ofList.symm
  · intro decoded
    rw [decoded, String.ofList_toList]

/-- Of bytes that are UTF-8 the replacing decoder gives the text of the strict one. -/
theorem decodeReplacing_of_decode? {s : String} (h : decode? bs = some s) :
    decodeReplacing more bs = s := by
  rw [decode?_eq_some_iff.mp h, decodeReplacing, encode, replace_encodeChars, String.ofList_toList]

/-- Of any others it gives a text with U+FFFD. -/
theorem replacement_mem_of_decode? (h : decode? bs = none) :
    replacement ∈ (decodeReplacing more bs).toList := by
  by_contra absent
  have encoded := (decodeReplacing_eq_iff absent).mp rfl
  rw [decode?_eq_some_iff.mpr encoded] at h
  cases h

end

end Utf8
