import Mathlib.Data.List.DropRight

/-!
# Scheme and word

A line of the form `scheme`, separator, `word`, and two ways to read the word back: splitting at the
separator, and trimming what follows the scheme. Both give the word exactly when it has no character
that the reader treats as blank.
-/

namespace Words

variable {α : Type*}

/-- Without its blanks at either end. -/
def trim (blank : α → Bool) (line : List α) : List α :=
  (line.dropWhile blank).rdropWhile blank

/-- A word without blanks is not trimmed. -/
lemma trim_of_forall {blank : α → Bool} {word : List α} (h : ∀ c ∈ word, blank c = false) :
    trim blank word = word := by
  have front : word.dropWhile blank = word := by
    cases word with
    | nil => rfl
    | cons c cs => rw [List.dropWhile_cons, if_neg (by simp [h c])]
  rw [trim, front, List.rdropWhile_eq_self_iff]
  intro cons
  simp [h _ (List.getLast_mem cons)]

/-- A leading blank is no part of the word. -/
lemma trim_cons {blank : α → Bool} {b : α} {word : List α} (hb : blank b = true)
    (h : ∀ c ∈ word, blank c = false) : trim blank (b :: word) = word := by
  rw [trim, List.dropWhile_cons, if_pos hb]
  exact trim_of_forall h

/-- Two words with one blank between them are split there. -/
lemma splitOn_eq [BEq α] [LawfulBEq α] {b : α} {scheme word : List α} (hs : b ∉ scheme)
    (hw : b ∉ word) : (scheme ++ b :: word).splitOn b = [scheme, word] := by
  have line : [b].intercalate [scheme, word] = scheme ++ b :: word := by
    simp [List.intercalate, List.intersperse]
  rw [← line]
  apply List.splitOn_intercalate
  · intro l mem
    rcases List.mem_cons.mp mem with rfl | mem
    · exact hs
    · rw [List.mem_singleton.mp mem]
      exact hw
  · exact List.cons_ne_nil _ _

end Words
