import Mathlib.Data.List.Basic

/-!
# Keys that are joined from parts

A key is joined from parts with a separator that may occur in the parts. What it keeps
of them are their words, the pieces that the separator leaves: two keys are equal
exactly if the parts have the same words in the same order, wherever these were cut
into parts.
-/

namespace OptionChain.JoinedKeys

universe u
variable {α : Type u} (separator : α)

/-- The parts, with a separator between any two. -/
def joined (parts : List (List α)) : List α := [separator].intercalate parts

/-- The pieces of all parts. -/
def words [DecidableEq α] (parts : List (List α)) : List (List α) :=
  parts.flatMap (fun part => part.splitOn separator)

variable {separator}

theorem joined_cons {part : List α} {parts : List (List α)} (more : parts ≠ []) :
    joined separator (part :: parts) = part ++ separator :: joined separator parts := by
  obtain ⟨next, rest, rfl⟩ := List.exists_cons_of_ne_nil more
  simp [joined, List.intercalate, List.intersperse]

theorem joined_append {first second : List (List α)} (some : first ≠ []) (more : second ≠ []) :
    joined separator (first ++ second) =
      joined separator first ++ separator :: joined separator second := by
  induction first with
  | nil => exact absurd rfl some
  | cons part rest inductionHypothesis =>
    by_cases last : rest = []
    · subst last
      rw [List.singleton_append, joined_cons more]
      simp [joined, List.intercalate]
    · rw [List.cons_append, joined_cons (by simp [last]), inductionHypothesis last,
        joined_cons last, List.append_assoc, List.cons_append]

section Words

variable [DecidableEq α]

/-- A piece is free of the separator. -/
theorem not_mem_piece {text piece : List α} (found : piece ∈ text.splitOn separator) :
    separator ∉ piece := by
  induction text generalizing piece with
  | nil =>
    rw [List.splitOn_nil, List.mem_singleton] at found
    simp [found]
  | cons letter rest inductionHypothesis =>
    rw [List.splitOn_cons_eq_if_modifyHead] at found
    split at found
    · rcases List.mem_cons.mp found with rfl | later
      · simp
      · exact inductionHypothesis later
    · rename_i other
      obtain ⟨first, more, split⟩ := List.exists_cons_of_ne_nil
        (List.splitOn_ne_nil separator rest)
      rw [split, List.modifyHead_cons] at found
      rcases List.mem_cons.mp found with rfl | later
      · have head : first ∈ rest.splitOn separator := by simp [split]
        have free := inductionHypothesis head
        simp only [List.mem_cons, not_or]
        exact ⟨fun same => other (by simp [same]), free⟩
      · exact inductionHypothesis (by simp [split, later])

theorem words_ne_nil {parts : List (List α)} (some : parts ≠ []) : words separator parts ≠ [] := by
  obtain ⟨part, rest, rfl⟩ := List.exists_cons_of_ne_nil some
  rw [words, List.flatMap_cons]
  exact List.append_ne_nil_of_left_ne_nil (List.splitOn_ne_nil separator part) _

/-- The words join to the same key. -/
theorem joined_words {parts : List (List α)} (some : parts ≠ []) :
    joined separator (words separator parts) = joined separator parts := by
  have whole : ∀ part : List α, joined separator (part.splitOn separator) = part :=
    fun part => List.intercalate_splitOn separator
  induction parts with
  | nil => exact absurd rfl some
  | cons part rest inductionHypothesis =>
    have cut : words separator (part :: rest) = part.splitOn separator ++ words separator rest :=
      List.flatMap_cons
    by_cases last : rest = []
    · subst last
      rw [cut, words, List.flatMap_nil, List.append_nil, whole]
      simp [joined, List.intercalate]
    · rw [cut, joined_append (List.splitOn_ne_nil separator part) (words_ne_nil last), whole,
        joined_cons last, inductionHypothesis last]

/-- Cutting a key gives the words back. -/
theorem splitOn_joined {parts : List (List α)} (some : parts ≠ []) :
    (joined separator parts).splitOn separator = words separator parts := by
  rw [← joined_words some]
  apply List.splitOn_intercalate separator _ (words_ne_nil some)
  intro word found
  obtain ⟨part, -, piece⟩ := List.mem_flatMap.mp found
  exact not_mem_piece piece

/-- Two keys are equal exactly if their parts have the same words. -/
theorem joined_eq_iff {left right : List (List α)} (someLeft : left ≠ [])
    (someRight : right ≠ []) :
    joined separator left = joined separator right ↔
      words separator left = words separator right := by
  constructor
  · intro same
    rw [← splitOn_joined someLeft, ← splitOn_joined someRight, same]
  · intro same
    rw [← joined_words someLeft, ← joined_words someRight, same]

end Words

end OptionChain.JoinedKeys
