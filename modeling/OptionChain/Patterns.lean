import Mathlib.Data.List.Basic
import Mathlib.Data.List.Forall2
import Mathlib.Data.List.TakeWhile

/-!
# Texts cut into slots

A pattern is a list of slots: so many symbols of a class, a run of at least one, or
one of several texts. A text matches if it can be cut into parts that the slots
accept, one after the other. Whether a run is tried longest or shortest first decides
the order in which the cuts are found, not which cuts there are.

In a separated pattern a run is followed by a slot that cannot start with a symbol of
the run, and the alternatives of a choice have one length. Then a text has at most one
cut, so that reading a text gives back the parts it was written from, and two texts
that are equal were written from the same parts.
-/

namespace OptionChain.Patterns

variable {α : Type} [DecidableEq α]

/-- A group of a pattern. -/
inductive Slot (α : Type) where
  | exactly (count : Nat) (accepts : α → Bool)
  | run (accepts : α → Bool)
  | oneOf (texts : List (List α))

namespace Slot

/-- Does a slot accept a part? -/
def accepts : Slot α → List α → Bool
  | .exactly count symbol, part => decide (part.length = count) && part.all symbol
  | .run symbol, part => decide (part ≠ []) && part.all symbol
  | .oneOf texts, part => decide (part ∈ texts)

/-- Every part starts with a symbol outside a class. -/
def StartsOutside (symbol : α → Bool) : Slot α → Prop
  | .exactly count other => 0 < count ∧ ∀ letter, other letter = true → symbol letter = false
  | .run other => ∀ letter, other letter = true → symbol letter = false
  | .oneOf texts => ∀ part ∈ texts, ∃ letter ∈ part.head?, symbol letter = false

theorem startsOutside_cons {symbol : α → Bool} {slot : Slot α} {part : List α}
    (outside : slot.StartsOutside symbol) (accepted : slot.accepts part = true) :
    ∃ letter rest, part = letter :: rest ∧ symbol letter = false := by
  cases slot with
  | exactly count other =>
    obtain ⟨positive, disjoint⟩ := outside
    simp only [accepts, Bool.and_eq_true, decide_eq_true_eq, List.all_eq_true] at accepted
    cases part with
    | nil =>
      rw [List.length_nil] at accepted
      omega
    | cons letter rest => exact ⟨letter, rest, rfl, disjoint letter (accepted.2 letter (by simp))⟩
  | run other =>
    simp only [accepts, Bool.and_eq_true, decide_eq_true_eq, List.all_eq_true] at accepted
    cases part with
    | nil => exact absurd rfl accepted.1
    | cons letter rest => exact ⟨letter, rest, rfl, outside letter (accepted.2 letter (by simp))⟩
  | oneOf texts =>
    obtain ⟨letter, first, free⟩ := outside part (by simpa [accepts] using accepted)
    cases part with
    | nil => simp at first
    | cons head rest =>
      have same : head = letter := by simpa using first
      exact ⟨head, rest, rfl, same ▸ free⟩

end Slot

/-- The parts are accepted by the slots, in order. -/
def Accepts (slots : List (Slot α)) (parts : List (List α)) : Prop :=
  List.Forall₂ (fun slot part => Slot.accepts slot part = true) slots parts

/-- All cuts of a text, longest first parts first. -/
def cuts : List (Slot α) → List α → List (List (List α))
  | [], text => if text = [] then [[]] else []
  | slot :: rest, text =>
      (List.range (text.length + 1)).reverse.flatMap fun count =>
        if slot.accepts (text.take count) then
          (cuts rest (text.drop count)).map (text.take count :: ·)
        else []

/-- The first cut of a text. -/
def read (slots : List (Slot α)) (text : List α) : Option (List (List α)) :=
  (cuts slots text).head?

theorem mem_cuts {slots : List (Slot α)} {text : List α} {parts : List (List α)} :
    parts ∈ cuts slots text ↔ Accepts slots parts ∧ parts.flatten = text := by
  induction slots generalizing text parts with
  | nil =>
    unfold cuts Accepts
    by_cases empty : text = []
    · simp only [if_pos empty, List.mem_singleton, List.forall₂_nil_left_iff]
      constructor
      · rintro rfl
        exact ⟨rfl, empty.symm⟩
      · exact And.left
    · simp only [if_neg empty, List.not_mem_nil, List.forall₂_nil_left_iff, false_iff]
      rintro ⟨rfl, same⟩
      exact empty same.symm
  | cons slot rest inductionHypothesis =>
    unfold cuts
    simp only [List.mem_flatMap, List.mem_reverse, List.mem_range]
    constructor
    · rintro ⟨count, -, member⟩
      by_cases accepted : slot.accepts (text.take count) = true
      · rw [if_pos accepted] at member
        obtain ⟨later, found, rfl⟩ := List.mem_map.mp member
        obtain ⟨good, joined⟩ := inductionHypothesis.mp found
        refine ⟨.cons accepted good, ?_⟩
        rw [List.flatten_cons, joined, List.take_append_drop]
      · rw [if_neg accepted] at member
        exact absurd member List.not_mem_nil
    · rintro ⟨good, joined⟩
      cases good with
      | @cons _ part _ later accepted good =>
        rw [List.flatten_cons] at joined
        have first : text.take part.length = part := by rw [← joined, List.take_left']; rfl
        have others : text.drop part.length = later.flatten := by
          rw [← joined, List.drop_left']
          rfl
        refine ⟨part.length, ?_, ?_⟩
        · rw [← joined, List.length_append]
          omega
        · rw [first, if_pos accepted, others]
          exact List.mem_map.mpr ⟨later, inductionHypothesis.mpr ⟨good, rfl⟩, rfl⟩

/-- A pattern whose cuts are unique. -/
def Separated : List (Slot α) → Prop
  | [] => True
  | .exactly _ _ :: rest => Separated rest
  | .run symbol :: rest => (∀ next ∈ rest.head?, next.StartsOutside symbol) ∧ Separated rest
  | .oneOf texts :: rest => (∃ count, ∀ part ∈ texts, part.length = count) ∧ Separated rest

/-- A run ends where the next part begins. -/
theorem takeWhile_run {β : Type} {symbol : β → Bool} {part rest : List β}
    (inside : part.all symbol = true) (outside : ∀ letter ∈ rest.head?, symbol letter = false) :
    (part ++ rest).takeWhile symbol = part := by
  have all : ∀ letter ∈ part, symbol letter = true := List.all_eq_true.mp inside
  rw [List.takeWhile_append_of_pos all]
  cases rest with
  | nil => simp
  | cons letter later =>
    have stop : symbol letter = false := outside letter (by simp)
    simp [stop]

/-- The parts after a run start outside of it. -/
theorem head_outside {symbol : α → Bool} {slots : List (Slot α)} {parts : List (List α)}
    (outside : ∀ next ∈ slots.head?, next.StartsOutside symbol) (good : Accepts slots parts) :
    ∀ letter ∈ parts.flatten.head?, symbol letter = false := by
  intro letter first
  cases good with
  | nil => simp at first
  | @cons slot part rest later accepted good =>
    obtain ⟨head, tail, rfl, free⟩ := Slot.startsOutside_cons (outside slot (by simp)) accepted
    have same : head = letter := by simpa using first
    exact same ▸ free

/-- A text has at most one cut, by induction on the slots. -/
theorem cut_unique {slots : List (Slot α)} (separated : Separated slots)
    {first second : List (List α)} (one : Accepts slots first) (two : Accepts slots second)
    (same : first.flatten = second.flatten) : first = second := by
  induction slots generalizing first second with
  | nil =>
    cases one
    cases two
    rfl
  | cons slot rest inductionHypothesis =>
    cases one with
    | @cons _ part _ later accepted good =>
      cases two with
      | @cons _ other _ others taken fine =>
        rw [List.flatten_cons, List.flatten_cons] at same
        have heads : part = other ∧ Separated rest := by
          cases slot with
          | exactly count symbol =>
            simp only [Slot.accepts, Bool.and_eq_true, decide_eq_true_eq] at accepted taken
            exact ⟨List.append_inj_left same (accepted.1.trans taken.1.symm), separated⟩
          | run symbol =>
            obtain ⟨outside, separated⟩ := separated
            simp only [Slot.accepts, Bool.and_eq_true] at accepted taken
            refine ⟨?_, separated⟩
            calc part = (part ++ later.flatten).takeWhile symbol :=
                  (takeWhile_run accepted.2 (head_outside outside good)).symm
              _ = (other ++ others.flatten).takeWhile symbol := by rw [same]
              _ = other := takeWhile_run taken.2 (head_outside outside fine)
          | oneOf texts =>
            obtain ⟨⟨count, long⟩, separated⟩ := separated
            simp only [Slot.accepts, decide_eq_true_eq] at accepted taken
            have lengths := (long part accepted).trans (long other taken).symm
            exact ⟨List.append_inj_left same lengths, separated⟩
        obtain ⟨rfl, separated⟩ := heads
        have tails := List.append_cancel_left same
        rw [inductionHypothesis separated good fine tails]

/-- Reading gives back the parts that were written. -/
theorem read_flatten {slots : List (Slot α)} (separated : Separated slots)
    {parts : List (List α)} (good : Accepts slots parts) :
    read slots parts.flatten = some parts := by
  have listed : parts ∈ cuts slots parts.flatten := mem_cuts.mpr ⟨good, rfl⟩
  unfold read
  cases found : cuts slots parts.flatten with
  | nil => simp [found] at listed
  | cons first others =>
    obtain ⟨fine, joined⟩ := mem_cuts.mp (found ▸ List.mem_cons_self : first ∈ cuts slots _)
    rw [List.head?_cons, cut_unique separated fine good joined]

/-- What is read is a cut of the text. -/
theorem read_some {slots : List (Slot α)} {text : List α} {parts : List (List α)}
    (found : read slots text = some parts) : Accepts slots parts ∧ parts.flatten = text := by
  apply mem_cuts.mp
  exact List.mem_of_mem_head? found

/-- Nothing is read from a text without a cut. -/
theorem read_none {slots : List (Slot α)} {text : List α}
    (uncut : ∀ parts, Accepts slots parts → parts.flatten ≠ text) : read slots text = none := by
  cases found : read slots text with
  | none => rfl
  | some parts =>
    obtain ⟨good, joined⟩ := read_some found
    exact absurd joined (uncut parts good)

end OptionChain.Patterns
