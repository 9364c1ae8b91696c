import Mathlib.Data.List.Basic
import Mathlib.Data.List.Infix
import Mathlib.Data.List.TakeWhile

/-!
# Shell patterns

`*` stands for any text, `?` for any character, and a bracket for a character of a set
or, after `!`, for one outside it. A bracket that is not closed stands for itself, and a
closing bracket that comes first belongs to the set.

A pattern is read in one pass. Reading distributes over a text that is appended, as long
as this cannot close a bracket, and matching distributes over the items.
-/

namespace OptionChain.Globs

inductive Item where
  | any
  | one
  | letter (c : Char)
  | set (negated : Bool) (ranges : List (Char × Char))
deriving DecidableEq

/-- A character, where a text begins with it, and the rest. -/
def takeOne (expected : Char) : List Char → List Char × List Char
  | [] => ([], [])
  | c :: rest => if c = expected then ([c], rest) else ([], c :: rest)

/-- The part of a bracket in which a closing bracket does not count, and the rest. -/
def lead (rest : List Char) : List Char × List Char :=
  let negation := takeOne '!' rest
  let first := takeOne ']' negation.2
  (negation.1 ++ first.1, first.2)

/-- The text between a bracket and the one that closes it. -/
def content (rest : List Char) : Option (List Char) :=
  if ']' ∈ (lead rest).2 then some ((lead rest).1 ++ (lead rest).2.takeWhile (· ≠ ']')) else none

/-- The characters of a set, single or as ranges. -/
def ranges : List Char → List (Char × Char)
  | first :: '-' :: last :: rest => (first, last) :: ranges rest
  | c :: rest => (c, c) :: ranges rest
  | [] => []

def bracket : List Char → Item
  | '!' :: body => .set true (ranges body)
  | body => .set false (ranges body)

/-- The items of a pattern, after some characters that have been read already. -/
def parse : Nat → List Char → List Item
  | _, [] => []
  | skip + 1, _ :: rest => parse skip rest
  | 0, c :: rest =>
      if c = '*' then .any :: parse 0 rest
      else if c = '?' then .one :: parse 0 rest
      else if c = '[' then
        match content rest with
        | none => .letter c :: parse 0 rest
        | some body => bracket body :: parse (body.length + 1) rest
      else .letter c :: parse 0 rest

def Item.accepts (item : Item) (c : Char) : Bool :=
  match item with
  | .any | .one => true
  | .letter expected => decide (c = expected)
  | .set negated ranges =>
      ranges.any (fun range => decide (range.1 ≤ c) && decide (c ≤ range.2)) != negated

/-- Do the items match a whole text? -/
def glob : List Item → List Char → Bool
  | [], text => text.isEmpty
  | .any :: rest, text => text.tails.any (glob rest)
  | item :: rest, text =>
      match text with
      | [] => false
      | c :: later => item.accepts c && glob rest later

/-- `fnmatch`, case sensitive. -/
def fnmatch (pattern text : List Char) : Bool := glob (parse 0 pattern) text

/-! ## What is appended to a pattern -/

section Reading

variable {suffix : List Char}

/-- A text that can neither close a bracket nor be read as part of its lead. -/
def Inert (suffix : List Char) : Prop := ']' ∉ suffix ∧ suffix.head? ≠ some '!'

theorem takeOne_append {expected : Char} (other : suffix.head? ≠ some expected)
    (rest : List Char) :
    takeOne expected (rest ++ suffix) =
      ((takeOne expected rest).1, (takeOne expected rest).2 ++ suffix) := by
  cases rest with
  | nil =>
    cases suffix with
    | nil => rfl
    | cons c more =>
      have differs : c ≠ expected := fun same => other (by simp [same])
      simp [takeOne, differs]
  | cons c more =>
    simp only [List.cons_append, takeOne]
    split <;> rfl

theorem takeOne_length (expected : Char) (rest : List Char) :
    (takeOne expected rest).1.length + (takeOne expected rest).2.length = rest.length := by
  cases rest with
  | nil => rfl
  | cons c more =>
    simp only [takeOne]
    split
    · simp [Nat.add_comm]
    · simp

theorem lead_append (inert : Inert suffix) (rest : List Char) :
    lead (rest ++ suffix) = ((lead rest).1, (lead rest).2 ++ suffix) := by
  have closing : suffix.head? ≠ some ']' := by
    intro first
    exact inert.1 (List.mem_of_mem_head? first)
  simp only [lead, takeOne_append inert.2, takeOne_append closing]

theorem content_append (inert : Inert suffix) (rest : List Char) :
    content (rest ++ suffix) = content rest := by
  have found : ']' ∈ (lead rest).2 ++ suffix ↔ ']' ∈ (lead rest).2 := by simp [inert.1]
  simp only [content, lead_append inert, found]
  split
  · rename_i closed
    have stops : ((lead rest).2.takeWhile (· ≠ ']')).length ≠ (lead rest).2.length := by
      intro whole
      have same := List.takeWhile_eq_self_iff.mp
        (List.Sublist.eq_of_length (List.takeWhile_sublist _) whole)
      simpa using same ']' closed
    rw [List.takeWhile_append, if_neg stops]
  · rfl

theorem content_length {rest body : List Char} (closed : content rest = some body) :
    body.length + 1 ≤ rest.length := by
  unfold content at closed
  split at closed
  · rename_i found
    obtain rfl := Option.some.inj closed
    have total : (lead rest).1.length + (lead rest).2.length = rest.length := by
      have first := takeOne_length '!' rest
      have second := takeOne_length ']' (takeOne '!' rest).2
      simp only [lead, List.length_append]
      omega
    have stops : ((lead rest).2.takeWhile (· ≠ ']')).length < (lead rest).2.length := by
      apply Nat.lt_of_le_of_ne (List.takeWhile_sublist _).length_le
      intro whole
      have same := List.takeWhile_eq_self_iff.mp
        (List.Sublist.eq_of_length (List.takeWhile_sublist _) whole)
      simpa using same ']' found
    rw [List.length_append]
    omega
  · cases closed

/-- Reading distributes over what is appended. By induction on the pattern, with what
has been read of it already. -/
theorem parse_append (inert : Inert suffix) (pattern : List Char) (skip : Nat)
    (inside : skip ≤ pattern.length) :
    parse skip (pattern ++ suffix) = parse skip pattern ++ parse 0 suffix := by
  induction pattern generalizing skip with
  | nil =>
    obtain rfl := Nat.le_zero.mp inside
    simp [parse]
  | cons c rest inductionHypothesis =>
    cases skip with
    | succ more =>
      simp only [List.cons_append, parse]
      exact inductionHypothesis more (by simpa using inside)
    | zero =>
      have plain := inductionHypothesis 0 (Nat.zero_le _)
      simp only [List.cons_append, parse, content_append inert, plain]
      split
      · rfl
      · split
        · rfl
        · split
          · cases closed : content rest with
            | none => rfl
            | some body =>
              simp only [inductionHypothesis (body.length + 1) (content_length closed)]
              rfl
          · rfl

end Reading

section Matching

theorem glob_nil (text : List Char) : glob [] text = true ↔ text = [] := by
  simp [glob]

theorem glob_any (rest : List Item) (text : List Char) :
    glob (.any :: rest) text = true ↔
      ∃ before after, text = before ++ after ∧ glob rest after = true := by
  simp only [glob, List.any_eq_true, List.mem_tails]
  constructor
  · rintro ⟨after, ⟨before, rfl⟩, matched⟩
    exact ⟨before, after, rfl, matched⟩
  · rintro ⟨before, after, rfl, matched⟩
    exact ⟨after, List.suffix_append before after, matched⟩

theorem glob_cons {item : Item} (single : item ≠ .any) (rest : List Item) (text : List Char) :
    glob (item :: rest) text = true ↔
      ∃ c later, text = c :: later ∧ item.accepts c = true ∧ glob rest later = true := by
  cases item with
  | any => exact absurd rfl single
  | one => cases text <;> simp [glob]
  | letter expected => cases text <;> simp [glob]
  | set negated ranges => cases text <;> simp [glob]

/-- Matching distributes over the items. -/
theorem glob_append (first second : List Item) (text : List Char) :
    glob (first ++ second) text = true ↔
      ∃ front back, text = front ++ back ∧ glob first front = true ∧ glob second back = true := by
  induction first generalizing text with
  | nil => simp [glob_nil]
  | cons item rest inductionHypothesis =>
    by_cases wild : item = .any
    · subst wild
      rw [List.cons_append, glob_any]
      constructor
      · rintro ⟨before, after, rfl, matched⟩
        obtain ⟨front, back, rfl, here, there⟩ := (inductionHypothesis after).mp matched
        exact ⟨before ++ front, back, by simp, (glob_any _ _).mpr ⟨before, front, rfl, here⟩, there⟩
      · rintro ⟨front, back, rfl, here, there⟩
        obtain ⟨before, after, rfl, matched⟩ := (glob_any _ _).mp here
        exact ⟨before, after ++ back, by simp,
          (inductionHypothesis _).mpr ⟨after, back, rfl, matched, there⟩⟩
    · rw [List.cons_append, glob_cons wild]
      constructor
      · rintro ⟨c, later, rfl, accepted, matched⟩
        obtain ⟨front, back, rfl, here, there⟩ := (inductionHypothesis later).mp matched
        exact ⟨c :: front, back, rfl, (glob_cons wild _ _).mpr ⟨c, front, rfl, accepted, here⟩,
          there⟩
      · rintro ⟨front, back, rfl, here, there⟩
        obtain ⟨c, later, rfl, accepted, matched⟩ := (glob_cons wild _ _).mp here
        exact ⟨c, later ++ back, rfl, accepted,
          (inductionHypothesis _).mpr ⟨later, back, rfl, matched, there⟩⟩

/-- A text without special characters matches itself only. -/
theorem glob_letters (letters text : List Char) :
    glob (letters.map .letter) text = true ↔ text = letters := by
  induction letters generalizing text with
  | nil => simp [glob_nil]
  | cons c rest inductionHypothesis =>
    rw [List.map_cons, glob_cons (by simp)]
    simp [inductionHypothesis, Item.accepts]

end Matching

/-- A text without the three characters that open an item. -/
def Plain (text : List Char) : Prop := ∀ c ∈ text, c ≠ '*' ∧ c ≠ '?' ∧ c ≠ '['

instance (text : List Char) : Decidable (Plain text) := List.decidableBAll _ text

theorem parse_plain {text : List Char} (plain : Plain text) :
    parse 0 text = text.map .letter := by
  induction text with
  | nil => rfl
  | cons c rest inductionHypothesis =>
    obtain ⟨star, question, open_⟩ := plain c (by simp)
    have later := inductionHypothesis (fun letter listed => plain letter (by simp [listed]))
    simp [parse, star, question, open_, later]

/-- A plain text as a pattern matches itself only. -/
theorem fnmatch_plain {pattern : List Char} (plain : Plain pattern) (text : List Char) :
    fnmatch pattern text = true ↔ text = pattern := by
  rw [fnmatch, parse_plain plain, glob_letters]

/-- A pattern that goes on with a plain character, anything, and a fixed end. -/
theorem fnmatch_prefix {c : Char} {ending : List Char} (plain : Plain (c :: ending))
    (inert : Inert (c :: '*' :: ending)) (pattern name : List Char) :
    fnmatch (pattern ++ c :: '*' :: ending) (name ++ ending) = true ↔
      ∃ front back, name = front ++ c :: back ∧ fnmatch pattern front = true := by
  have plainEnding : Plain ending := fun letter listed => plain letter (by simp [listed])
  obtain ⟨star, question, open_⟩ := plain c (by simp)
  have items : parse 0 (c :: '*' :: ending) = .letter c :: .any :: ending.map .letter := by
    simp [parse, star, question, open_, parse_plain plainEnding]
  rw [fnmatch, parse_append inert pattern 0 (Nat.zero_le _), items, glob_append]
  constructor
  · rintro ⟨front, rest, shape, matched, tail⟩
    obtain ⟨first, later, rfl, same, onward⟩ := (glob_cons (by simp) _ _).mp tail
    obtain ⟨back, last, rfl, closing⟩ := (glob_any _ _).mp onward
    obtain rfl := (glob_letters _ _).mp closing
    obtain rfl : first = c := by simpa [Item.accepts] using same
    rw [← List.cons_append, ← List.append_assoc] at shape
    exact ⟨front, back, List.append_cancel_right shape, matched⟩
  · rintro ⟨front, back, rfl, matched⟩
    refine ⟨front, c :: back ++ ending, by simp, matched, ?_⟩
    apply (glob_cons (by simp) _ _).mpr
    exact ⟨c, back ++ ending, rfl, by simp [Item.accepts],
      (glob_any _ _).mpr ⟨back, ending, rfl, (glob_letters _ _).mpr rfl⟩⟩

end OptionChain.Globs
