import Mathlib.Data.List.DropRight

/-!
# Deques of bounded length

A deque of bounded length that is full drops an element at one end when another comes
in at the other. Filled on the right it keeps its last elements. Filled on the left it
keeps its first ones, so the two agree only where nothing is dropped.
-/

namespace OptionChain.BoundedDeques

universe u
variable {α : Type u} (maxlen : Nat)

/-- `append`: a full deque drops its left end. -/
def append (items : List α) (item : α) : List α := (items ++ [item]).rtake maxlen

/-- `appendleft`: a full deque drops its right end. -/
def appendLeft (items : List α) (item : α) : List α := (item :: items).take maxlen

/-- Elements that come in on the left one by one, the last of them first. -/
def extendLeft (items more : List α) : List α :=
  more.foldr (fun item items => appendLeft maxlen items item) items

variable {maxlen}

theorem extendLeft_eq {items : List α} (bounded : items.length ≤ maxlen) (more : List α) :
    extendLeft maxlen items more = (more ++ items).take maxlen := by
  induction more with
  | nil => exact (List.take_of_length_le bounded).symm
  | cons item rest inductionHypothesis =>
    have below : extendLeft maxlen items (item :: rest) =
        appendLeft maxlen (extendLeft maxlen items rest) item := rfl
    rw [below, inductionHypothesis, appendLeft]
    cases maxlen with
    | zero => rfl
    | succ n => simp [List.take_take]

/-- A list that fits is its own first and last part. -/
theorem take_eq_rtake {items : List α} (fits : items.length ≤ maxlen) :
    items.take maxlen = items.rtake maxlen := by
  rw [List.take_of_length_le fits, List.rtake, Nat.sub_eq_zero_of_le fits]
  rfl

/-- Elements that begin with one that neither comes again nor stands first in a deque:
the deque keeps its last elements exactly if all of them fit. -/
theorem extendLeft_keeps_iff {items rest : List α} {first : α} (bounded : items.length ≤ maxlen)
    (once : first ∉ rest) (other : items.head? ≠ some first) :
    extendLeft maxlen items (first :: rest) = (first :: rest ++ items).rtake maxlen ↔
      maxlen = 0 ∨ (first :: rest).length + items.length ≤ maxlen := by
  rw [extendLeft_eq bounded]
  constructor
  · intro same
    by_contra! beyond
    obtain ⟨positive, long⟩ := beyond
    -- both lists are nonempty, and the second begins with what stands behind the dropped part
    obtain ⟨dropped, offset⟩ : ∃ dropped,
        (first :: rest ++ items).length - maxlen = dropped + 1 :=
      Nat.exists_eq_succ_of_ne_zero (by simp only [List.length_append]; omega)
    have heads := congrArg List.head? same
    rw [List.rtake, List.head?_take, if_neg positive, offset, List.head?_drop] at heads
    simp only [List.cons_append, List.head?_cons, List.getElem?_cons_succ] at heads
    have within : dropped ≤ rest.length := by
      simp only [List.length_append, List.length_cons] at offset
      omega
    rcases Nat.lt_or_eq_of_le within with inside | behind
    · rw [List.getElem?_append_left inside] at heads
      exact once (List.mem_of_getElem? heads.symm)
    · rw [behind, List.getElem?_append_right le_rfl, Nat.sub_self, ← List.head?_eq_getElem?]
        at heads
      exact other heads.symm
  · rintro (rfl | fits)
    · simp [List.rtake]
    · apply take_eq_rtake
      rw [List.length_append]
      exact fits

end OptionChain.BoundedDeques
