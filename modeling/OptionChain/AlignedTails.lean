import Mathlib.Data.List.DropRight
import OptionChain.Buckets

/-!
# Lists that agree from their ends on

Two series that are read by position from the tail agree exactly as far as one is
the end of the other. An element that both receive keeps that, and so does a bound
on the length of both.
-/

namespace OptionChain.AlignedTails

open Buckets

universe u
variable {α : Type u}

/-- One list is the end of the other. -/
def Aligned (a b : List α) : Prop := a <:+ b ∨ b <:+ a

theorem Aligned.symm {a b : List α} (aligned : Aligned a b) : Aligned b a := aligned.elim .inr .inl

/-- Ends of one list are aligned. -/
theorem aligned_of_suffix {a b whole : List α} (left : a <:+ whole) (right : b <:+ whole) :
    Aligned a b := List.suffix_or_suffix_of_suffix left right

theorem Aligned.append {a b : List α} (aligned : Aligned a b) (more : List α) :
    Aligned (a ++ more) (b ++ more) := by
  rcases aligned with inner | inner
  · exact .inl (List.suffix_append_self_iff.mpr inner)
  · exact .inr (List.suffix_append_self_iff.mpr inner)

theorem Aligned.rtake {a b : List α} (aligned : Aligned a b) (n : Nat) :
    Aligned (a.rtake n) (b.rtake n) := by
  rcases aligned with inner | inner
  · exact aligned_of_suffix ((rtake_suffix n a).trans inner) (rtake_suffix n b)
  · exact aligned_of_suffix (rtake_suffix n a) ((rtake_suffix n b).trans inner)

/-- Of two aligned lists, one that is not longer is the end of the other. -/
theorem Aligned.suffix {a b : List α} (aligned : Aligned a b) (shorter : a.length ≤ b.length) :
    a <:+ b := by
  rcases aligned with inner | inner
  · exact inner
  · obtain rfl := inner.eq_of_length (le_antisymm inner.length_le shorter)
    exact List.suffix_refl _

/-- The end of a list, as long as another end of it, is that end. -/
theorem rtake_of_suffix {a b : List α} (inner : a <:+ b) : b.rtake a.length = a := by
  rw [List.rtake, ← List.suffix_iff_eq_drop.mp inner]

/-- Read by position from the tail, aligned lists agree. -/
theorem Aligned.zip {a b : List α} (aligned : Aligned a b) :
    ∀ pair ∈ (a.rtake (min a.length b.length)).zip (b.rtake (min a.length b.length)),
      pair.1 = pair.2 := by
  have equal : a.rtake (min a.length b.length) = b.rtake (min a.length b.length) := by
    rcases aligned with inner | inner
    · rw [Nat.min_eq_left inner.length_le, rtake_of_suffix inner,
        rtake_of_suffix (List.suffix_refl a)]
    · rw [Nat.min_eq_right inner.length_le, rtake_of_suffix inner,
        rtake_of_suffix (List.suffix_refl b)]
  rw [equal]
  intro pair member
  obtain ⟨i, _, at_⟩ := List.mem_iff_getElem.mp member
  rw [← at_, List.getElem_zip]

end OptionChain.AlignedTails
