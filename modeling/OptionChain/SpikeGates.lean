import Mathlib.Data.List.Pairwise
import Mathlib.Order.Basic
import OptionChain.Runs

/-!
# Gates against spikes

A gate before a stream of values lets a value through if it is not beyond the last one
that passed. It gives way to the value that is the last of so many in a row beyond it,
which it takes for a new level. Values that are not positive are not compared at all.

A level is new if the values that were beyond the old one are not beyond one another. The
gate does not look at that, so it keeps its promise exactly on the streams of positive
values in which it holds whenever the gate gives way.
-/

namespace OptionChain.SpikeGates

open Runs

universe u
variable {α : Type u} [Zero α]

/-- The last value that passed, and how many have been turned away since. -/
structure Gate (α : Type u) [Zero α] where
  last : α := 0
  rejected : Nat := 0
deriving DecidableEq

/-- A gate, the value that passed last and all values that came, the latest first. -/
structure Watched (α : Type u) [Zero α] where
  gate : Gate α := {}
  passed : Option α := none
  received : List α := []

section Steps

variable [LT α] [DecidableLT α] (beyond : α → α → Prop) [DecidableRel beyond] (most : Nat)

/-- A value at the gate: the gate behind it, and whether it passes. -/
def Gate.offer (gate : Gate α) (value : α) : Gate α × Bool :=
  if 0 < gate.last ∧ 0 < value then
    if beyond gate.last value ∧ gate.rejected + 1 < most then
      ({ gate with rejected := gate.rejected + 1 }, false)
    else (⟨value, 0⟩, true)
  else ({ gate with last := value }, true)

def step (watched : Watched α) (value : α) : Watched α :=
  let offered := watched.gate.offer beyond most value
  { gate := offered.1
    passed := if offered.2 then some value else watched.passed
    received := value :: watched.received }

/-- Neither value is beyond the other. -/
def Close (left right : α) : Prop := ¬ beyond left right ∧ ¬ beyond right left

/-- The value is the last of `most` in a row that are beyond the one passed before, and
close to one another. -/
structure NewLevel (before : α) (received : List α) (value : α) : Prop where
  long : most ≤ (value :: received).length
  far : ∀ recent ∈ (value :: received).take most, beyond before recent
  close : ((value :: received).take most).Pairwise (Close beyond)

/-- What passes is positive, and the first to pass, not beyond the one before, or at a new
level. -/
def Lawful (watched : Watched α) (value : α) : Prop :=
  (watched.gate.offer beyond most value).2 = true →
    0 < value ∧ ∀ before ∈ watched.passed,
      ¬ beyond before value ∨ NewLevel beyond most before watched.received value

/-- The value is positive, and close to its predecessors if it is the one to which the
gate gives way. -/
def Sound (watched : Watched α) (value : α) : Prop :=
  0 < value ∧
    (0 < watched.gate.last → beyond watched.gate.last value →
      most ≤ watched.gate.rejected + 1 →
        ((value :: watched.received).take most).Pairwise (Close beyond))

/-- The gate of a stream of positive values: nothing has come yet, or the last value that
passed is its own and as many as it counts were beyond it. -/
inductive Tracks : Watched α → Prop where
  | fresh : Tracks {}
  | open (last : α) (rejected : Nat) (received : List α)
      (positive : 0 < last)
      (few : rejected < most)
      (enough : rejected ≤ received.length)
      (far : ∀ recent ∈ received.take rejected, beyond last recent) :
      Tracks ⟨⟨last, rejected⟩, some last, received⟩

end Steps

section Laws

variable [Preorder α] [DecidableLT α] {beyond : α → α → Prop} [DecidableRel beyond] {most : Nat}
  {gate : Gate α} {watched : Watched α} {value : α}

theorem offer_unchecked (unchecked : ¬(0 < gate.last ∧ 0 < value)) :
    gate.offer beyond most value = ({ gate with last := value }, true) := if_neg unchecked

theorem offer_rejects (last : 0 < gate.last) (positive : 0 < value)
    (far : beyond gate.last value) (few : gate.rejected + 1 < most) :
    gate.offer beyond most value = ({ gate with rejected := gate.rejected + 1 }, false) := by
  unfold Gate.offer
  rw [if_pos ⟨last, positive⟩, if_pos ⟨far, few⟩]

theorem offer_passes (last : 0 < gate.last) (positive : 0 < value)
    (passes : ¬(beyond gate.last value ∧ gate.rejected + 1 < most)) :
    gate.offer beyond most value = (⟨value, 0⟩, true) := by
  unfold Gate.offer
  rw [if_pos ⟨last, positive⟩, if_neg passes]

/-- A value that is not positive always passes, against the law. -/
theorem not_lawful_of_not_pos (negative : ¬ 0 < value) : ¬ Lawful beyond most watched value := by
  intro lawful
  have passes : (watched.gate.offer beyond most value).2 = true := by
    rw [offer_unchecked (fun both => negative both.2)]
  exact negative (lawful passes).1

/-- Positive values keep the gate on track. -/
theorem tracks_step (some : 0 < most) (tracks : Tracks beyond most watched)
    (positive : 0 < value) : Tracks beyond most (step beyond most watched value) := by
  cases tracks with
  | fresh =>
    have first : (step beyond most {} value : Watched α) = ⟨⟨value, 0⟩, .some value, [value]⟩ := by
      unfold step
      rw [offer_unchecked (fun both => lt_irrefl _ both.1)]
      rfl
    rw [first]
    exact .open value 0 [value] positive some (Nat.zero_le _) (by simp)
  | «open» last rejected received above few enough far =>
    unfold step
    by_cases turned : beyond last value ∧ rejected + 1 < most
    · rw [offer_rejects above positive turned.1 turned.2]
      refine .open last (rejected + 1) (value :: received) above turned.2 ?_ ?_
      · exact Nat.succ_le_succ enough
      · intro recent member
        rw [List.take_succ_cons, List.mem_cons] at member
        rcases member with rfl | earlier
        · exact turned.1
        · exact far recent earlier
    · rw [offer_passes above positive turned]
      exact .open value 0 (value :: received) positive some (Nat.zero_le _) (by simp)

/-- On a gate on track the law asks for no more than sound values. -/
theorem lawful_iff_sound (some : 0 < most) (tracks : Tracks beyond most watched) :
    Lawful beyond most watched value ↔ Sound beyond most watched value := by
  by_cases positive : 0 < value
  case neg =>
    constructor
    · intro lawful
      exact absurd lawful (not_lawful_of_not_pos positive)
    · intro sound
      exact absurd sound.1 positive
  cases tracks with
  | fresh =>
    constructor
    · intro _
      exact ⟨positive, fun above => absurd above (lt_irrefl _)⟩
    · intro _ _
      exact ⟨positive, fun _ none => by cases none⟩
  | «open» last rejected received above few enough far =>
    constructor
    · intro lawful
      refine ⟨positive, fun _ beyondLast full => ?_⟩
      have passes : ((⟨last, rejected⟩ : Gate α).offer beyond most value).2 = true := by
        rw [offer_passes above positive (fun turned => absurd turned.2 (Nat.not_lt.mpr full))]
      rcases (lawful passes).2 last rfl with near | level
      · exact absurd beyondLast near
      · exact level.close
    · rintro ⟨-, gives⟩ passes
      refine ⟨positive, ?_⟩
      rintro _ ⟨⟩
      by_cases beyondLast : beyond last value
      case neg => exact .inl beyondLast
      have full : most ≤ rejected + 1 := by
        by_contra fewer
        rw [offer_rejects above positive beyondLast (Nat.not_le.mp fewer)] at passes
        cases passes
      -- the gate gives way: the values it counted are the predecessors of this one
      obtain rfl : most = rejected + 1 := Nat.le_antisymm full few
      refine .inr ⟨?_, ?_, gives above beyondLast full⟩
      · exact Nat.succ_le_succ enough
      · intro recent member
        rw [List.take_succ_cons, List.mem_cons] at member
        rcases member with rfl | earlier
        · exact beyondLast
        · exact far recent earlier

end Laws

end OptionChain.SpikeGates
