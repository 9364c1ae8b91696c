import Mathlib.Data.List.Induction
import Mathlib.Order.Bounds.Basic
import Mathlib.Order.MinMax

/-!
# Ratchets

A ratchet holds a value and is offered others, some inputs offering none. It moves up
to an offer that is higher and never down. Once it has left its start it holds the
greatest of all offers.
-/

namespace OptionChain.Ratchets

universe u v
variable {α : Type u} {β : Type v} (offer : α → Option β)

/-- What the inputs offer. -/
def offers (inputs : List α) : Set β := {value | ∃ input ∈ inputs, offer input = some value}

theorem offers_snoc (inputs : List α) (input : α) :
    offers offer (inputs ++ [input]) = offers offer inputs ∪ {value | offer input = some value} := by
  ext value
  constructor
  · rintro ⟨other, member, offered⟩
    rcases List.mem_append.mp member with old | new
    · exact .inl ⟨other, old, offered⟩
    · rw [List.mem_singleton.mp new] at offered
      exact .inr offered
  · rintro (⟨other, old, offered⟩ | offered)
    · exact ⟨other, List.mem_append_left _ old, offered⟩
    · exact ⟨input, List.mem_append_right _ List.mem_cons_self, offered⟩

variable [LinearOrder β]

/-- The ratchet after one input. -/
def climb (held : β) (input : α) : β :=
  match offer input with
  | none => held
  | some value => max held value

theorem climb_le (held : β) (input : α) : held ≤ climb offer held input := by
  rw [climb]
  cases offer input with
  | none => exact le_rfl
  | some value => exact le_max_left held value

/-- A ratchet is above its start and every offer, and stands at one of them. -/
theorem climb_spec (start : β) (inputs : List α) :
    start ≤ inputs.foldl (climb offer) start ∧
      inputs.foldl (climb offer) start ∈ upperBounds (offers offer inputs) ∧
      (inputs.foldl (climb offer) start = start ∨
        inputs.foldl (climb offer) start ∈ offers offer inputs) := by
  induction inputs using List.reverseRecOn with
  | nil => exact ⟨le_rfl, fun value ⟨_, member, _⟩ => absurd member List.not_mem_nil, .inl rfl⟩
  | append_singleton inputs input inductionHypothesis =>
    obtain ⟨above, bounds, stands⟩ := inductionHypothesis
    rw [List.foldl_append, List.foldl_cons, List.foldl_nil, offers_snoc]
    have up := climb_le offer (inputs.foldl (climb offer) start) input
    refine ⟨above.trans up, ?_, ?_⟩
    · rintro value (old | offered)
      · exact (bounds old).trans up
      · rw [climb, show offer input = some value from offered]
        exact le_max_right _ value
    · cases offered : offer input with
      | none =>
        rw [climb, offered]
        exact stands.imp id .inl
      | some value =>
        have moved : climb offer (inputs.foldl (climb offer) start) input =
            max (inputs.foldl (climb offer) start) value := by rw [climb, offered]
        rw [moved]
        rcases max_choice (inputs.foldl (climb offer) start) value with same | same
        · rw [same]
          exact stands.imp id .inl
        · rw [same]
          exact .inr (.inr rfl)

/-- A ratchet holds more than its start and a value exactly if the greatest offer does. -/
theorem climb_greatest_iff (start value : β) (inputs : List α) :
    (start < inputs.foldl (climb offer) start ∧ value < inputs.foldl (climb offer) start) ↔
      ∃ greatest, IsGreatest (offers offer inputs) greatest ∧ start < greatest ∧ value < greatest
    := by
  obtain ⟨above, bounds, stands⟩ := climb_spec offer start inputs
  constructor
  · rintro ⟨left, below⟩
    rcases stands with same | member
    · exact absurd left (by rw [same]; exact lt_irrefl start)
    · exact ⟨_, ⟨member, bounds⟩, left, below⟩
  · rintro ⟨greatest, ⟨member, _⟩, left, below⟩
    have reached := bounds member
    exact ⟨left.trans_le reached, below.trans_le reached⟩

/-- More inputs offer no less. -/
theorem greatest_mono {inputs more : List α} {least greatest : β}
    (before : IsGreatest (offers offer inputs) least)
    (after : IsGreatest (offers offer (inputs ++ more)) greatest) : least ≤ greatest := by
  obtain ⟨input, member, offered⟩ := before.1
  exact after.2 ⟨input, List.mem_append_left _ member, offered⟩

end OptionChain.Ratchets
