import Mathlib.Algebra.Order.BigOperators.Group.List
import Mathlib.Algebra.Order.Field.Basic
import Mathlib.Order.Interval.Set.Basic
import Mathlib.Tactic.Ring

/-!
# Means stay within bounds

A mean, a mean with weights and an exponential smoothing of some values lie in every
interval that holds the values. The weights are natural and not all zero; the factor of a
smoothing lies between zero and one.
-/

namespace OptionChain.Means

universe u
variable {κ : Type u} [Field κ] [LinearOrder κ] [IsStrictOrderedRing κ]

def mean (values : List κ) : κ := values.sum / values.length

/-- Values, each with its weight. -/
def weightedMean (weighted : List (κ × κ)) : κ :=
  (weighted.map fun pair => pair.1 * pair.2).sum / (weighted.map Prod.snd).sum

/-- Each price moves the value by a part of their distance. -/
def smooth (factor start : κ) (prices : List κ) : κ :=
  prices.foldl (fun value price => price * factor + value * (1 - factor)) start

variable {low high : κ}

theorem weighted_sum {weighted : List (κ × κ)}
    (inside : ∀ pair ∈ weighted, pair.1 ∈ Set.Icc low high)
    (natural : ∀ pair ∈ weighted, 0 ≤ pair.2) :
    low * (weighted.map Prod.snd).sum ≤ (weighted.map fun pair => pair.1 * pair.2).sum ∧
      (weighted.map fun pair => pair.1 * pair.2).sum ≤ high * (weighted.map Prod.snd).sum := by
  induction weighted with
  | nil => simp
  | cons pair rest inductionHypothesis =>
    obtain ⟨below, above⟩ := inductionHypothesis
      (fun other member => inside other (List.mem_cons_of_mem _ member))
      (fun other member => natural other (List.mem_cons_of_mem _ member))
    obtain ⟨atLeast, atMost⟩ := inside pair List.mem_cons_self
    have weight := natural pair List.mem_cons_self
    simp only [List.map_cons, List.sum_cons, mul_add]
    constructor
    · exact add_le_add (mul_le_mul_of_nonneg_right atLeast weight) below
    · exact add_le_add (mul_le_mul_of_nonneg_right atMost weight) above

theorem weightedMean_mem {weighted : List (κ × κ)}
    (inside : ∀ pair ∈ weighted, pair.1 ∈ Set.Icc low high)
    (natural : ∀ pair ∈ weighted, 0 ≤ pair.2) (some : (weighted.map Prod.snd).sum ≠ 0) :
    weightedMean weighted ∈ Set.Icc low high := by
  have total : 0 ≤ (weighted.map Prod.snd).sum := by
    apply List.sum_nonneg
    intro weight member
    obtain ⟨pair, present, rfl⟩ := List.mem_map.mp member
    exact natural pair present
  have positive := lt_of_le_of_ne total (Ne.symm some)
  obtain ⟨below, above⟩ := weighted_sum inside natural
  exact ⟨(le_div_iff₀ positive).mpr below, (div_le_iff₀ positive).mpr above⟩

theorem mean_mem {values : List κ} (inside : ∀ value ∈ values, value ∈ Set.Icc low high)
    (some : values ≠ []) : mean values ∈ Set.Icc low high := by
  have positive : (0 : κ) < values.length := by
    exact_mod_cast List.length_pos_iff.mpr some
  have below := List.card_nsmul_le_sum values low fun value member => (inside value member).1
  have above := List.sum_le_card_nsmul values high fun value member => (inside value member).2
  rw [nsmul_eq_mul] at below above
  constructor
  · rw [mean, le_div_iff₀ positive, mul_comm]
    exact below
  · rw [mean, div_le_iff₀ positive, mul_comm]
    exact above

theorem smooth_mem {factor start : κ} {prices : List κ} (proper : factor ∈ Set.Icc 0 1)
    (begins : start ∈ Set.Icc low high) (inside : ∀ price ∈ prices, price ∈ Set.Icc low high) :
    smooth factor start prices ∈ Set.Icc low high := by
  induction prices generalizing start with
  | nil => exact begins
  | cons price rest inductionHypothesis =>
    apply inductionHypothesis _ fun other member => inside other (List.mem_cons_of_mem _ member)
    obtain ⟨atLeast, atMost⟩ := inside price List.mem_cons_self
    obtain ⟨below, above⟩ := begins
    obtain ⟨natural, proper⟩ := proper
    have rest := sub_nonneg.mpr proper
    constructor
    · calc low = low * factor + low * (1 - factor) := by ring
        _ ≤ price * factor + start * (1 - factor) :=
          add_le_add (mul_le_mul_of_nonneg_right atLeast natural)
            (mul_le_mul_of_nonneg_right below rest)
    · calc price * factor + start * (1 - factor) ≤ high * factor + high * (1 - factor) :=
          add_le_add (mul_le_mul_of_nonneg_right atMost natural)
            (mul_le_mul_of_nonneg_right above rest)
        _ = high := by ring

end OptionChain.Means
