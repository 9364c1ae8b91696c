import Mathlib.Algebra.BigOperators.Group.List.Basic
import Mathlib.Algebra.BigOperators.Ring.List
import Mathlib.Algebra.Order.BigOperators.Group.List
import Mathlib.Algebra.Order.Field.Basic
import Mathlib.Data.List.Induction
import Mathlib.Tactic.FieldSimp
import Mathlib.Tactic.Linarith
import Mathlib.Tactic.Positivity
import Mathlib.Tactic.Ring

/-!
# Wilder's smoothing

A smoothed total starts with the sum of the first values of a period and loses one period's
share of itself with each further value that it takes in. The average is the total over
the period. The total is a weighted sum in which the first values weigh alike and the
others decay geometrically, so it is positive as soon as one of nonnegative values is.
-/

namespace OptionChain.WilderSmoothing

universe u
variable {α : Type u} [Field α]

section Totals

variable (period : Nat)

/-- One more value of a smoothed total. -/
def absorb (total value : α) : α := total - total / period + value

/-- The smoothed total of some values. -/
def smooth (values : List α) : α :=
  (values.drop period).foldl (absorb period) (values.take period).sum

/-- The smoothed totals from the end of the first period on. -/
def totals (values : List α) : List α :=
  (values.drop period).scanl (absorb period) (values.take period).sum

/-- The smoothed average: the first values are averaged, the others folded in. -/
def average (values : List α) : α :=
  (values.drop period).foldl (fun mean value => (mean * (period - 1) + value) / period)
    ((values.take period).sum / period)

/-- The share of a total that a further value leaves. -/
def keeps : α := 1 - 1 / period

/-- The weight of a value by its place among so many. -/
def weight (count place : Nat) : α :=
  if place < period then keeps period ^ (count - period) else keeps period ^ (count - 1 - place)

/-- The sum of some values by their weights. -/
def weighted (values : List α) : α :=
  (values.zipIdx.map (fun entry => weight period values.length entry.2 * entry.1)).sum

end Totals

section Laws

variable {period : Nat} {values : List α} {value : α}

theorem smooth_period (all : values.length = period) : smooth period values = values.sum := by
  unfold smooth
  rw [List.drop_eq_nil_of_le all.le, List.take_of_length_le all.le]
  rfl

theorem smooth_snoc (enough : period ≤ values.length) :
    smooth period (values ++ [value]) = absorb period (smooth period values) value := by
  unfold smooth
  rw [List.drop_append_of_le_length enough, List.take_append_of_le_length enough,
    List.foldl_append]
  rfl

theorem totals_length (values : List α) :
    (totals period values).length = values.length - period + 1 := by
  unfold totals
  rw [List.length_scanl, List.length_drop]

/-- The last of the smoothed totals is the total of all values. -/
theorem totals_getLast (values : List α) :
    (totals period values).getLast? = some (smooth period values) := by
  unfold totals smooth
  generalize (values.take period).sum = start
  induction values.drop period generalizing start with
  | nil => rfl
  | cons value rest inductionHypothesis =>
    rw [List.scanl_cons, List.getLast?_cons, inductionHypothesis]
    rfl

/-- Without values but zero all totals are zero. -/
theorem totals_eq_zero (zero : ∀ value ∈ values, value = 0) :
    ∀ total ∈ totals period values, total = 0 := by
  unfold totals
  have start : (values.take period).sum = 0 :=
    List.sum_eq_zero (fun value member => zero value (List.mem_of_mem_take member))
  have rest : ∀ value ∈ values.drop period, value = 0 :=
    fun value member => zero value (List.mem_of_mem_drop member)
  rw [start]
  generalize values.drop period = more at rest
  induction more with
  | nil => simp
  | cons value more inductionHypothesis =>
    obtain ⟨none, later⟩ := List.forall_mem_cons.mp rest
    have still : absorb period 0 value = 0 := by
      rw [absorb, none, zero_div, sub_zero, add_zero]
    rw [List.scanl_cons, still, List.forall_mem_cons]
    exact ⟨rfl, inductionHypothesis later⟩

omit [Field α] in
/-- An induction along the values behind the first period. -/
theorem beyond_period (property : List α → Prop)
    (first : ∀ values : List α, values.length = period → property values)
    (further : ∀ (values : List α) (value : α), period ≤ values.length → property values →
      property (values ++ [value]))
    (values : List α) (enough : period ≤ values.length) : property values := by
  induction values using List.reverseRecOn with
  | nil => exact first [] (Nat.le_zero.mp enough).symm
  | append_singleton values value inductionHypothesis =>
    rcases Nat.lt_or_ge values.length period with short | long
    · apply first
      rw [List.length_append, List.length_singleton] at enough ⊢
      omega
    · exact further values value long (inductionHypothesis long)

theorem absorb_eq (total value : α) :
    absorb period total value = keeps period * total + value := by
  unfold absorb keeps
  ring

theorem weighted_period (all : values.length = period) : weighted period values = values.sum := by
  unfold weighted
  have flat : values.zipIdx.map (fun entry => weight period values.length entry.2 * entry.1) =
      values.zipIdx.map Prod.fst := by
    apply List.map_congr_left
    rintro ⟨value, place⟩ member
    have bounds := List.mem_zipIdx member
    have inside : place < period := by omega
    simp [weight, all, inside]
  rw [flat, List.zipIdx_map_fst]

/-- A further value makes the weights of the others decay. -/
theorem weight_succ {count place : Nat} (enough : period ≤ count) (inside : place < count) :
    weight period (count + 1) place = (keeps period : α) * weight period count place := by
  unfold weight
  split
  · rw [Nat.succ_sub enough, pow_succ']
  · rw [← pow_succ']
    congr 1
    omega

theorem weight_last {count : Nat} (enough : period ≤ count) :
    weight period (count + 1) count = (1 : α) := by
  unfold weight
  rw [if_neg (Nat.not_lt.mpr enough)]
  simp

theorem weighted_snoc (enough : period ≤ values.length) :
    weighted period (values ++ [value]) = keeps period * weighted period values + value := by
  unfold weighted
  rw [List.zipIdx_append, List.map_append, List.sum_append, ← List.sum_map_mul_left]
  congr 1
  · congr 1
    apply List.map_congr_left
    rintro ⟨earlier, place⟩ member
    have bounds := List.mem_zipIdx member
    rw [List.length_append, List.length_singleton, weight_succ enough (by omega), mul_assoc]
  · simp [weight_last enough]

/-- The smoothed total is the weighted sum. -/
theorem smooth_eq_weighted (enough : period ≤ values.length) :
    smooth period values = weighted period values := by
  refine beyond_period (fun values => smooth period values = weighted period values)
    (fun values all => ?_) (fun values value more same => ?_) values enough
  · rw [smooth_period all, weighted_period all]
  · rw [smooth_snoc more, weighted_snoc more, absorb_eq, same]

theorem smooth_eq_zero (enough : period ≤ values.length) (zero : ∀ value ∈ values, value = 0) :
    smooth period values = 0 := by
  refine beyond_period (fun values => (∀ value ∈ values, value = 0) → smooth period values = 0)
    (fun values all zero => ?_) (fun values value long earlier zero => ?_) values enough zero
  · rw [smooth_period all]
    exact List.sum_eq_zero zero
  · rw [smooth_snoc long, absorb_eq, zero value (by simp),
      earlier (fun value member => zero value (List.mem_append_left _ member)), mul_zero, zero_add]

end Laws

section Averages

variable [CharZero α] {period : Nat} {values : List α}

/-- The average is the total over the period. -/
theorem average_eq (positive : 0 < period) (values : List α) :
    average period values = smooth period values / period := by
  have nonzero : (period : α) ≠ 0 := Nat.cast_ne_zero.mpr positive.ne'
  unfold average smooth
  generalize (values.take period).sum = start
  induction values.drop period generalizing start with
  | nil => rfl
  | cons value rest inductionHypothesis =>
    have folded : (start / period * (period - 1) + value) / period =
        absorb period start value / period := by
      unfold absorb
      field_simp
    rw [List.foldl_cons, List.foldl_cons, folded, inductionHypothesis]

end Averages

section Signs

variable [LinearOrder α] [IsStrictOrderedRing α] {period : Nat} {values : List α} {value : α}

theorem keeps_nonneg (positive : 0 < period) : (0 : α) ≤ keeps period := by
  unfold keeps
  have one : (1 : α) ≤ period := by exact_mod_cast positive
  have share : 1 / (period : α) ≤ 1 := by
    rw [div_le_one (by linarith)]
    exact one
  linarith

theorem keeps_pos (more : 1 < period) : (0 : α) < keeps period := by
  unfold keeps
  have one : (1 : α) < period := by exact_mod_cast more
  have share : 1 / (period : α) < 1 := by
    rw [div_lt_one (by linarith)]
    exact one
  linarith

/-- The total of nonnegative values is nonnegative. -/
theorem smooth_nonneg (positive : 0 < period) (enough : period ≤ values.length)
    (nonneg : ∀ value ∈ values, 0 ≤ value) : 0 ≤ smooth period values := by
  refine beyond_period (fun values => (∀ value ∈ values, 0 ≤ value) → 0 ≤ smooth period values)
    (fun values all nonneg => ?_) (fun values value more earlier nonneg => ?_) values enough nonneg
  · rw [smooth_period all]
    exact List.sum_nonneg nonneg
  · rw [smooth_snoc more, absorb_eq]
    have before : 0 ≤ smooth period values :=
      earlier (fun value member => nonneg value (List.mem_append_left _ member))
    have last : 0 ≤ value := nonneg value (by simp)
    have kept : 0 ≤ keeps period * smooth period values :=
      mul_nonneg (keeps_nonneg positive) before
    linarith

/-- It is at least the last of them. -/
theorem le_smooth_snoc (positive : 0 < period) (enough : period ≤ values.length)
    (nonneg : ∀ value ∈ values, 0 ≤ value) : value ≤ smooth period (values ++ [value]) := by
  rw [smooth_snoc enough, absorb_eq]
  have kept : 0 ≤ keeps period * smooth period values :=
    mul_nonneg (keeps_nonneg positive) (smooth_nonneg positive enough nonneg)
  linarith

/-- It is positive as soon as one of them is. -/
theorem smooth_pos (more : 1 < period) (enough : period ≤ values.length)
    (nonneg : ∀ value ∈ values, 0 ≤ value) (some : ∃ value ∈ values, 0 < value) :
    0 < smooth period values := by
  refine beyond_period (fun values => (∀ value ∈ values, 0 ≤ value) →
      (∃ value ∈ values, 0 < value) → 0 < smooth period values)
    (fun values all nonneg some => ?_) (fun values value long earlier nonneg some => ?_)
    values enough nonneg some
  · rw [smooth_period all]
    obtain ⟨value, member, positive⟩ := some
    exact lt_of_lt_of_le positive (List.single_le_sum nonneg value member)
  · have before : ∀ value ∈ values, 0 ≤ value :=
      fun value member => nonneg value (List.mem_append_left _ member)
    rw [smooth_snoc long, absorb_eq]
    obtain ⟨found, member, positive⟩ := some
    rcases List.mem_append.mp member with old | last
    · have kept : 0 < keeps period * smooth period values :=
        mul_pos (keeps_pos more) (earlier before ⟨found, old, positive⟩)
      have last : 0 ≤ value := nonneg value (by simp)
      linarith
    · obtain rfl := List.mem_singleton.mp last
      have kept : 0 ≤ keeps period * smooth period values :=
        mul_nonneg (keeps_nonneg (by omega)) (smooth_nonneg (by omega) long before)
      linarith

/-- The total of nonnegative values vanishes exactly with all of them. -/
theorem smooth_eq_zero_iff (more : 1 < period) (enough : period ≤ values.length)
    (nonneg : ∀ value ∈ values, 0 ≤ value) :
    smooth period values = 0 ↔ ∀ value ∈ values, value = 0 := by
  constructor
  · intro none value member
    by_contra nonzero
    have positive : 0 < value := lt_of_le_of_ne (nonneg value member) (Ne.symm nonzero)
    exact absurd none (smooth_pos more enough nonneg ⟨value, member, positive⟩).ne'
  · exact smooth_eq_zero enough

end Signs

end OptionChain.WilderSmoothing
