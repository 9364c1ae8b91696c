import Mathlib.Algebra.Order.Ring.Rat
import OptionChain.WilderSmoothing

/-!
# The RSI of the matrix engine

`rsi` is meant as Wilder's RSI over 14 periods. It cuts the closes to the last 15 before it
takes their differences, so that its smoothing loop has nothing to fold in, and the result
is that of plain averages of the last 14 differences.

It is Wilder's exactly where the whole history has the gains and losses of its last part,
in proportion.
-/

namespace OptionChain.WilderRsi

open WilderSmoothing

/-- `RSI_PERIOD`. -/
def rsiPeriod : Nat := 14

/-- `np.diff`. -/
def diff (values : List Rat) : List Rat :=
  List.zipWith (fun next previous => next - previous) values.tail values

def gains (deltas : List Rat) : List Rat :=
  deltas.map (fun delta => if 0 < delta then delta else 0)

def losses (deltas : List Rat) : List Rat :=
  deltas.map (fun delta => if delta < 0 then -delta else 0)

/-- The index of an average gain and an average loss. -/
def index (avgG avgL : Rat) : Rat :=
  if avgL = 0 then 100 else 100 - 100 / (1 + avgG / avgL)

/-- The last values of a list. -/
def lastOf (count : Nat) (values : List Rat) : List Rat := values.drop (values.length - count)

/-- `rsi`. -/
def rsi (closes : List Rat) : Rat :=
  if closes.length < rsiPeriod + 1 then 50
  else
    let deltas := diff (lastOf (rsiPeriod + 1) closes)
    index (average rsiPeriod (gains deltas)) (average rsiPeriod (losses deltas))

/-- Wilder's RSI over all differences of the series. -/
def wilderRsi (closes : List Rat) : Rat :=
  index (average rsiPeriod (gains (diff closes))) (average rsiPeriod (losses (diff closes)))

/-- Gains and losses of the series, by Wilder's weights, are to one another as the plain
sums of its last 14 differences are, and without a loss among these there is none. -/
structure Balanced (closes : List Rat) : Prop where
  lossless : (∀ delta ∈ lastOf rsiPeriod (diff closes), 0 ≤ delta) →
    ∀ delta ∈ diff closes, 0 ≤ delta
  proportional :
    (gains (lastOf rsiPeriod (diff closes))).sum * weighted rsiPeriod (losses (diff closes)) =
      weighted rsiPeriod (gains (diff closes)) * (losses (lastOf rsiPeriod (diff closes))).sum

section Differences

variable {closes deltas : List Rat} {count : Nat}

@[simp] theorem diff_length (values : List Rat) : (diff values).length = values.length - 1 := by
  simp [diff]

theorem diff_drop (values : List Rat) : diff (values.drop count) = (diff values).drop count := by
  unfold diff
  rw [List.drop_zipWith, List.tail_drop, List.drop_tail]

/-- The window has the last differences. -/
theorem diff_lastOf (enough : count + 1 ≤ closes.length) :
    diff (lastOf (count + 1) closes) = lastOf count (diff closes) := by
  unfold lastOf
  rw [diff_drop, diff_length]
  congr 1
  omega

theorem lastOf_length (enough : count ≤ deltas.length) :
    (lastOf count deltas).length = count := by
  unfold lastOf
  rw [List.length_drop]
  omega

theorem gains_nonneg : ∀ gain ∈ gains deltas, 0 ≤ gain := by
  intro gain member
  obtain ⟨delta, -, rfl⟩ := List.mem_map.mp member
  split
  · exact le_of_lt ‹_›
  · exact le_rfl

theorem losses_nonneg : ∀ loss ∈ losses deltas, 0 ≤ loss := by
  intro loss member
  obtain ⟨delta, -, rfl⟩ := List.mem_map.mp member
  split
  · linarith
  · exact le_rfl

/-- There are no losses exactly where no difference is negative. -/
theorem losses_zero_iff : (∀ loss ∈ losses deltas, loss = 0) ↔ ∀ delta ∈ deltas, 0 ≤ delta := by
  constructor
  · intro none delta member
    by_contra negative
    have loss := none _ (List.mem_map_of_mem member)
    rw [if_pos (not_le.mp negative)] at loss
    linarith [not_le.mp negative]
  · intro nonneg loss member
    obtain ⟨delta, present, rfl⟩ := List.mem_map.mp member
    exact if_neg (not_lt.mpr (nonneg delta present))

end Differences

section Index

variable {avgG avgL otherG otherL : Rat}

theorem index_bounds (gain : 0 ≤ avgG) (loss : 0 ≤ avgL) :
    0 ≤ index avgG avgL ∧ index avgG avgL ≤ 100 := by
  unfold index
  split
  · norm_num
  · have ratio : 0 ≤ avgG / avgL := div_nonneg gain loss
    have below : 100 / (1 + avgG / avgL) ≤ 100 := by
      apply div_le_self (by norm_num)
      linarith
    have above : 0 ≤ 100 / (1 + avgG / avgL) := by positivity
    constructor <;> linarith

/-- Two indices are equal exactly if the averages are proportional. -/
theorem index_eq_iff (gain : 0 ≤ avgG) (loss : 0 ≤ avgL) (gain' : 0 ≤ otherG)
    (loss' : 0 ≤ otherL) :
    index avgG avgL = index otherG otherL ↔
      (avgL = 0 ↔ otherL = 0) ∧ avgG * otherL = otherG * avgL := by
  have ratio : 0 ≤ avgG / avgL := div_nonneg gain loss
  have ratio' : 0 ≤ otherG / otherL := div_nonneg gain' loss'
  have part : 0 < 100 / (1 + avgG / avgL) := by positivity
  have part' : 0 < 100 / (1 + otherG / otherL) := by positivity
  unfold index
  by_cases none : avgL = 0 <;> by_cases none' : otherL = 0
  · simp [none, none']
  · simp only [none, none', if_true, if_false, iff_false, not_true_eq_false, false_and]
    intro same
    linarith
  · simp only [none, none', if_true, if_false, iff_true, false_and, iff_false]
    intro same
    linarith
  · rw [if_neg none, if_neg none', sub_right_inj]
    simp only [none, none', true_and]
    rw [div_eq_div_iff (by positivity) (by positivity), ← div_eq_div_iff none none']
    constructor
    · intro same
      linarith
    · intro same
      rw [same]

end Index

section Smoothing

variable {closes deltas : List Rat}

theorem average_nonneg {values : List Rat} (enough : rsiPeriod ≤ values.length)
    (nonneg : ∀ value ∈ values, 0 ≤ value) : 0 ≤ average rsiPeriod values := by
  rw [average_eq (by decide)]
  exact div_nonneg (smooth_nonneg (by decide) enough nonneg) (by norm_num)

/-- The average loss vanishes exactly where no difference is negative. -/
theorem average_losses_eq_zero_iff (enough : rsiPeriod ≤ deltas.length) :
    average rsiPeriod (losses deltas) = 0 ↔ ∀ delta ∈ deltas, 0 ≤ delta := by
  have long : rsiPeriod ≤ (losses deltas).length := by
    rw [losses, List.length_map]
    exact enough
  rw [average_eq (by decide), div_eq_zero_iff, or_iff_left (by norm_num [rsiPeriod]),
    smooth_eq_zero_iff (by decide) long losses_nonneg, losses_zero_iff]

/-- Over a whole history the averages are those of the weighted sums. -/
theorem average_eq_weighted {values : List Rat} (enough : rsiPeriod ≤ values.length) :
    average rsiPeriod values = weighted rsiPeriod values / rsiPeriod := by
  rw [average_eq (by decide), smooth_eq_weighted enough]

/-- The averages of a window and of the whole history are proportional exactly if their
sums are. -/
theorem averages_proportional {few many : List Rat} (all : few.length = rsiPeriod)
    (enough : rsiPeriod ≤ many.length) :
    average rsiPeriod (gains few) * average rsiPeriod (losses many) =
        average rsiPeriod (gains many) * average rsiPeriod (losses few) ↔
      (gains few).sum * weighted rsiPeriod (losses many) =
        weighted rsiPeriod (gains many) * (losses few).sum := by
  have fewGains : (gains few).length = rsiPeriod := by rw [gains, List.length_map, all]
  have fewLosses : (losses few).length = rsiPeriod := by rw [losses, List.length_map, all]
  have manyGains : rsiPeriod ≤ (gains many).length := by rw [gains, List.length_map]; exact enough
  have manyLosses : rsiPeriod ≤ (losses many).length := by
    rw [losses, List.length_map]
    exact enough
  rw [average_eq_weighted manyGains, average_eq_weighted manyLosses,
    average_eq_weighted fewGains.ge, average_eq_weighted fewLosses.ge, weighted_period fewGains,
    weighted_period fewLosses, div_mul_div_comm, div_mul_div_comm,
    div_left_inj' (by norm_num [rsiPeriod])]

end Smoothing

section Window

variable {closes : List Rat}

/-- With enough closes the window has exactly the last 14 differences. -/
theorem rsi_eq (enough : rsiPeriod + 1 ≤ closes.length) :
    rsi closes =
      index (average rsiPeriod (gains (lastOf rsiPeriod (diff closes))))
        (average rsiPeriod (losses (lastOf rsiPeriod (diff closes)))) := by
  unfold rsi
  rw [if_neg (Nat.not_lt.mpr enough)]
  simp only [diff_lastOf enough]

theorem lastOf_all {values : List Rat} {count : Nat} (all : values.length = count) :
    lastOf count values = values := by
  unfold lastOf
  rw [all, Nat.sub_self, List.drop_zero]

/-- The result depends on the last 15 closes only. -/
theorem rsi_lastOf (enough : rsiPeriod + 1 ≤ closes.length) :
    rsi (lastOf (rsiPeriod + 1) closes) = rsi closes := by
  have window : (lastOf (rsiPeriod + 1) closes).length = rsiPeriod + 1 := lastOf_length enough
  unfold rsi
  rw [if_neg (Nat.not_lt.mpr window.ge), if_neg (Nat.not_lt.mpr enough), lastOf_all window]

/-- A series of 15 closes is its own window. -/
theorem balanced_fifteen (all : closes.length = rsiPeriod + 1) : Balanced closes := by
  have few : (diff closes).length = rsiPeriod := by
    rw [diff_length, all]
    rfl
  have gained : (gains (diff closes)).length = rsiPeriod := by rw [gains, List.length_map, few]
  have lost : (losses (diff closes)).length = rsiPeriod := by rw [losses, List.length_map, few]
  constructor
  · rw [lastOf_all few]
    exact id
  · rw [lastOf_all few, weighted_period gained, weighted_period lost]

end Window

/-- On 15 or more closes the result is Wilder's RSI, which is in bounds, exactly if the
series is balanced. -/
theorem rsi_wilder_iff (closes : List Rat) (enough : 15 ≤ closes.length) :
    (0 ≤ rsi closes ∧ rsi closes ≤ 100 ∧ rsi closes = wilderRsi closes) ↔ Balanced closes := by
  have many : rsiPeriod ≤ (diff closes).length := by
    rw [diff_length]
    exact Nat.le_sub_one_of_lt enough
  have few : (lastOf rsiPeriod (diff closes)).length = rsiPeriod := lastOf_length many
  have averages : ∀ deltas : List Rat, rsiPeriod ≤ deltas.length →
      0 ≤ average rsiPeriod (gains deltas) ∧ 0 ≤ average rsiPeriod (losses deltas) := by
    intro deltas long
    constructor
    · exact average_nonneg (by rw [gains, List.length_map]; exact long) gains_nonneg
    · exact average_nonneg (by rw [losses, List.length_map]; exact long) losses_nonneg
  obtain ⟨gain, loss⟩ := averages _ few.ge
  obtain ⟨gain', loss'⟩ := averages _ many
  obtain ⟨low, high⟩ := index_bounds gain loss
  have subset : (∀ delta ∈ diff closes, 0 ≤ delta) →
      ∀ delta ∈ lastOf rsiPeriod (diff closes), 0 ≤ delta :=
    fun nonneg delta member => nonneg delta (List.mem_of_mem_drop member)
  have equal : rsi closes = wilderRsi closes ↔ Balanced closes := by
    rw [rsi_eq enough, wilderRsi, index_eq_iff gain loss gain' loss',
      average_losses_eq_zero_iff few.ge, average_losses_eq_zero_iff many,
      averages_proportional few many]
    constructor
    · rintro ⟨lossless, proportional⟩
      exact ⟨lossless.mp, proportional⟩
    · rintro ⟨lossless, proportional⟩
      exact ⟨⟨lossless, subset⟩, proportional⟩
  rw [← equal, rsi_eq enough]
  constructor
  · rintro ⟨-, -, same⟩
    exact same
  · intro same
    exact ⟨low, high, same⟩

/-- A rise after which the price alternates. -/
def sixteen : List Rat :=
  [90, 100, 101, 100, 101, 100, 101, 100, 101, 100, 101, 100, 101, 100, 101, 100]

/-- The first of 15 differences is cut off. -/
theorem sixteen_closes_cut : rsi sixteen ≠ wilderRsi sixteen := by
  decide +kernel

def fifteen : List Rat := sixteen.drop 1

theorem fifteen_closes_wilder :
    0 ≤ rsi fifteen ∧ rsi fifteen ≤ 100 ∧ rsi fifteen = wilderRsi fifteen :=
  (rsi_wilder_iff fifteen (by decide)).mpr (balanced_fifteen rfl)

end OptionChain.WilderRsi
