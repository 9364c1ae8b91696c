import OptionChain.WilderRsi

/-!
# The ADX of the matrix engine

`adx` is meant as Wilder's ADX over 20 periods. Its true range is that of the differences
of the highs and lows against a price, so it is about as large as the price, and its last
smoothing leaves a sum where the ADX is an average, which the clamp then hides.

Both slips show as soon as a bar moves to one side: then the directional indicators depend
on the level of the prices. Without such a bar all three values are zero, as they should be.
-/

namespace OptionChain.WilderAdx

open WilderSmoothing
open WilderRsi (diff lastOf diff_length)

/-- `ADX_PERIOD`. -/
def adxPeriod : Nat := 20

def need : Nat := adxPeriod * 2 + 2

/-- ADX, +DI and -DI. -/
structure Reading where
  adx : Rat
  plus : Rat
  minus : Rat
deriving DecidableEq

/-- What is counted of the move up and the move down of each bar. -/
def movements (counted : Rat → Rat → Rat) (highs lows : List Rat) : List Rat :=
  List.zipWith counted (diff highs) ((diff lows).map (fun delta => -delta))

def upward (up dn : Rat) : Rat := if dn < up ∧ 0 < up then up else 0

def downward (up dn : Rat) : Rat := if up < dn ∧ 0 < dn then dn else 0

def pdm (highs lows : List Rat) : List Rat := movements upward highs lows

def mdm (highs lows : List Rat) : List Rat := movements downward highs lows

/-- The largest of three differences: first and second values, and both to a third. -/
def ranges (highs lows previous : List Rat) : List Rat :=
  List.zipWith max (List.zipWith (fun high low => high - low) highs lows)
    (List.zipWith max (List.zipWith (fun high close => |high - close|) highs previous)
      (List.zipWith (fun low close => |low - close|) lows previous))

/-- The ranges as `adx` takes them, of the differences. -/
def tr (highs lows closes : List Rat) : List Rat :=
  ranges (diff highs) (diff lows) closes.dropLast

/-- The true ranges, which `atr` takes. -/
def trueRange (highs lows closes : List Rat) : List Rat :=
  ranges highs.tail lows.tail closes.dropLast

/-- `_wilder`. -/
def wilder (values : List Rat) : List Rat :=
  List.replicate (adxPeriod - 1) 0 ++ totals adxPeriod values

/-- A movement in percent of a range. -/
def share (range movement : Rat) : Rat := if 0 < range then 100 * movement / range else 0

/-- The distance of two indicators in percent of their sum. -/
def spread (plus minus : Rat) : Rat :=
  if 0 < plus + minus then 100 * |plus - minus| / (plus + minus) else 0

def last (values : List Rat) : Rat := values.getLast?.getD 0

/-- The three values before the clamp. -/
def unclamped (highs lows closes : List Rat) : Reading :=
  let h := lastOf need highs
  let l := lastOf need lows
  let c := lastOf need closes
  let pdi := List.zipWith share (wilder (tr h l c)) (wilder (pdm h l))
  let mdi := List.zipWith share (wilder (tr h l c)) (wilder (mdm h l))
  let dx := List.zipWith spread pdi mdi
  { adx := last (wilder (dx.drop (adxPeriod - 1))), plus := last pdi, minus := last mdi }

/-- `adx`. -/
def adx (highs lows closes : List Rat) : Reading :=
  if closes.length < need then { adx := 0, plus := 0, minus := 0 }
  else
    let reading := unclamped highs lows closes
    { reading with adx := min 100 (max 0 reading.adx) }

/-- Wilder's ADX and directional indicators over the last 42 bars. -/
def wilderAdx (highs lows closes : List Rat) : Reading :=
  let h := lastOf need highs
  let l := lastOf need lows
  let c := lastOf need closes
  let range := totals adxPeriod (trueRange h l c)
  let pdi := List.zipWith share range (totals adxPeriod (pdm h l))
  let mdi := List.zipWith share range (totals adxPeriod (mdm h l))
  { adx := average adxPeriod (List.zipWith spread pdi mdi), plus := last pdi, minus := last mdi }

/-- A bar, with its close in its range. -/
structure Bar where
  high : Rat
  low : Rat
  close : Rat
  low_le : low ≤ close
  le_high : close ≤ high

/-- The same bar at other prices. -/
def Bar.shift (offset : Rat) (bar : Bar) : Bar where
  high := bar.high + offset
  low := bar.low + offset
  close := bar.close + offset
  low_le := by linarith [bar.low_le]
  le_high := by linarith [bar.le_high]

/-- A function of the three series, on some bars. -/
def onBars (indicator : List Rat → List Rat → List Rat → Reading) (bars : List Bar) : Reading :=
  indicator (bars.map Bar.high) (bars.map Bar.low) (bars.map Bar.close)

def InPercent (value : Rat) : Prop := 0 ≤ value ∧ value ≤ 100

/-- On these bars the values are Wilder's, in bounds without the clamp, and the same at any
price level. -/
structure IsWilder (bars : List Bar) : Prop where
  returned : onBars adx bars = onBars wilderAdx bars
  adx_bounded : InPercent (onBars unclamped bars).adx
  plus_bounded : InPercent (onBars unclamped bars).plus
  minus_bounded : InPercent (onBars unclamped bars).minus
  level : ∀ offset, onBars adx (bars.map (Bar.shift offset)) = onBars adx bars

/-- A bar that goes no further on one side than on the other, or on neither side. -/
def Undirected (previous next : Bar) : Prop :=
  next.high - previous.high = previous.low - next.low ∨
    next.high ≤ previous.high ∧ previous.low ≤ next.low

/-- The last bars, which the indicators see. -/
def window (bars : List Bar) : List Bar := bars.drop (bars.length - need)

section Elementwise

variable {α β γ : Type} {f : α → β → γ} {as : List α} {bs : List β}

theorem zipWith_forall {property : γ → Prop}
    (each : ∀ a ∈ as, ∀ b ∈ bs, property (f a b)) :
    ∀ c ∈ List.zipWith f as bs, property c := by
  induction as generalizing bs with
  | nil => simp
  | cons a as inductionHypothesis =>
    cases bs with
    | nil => simp
    | cons b bs =>
      intro c member
      rw [List.zipWith_cons_cons] at member
      rcases List.mem_cons.mp member with rfl | later
      · exact each a (by simp) b (by simp)
      · exact inductionHypothesis (fun a member b other => each a (by simp [member]) b
          (by simp [other])) c later

theorem zipWith_getLast? {a : α} {b : β} (long : as.length = bs.length)
    (left : as.getLast? = some a) (right : bs.getLast? = some b) :
    (List.zipWith f as bs).getLast? = some (f a b) := by
  obtain ⟨before, rfl⟩ := List.getLast?_eq_some_iff.mp left
  obtain ⟨front, rfl⟩ := List.getLast?_eq_some_iff.mp right
  rw [List.zipWith_append (by simpa using long)]
  simp

end Elementwise

section Windows

variable {bars : List Bar}

theorem lastOf_map (value : Bar → Rat) :
    lastOf need (bars.map value) = (window bars).map value := by
  unfold lastOf window
  rw [List.length_map, List.map_drop]

theorem window_length (enough : need ≤ bars.length) : (window bars).length = need := by
  unfold window
  rw [List.length_drop]
  omega

theorem window_shift (offset : Rat) :
    window (bars.map (Bar.shift offset)) = (window bars).map (Bar.shift offset) := by
  unfold window
  rw [List.length_map, List.map_drop]

/-- The differences of a shifted series are those of the series. -/
theorem diff_shift (offset : Rat) (values : List Rat) :
    diff (values.map (· + offset)) = diff values := by
  unfold diff
  rw [← List.map_tail, List.zipWith_map]
  congr 1
  funext next previous
  ring

end Windows

section Movements

/-- The movements of some bars. -/
def barMovements (counted : Rat → Rat → Rat) (bars : List Bar) : List Rat :=
  movements counted (bars.map Bar.high) (bars.map Bar.low)

/-- No movement is counted exactly if every bar is undirected. -/
theorem undirected_iff (bars : List Bar) :
    ((∀ movement ∈ barMovements upward bars, movement = 0) ∧
      ∀ movement ∈ barMovements downward bars, movement = 0) ↔
      List.IsChain Undirected bars := by
  induction bars with
  | nil => simp [barMovements, movements, diff]
  | cons previous bars inductionHypothesis =>
    cases bars with
    | nil => simp [barMovements, movements, diff]
    | cons next bars =>
      have pair : ∀ up dn : Rat,
          (upward up dn = 0 ∧ downward up dn = 0) ↔ up = dn ∨ up ≤ 0 ∧ dn ≤ 0 := by
        intro up dn
        unfold upward downward
        grind
      have here : Undirected previous next ↔
          (next.high - previous.high = -(next.low - previous.low) ∨
            next.high - previous.high ≤ 0 ∧ -(next.low - previous.low) ≤ 0) := by
        unfold Undirected
        rw [neg_sub, sub_nonpos, sub_nonpos]
      rw [List.isChain_cons_cons, ← inductionHypothesis, here, ← pair]
      simp only [barMovements, movements, diff, List.map_cons, List.tail_cons,
        List.zipWith_cons_cons, List.forall_mem_cons]
      tauto

end Movements

section Readings

variable {values ranges movements : List Rat}

theorem wilder_length (enough : adxPeriod ≤ values.length) :
    (wilder values).length = values.length := by
  unfold wilder
  rw [List.length_append, List.length_replicate, totals_length]
  unfold adxPeriod at enough ⊢
  omega

theorem wilder_getLast? (values : List Rat) :
    (wilder values).getLast? = some (smooth adxPeriod values) := by
  unfold wilder
  rw [List.getLast?_append, totals_getLast]
  rfl

theorem wilder_eq_zero (zero : ∀ value ∈ values, value = 0) :
    ∀ total ∈ wilder values, total = 0 := by
  intro total member
  rcases List.mem_append.mp member with padding | smoothed
  · exact List.eq_of_mem_replicate padding
  · exact totals_eq_zero zero total smoothed

theorem last_eq_zero (zero : ∀ value ∈ values, value = 0) : last values = 0 := by
  unfold last
  cases found : values.getLast? with
  | none => rfl
  | some value => exact zero value (List.mem_of_getLast? found)

/-- The last indicator is the share of the smoothed totals. -/
theorem last_share (long : ranges.length = movements.length)
    (enough : adxPeriod ≤ movements.length) :
    last (List.zipWith share (wilder ranges) (wilder movements)) =
      share (smooth adxPeriod ranges) (smooth adxPeriod movements) := by
  unfold last
  rw [zipWith_getLast? (by rw [wilder_length enough, wilder_length (long ▸ enough), long])
    (wilder_getLast? ranges) (wilder_getLast? movements)]
  rfl

theorem average_zero (enough : adxPeriod ≤ values.length) (zero : ∀ value ∈ values, value = 0) :
    average adxPeriod values = 0 := by
  rw [average_eq (by decide), smooth_eq_zero enough zero, zero_div]

theorem share_zero (range : Rat) : share range 0 = 0 := by
  unfold share
  rw [mul_zero, zero_div, ite_self]

theorem shares_eq_zero (zero : ∀ movement ∈ movements, movement = 0) :
    ∀ indicator ∈ List.zipWith share ranges movements, indicator = 0 := by
  apply zipWith_forall
  intro range _ movement member
  rw [zero movement member, share_zero]

theorem spreads_eq_zero {pdi mdi : List Rat} (plus : ∀ indicator ∈ pdi, indicator = 0)
    (minus : ∀ indicator ∈ mdi, indicator = 0) :
    ∀ index ∈ List.zipWith spread pdi mdi, index = 0 := by
  apply zipWith_forall
  intro left member right other
  rw [plus left member, minus right other]
  simp [spread]

/-- A share of an unbounded range is constant only if there is no movement. -/
theorem share_constant {range : Rat → Rat} {movement constant : Rat}
    (unbounded : ∀ bound, ∃ offset, bound ≤ range offset)
    (same : ∀ offset, share (range offset) movement = constant) : movement = 0 := by
  obtain ⟨first, positive⟩ := unbounded 1
  obtain ⟨second, larger⟩ := unbounded (range first + 1)
  have left : 0 < range first := by linarith
  have right : 0 < range second := by linarith
  have equal : 100 * movement / range first = 100 * movement / range second := by
    have both := (same first).trans (same second).symm
    rw [share, share, if_pos left, if_pos right] at both
    exact both
  rw [div_eq_div_iff left.ne' right.ne'] at equal
  have product : movement * (range second - range first) = 0 := by linarith
  rcases mul_eq_zero.mp product with none | level
  · exact none
  · linarith

end Readings

section Ranges

variable {highs lows previous : List Rat}

theorem ranges_length (low : lows.length = highs.length) (close : previous.length = highs.length) :
    (ranges highs lows previous).length = highs.length := by
  simp [ranges, low, close]

theorem ranges_nonneg : ∀ range ∈ ranges highs lows previous, 0 ≤ range := by
  unfold ranges
  apply zipWith_forall
  intro _ _ distance member
  have nonneg : 0 ≤ distance := by
    revert distance
    apply zipWith_forall
    intro above member _ _
    have nonneg : 0 ≤ above := by
      revert above
      apply zipWith_forall
      intro _ _ _ _
      exact abs_nonneg _
    exact le_max_of_le_left nonneg
  exact le_max_of_le_right nonneg

theorem ranges_snoc (high low close : Rat) (below : lows.length = highs.length)
    (before : previous.length = highs.length) :
    ranges (highs ++ [high]) (lows ++ [low]) (previous ++ [close]) =
      ranges highs lows previous ++ [max (high - low) (max |high - close| |low - close|)] := by
  unfold ranges
  rw [List.zipWith_append below.symm, List.zipWith_append before.symm,
    List.zipWith_append (below.trans before.symm), List.zipWith_append (by simp [below, before]),
    List.zipWith_append (by simp [below, before])]
  rfl

/-- Against high enough prices the smoothed ranges exceed any bound. -/
theorem ranges_unbounded (below : lows.length = highs.length)
    (before : previous.length = highs.length) (enough : adxPeriod < highs.length) (bound : Rat) :
    ∃ offset, bound ≤ smooth adxPeriod (ranges highs lows (previous.map (· + offset))) := by
  rcases List.eq_nil_or_concat' highs with rfl | ⟨highs, high, rfl⟩
  · simp at enough
  rcases List.eq_nil_or_concat' lows with rfl | ⟨lows, low, rfl⟩
  · simp at below
  rcases List.eq_nil_or_concat' previous with rfl | ⟨previous, close, rfl⟩
  · simp at before
  simp only [List.length_append, List.length_singleton, Nat.add_right_cancel_iff] at below before
  rw [List.length_append, List.length_singleton] at enough
  use bound + |low - close|
  have far : bound ≤ |low - (close + (bound + |low - close|))| := by
    have split := neg_abs_le (low - (close + (bound + |low - close|)))
    have near := le_abs_self (low - close)
    linarith
  have largest : bound ≤ max (high - low)
      (max |high - (close + (bound + |low - close|))| |low - (close + (bound + |low - close|))|) :=
    far.trans (le_max_of_le_right (le_max_right _ _))
  have long : (previous.map (· + (bound + |low - close|))).length = highs.length := by
    rw [List.length_map, before]
  rw [List.map_append, List.map_singleton, ranges_snoc _ _ _ below long]
  have rest : adxPeriod ≤
      (ranges highs lows (previous.map (· + (bound + |low - close|)))).length := by
    rw [ranges_length below long]
    exact Nat.le_of_lt_succ enough
  exact largest.trans (le_smooth_snoc (by decide) rest ranges_nonneg)

end Ranges

section Bars

variable {bars : List Bar} {counted : Rat → Rat → Rat}

/-- The ranges of some bars, as `adx` takes them. -/
def range (bars : List Bar) : List Rat :=
  tr (bars.map Bar.high) (bars.map Bar.low) (bars.map Bar.close)

theorem barMovements_length (bars : List Bar) :
    (barMovements counted bars).length = bars.length - 1 := by
  simp [barMovements, movements]

theorem range_length (bars : List Bar) : (range bars).length = bars.length - 1 := by
  unfold range tr
  rw [ranges_length (by simp) (by simp), diff_length, List.length_map]

theorem upward_nonneg (up dn : Rat) : 0 ≤ upward up dn := by
  unfold upward
  split
  · exact le_of_lt (And.right ‹_›)
  · exact le_rfl

theorem downward_nonneg (up dn : Rat) : 0 ≤ downward up dn := by
  unfold downward
  split
  · exact le_of_lt (And.right ‹_›)
  · exact le_rfl

theorem map_shift (offset : Rat) (value : Bar → Rat)
    (follows : ∀ bar : Bar, value (bar.shift offset) = value bar + offset) :
    (bars.map (Bar.shift offset)).map value = (bars.map value).map (· + offset) := by
  rw [List.map_map, List.map_map]
  exact List.map_congr_left (fun bar _ => follows bar)

/-- The movements are the same at any price level. -/
theorem barMovements_shift (offset : Rat) :
    barMovements counted (bars.map (Bar.shift offset)) = barMovements counted bars := by
  unfold barMovements movements
  rw [map_shift offset Bar.high (fun _ => rfl), map_shift offset Bar.low (fun _ => rfl),
    diff_shift, diff_shift]

/-- At another price level only the third values of the ranges change. -/
theorem range_shift (offset : Rat) :
    range (bars.map (Bar.shift offset)) =
      ranges (diff (bars.map Bar.high)) (diff (bars.map Bar.low))
        ((bars.map Bar.close).dropLast.map (· + offset)) := by
  unfold range tr
  rw [map_shift offset Bar.high (fun _ => rfl), map_shift offset Bar.low (fun _ => rfl),
    map_shift offset Bar.close (fun _ => rfl), diff_shift, diff_shift, List.map_dropLast]

theorem range_unbounded (enough : need ≤ bars.length) (bound : Rat) :
    ∃ offset, bound ≤ smooth adxPeriod (range (bars.map (Bar.shift offset))) := by
  have long : adxPeriod < (diff (bars.map Bar.high)).length := by
    rw [diff_length, List.length_map]
    unfold need adxPeriod at *
    omega
  have low : (diff (bars.map Bar.low)).length = (diff (bars.map Bar.high)).length := by simp
  have before : (bars.map Bar.close).dropLast.length = (diff (bars.map Bar.high)).length := by
    simp
  obtain ⟨offset, above⟩ := ranges_unbounded low before long bound
  use offset
  rw [range_shift]
  exact above

end Bars

section Values

variable {bars : List Bar} {counted : Rat → Rat → Rat}

theorem adx_eq (enough : need ≤ bars.length) :
    onBars adx bars =
      { onBars unclamped bars with adx := min 100 (max 0 (onBars unclamped bars).adx) } := by
  unfold onBars adx
  rw [if_neg]
  rw [List.length_map]
  exact Nat.not_lt.mpr enough

/-- An indicator of the window, as `adx` takes it. -/
theorem last_indicator (enough : need ≤ bars.length) :
    last (List.zipWith share (wilder (range (window bars)))
        (wilder (barMovements counted (window bars)))) =
      share (smooth adxPeriod (range (window bars)))
        (smooth adxPeriod (barMovements counted (window bars))) := by
  have all := window_length enough
  have long : (range (window bars)).length = (barMovements counted (window bars)).length := by
    rw [range_length, barMovements_length]
  have many : adxPeriod ≤ (barMovements counted (window bars)).length := by
    rw [barMovements_length, all]
    decide
  exact last_share long many

theorem unclamped_plus (enough : need ≤ bars.length) :
    (onBars unclamped bars).plus =
      share (smooth adxPeriod (range (window bars)))
        (smooth adxPeriod (barMovements upward (window bars))) := by
  simp only [onBars, unclamped, lastOf_map]
  exact last_indicator enough

theorem unclamped_minus (enough : need ≤ bars.length) :
    (onBars unclamped bars).minus =
      share (smooth adxPeriod (range (window bars)))
        (smooth adxPeriod (barMovements downward (window bars))) := by
  simp only [onBars, unclamped, lastOf_map]
  exact last_indicator enough

/-- Without a movement the values before the clamp are zero. -/
theorem unclamped_zero (plus : ∀ movement ∈ barMovements upward (window bars), movement = 0)
    (minus : ∀ movement ∈ barMovements downward (window bars), movement = 0) :
    onBars unclamped bars = { adx := 0, plus := 0, minus := 0 } := by
  have pdi := @shares_eq_zero (wilder (range (window bars))) _ (wilder_eq_zero plus)
  have mdi := @shares_eq_zero (wilder (range (window bars))) _ (wilder_eq_zero minus)
  have dx := spreads_eq_zero pdi mdi
  simp only [onBars, unclamped, lastOf_map]
  rw [Reading.mk.injEq]
  refine ⟨last_eq_zero (wilder_eq_zero ?_), last_eq_zero pdi, last_eq_zero mdi⟩
  exact fun index member => dx index (List.mem_of_mem_drop member)

/-- Wilder's values are zero then, too. -/
theorem wilderAdx_zero (enough : need ≤ bars.length)
    (plus : ∀ movement ∈ barMovements upward (window bars), movement = 0)
    (minus : ∀ movement ∈ barMovements downward (window bars), movement = 0) :
    onBars wilderAdx bars = { adx := 0, plus := 0, minus := 0 } := by
  have all := window_length enough
  have ranged : (trueRange ((window bars).map Bar.high) ((window bars).map Bar.low)
      ((window bars).map Bar.close)).length = need - 1 := by
    unfold trueRange
    rw [ranges_length (by simp) (by simp), List.length_tail, List.length_map, all]
  have still : ∀ total ∈ totals adxPeriod (barMovements upward (window bars)), total = 0 :=
    totals_eq_zero plus
  have level : ∀ total ∈ totals adxPeriod (barMovements downward (window bars)), total = 0 :=
    totals_eq_zero minus
  simp only [onBars, wilderAdx, lastOf_map]
  rw [Reading.mk.injEq]
  refine ⟨average_zero ?_ (spreads_eq_zero (shares_eq_zero still) (shares_eq_zero level)),
    last_eq_zero (shares_eq_zero still), last_eq_zero (shares_eq_zero level)⟩
  have up : (pdm ((window bars).map Bar.high) ((window bars).map Bar.low)).length = need - 1 := by
    rw [← all]
    exact barMovements_length (window bars)
  have down : (mdm ((window bars).map Bar.high) ((window bars).map Bar.low)).length = need - 1 := by
    rw [← all]
    exact barMovements_length (window bars)
  rw [List.length_zipWith, List.length_zipWith, List.length_zipWith, totals_length, totals_length,
    totals_length, ranged, up, down]
  decide

end Values

section Directions

variable {bars : List Bar} {counted : Rat → Rat → Rat}

theorem undirected_shift (offset : Rat) (previous next : Bar) :
    Undirected (previous.shift offset) (next.shift offset) ↔ Undirected previous next := by
  unfold Undirected Bar.shift
  simp only [add_sub_add_right_eq_sub, add_le_add_iff_right]

theorem chain_shift (offset : Rat) :
    List.IsChain Undirected (bars.map (Bar.shift offset)) ↔ List.IsChain Undirected bars := by
  rw [List.isChain_map]
  simp only [undirected_shift]

/-- Where no bar has a direction all values are zero. -/
theorem undirected_zero (enough : need ≤ bars.length)
    (chain : List.IsChain Undirected (window bars)) :
    onBars unclamped bars = { adx := 0, plus := 0, minus := 0 } ∧
      onBars adx bars = { adx := 0, plus := 0, minus := 0 } := by
  obtain ⟨plus, minus⟩ := (undirected_iff (window bars)).mpr chain
  have zero := unclamped_zero plus minus
  refine ⟨zero, ?_⟩
  rw [adx_eq enough, zero]
  rfl

/-- If an indicator does not depend on the price level, its movements are all zero. -/
theorem movements_zero (enough : need ≤ bars.length) (nonneg : ∀ up dn, 0 ≤ counted up dn)
    (constant : Rat)
    (level : ∀ offset, share (smooth adxPeriod (range ((window bars).map (Bar.shift offset))))
      (smooth adxPeriod (barMovements counted (window bars))) = constant) :
    ∀ movement ∈ barMovements counted (window bars), movement = 0 := by
  have all := window_length enough
  have many : adxPeriod ≤ (barMovements counted (window bars)).length := by
    rw [barMovements_length, all]
    decide
  have none := share_constant (range_unbounded all.ge) level
  have counts : ∀ movement ∈ barMovements counted (window bars), 0 ≤ movement :=
    zipWith_forall (fun up _ dn _ => nonneg up dn)
  exact (smooth_eq_zero_iff (by decide) many counts).mp none

/-- Indicators that do not depend on the price level come from bars without a direction. -/
theorem undirected_of_level (enough : need ≤ bars.length)
    (level : ∀ offset, onBars adx (bars.map (Bar.shift offset)) = onBars adx bars) :
    List.IsChain Undirected (window bars) := by
  have long (offset : Rat) : need ≤ (bars.map (Bar.shift offset)).length := by
    rw [List.length_map]
    exact enough
  apply (undirected_iff (window bars)).mp
  constructor
  · refine movements_zero enough upward_nonneg (onBars adx bars).plus (fun offset => ?_)
    rw [← level offset, adx_eq (long offset), unclamped_plus (long offset), window_shift,
      barMovements_shift]
  · refine movements_zero enough downward_nonneg (onBars adx bars).minus (fun offset => ?_)
    rw [← level offset, adx_eq (long offset), unclamped_minus (long offset), window_shift,
      barMovements_shift]

end Directions

/-- On 42 or more bars the result is Wilder's exactly if none of the last 42 bars goes further
on one side than on the other and further than the bar before. -/
theorem adx_wilder_iff (bars : List Bar) (enough : 42 ≤ bars.length) :
    IsWilder bars ↔ List.IsChain Undirected (window bars) := by
  constructor
  · intro wilder
    exact undirected_of_level enough wilder.level
  · intro chain
    obtain ⟨raw, returned⟩ := undirected_zero enough chain
    obtain ⟨plus, minus⟩ := (undirected_iff (window bars)).mpr chain
    have bounded : InPercent 0 := by norm_num [InPercent]
    refine ⟨?_, ?_, ?_, ?_, ?_⟩
    · rw [returned, wilderAdx_zero enough plus minus]
    · rw [raw]
      exact bounded
    · rw [raw]
      exact bounded
    · rw [raw]
      exact bounded
    · intro offset
      have long : need ≤ (bars.map (Bar.shift offset)).length := by
        rw [List.length_map]
        exact enough
      have shifted : List.IsChain Undirected (window (bars.map (Bar.shift offset))) := by
        rw [window_shift, chain_shift]
        exact chain
      rw [returned, (undirected_zero long shifted).2]

/-- Bars that rise by one. -/
def rising : List Bar := (List.range 42).map (fun i => (Bar.mk 101 99 100 (by norm_num)
  (by norm_num)).shift i)

/-- The sum of the spreads, before the clamp. -/
theorem rising_overshoots : (onBars unclamped rising).adx = 2000 ∧ ¬ IsWilder rising := by
  have twothousand : (onBars unclamped rising).adx = 2000 := by decide +kernel
  refine ⟨twothousand, fun wilder => ?_⟩
  have bounded := wilder.adx_bounded.2
  rw [twothousand] at bounded
  norm_num at bounded

def steady : List Bar := List.replicate 42 ⟨101, 99, 100, by norm_num, by norm_num⟩

theorem steady_wilder : IsWilder steady :=
  (adx_wilder_iff steady (by decide)).mpr (by
    apply List.isChain_replicate_of_rel
    exact Or.inr ⟨le_rfl, le_rfl⟩)

end OptionChain.WilderAdx
