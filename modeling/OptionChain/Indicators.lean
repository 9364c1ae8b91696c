import OptionChain.CandleCache
import OptionChain.Means
import OptionChain.PoolIndicators

/-!
# The indicators of a candle series

What `CandleCache` computes from the closed candles of an index and a timeframe. The
relative strength index is that of the pool engine.

Whatever the candles are, a snapshot stays within their range: `snapshot_sound` puts the
averages between the lowest low and the highest high, the average true range under their
distance, and the strength indices between 0 and 100. The directional movement is taken
from differences of highs and lows, as the source has it, and is only known not to be
negative.
-/

namespace OptionChain.Indicators

open CandleCache (Bucket)
open Means

/-- `VWAP_WINDOW`. -/
def vwapWindow : Nat := 500

/-- `ADX_PERIOD`. -/
def adxPeriod : Nat := 20

/-- The periods of `IndicatorConfig`. -/
structure Periods where
  emaFast : Nat
  emaSlow : Nat
  atr : Nat
  volumeMa : Nat
  emaFast_pos : 0 < emaFast
  emaSlow_pos : 0 < emaSlow
  atr_pos : 0 < atr
  volumeMa_pos : 0 < volumeMa

section Formulas

variable (candles : List Bucket)

def vwap : Rat :=
  let window := candles.rtake vwapWindow
  if (window.map Bucket.volume).sum = 0 then (window.getLast?.map Bucket.close).getD 0
  else weightedMean (window.map fun candle =>
    ((candle.high + candle.low + candle.close) / 3, (candle.volume : Rat)))

def ema (period : Nat) : Rat :=
  let closes := candles.map Bucket.close
  if closes.length < period then closes.getLast?.getD 0
  else smooth (2 / (period + 1)) (mean (closes.take period)) (closes.drop period)

def trueRange (before candle : Bucket) : Rat :=
  max (candle.high - candle.low)
    (max |candle.high - before.close| |candle.low - before.close|)

def atr (period : Nat) : Rat :=
  if candles.length < 2 then 0
  else
    let recent := candles.rtake (min candles.length (period + 1))
    let ranges := recent.zipWith trueRange recent.tail
    mean (if period ≤ ranges.length then ranges.rtake period else ranges)

/-- `vol_ma` of `_compute_snapshot`. -/
def volMa (period : Nat) : Rat :=
  let volumes := candles.map fun candle => (candle.volume : Rat)
  mean (if period ≤ volumes.length then volumes.rtake period else volumes)

/-- `np.diff`. -/
def diff (values : List Rat) : List Rat :=
  values.zipWith (fun earlier later => later - earlier) values.tail

/-- `_wilder`: a running sum that forgets a part of itself. -/
def wilder (arr : List Rat) : List Rat :=
  List.replicate (adxPeriod - 1) 0 ++
    (arr.drop adxPeriod).scanl (fun (out value : Rat) => out - out / adxPeriod + value)
      (arr.take adxPeriod).sum

/-- One side of the directional movement: a move that beats the other one. -/
def movement (moves others : List Rat) : List Rat :=
  moves.zipWith (fun move other => if other < move ∧ 0 < move then move else 0) others

/-- `pdi` and `mdi`. -/
def directional (moved range : List Rat) : List Rat :=
  moved.zipWith (fun move total => if 0 < total then 100 * move / total else 0) range

/-- The body of `adx` on the candles that it needs. The true range is taken over
differences. -/
def directions (recent : List Bucket) : Rat × Rat × Rat :=
  let up := diff (recent.map Bucket.high)
  let lows := diff (recent.map Bucket.low)
  let down := lows.map (- ·)
  let previous := (recent.map Bucket.close).dropLast
  let range := (up.zip (lows.zip previous)).map fun move =>
    max (move.1 - move.2.1) (max |move.1 - move.2.2| |move.2.1 - move.2.2|)
  let pdi := directional (wilder (movement up down)) (wilder range)
  let mdi := directional (wilder (movement down up)) (wilder range)
  let dx := pdi.zipWith (fun plus minus =>
    if 0 < plus + minus then 100 * |plus - minus| / (plus + minus) else 0) mdi
  (min (max ((wilder (dx.drop (adxPeriod - 1))).getLast?.getD 0) 0) 100,
    pdi.getLast?.getD 0, mdi.getLast?.getD 0)

/-- `adx`, `+di` and `-di`. -/
def adx : Rat × Rat × Rat :=
  let need := adxPeriod * 2 + 2
  if candles.length < need then (0, 0, 0) else directions (candles.rtake need)

end Formulas

structure TechSnapshot where
  symbol : String
  timeframe : Nat
  timestamp : Int
  ltp : Rat
  rsi : Rat
  vwapVal : Rat
  adxVal : Rat
  plusDi : Rat
  minusDi : Rat
  emaFast : Rat
  emaSlow : Rat
  atrVal : Rat
  volMa : Rat
  current : Bucket
  previous : Bucket
deriving DecidableEq

/-- `_compute_snapshot`, of at least five candles. A series of one candle would be its own
predecessor. -/
def computeSnapshot (periods : Periods) (symbol : String) (timeframe : Nat) (ltp : Rat)
    (timestamp : Int) (candles : List Bucket) : Option TechSnapshot :=
  if candles.length < 5 then none
  else
    candles.getLast?.map fun last =>
      let directions := adx candles
      { symbol := symbol
        timeframe := timeframe
        timestamp := timestamp
        ltp := ltp
        rsi := PoolIndicators.rsi (candles.map Bucket.close)
        vwapVal := vwap candles
        adxVal := directions.1
        plusDi := directions.2.1
        minusDi := directions.2.2
        emaFast := ema candles periods.emaFast
        emaSlow := ema candles periods.emaSlow
        atrVal := atr candles periods.atr
        volMa := volMa candles periods.volumeMa
        current := last
        previous := (candles.dropLast.getLast?).getD last }

/-! ## Snapshots within the range of their candles -/

section Sound

/-- A candle within a price range, with a natural volume. -/
structure SoundCandle (low high : Rat) (candle : Bucket) : Prop where
  low_mem : low ≤ candle.low
  high_mem : candle.high ≤ high
  opening_mem : candle.opening ∈ Set.Icc candle.low candle.high
  close_mem : candle.close ∈ Set.Icc candle.low candle.high
  volume_nonneg : 0 ≤ candle.volume

/-- What a snapshot promises within a price range. -/
structure SoundSnapshot (low high : Rat) (snapshot : TechSnapshot) : Prop where
  rsi_mem : snapshot.rsi ∈ Set.Icc 0 100
  vwap_mem : snapshot.vwapVal ∈ Set.Icc low high
  adx_mem : snapshot.adxVal ∈ Set.Icc 0 100
  plusDi_nonneg : 0 ≤ snapshot.plusDi
  minusDi_nonneg : 0 ≤ snapshot.minusDi
  emaFast_mem : snapshot.emaFast ∈ Set.Icc low high
  emaSlow_mem : snapshot.emaSlow ∈ Set.Icc low high
  atr_mem : snapshot.atrVal ∈ Set.Icc 0 (high - low)
  volMa_nonneg : 0 ≤ snapshot.volMa
  current_sound : SoundCandle low high snapshot.current
  previous_sound : SoundCandle low high snapshot.previous

variable {low high : Rat} {candles : List Bucket}

theorem SoundCandle.mem {candle : Bucket} (sound : SoundCandle low high candle) :
    candle.low ∈ Set.Icc low high ∧ candle.high ∈ Set.Icc low high ∧
      candle.close ∈ Set.Icc low high := by
  obtain ⟨above, below, _, close, _⟩ := sound
  obtain ⟨atLeast, atMost⟩ := close
  exact ⟨⟨above, by linarith⟩, ⟨by linarith, below⟩, ⟨by linarith, by linarith⟩⟩

theorem mem_rtake {candle : Bucket} {count : Nat} (member : candle ∈ candles.rtake count) :
    candle ∈ candles :=
  (Buckets.rtake_suffix count candles).subset member

theorem rtake_ne_nil (some : candles ≠ []) {count : Nat} (positive : 0 < count) :
    candles.rtake count ≠ [] := by
  have long := List.length_pos_iff.mpr some
  rw [← List.length_pos_iff, List.rtake, List.length_drop]
  omega

theorem rsi_mem (closes : List Rat) : PoolIndicators.rsi closes ∈ Set.Icc 0 100 := by
  rw [PoolIndicators.rsi]
  split
  · constructor <;> norm_num
  · dsimp only
    generalize List.zipWith _ _ _ = deltas
    have gains : 0 ≤ (deltas.map fun delta => max delta 0).sum / 14 := by
      apply div_nonneg _ (by norm_num)
      apply List.sum_nonneg
      intro gain member
      obtain ⟨delta, _, rfl⟩ := List.mem_map.mp member
      exact le_max_right _ _
    have losses : 0 ≤ (deltas.map fun delta => max (-delta) 0).sum / 14 := by
      apply div_nonneg _ (by norm_num)
      apply List.sum_nonneg
      intro loss member
      obtain ⟨delta, _, rfl⟩ := List.mem_map.mp member
      exact le_max_right _ _
    split
    · constructor <;> norm_num
    · have ratio := div_nonneg gains losses
      generalize (deltas.map fun delta => max delta 0).sum / 14 /
        ((deltas.map fun delta => max (-delta) 0).sum / 14) = strength at ratio ⊢
      have positive : 0 < 1 + strength := by linarith
      have upper : 100 / (1 + strength) ≤ 100 := by
        rw [div_le_iff₀ positive]
        nlinarith
      have lower : 0 ≤ 100 / (1 + strength) := by positivity
      constructor <;> linarith

theorem vwap_mem (sound : ∀ candle ∈ candles, SoundCandle low high candle) (some : candles ≠ []) :
    vwap candles ∈ Set.Icc low high := by
  rw [vwap]
  split
  case isTrue =>
    have nonempty : candles.rtake vwapWindow ≠ [] := rtake_ne_nil some (by decide)
    rw [List.getLast?_eq_some_getLast nonempty]
    exact (sound _ (mem_rtake (List.getLast_mem nonempty))).mem.2.2
  case isFalse traded =>
    apply weightedMean_mem
    · intro pair member
      obtain ⟨candle, present, rfl⟩ := List.mem_map.mp member
      obtain ⟨⟨low₁, low₂⟩, ⟨high₁, high₂⟩, ⟨close₁, close₂⟩⟩ :=
        (sound candle (mem_rtake present)).mem
      constructor <;> dsimp only <;> linarith
    · intro pair member
      obtain ⟨candle, present, rfl⟩ := List.mem_map.mp member
      exact Int.cast_nonneg (sound candle (mem_rtake present)).volume_nonneg
    · have total : ((candles.rtake vwapWindow).map fun candle => (candle.volume : Rat)).sum =
          (((candles.rtake vwapWindow).map Bucket.volume).sum : Int) := by
        have homomorphism := map_list_sum (Int.castAddHom Rat)
          ((candles.rtake vwapWindow).map Bucket.volume)
        rw [List.map_map] at homomorphism
        exact homomorphism.symm
      rw [List.map_map, Function.comp_def, total]
      exact_mod_cast traded

theorem ema_mem (sound : ∀ candle ∈ candles, SoundCandle low high candle) (some : candles ≠ [])
    {period : Nat} (positive : 0 < period) : ema candles period ∈ Set.Icc low high := by
  have closes : ∀ close ∈ candles.map Bucket.close, close ∈ Set.Icc low high := by
    intro close member
    obtain ⟨candle, present, rfl⟩ := List.mem_map.mp member
    exact (sound candle present).mem.2.2
  rw [ema]
  split
  case isTrue =>
    have nonempty : candles.map Bucket.close ≠ [] := by simpa using some
    rw [List.getLast?_eq_some_getLast nonempty]
    exact closes _ (List.getLast_mem nonempty)
  case isFalse long =>
    have whole : (1 : Rat) ≤ period := by exact_mod_cast positive
    apply smooth_mem
    · constructor
      · positivity
      · rw [div_le_one (by linarith)]
        linarith
    · apply mean_mem
      · exact fun close member => closes close (List.mem_of_mem_take member)
      · rw [← List.length_pos_iff, List.length_take]
        omega
    · exact fun close member => closes close (List.mem_of_mem_drop member)

theorem trueRange_mem {before candle : Bucket} (first : SoundCandle low high before)
    (second : SoundCandle low high candle) :
    trueRange before candle ∈ Set.Icc 0 (high - low) := by
  obtain ⟨_, _, ⟨close₁, close₂⟩⟩ := first.mem
  obtain ⟨⟨low₁, low₂⟩, ⟨high₁, high₂⟩, _⟩ := second.mem
  constructor
  · exact le_max_of_le_right (le_max_of_le_left (abs_nonneg _))
  · apply max_le
    · linarith
    · apply max_le
      · rw [abs_le]
        constructor <;> linarith
      · rw [abs_le]
        constructor <;> linarith

theorem atr_mem (sound : ∀ candle ∈ candles, SoundCandle low high candle) (some : candles ≠ [])
    {period : Nat} (positive : 0 < period) : atr candles period ∈ Set.Icc 0 (high - low) := by
  have wide : 0 ≤ high - low := by
    obtain ⟨candle, present⟩ := List.exists_mem_of_ne_nil candles some
    obtain ⟨⟨below, above⟩, _, _⟩ := (sound candle present).mem
    linarith
  rw [atr]
  split
  case isTrue => exact ⟨le_rfl, wide⟩
  case isFalse long =>
    have within : ∀ candle ∈ candles.rtake (min candles.length (period + 1)), candle ∈ candles :=
      fun candle member => mem_rtake member
    have many : 2 ≤ (candles.rtake (min candles.length (period + 1))).length := by
      rw [List.rtake, List.length_drop]
      omega
    generalize candles.rtake (min candles.length (period + 1)) = latest at within many ⊢
    have inside : ∀ range ∈ latest.zipWith trueRange latest.tail,
        range ∈ Set.Icc 0 (high - low) := by
      intro range member
      obtain ⟨index, bound, rfl⟩ := List.mem_iff_getElem.mp member
      rw [List.getElem_zipWith]
      apply trueRange_mem
      · exact sound _ (within _ (List.getElem_mem _))
      · exact sound _ (within _ (List.mem_of_mem_tail (List.getElem_mem _)))
    have counted : (latest.zipWith trueRange latest.tail).length = latest.length - 1 := by
      rw [List.length_zipWith, List.length_tail]
      omega
    apply mean_mem
    · intro range member
      split at member
      · exact inside range (List.mem_of_mem_drop member)
      · exact inside range member
    · rw [← List.length_pos_iff]
      split
      · rw [List.rtake, List.length_drop]
        omega
      · omega

theorem volMa_nonneg (sound : ∀ candle ∈ candles, SoundCandle low high candle) (period : Nat) :
    0 ≤ volMa candles period := by
  have natural : ∀ volume ∈ candles.map (fun candle => (candle.volume : Rat)), 0 ≤ volume := by
    intro volume member
    obtain ⟨candle, present, rfl⟩ := List.mem_map.mp member
    exact Int.cast_nonneg (sound candle present).volume_nonneg
  apply div_nonneg _ (Nat.cast_nonneg _)
  apply List.sum_nonneg
  intro volume member
  split at member
  · exact natural volume (List.mem_of_mem_drop member)
  · exact natural volume member

/-- A running sum of natural values that forgets a twentieth of itself stays natural. -/
theorem wilder_nonneg {arr : List Rat} (natural : ∀ value ∈ arr, 0 ≤ value) :
    ∀ out ∈ wilder arr, 0 ≤ out := by
  have running : ∀ (rest : List Rat) (start : Rat), 0 ≤ start → (∀ value ∈ rest, 0 ≤ value) →
      ∀ out ∈ rest.scanl (fun (out value : Rat) => out - out / adxPeriod + value) start,
        0 ≤ out := by
    intro rest
    induction rest with
    | nil =>
      intro start begins _ out member
      rw [List.scanl_nil, List.mem_singleton] at member
      exact member ▸ begins
    | cons value rest inductionHypothesis =>
      intro start begins others out member
      rw [List.scanl_cons, List.mem_cons] at member
      rcases member with rfl | later
      · exact begins
      · apply inductionHypothesis _ _ (fun other member => others other (by simp [member])) out
          later
        have here := others value List.mem_cons_self
        have part : start / adxPeriod ≤ start :=
          div_le_self begins (by norm_num [adxPeriod])
        linarith
  intro out member
  rw [wilder, List.mem_append] at member
  rcases member with zero | later
  · exact (List.eq_of_mem_replicate zero) ▸ le_rfl
  · apply running _ _ _ (fun value member => natural value (List.mem_of_mem_drop member)) out later
    apply List.sum_nonneg
    exact fun value member => natural value (List.mem_of_mem_take member)

theorem movement_nonneg (moves others : List Rat) : ∀ move ∈ movement moves others, 0 ≤ move := by
  intro move member
  obtain ⟨index, bound, rfl⟩ := List.mem_iff_getElem.mp member
  simp only [movement, List.getElem_zipWith]
  split
  case isTrue beats => exact beats.2.le
  case isFalse => exact le_rfl

theorem directional_nonneg {moved : List Rat} (natural : ∀ move ∈ moved, 0 ≤ move)
    (range : List Rat) : ∀ part ∈ directional moved range, 0 ≤ part := by
  intro part member
  obtain ⟨index, bound, rfl⟩ := List.mem_iff_getElem.mp member
  simp only [directional, List.getElem_zipWith]
  split
  case isTrue positive =>
    have move := natural _ (List.getElem_mem (l := moved) (n := index) (by
      simp only [directional, List.length_zipWith] at bound
      omega))
    positivity
  case isFalse => exact le_rfl

theorem last_nonneg {values : List Rat} (natural : ∀ value ∈ values, 0 ≤ value) :
    0 ≤ values.getLast?.getD 0 := by
  cases last : values.getLast? with
  | none => exact le_rfl
  | some value => exact natural value (List.mem_of_getLast? last)

theorem directions_sound (recent : List Bucket) : ∃ strength plus minus,
    directions recent = (min (max strength 0) 100, plus, minus) ∧ 0 ≤ plus ∧ 0 ≤ minus :=
  ⟨_, _, _, rfl, last_nonneg (directional_nonneg (wilder_nonneg (movement_nonneg _ _)) _),
    last_nonneg (directional_nonneg (wilder_nonneg (movement_nonneg _ _)) _)⟩

theorem adx_sound (candles : List Bucket) :
    (adx candles).1 ∈ Set.Icc 0 100 ∧ 0 ≤ (adx candles).2.1 ∧ 0 ≤ (adx candles).2.2 := by
  rw [adx]
  split
  case isTrue => exact ⟨⟨le_rfl, by norm_num⟩, le_rfl, le_rfl⟩
  case isFalse =>
    obtain ⟨strength, plus, minus, same, movedUp, movedDown⟩ :=
      directions_sound (candles.rtake (adxPeriod * 2 + 2))
    rw [same]
    exact ⟨⟨le_min (le_max_right _ _) (by norm_num), min_le_right _ _⟩, movedUp, movedDown⟩

/-- A snapshot stays within the range of its candles. -/
theorem snapshot_sound (periods : Periods) {symbol : String} {timeframe : Nat} {ltp : Rat}
    {timestamp : Int} (sound : ∀ candle ∈ candles, SoundCandle low high candle)
    {snapshot : TechSnapshot}
    (computed : computeSnapshot periods symbol timeframe ltp timestamp candles = some snapshot) :
    SoundSnapshot low high snapshot := by
  rw [computeSnapshot] at computed
  split at computed
  case isTrue => cases computed
  case isFalse long =>
    have some : candles ≠ [] := by
      rintro rfl
      exact long (Nat.succ_pos 4)
    obtain ⟨last, found, rfl⟩ := Option.map_eq_some_iff.mp computed
    have here := sound last (List.mem_of_getLast? found)
    obtain ⟨strength, plus, minus⟩ := adx_sound candles
    constructor <;> dsimp only
    · exact rsi_mem (candles.map Bucket.close)
    · exact vwap_mem sound some
    · exact strength
    · exact plus
    · exact minus
    · exact ema_mem sound some periods.emaFast_pos
    · exact ema_mem sound some periods.emaSlow_pos
    · exact atr_mem sound some periods.atr_pos
    · exact volMa_nonneg sound periods.volumeMa
    · exact here
    · cases before : candles.dropLast.getLast? with
      | none => exact here
      | some previous =>
        exact sound previous ((List.dropLast_subset _) (List.mem_of_getLast? before))

end Sound

end OptionChain.Indicators
