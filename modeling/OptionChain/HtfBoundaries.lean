import Mathlib.Data.List.SplitBy
import Mathlib.Tactic.Ring
import OptionChain.TickBuckets
import OptionChain.TrapPosition

/-!
# When the higher timeframe is scanned

A scan of the higher timeframe resamples the stored one-minute bars into bars of
`htf_minutes`, counted from the midnight of the first stored day. It is made when a
one-minute bar closes and the minute of the hour is a multiple of `htf_minutes`.

The two agree on every stream exactly for the divisors of an hour. The default of 75
minutes is none.
-/

namespace OptionChain.HtfBoundaries

open Runs TickBuckets
open TrapPosition (HtfSource)

/-- A day in microseconds. -/
def dayLength : Int := 24 * 60 * minuteLength

/-- The midnight before a time. -/
def midnight (ts : Int) : Int := ts - ts % dayLength

/-- `ts.minute`. -/
def minuteOfHour (ts : Int) : Int := ts / minuteLength % 60

/-- The start of the bar that a time falls in, counted from an origin. -/
def label (htfMin : Nat) (origin ts : Int) : Int :=
  origin + (ts - origin) / (htfMin * minuteLength) * (htfMin * minuteLength)

/-- The first, the highest, the lowest and the last price of some bars, and their volume. -/
def aggregate (start : Int) : List Candle → Option Candle
  | [] => none
  | first :: rest => some
      { ts := start
        opening := first.opening
        high := (rest.map Candle.high).foldl max first.high
        low := (rest.map Candle.low).foldl min first.low
        close := (rest.getLast?.map Candle.close).getD first.close
        volume := first.volume + (rest.map Candle.volume).sum }

/-- `_resample_htf` of bars in order. -/
def resampleHtf (htfMin : Nat) : List Candle → List Candle
  | [] => []
  | first :: rest =>
      let start := fun bar : Candle => label htfMin (midnight first.ts) bar.ts
      ((first :: rest).splitBy (fun one other => decide (start one = start other))).filterMap
        (fun group => (group.head?.map start).bind (fun start => aggregate start group))

/-- The legs that have candles. -/
inductive BarLeg where
  | spot
  | fut
  | ce1
  | ce2
  | pe1
  | pe2
deriving DecidableEq

/-- The leg whose candles trigger the scan. -/
def triggerLeg : HtfSource → BarLeg
  | .option => .ce1
  | .spot => .spot
  | .futures => .fut

/-- Whether `_on_candle_close` scans the higher timeframe. -/
def onCandleClose (htfMin : Nat) (source : HtfSource) (inPosition : Bool) (leg : BarLeg)
    (ts : Int) : Bool :=
  if inPosition then false
  else decide (minuteOfHour ts % htfMin = 0) && decide (leg = triggerLeg source)

/-- A candle of the trigger leg, and the time of the tick that closes it. -/
structure Close where
  bar : Candle
  ts : Int

/-- The stored bars after a candle. The last 2000 are kept. -/
def step (bars : List Candle) (close : Close) : List Candle :=
  let bars := bars ++ [close.bar]
  bars.drop (bars.length - 2000)

/-- Every bar is closed by a tick of the next minute, and followed by the bar of that one. -/
structure MinuteByMinute (closes : List Close) : Prop where
  closed : ∀ close ∈ closes, bucketTs close.ts = close.bar.ts + minuteLength
  consecutive : closes.IsChain (fun one next => next.bar.ts = one.bar.ts + minuteLength)

section Closes

variable (htfMin : Nat) (source : HtfSource)

/-- A bar of the resampled table ends with the minute before the time. -/
def Completes (bars : List Candle) (ts : Int) : Prop :=
  ∃ row ∈ resampleHtf htfMin bars, row.ts + htfMin * minuteLength = bucketTs ts

/-- Without a position, the closing of a candle scans exactly if it completes a bar. -/
def Refreshes (bars : List Candle) (close : Close) : Prop :=
  onCandleClose htfMin source false (triggerLeg source) close.ts = true ↔
    Completes htfMin (step bars close) close.ts

/-- The minutes since the midnight before the first stored bar. -/
def minutesSince (bars : List Candle) (ts : Int) : Int :=
  (bucketTs ts - (bars.head?.map (fun first => midnight first.ts)).getD 0) / minuteLength

/-- The minute of the hour and the minutes since the first midnight are both multiples of
`htf_minutes` or both none. -/
def Agrees (bars : List Candle) (close : Close) : Prop :=
  (htfMin : Int) ∣ minuteOfHour close.ts ↔
    (htfMin : Int) ∣ minutesSince (step bars close) close.ts

end Closes

section Rows

variable {htfMin : Nat} {bars : List Candle} {origin ts : Int}

/-- The rows start where the bars fall. -/
theorem row_label {first : Candle} {rest : List Candle} {row : Candle}
    (member : row ∈ resampleHtf htfMin (first :: rest)) :
    ∃ bar ∈ first :: rest, row.ts = label htfMin (midnight first.ts) bar.ts := by
  simp only [resampleHtf] at member
  obtain ⟨group, cut, made⟩ := List.mem_filterMap.mp member
  cases group with
  | nil => cases made
  | cons bar others =>
    refine ⟨bar, ?_, ?_⟩
    · rw [← List.flatten_splitBy (fun one other => decide (label htfMin (midnight first.ts) one.ts =
        label htfMin (midnight first.ts) other.ts)) (first :: rest)]
      exact List.mem_flatten.mpr ⟨_, cut, List.mem_cons_self⟩
    · obtain rfl := Option.some.inj made
      rfl

/-- A chain of equal values is constant. -/
theorem chain_constant {α β : Type} {value : α → β} {head item : α} {rest : List α}
    (chain : (head :: rest).IsChain (fun one next => value one = value next))
    (member : item ∈ head :: rest) : value item = value head := by
  induction rest generalizing head with
  | nil => rw [List.mem_singleton.mp member]
  | cons next rest inductionHypothesis =>
    obtain ⟨same, later⟩ := List.isChain_cons_cons.mp chain
    rcases List.mem_cons.mp member with rfl | inside
    · rfl
    · rw [inductionHypothesis later inside, same]

/-- Every bar falls into a row. -/
theorem exists_row {first : Candle} {rest : List Candle} {bar : Candle}
    (member : bar ∈ first :: rest) :
    ∃ row ∈ resampleHtf htfMin (first :: rest),
      row.ts = label htfMin (midnight first.ts) bar.ts := by
  let start := fun bar : Candle => label htfMin (midnight first.ts) bar.ts
  let same := fun one other : Candle => decide (start one = start other)
  have whole : bar ∈ ((first :: rest).splitBy same).flatten := by
    rw [List.flatten_splitBy]
    exact member
  obtain ⟨group, cut, inside⟩ := List.mem_flatten.mp whole
  have chain := List.isChain_of_mem_splitBy cut
  cases group with
  | nil => cases inside
  | cons head others =>
    have constant : start bar = start head :=
      chain_constant (chain.imp (fun one other equal => of_decide_eq_true equal)) inside
    obtain ⟨row, made, starts⟩ :
        ∃ row, aggregate (start head) (head :: others) = some row ∧ row.ts = start head :=
      ⟨_, rfl, rfl⟩
    exact ⟨row, List.mem_filterMap.mpr ⟨_, cut, made⟩, starts.trans constant.symm⟩

/-- A minute that ends whole bars after the origin ends the bar that it falls in. -/
theorem label_end (positive : 0 < htfMin)
    (passed : (htfMin * minuteLength : Int) ∣ ts + minuteLength - origin) :
    label htfMin origin ts + htfMin * minuteLength = ts + minuteLength := by
  have minute : 0 < minuteLength := by decide
  have longer : minuteLength ≤ htfMin * minuteLength := by
    have one : (1 : Int) ≤ htfMin := by exact_mod_cast positive
    nlinarith
  obtain ⟨count, passed⟩ := passed
  have before : ts - origin =
      htfMin * minuteLength - minuteLength + htfMin * minuteLength * (count - 1) := by
    linarith
  have quotient : (ts - origin) / (htfMin * minuteLength) = count - 1 := by
    rw [before, Int.add_mul_ediv_left _ _ (by omega),
      Int.ediv_eq_zero_of_lt (by omega) (by omega), zero_add]
  unfold label
  rw [quotient]
  linarith

/-- The time of a minute is a whole number of minutes. -/
theorem bucketTs_eq (ts : Int) : bucketTs ts = minuteLength * (ts / minuteLength) := by
  unfold bucketTs
  have split := Int.mul_ediv_add_emod ts minuteLength
  omega

theorem midnight_eq (ts : Int) : ∃ days, midnight ts = minuteLength * (1440 * days) := by
  refine ⟨ts / dayLength, ?_⟩
  have split := Int.mul_ediv_add_emod ts dayLength
  unfold midnight
  have day : dayLength = minuteLength * 1440 := by decide
  rw [← mul_assoc, ← day]
  omega

/-- The minutes since the first midnight are those of the day, up to whole days. -/
theorem minutesSince_eq (bars : List Candle) (ts : Int) :
    ∃ days, minutesSince bars ts = ts / minuteLength - 1440 * days ∧
      bucketTs ts - (bars.head?.map (fun first => midnight first.ts)).getD 0 =
        minuteLength * minutesSince bars ts := by
  obtain ⟨days, origin⟩ : ∃ days,
      (bars.head?.map (fun first => midnight first.ts)).getD 0 =
        minuteLength * (1440 * days) := by
    cases bars with
    | nil => exact ⟨0, rfl⟩
    | cons first rest => exact midnight_eq first.ts
  have passed : minutesSince bars ts = ts / minuteLength - 1440 * days := by
    unfold minutesSince
    rw [bucketTs_eq, origin, ← mul_sub]
    exact Int.mul_ediv_cancel_left _ (by decide)
  refine ⟨days, passed, ?_⟩
  rw [passed, bucketTs_eq, origin, mul_sub]

/-- The closing of a stored bar by the next minute completes a bar exactly if whole bars
have passed since the first midnight. -/
theorem completes_iff (positive : 0 < htfMin) {bar : Candle} (member : bar ∈ bars)
    (closed : bucketTs ts = bar.ts + minuteLength) :
    Completes htfMin bars ts ↔ (htfMin : Int) ∣ minutesSince bars ts := by
  obtain ⟨-, -, whole⟩ := minutesSince_eq bars ts
  have scaled : (htfMin : Int) ∣ minutesSince bars ts ↔
      (htfMin * minuteLength : Int) ∣ minuteLength * minutesSince bars ts := by
    rw [mul_comm (htfMin : Int)]
    exact (mul_dvd_mul_iff_left (by decide)).symm
  rw [scaled, ← whole]
  cases bars with
  | nil => cases member
  | cons first rest =>
    change Completes htfMin (first :: rest) ts ↔
      (htfMin * minuteLength : Int) ∣ bucketTs ts - midnight first.ts
    constructor
    · rintro ⟨row, present, ends⟩
      obtain ⟨other, -, starts⟩ := row_label present
      refine ⟨(other.ts - midnight first.ts) / (htfMin * minuteLength) + 1, ?_⟩
      rw [← ends, starts]
      unfold label
      ring
    · intro passed
      obtain ⟨row, present, starts⟩ := exists_row member
      refine ⟨row, present, ?_⟩
      rw [closed] at passed ⊢
      rw [starts]
      exact label_end positive passed

end Rows

section Streams

variable {htfMin : Nat} {source : HtfSource} {bars : List Candle} {close : Close}

/-- The closed bar is stored. -/
theorem mem_step : close.bar ∈ step bars close := by
  unfold step
  dsimp only
  rw [List.drop_append_of_le_length (by rw [List.length_append, List.length_singleton]; omega)]
  exact List.mem_append_right _ (List.mem_singleton_self _)

theorem onCandleClose_iff :
    onCandleClose htfMin source false (triggerLeg source) close.ts = true ↔
      (htfMin : Int) ∣ minuteOfHour close.ts := by
  unfold onCandleClose
  rw [Int.dvd_iff_emod_eq_zero, if_neg Bool.false_ne_true, Bool.and_eq_true, decide_eq_true_iff,
    decide_eq_true_iff]
  exact and_iff_left rfl

/-- A closing refreshes as it should exactly if both counts of minutes agree. -/
theorem refreshes_iff (positive : 0 < htfMin)
    (closed : bucketTs close.ts = close.bar.ts + minuteLength) :
    Refreshes htfMin source bars close ↔ Agrees htfMin bars close := by
  unfold Refreshes Agrees
  rw [onCandleClose_iff, completes_iff positive mem_step closed]

/-- A divisor of the hour divides both counts or none. -/
theorem agrees_of_dvd (divides : htfMin ∣ 60) : Agrees htfMin bars close := by
  obtain ⟨days, passed, -⟩ := minutesSince_eq (step bars close) close.ts
  have hour : (htfMin : Int) ∣ 60 := by exact_mod_cast divides
  have day : (htfMin : Int) ∣ 1440 * days :=
    (hour.trans (by decide : (60 : Int) ∣ 1440)).mul_right days
  unfold Agrees minuteOfHour
  rw [passed, Int.dvd_iff_emod_eq_zero, Int.emod_emod_of_dvd _ hour,
    ← Int.dvd_iff_emod_eq_zero]
  exact (dvd_sub_left day).symm

/-- The bar from 00:59 to 01:00. -/
def firstHour : Close := ⟨⟨59 * minuteLength, 100, 100, 100, 100, 0⟩, 60 * minuteLength⟩

theorem firstHour_minutes : MinuteByMinute [firstHour] :=
  ⟨by decide, List.isChain_singleton _⟩

end Streams

/-- Over a stream of closed bars the scan of the higher timeframe is made exactly when a bar
of it is completed, if and only if the minute of the hour and the minutes since the first
midnight are multiples of `htf_minutes` at the same closings. It is so on every stream
exactly if `htf_minutes` divides an hour. -/
theorem htf_refresh_iff (htfMin : Nat) (positive : 0 < htfMin) :
    (∀ (source : HtfSource) (stored : List Candle) (closes : List Close),
      MinuteByMinute closes →
        (Along step (Refreshes htfMin source) stored closes ↔
          Along step (Agrees htfMin) stored closes)) ∧
    ((∀ (source : HtfSource) (stored : List Candle) (closes : List Close),
      MinuteByMinute closes → Along step (Refreshes htfMin source) stored closes) ↔
        htfMin ∣ 60) := by
  have stream : ∀ (source : HtfSource) (stored : List Candle) (closes : List Close),
      MinuteByMinute closes →
        (Along step (Refreshes htfMin source) stored closes ↔
          Along step (Agrees htfMin) stored closes) := by
    intro source stored closes minutes
    have agree : ∀ bars close, True → bucketTs close.ts = close.bar.ts + minuteLength →
        (Refreshes htfMin source bars close ↔ Agrees htfMin bars close) :=
      fun _ _ _ closed => refreshes_iff positive closed
    exact along_iff step (fun _ _ _ _ _ => trivial) agree stored closes trivial
      (along_always step stored closes (fun close member _ => minutes.closed close member))
  refine ⟨stream, ?_, ?_⟩
  · intro always
    have first := (stream .option [] _ firstHour_minutes).mp (always .option [] _ firstHour_minutes)
    have counts : (htfMin : Int) ∣ 0 ↔ (htfMin : Int) ∣ 60 := first.1
    exact_mod_cast counts.mp (dvd_zero _)
  · intro divides source stored closes minutes
    apply (stream source stored closes minutes).mpr
    exact along_always step stored closes (fun _ _ _ => agrees_of_dvd divides)

/-- A half-hour bar is scanned when it is completed. -/
theorem half_hour_refreshed : Along step (Refreshes 30 .option) [] [firstHour] :=
  (htf_refresh_iff 30 (by decide)).2.mpr (by decide) .option [] [firstHour] firstHour_minutes

/-- The bar from 11:14 to 11:15. -/
def lateMorning : Close := ⟨⟨674 * minuteLength, 100, 100, 100, 100, 0⟩, 675 * minuteLength⟩

/-- The bar of 75 minutes from 10:00 is completed at 11:15, and not scanned. -/
theorem default_frame_missed :
    MinuteByMinute [lateMorning] ∧ Completes 75 (step [] lateMorning) lateMorning.ts ∧
      ¬ Along step (Refreshes 75 .option) [] [lateMorning] := by
  have closed : bucketTs lateMorning.ts = lateMorning.bar.ts + minuteLength := by decide
  have completed : Completes 75 (step [] lateMorning) lateMorning.ts :=
    (completes_iff (by decide) mem_step closed).mpr (by decide)
  refine ⟨⟨by decide, List.isChain_singleton _⟩, completed, ?_⟩
  rintro ⟨refreshes, -⟩
  have scanned := refreshes.mpr completed
  exact absurd (onCandleClose_iff.mp scanned) (by decide)

end OptionChain.HtfBoundaries
