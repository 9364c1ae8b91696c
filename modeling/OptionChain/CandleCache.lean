import Mathlib.Algebra.Order.Field.Rat
import Mathlib.Algebra.Order.BigOperators.Group.List
import OptionChain.FeedSubscriptions
import OptionChain.Segments
import OptionChain.Ticks

/-!
# Candles from raw frames

A feeder parses the frames of an index into ticks and publishes those that its guard
against jumps, and the deduplication between two feeders, let through. The candle cache
gathers them into buckets by the minute of the day. The Upstox feeder gives the traded
price for open, high and low and no volume; the Fyers feeder gives the day's open,
high and low and the volume of the day so far, and the cache takes them for the tick's
own.

The verdicts of the deduplication are inputs. What the cache keeps of closed candles and
computes from them is left out.
-/

namespace OptionChain.CandleCache

open FeedSubscriptions (Provider)
open Runs Ticks

section Feeding

/-- A frame for an index: what the Upstox feeder extracts is its last traded price, the
other fields are read from a Fyers frame. -/
structure RawFrame where
  ltp : Option Rat
  openPrice : Option Rat
  highPrice : Option Rat
  lowPrice : Option Rat
  prevClosePrice : Option Rat
  volTradedToday : Option Nat
  timestamp : Int

/-- `raw.get(..) or ltp`. -/
def orLtp (value : Option Rat) (ltp : Rat) : Rat :=
  match value with
  | some price => if price = 0 then ltp else price
  | none => ltp

/-- `_parse_frame` for an index. -/
def parse (symbol : String) : Provider → RawFrame → Option IndexTick
  | .upstox, raw =>
      match raw.ltp with
      | some ltp =>
          if ltp = 0 then none else some ⟨symbol, ltp, ltp, ltp, ltp, ltp, 0, raw.timestamp⟩
      | none => none
  | .fyers, raw =>
      raw.ltp.map fun ltp =>
        ⟨symbol, ltp, orLtp raw.openPrice ltp, orLtp raw.highPrice ltp, orLtp raw.lowPrice ltp,
          orLtp raw.prevClosePrice ltp, (raw.volTradedToday.getD 0 : Nat), raw.timestamp⟩

/-- `_last_good_index` and `_bad_tick_count` of the index. -/
structure Guard where
  lastGood : Rat
  badCount : Nat

/-- The guard of `_publish_index`: a price too far from the last good one is dropped, but
not the third in a row. -/
def Guard.publish (guard : Guard) (ltp : Rat) : Guard × Bool :=
  if 0 < guard.lastGood ∧ 0 < ltp then
    if 3 / 100 < |ltp - guard.lastGood| / guard.lastGood ∧ guard.badCount + 1 < 3 then
      ({ guard with badCount := guard.badCount + 1 }, false)
    else (⟨ltp, 0⟩, true)
  else ({ guard with lastGood := ltp }, true)

/-- A frame with the verdict of the deduplication buffer, if there is one. -/
structure Arrival where
  raw : RawFrame
  accepted : Bool

variable (symbol : String) (provider : Provider)

def guardStep (guard : Guard) (arrival : Arrival) : Guard :=
  match parse symbol provider arrival.raw with
  | some tick => (guard.publish tick.ltp).1
  | none => guard

def guardSend (guard : Guard) (arrival : Arrival) : List IndexTick :=
  match parse symbol provider arrival.raw with
  | some tick => if (guard.publish tick.ltp).2 && arrival.accepted then [tick] else []
  | none => []

/-- The ticks that reach the bus. -/
def published (arrivals : List Arrival) : List IndexTick :=
  sent (guardStep symbol provider) (guardSend symbol provider) ⟨0, 0⟩ arrivals

end Feeding

section Series

def minuteLength : Int := 60 * 10 ^ 6

def dayLength : Int := 24 * 60 * minuteLength

/-- `_floor_ts`. -/
def floorTs (timestamp : Int) (minutes : Nat) : Int :=
  let totalMin := timestamp % dayLength / minuteLength
  let floored := totalMin / minutes * minutes
  timestamp / dayLength * dayLength + floored * minuteLength

/-- A candle in progress. -/
structure Bucket where
  ts : Int
  opening : Rat
  high : Rat
  low : Rat
  close : Rat
  volume : Int
deriving DecidableEq

def Bucket.update (bucket : Bucket) (high low close : Rat) (volume : Int) : Bucket :=
  { bucket with
    high := max bucket.high high
    low := min bucket.low low
    close := close
    volume := bucket.volume + volume }

structure CandleEvent where
  symbol : String
  timeframe : Nat
  opening : Rat
  high : Rat
  low : Rat
  close : Rat
  volume : Int
  timestamp : Int
  isBullish : Bool
deriving DecidableEq

variable (tfMinutes : Nat)

/-- The candle of a bucket that a tick closes. -/
def Bucket.event (bucket : Bucket) (symbol : String) : CandleEvent :=
  ⟨symbol, tfMinutes, bucket.opening, bucket.high, bucket.low, bucket.close, bucket.volume,
    bucket.ts, decide (bucket.opening ≤ bucket.close)⟩

/-- The start of the bucket that a tick falls into. -/
def bucketTs (tick : IndexTick) : Int := floorTs tick.timestamp tfMinutes

/-- The bucket that a tick opens. -/
def Bucket.ofTick (tick : IndexTick) : Bucket :=
  ⟨bucketTs tfMinutes tick, tick.opening, tick.high, tick.low, tick.ltp, tick.volume⟩

def Bucket.absorb (bucket : Bucket) (tick : IndexTick) : Bucket :=
  bucket.update tick.high tick.low tick.ltp tick.volume

/-- `on_tick`. -/
def onTick (bucket : Option Bucket) (tick : IndexTick) : Option Bucket × Option CandleEvent :=
  match bucket with
  | some current =>
      if current.ts = bucketTs tfMinutes tick then (some (current.absorb tick), none)
      else (some (.ofTick tfMinutes tick), some (current.event tfMinutes tick.symbol))
  | none => (some (.ofTick tfMinutes tick), none)

/-- The candles that the series of one index and timeframe emits. -/
def candles (ticks : List IndexTick) : List CandleEvent :=
  sent (fun bucket tick => (onTick tfMinutes bucket tick).1)
    (fun bucket tick => (onTick tfMinutes bucket tick).2.toList) none ticks

end Series

section Meaning

variable (tfMinutes : Nat) (ticks : List IndexTick)

/-- The ticks of a bucket. -/
def bucketTicks (start : Int) : List IndexTick :=
  Segments.under (bucketTs tfMinutes) ticks start

/-- The buckets that a later tick has closed. -/
def closedBuckets : List Int :=
  (ticks.map (bucketTs tfMinutes)).filter fun start =>
    ticks.any fun later => decide (start < bucketTs tfMinutes later)

/-- The volume of the day before a bucket. -/
def volumeBefore (start : Int) : Int :=
  ((ticks.filter fun tick =>
    decide (tick.timestamp / dayLength = start / dayLength) &&
      decide (bucketTs tfMinutes tick < start)).getLast?.map IndexTick.volume).getD 0

/-- A candle is one of the traded price, and a Fyers candle has the volume by which that
of the day has grown. -/
structure Traded (provider : Provider) (candle : CandleEvent) : Prop where
  opening : (bucketTicks tfMinutes ticks candle.timestamp).head?.map IndexTick.ltp =
    some candle.opening
  high : ((bucketTicks tfMinutes ticks candle.timestamp).map IndexTick.ltp).max? =
    some candle.high
  low : ((bucketTicks tfMinutes ticks candle.timestamp).map IndexTick.ltp).min? =
    some candle.low
  close : (bucketTicks tfMinutes ticks candle.timestamp).getLast?.map IndexTick.ltp =
    some candle.close
  volume : provider = .fyers →
    (bucketTicks tfMinutes ticks candle.timestamp).getLast?.map IndexTick.volume =
      some (candle.volume + volumeBefore tfMinutes ticks candle.timestamp)

/-- The first tick of a bucket has the day's open for its price, the greatest of the day's
highs and the least of its lows over the bucket are prices of the bucket's
ticks, and nothing is traded on the day before the bucket's last tick. -/
structure Plain (start : Int) : Prop where
  opening : (bucketTicks tfMinutes ticks start).head?.map IndexTick.opening =
    (bucketTicks tfMinutes ticks start).head?.map IndexTick.ltp
  high : ((bucketTicks tfMinutes ticks start).map IndexTick.high).max? =
    ((bucketTicks tfMinutes ticks start).map IndexTick.ltp).max?
  low : ((bucketTicks tfMinutes ticks start).map IndexTick.low).min? =
    ((bucketTicks tfMinutes ticks start).map IndexTick.ltp).min?
  volume : (∀ tick ∈ (bucketTicks tfMinutes ticks start).dropLast, tick.volume = 0) ∧
    volumeBefore tfMinutes ticks start = 0

end Meaning

section Buckets

variable {tfMinutes : Nat}

/-- Later ticks fall into later buckets. -/
theorem floorTs_mono {early late : Int} (ordered : early ≤ late) :
    floorTs early tfMinutes ≤ floorTs late tfMinutes := by
  have part (timestamp : Int) :
      timestamp % dayLength / minuteLength / tfMinutes * tfMinutes ≤
        timestamp % dayLength / minuteLength ∧
      0 ≤ timestamp % dayLength / minuteLength / tfMinutes * tfMinutes := by
    have minute : 0 ≤ timestamp % dayLength / minuteLength := by
      simp only [dayLength, minuteLength]
      omega
    have frame : (0 : Int) ≤ tfMinutes := Int.natCast_nonneg tfMinutes
    refine ⟨?_, Int.mul_nonneg (Int.ediv_nonneg minute frame) frame⟩
    rcases Nat.eq_zero_or_pos tfMinutes with rfl | positive
    · simpa using minute
    · exact Int.ediv_mul_le _ (by omega)
  have first := part early
  have second := part late
  unfold floorTs
  by_cases same : early / dayLength = late / dayLength
  · have minutes : early % dayLength / minuteLength ≤ late % dayLength / minuteLength := by
      simp only [dayLength, minuteLength] at same ⊢
      omega
    have frame : (0 : Int) ≤ tfMinutes := Int.natCast_nonneg tfMinutes
    have floored : early % dayLength / minuteLength / tfMinutes * tfMinutes ≤
        late % dayLength / minuteLength / tfMinutes * tfMinutes := by
      apply Int.mul_le_mul_of_nonneg_right _ frame
      rcases Nat.eq_zero_or_pos tfMinutes with rfl | positive
      · simp
      · exact Int.ediv_le_ediv (by omega) minutes
    simp only [dayLength, minuteLength] at same floored ⊢
    omega
  · simp only [dayLength, minuteLength] at same first second ⊢
    omega

/-- The series as a segmented stream, whose key is the start of the bucket. -/
def segment (tfMinutes : Nat) : Option (Int × Bucket) → IndexTick → Option (Int × Bucket) :=
  Segments.step (bucketTs tfMinutes) (Bucket.ofTick tfMinutes) Bucket.absorb

theorem onTick_eq (bucket : Option (Int × Bucket)) (tick : IndexTick)
    (named : ∀ entry ∈ bucket, entry.2.ts = entry.1) :
    (∀ entry ∈ segment tfMinutes bucket tick, entry.2.ts = entry.1) ∧
      onTick tfMinutes (bucket.map Prod.snd) tick =
        ((segment tfMinutes bucket tick).map Prod.snd,
          (Segments.close (bucketTs tfMinutes) bucket tick).head?.map fun closed =>
            closed.2.event tfMinutes tick.symbol) := by
  unfold segment
  cases bucket with
  | none =>
    refine ⟨?_, rfl⟩
    rintro entry ⟨⟩
    rfl
  | some entry =>
    have start : entry.2.ts = entry.1 := named entry rfl
    by_cases same : entry.1 = bucketTs tfMinutes tick
    · simp only [Segments.step, Segments.close, if_pos same, Option.map_some, onTick, start]
      refine ⟨?_, rfl⟩
      rintro later ⟨⟩
      exact start
    · simp only [Segments.step, Segments.close, if_neg same, Option.map_some, onTick, start]
      refine ⟨?_, rfl⟩
      rintro later ⟨⟩
      rfl

/-- The candles are the closed segments, by induction on the ticks. -/
theorem candles_eq {symbol : String} (ticks : List IndexTick)
    (ours : ∀ tick ∈ ticks, tick.symbol = symbol) (bucket : Option (Int × Bucket))
    (named : ∀ entry ∈ bucket, entry.2.ts = entry.1) :
    sent (fun bucket tick => (onTick tfMinutes bucket tick).1)
        (fun bucket tick => (onTick tfMinutes bucket tick).2.toList) (bucket.map Prod.snd) ticks =
      (sent (segment tfMinutes) (Segments.close (bucketTs tfMinutes)) bucket ticks).map
        fun closed => closed.2.event tfMinutes symbol := by
  induction ticks generalizing bucket with
  | nil => rfl
  | cons tick rest inductionHypothesis =>
    obtain ⟨later, same⟩ := onTick_eq bucket tick named
    have others := inductionHypothesis (fun other member => ours other (by simp [member])) _ later
    have here : (Segments.close (bucketTs tfMinutes) bucket tick).head?.toList =
        Segments.close (bucketTs tfMinutes) bucket tick := by
      unfold Segments.close
      split
      · split <;> rfl
      · rfl
    rw [sent, sent, same, others, List.map_append, ← here, ours tick (by simp)]
    cases (Segments.close (bucketTs tfMinutes) bucket tick).head? <;> rfl

/-- What a bucket makes of its ticks. -/
theorem absorb_spec (rest : List IndexTick) (bucket : Bucket) :
    let gathered := rest.foldl Bucket.absorb bucket
    gathered.ts = bucket.ts ∧ gathered.opening = bucket.opening ∧
      gathered.high = (rest.map IndexTick.high).foldl max bucket.high ∧
      gathered.low = (rest.map IndexTick.low).foldl min bucket.low ∧
      gathered.close = (rest.getLast?.map IndexTick.ltp).getD bucket.close ∧
      gathered.volume = bucket.volume + (rest.map IndexTick.volume).sum := by
  induction rest generalizing bucket with
  | nil => simp
  | cons tick rest inductionHypothesis =>
    obtain ⟨ts, opening, high, low, close, volume⟩ := inductionHypothesis (bucket.absorb tick)
    refine ⟨ts, opening, high, low, ?_, ?_⟩
    · rw [List.foldl_cons, close, List.getLast?_cons]
      cases rest.getLast? <;> rfl
    · rw [List.foldl_cons, volume, List.map_cons, List.sum_cons, ← Int.add_assoc]
      rfl

theorem gather_spec {group : List IndexTick} {bucket : Bucket}
    (gathered : Segments.gather (Bucket.ofTick tfMinutes) Bucket.absorb group = some bucket) :
    group.head?.map (bucketTs tfMinutes) = some bucket.ts ∧
      group.head?.map IndexTick.opening = some bucket.opening ∧
      (group.map IndexTick.high).max? = some bucket.high ∧
      (group.map IndexTick.low).min? = some bucket.low ∧
      group.getLast?.map IndexTick.ltp = some bucket.close ∧
      (group.map IndexTick.volume).sum = bucket.volume := by
  cases group with
  | nil => cases gathered
  | cons tick rest =>
    obtain rfl := Option.some.inj gathered
    obtain ⟨ts, opening, high, low, close, volume⟩ :=
      absorb_spec rest (Bucket.ofTick tfMinutes tick)
    rw [ts, opening, high, low, close, volume]
    refine ⟨rfl, rfl, ?_, ?_, ?_, ?_⟩
    · rw [List.map_cons, List.max?_cons']
      rfl
    · rw [List.map_cons, List.min?_cons']
      rfl
    · rw [List.getLast?_cons]
      cases rest.getLast? <;> rfl
    · rfl

end Buckets

section Published

variable {symbol : String} {provider : Provider}

/-- What a parsed tick keeps of its frame. -/
theorem parse_spec {raw : RawFrame} {tick : IndexTick}
    (parsed : parse symbol provider raw = some tick) :
    tick.symbol = symbol ∧ tick.timestamp = raw.timestamp ∧ 0 ≤ tick.volume ∧
      (provider = .upstox →
        tick.opening = tick.ltp ∧ tick.high = tick.ltp ∧ tick.low = tick.ltp) := by
  cases provider with
  | upstox =>
    unfold parse at parsed
    cases price : raw.ltp with
    | none => simp [price] at parsed
    | some ltp =>
      by_cases zero : ltp = 0
      · simp [price, zero] at parsed
      · simp only [price, if_neg zero, Option.some.injEq] at parsed
        subst parsed
        exact ⟨rfl, rfl, le_rfl, fun _ => ⟨rfl, rfl, rfl⟩⟩
  | fyers =>
    obtain ⟨ltp, -, rfl⟩ := Option.map_eq_some_iff.mp parsed
    exact ⟨rfl, rfl, Int.natCast_nonneg _, nofun⟩

/-- The bus sees some of the parsed ticks, in order. -/
theorem published_sublist (guard : Guard) (arrivals : List Arrival) :
    (sent (guardStep symbol provider) (guardSend symbol provider) guard arrivals).Sublist
      (arrivals.filterMap fun arrival => parse symbol provider arrival.raw) := by
  induction arrivals generalizing guard with
  | nil => exact List.Sublist.slnil
  | cons arrival rest inductionHypothesis =>
    have later := inductionHypothesis (guardStep symbol provider guard arrival)
    rw [sent]
    cases parsed : parse symbol provider arrival.raw with
    | none => simpa only [List.filterMap_cons, guardSend, parsed, List.nil_append] using later
    | some tick =>
      simp only [List.filterMap_cons, guardSend, parsed]
      split
      · exact later.cons_cons tick
      · exact later.cons tick

theorem published_parsed {arrivals : List Arrival} {tick : IndexTick}
    (member : tick ∈ published symbol provider arrivals) :
    ∃ arrival ∈ arrivals, parse symbol provider arrival.raw = some tick :=
  List.mem_filterMap.mp ((published_sublist ⟨0, 0⟩ arrivals).subset member)

/-- The ticks fall into buckets that do not decrease. -/
theorem published_ordered {arrivals : List Arrival} (tfMinutes : Nat)
    (ordered : arrivals.Pairwise fun one other => one.raw.timestamp ≤ other.raw.timestamp) :
    Segments.Ordered (bucketTs tfMinutes) (published symbol provider arrivals) := by
  apply List.Pairwise.sublist (published_sublist ⟨0, 0⟩ arrivals)
  apply List.Pairwise.filterMap _ _ ordered
  intro one other early first parsed second also
  unfold bucketTs
  rw [(parse_spec parsed).2.1, (parse_spec also).2.1]
  exact floorTs_mono early

end Published

section Prices

variable {tfMinutes : Nat} {ticks : List IndexTick} {start : Int} {bucket : Bucket}

theorem mem_closedBuckets : start ∈ closedBuckets tfMinutes ticks ↔
    (∃ tick ∈ ticks, bucketTs tfMinutes tick = start) ∧
      ∃ later ∈ ticks, start < bucketTs tfMinutes later := by
  simp only [closedBuckets, List.mem_filter, List.mem_map, List.any_eq_true, decide_eq_true_eq]

/-- A bucket is named after the ticks that it gathers. -/
theorem gather_named (gathered : Segments.gather (Bucket.ofTick tfMinutes) Bucket.absorb
    (bucketTicks tfMinutes ticks start) = some bucket) : bucket.ts = start := by
  obtain ⟨tick, head, stamp⟩ := Option.map_eq_some_iff.mp (gather_spec gathered).1
  rw [← stamp]
  exact of_decide_eq_true (List.mem_filter.mp (List.mem_of_head? head)).2

theorem closed_gathered (closed : start ∈ closedBuckets tfMinutes ticks) :
    ∃ bucket, Segments.gather (Bucket.ofTick tfMinutes) Bucket.absorb
      (bucketTicks tfMinutes ticks start) = some bucket := by
  obtain ⟨⟨tick, member, own⟩, -⟩ := mem_closedBuckets.mp closed
  have inside : tick ∈ bucketTicks tfMinutes ticks start :=
    List.mem_filter.mpr ⟨member, decide_eq_true own⟩
  cases group : bucketTicks tfMinutes ticks start with
  | nil =>
    rw [group] at inside
    cases inside
  | cons head rest => exact ⟨_, rfl⟩

/-- The volumes of a bucket add up to the growth of the day's volume only if all but the
last are 0 and nothing was traded before. -/
theorem increase_iff (natural : ∀ tick ∈ ticks, 0 ≤ tick.volume)
    (volume : ((bucketTicks tfMinutes ticks start).map IndexTick.volume).sum = bucket.volume)
    (nonempty : bucketTicks tfMinutes ticks start ≠ []) :
    (bucketTicks tfMinutes ticks start).getLast?.map IndexTick.volume =
        some (bucket.volume + volumeBefore tfMinutes ticks start) ↔
      (∀ tick ∈ (bucketTicks tfMinutes ticks start).dropLast, tick.volume = 0) ∧
        volumeBefore tfMinutes ticks start = 0 := by
  have before : 0 ≤ volumeBefore tfMinutes ticks start := by
    unfold volumeBefore
    cases last : (ticks.filter fun tick =>
      decide (tick.timestamp / dayLength = start / dayLength) &&
        decide (bucketTs tfMinutes tick < start)).getLast? with
    | none => exact le_rfl
    | some tick =>
      exact natural tick (List.mem_filter.mp (List.mem_of_getLast? last)).1
  have inside : ∀ tick ∈ bucketTicks tfMinutes ticks start, 0 ≤ tick.volume :=
    fun tick member => natural tick (List.mem_filter.mp member).1
  rcases List.eq_nil_or_concat (bucketTicks tfMinutes ticks start) with empty | ⟨init, last, split⟩
  · exact absurd empty nonempty
  rw [List.concat_eq_append] at split
  rw [split] at volume inside ⊢
  have early : ∀ amount ∈ init.map IndexTick.volume, 0 ≤ amount :=
    List.forall_mem_map.mpr fun tick member => inside tick (by simp [member])
  have total := List.sum_nonneg early
  rw [List.map_append, List.sum_append, List.map_singleton, List.sum_singleton] at volume
  rw [List.getLast?_concat, List.dropLast_concat, Option.map_some, Option.some.injEq]
  constructor
  · intro grown
    have zero : (init.map IndexTick.volume).sum = 0 := by omega
    refine ⟨fun tick member => ?_, by omega⟩
    exact List.all_zero_of_le_zero_le_of_sum_eq_zero early zero (List.mem_map_of_mem member)
  · rintro ⟨idle, nothing⟩
    have zero : (init.map IndexTick.volume).sum = 0 :=
      List.sum_eq_zero (List.forall_mem_map.mpr idle)
    omega

/-- A Fyers candle has the traded price and volume only of a plain bucket. -/
theorem fyers_traded_iff (gathered : Segments.gather (Bucket.ofTick tfMinutes) Bucket.absorb
    (bucketTicks tfMinutes ticks start) = some bucket)
    (natural : ∀ tick ∈ ticks, 0 ≤ tick.volume) (symbol : String) :
    Traded tfMinutes ticks .fyers (bucket.event tfMinutes symbol) ↔
      Plain tfMinutes ticks start := by
  obtain ⟨-, opening, high, low, close, volume⟩ := gather_spec gathered
  have stamp : (bucket.event tfMinutes symbol).timestamp = start := gather_named gathered
  have increase : (bucketTicks tfMinutes ticks start).getLast?.map IndexTick.volume =
      some (bucket.volume + volumeBefore tfMinutes ticks start) ↔
      (∀ tick ∈ (bucketTicks tfMinutes ticks start).dropLast, tick.volume = 0) ∧
        volumeBefore tfMinutes ticks start = 0 := by
    apply increase_iff natural volume
    intro empty
    rw [empty] at gathered
    cases gathered
  constructor
  · intro traded
    have first := traded.opening
    have greatest := traded.high
    have least := traded.low
    have grown := traded.volume rfl
    rw [stamp] at first greatest least grown
    exact ⟨opening.trans first.symm, high.trans greatest.symm, low.trans least.symm,
      increase.mp grown⟩
  · intro plain
    refine ⟨?_, ?_, ?_, ?_, fun _ => ?_⟩ <;> rw [stamp]
    · exact plain.opening.symm.trans opening
    · exact plain.high.symm.trans high
    · exact plain.low.symm.trans low
    · exact close
    · exact increase.mpr plain.volume

/-- The ticks of the Upstox feeder carry nothing but the traded price. -/
theorem upstox_traded (gathered : Segments.gather (Bucket.ofTick tfMinutes) Bucket.absorb
    (bucketTicks tfMinutes ticks start) = some bucket)
    (flat : ∀ tick ∈ ticks,
      tick.opening = tick.ltp ∧ tick.high = tick.ltp ∧ tick.low = tick.ltp) (symbol : String) :
    Traded tfMinutes ticks .upstox (bucket.event tfMinutes symbol) := by
  obtain ⟨-, opening, high, low, close, -⟩ := gather_spec gathered
  have stamp : (bucket.event tfMinutes symbol).timestamp = start := gather_named gathered
  have inside : ∀ tick ∈ bucketTicks tfMinutes ticks start,
      tick.opening = tick.ltp ∧ tick.high = tick.ltp ∧ tick.low = tick.ltp :=
    fun tick member => flat tick (List.mem_filter.mp member).1
  refine ⟨?_, ?_, ?_, ?_, nofun⟩ <;> rw [stamp]
  · rw [← List.head?_map] at opening ⊢
    rw [← List.map_congr_left fun tick member => (inside tick member).1]
    exact opening
  · rw [← List.map_congr_left fun tick member => (inside tick member).2.1]
    exact high
  · rw [← List.map_congr_left fun tick member => (inside tick member).2.2]
    exact low
  · exact close

/-- A candle is emitted for every closed bucket and for no other. -/
theorem mem_candles {symbol : String} (ours : ∀ tick ∈ ticks, tick.symbol = symbol)
    (ordered : Segments.Ordered (bucketTs tfMinutes) ticks) (candle : CandleEvent) :
    candle ∈ candles tfMinutes ticks ↔ ∃ start ∈ closedBuckets tfMinutes ticks,
      ∃ bucket : Bucket, Segments.gather (Bucket.ofTick tfMinutes) Bucket.absorb
          (bucketTicks tfMinutes ticks start) = some bucket ∧
        candle = bucket.event tfMinutes symbol := by
  have emitted : candles tfMinutes ticks = _ := candles_eq ticks ours none nofun
  rw [emitted, List.mem_map]
  constructor
  · rintro ⟨⟨start, bucket⟩, member, rfl⟩
    obtain ⟨own, above, gathered⟩ := (Segments.mem_closed ordered).mp member
    exact ⟨start, mem_closedBuckets.mpr ⟨own, above⟩, bucket, gathered, rfl⟩
  · rintro ⟨start, closed, bucket, gathered, rfl⟩
    obtain ⟨own, above⟩ := mem_closedBuckets.mp closed
    exact ⟨(start, bucket), (Segments.mem_closed ordered).mpr ⟨own, above, gathered⟩, rfl⟩

end Prices

section Candles

/-- The candles of a stream of frames are candles of the traded price exactly if the feeder
is not Fyers or every closed bucket is plain. -/
theorem candles_traded_iff (tfMinutes : Nat) (symbol : String) (provider : Provider)
    (arrivals : List Arrival)
    (ordered : arrivals.Pairwise fun one other => one.raw.timestamp ≤ other.raw.timestamp) :
    (∀ candle ∈ candles tfMinutes (published symbol provider arrivals),
        Traded tfMinutes (published symbol provider arrivals) provider candle) ↔
      (provider = .fyers →
        ∀ start ∈ closedBuckets tfMinutes (published symbol provider arrivals),
          Plain tfMinutes (published symbol provider arrivals) start) := by
  have ours : ∀ tick ∈ published symbol provider arrivals, tick.symbol = symbol := by
    intro tick member
    obtain ⟨arrival, -, parsed⟩ := published_parsed member
    exact (parse_spec parsed).1
  have emitted := mem_candles ours (published_ordered tfMinutes ordered)
  cases provider with
  | upstox =>
    refine iff_of_true (fun candle member => ?_) nofun
    obtain ⟨start, -, bucket, gathered, rfl⟩ := (emitted candle).mp member
    apply upstox_traded gathered
    intro tick published
    obtain ⟨arrival, -, parsed⟩ := published_parsed published
    exact (parse_spec parsed).2.2.2 rfl
  | fyers =>
    have natural : ∀ tick ∈ published symbol .fyers arrivals, 0 ≤ tick.volume := by
      intro tick member
      obtain ⟨arrival, -, parsed⟩ := published_parsed member
      exact (parse_spec parsed).2.2.1
    constructor
    · intro traded _ start closed
      obtain ⟨bucket, gathered⟩ := closed_gathered closed
      have member := (emitted _).mpr ⟨start, closed, bucket, gathered, rfl⟩
      exact (fyers_traded_iff gathered natural symbol).mp (traded _ member)
    · intro plain candle member
      obtain ⟨start, closed, bucket, gathered, rfl⟩ := (emitted candle).mp member
      exact (fyers_traded_iff gathered natural symbol).mpr (plain rfl start closed)

/-- Three frames of a morning: 9:15:01, 9:15:30 and 9:16:02. -/
def morning : List Arrival :=
  [⟨⟨some 24500, some 24400, some 24600, some 24350, some 24300, some 1000, 33301000000⟩, true⟩,
    ⟨⟨some 24510, some 24400, some 24600, some 24350, some 24300, some 1500, 33330000000⟩, true⟩,
    ⟨⟨some 24520, some 24400, some 24600, some 24350, some 24300, some 1700, 33362000000⟩, true⟩]

theorem upstox_candle_traded :
    Traded 1 (published "NIFTY" .upstox morning) .upstox
      ⟨"NIFTY", 1, 24500, 24510, 24500, 24510, 0, 33300000000, true⟩ :=
  (candles_traded_iff 1 "NIFTY" .upstox morning (by decide)).mpr nofun _ (by decide +kernel)

/-- The Fyers candle of the first minute has the day's open, high and low, and more volume
than the day. -/
theorem fyers_candle_of_day :
    candles 1 (published "NIFTY" .fyers morning) =
        [⟨"NIFTY", 1, 24400, 24600, 24350, 24510, 2500, 33300000000, true⟩] ∧
      ¬ Traded 1 (published "NIFTY" .fyers morning) .fyers
        ⟨"NIFTY", 1, 24400, 24600, 24350, 24510, 2500, 33300000000, true⟩ := by
  refine ⟨by decide +kernel, fun traded => ?_⟩
  have opening := traded.opening
  revert opening
  decide

end Candles

end OptionChain.CandleCache
