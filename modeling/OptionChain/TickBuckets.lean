import Mathlib.Algebra.Order.Ring.Rat
import OptionChain.SegmentKeys

/-!
# One-minute candles from ticks

`_update_bucket` keeps one open bucket for a leg and closes it at the first tick of
another minute, be it later or earlier. On ticks in order its candles are a partition of
the stream by minutes. A late tick cuts the minute that was open in two.
-/

namespace OptionChain.TickBuckets

open Runs

/-- A minute in microseconds. -/
def minuteLength : Int := 60 * 10 ^ 6

/-- `ts.replace(second=0, microsecond=0)`. -/
def bucketTs (ts : Int) : Int := ts - ts % minuteLength

/-- A last traded price of a leg. -/
structure LtpTick where
  ltp : Rat
  ts : Int
deriving DecidableEq

def LtpTick.minute (tick : LtpTick) : Int := bucketTs tick.ts

/-- An open bucket, or a completed candle. -/
structure Candle where
  ts : Int
  opening : Rat
  high : Rat
  low : Rat
  close : Rat
  volume : Nat
deriving DecidableEq

/-- A bucket opened by a tick. -/
def Candle.ofTick (tick : LtpTick) : Candle :=
  ⟨tick.minute, tick.ltp, tick.ltp, tick.ltp, tick.ltp, 0⟩

/-- Another tick of the same minute. -/
def Candle.absorb (bucket : Candle) (tick : LtpTick) : Candle :=
  { bucket with
    high := max bucket.high tick.ltp
    low := min bucket.low tick.ltp
    close := tick.ltp
    volume := bucket.volume + 1 }

/-- `_update_bucket`: the bucket under the key of the leg, and the candle that is completed. -/
def updateBucket (bucket : Option Candle) (tick : LtpTick) : Option Candle × Option Candle :=
  match bucket with
  | none => (some (.ofTick tick), none)
  | some bucket =>
      if bucket.ts = tick.minute then (some (bucket.absorb tick), none)
      else (some (.ofTick tick), some bucket)

/-- The candles that a stream of ticks completes. -/
def emitted (ticks : List LtpTick) : List Candle :=
  sent (fun bucket tick => (updateBucket bucket tick).1)
    (fun bucket tick => (updateBucket bucket tick).2.toList) none ticks

/-- The bucket that it leaves open. -/
def openBucket (ticks : List LtpTick) : Option Candle :=
  run (fun bucket tick => (updateBucket bucket tick).1) none ticks

/-- The prices of a candle are those of some ticks. -/
structure Summarises (candle : Candle) (ticks : List LtpTick) : Prop where
  opening : ticks.head?.map LtpTick.ltp = some candle.opening
  high : (ticks.map LtpTick.ltp).max? = some candle.high
  low : (ticks.map LtpTick.ltp).min? = some candle.low
  close : ticks.getLast?.map LtpTick.ltp = some candle.close

/-- The ticks of a stream in one minute. -/
def ticksOf (ticks : List LtpTick) (minute : Int) : List LtpTick :=
  ticks.filter (fun tick => decide (tick.minute = minute))

/-- The candles of a stream, with its open bucket, are a partition of it by minutes. -/
structure Partition (ticks : List LtpTick) : Prop where
  increasing : ((emitted ticks).map Candle.ts).Pairwise (· < ·)
  exact : ∀ candle ∈ emitted ticks, Summarises candle (ticksOf ticks candle.ts)
  exactOpen : ∀ bucket ∈ openBucket ticks, Summarises bucket (ticksOf ticks bucket.ts)
  covered : ∀ tick ∈ ticks, ∃! candle, candle ∈ emitted ticks ++ (openBucket ticks).toList ∧
    candle.ts = tick.minute

section Buckets

variable {ticks : List LtpTick} {candle : Candle}

/-- A bucket beside its minute, as a segment of the stream. -/
def named (candle : Candle) : Int × Candle := (candle.ts, candle)

theorem updateBucket_step (bucket : Option Candle) (tick : LtpTick) :
    (updateBucket bucket tick).1.map named =
      Segments.step LtpTick.minute Candle.ofTick Candle.absorb (bucket.map named) tick := by
  cases bucket with
  | none => rfl
  | some bucket =>
    by_cases same : bucket.ts = tick.minute
    · simp only [updateBucket, Segments.step, named, Option.map_some, if_pos same]
      rfl
    · simp only [updateBucket, Segments.step, named, Option.map_some, if_neg same]
      rfl

theorem updateBucket_close (bucket : Option Candle) (tick : LtpTick) :
    (updateBucket bucket tick).2.toList.map named =
      Segments.close LtpTick.minute (bucket.map named) tick := by
  cases bucket with
  | none => rfl
  | some bucket =>
    by_cases same : bucket.ts = tick.minute
    · simp [updateBucket, Segments.close, named, same]
    · simp [updateBucket, Segments.close, named, same]

/-- The candles are the closed segments. -/
theorem emitted_eq (ticks : List LtpTick) :
    (emitted ticks).map named =
      sent (Segments.step LtpTick.minute Candle.ofTick Candle.absorb)
        (Segments.close LtpTick.minute) none ticks :=
  sent_part _ _ _ (Option.map named) named updateBucket_step updateBucket_close none ticks

/-- The open bucket is the open segment. -/
theorem openBucket_eq (ticks : List LtpTick) :
    (openBucket ticks).map named =
      run (Segments.step LtpTick.minute Candle.ofTick Candle.absorb) none ticks :=
  run_part _ (Option.map named) updateBucket_step none ticks

theorem mem_emitted : candle ∈ emitted ticks ↔ named candle ∈ (emitted ticks).map named := by
  constructor
  · intro member
    exact List.mem_map_of_mem member
  · intro member
    obtain ⟨other, present, same⟩ := List.mem_map.mp member
    exact (Prod.mk.inj same).2 ▸ present

/-- What a bucket makes of further ticks. -/
theorem absorb_spec (rest : List LtpTick) (bucket : Candle) :
    let gathered := rest.foldl Candle.absorb bucket
    gathered.opening = bucket.opening ∧
      gathered.high = (rest.map LtpTick.ltp).foldl max bucket.high ∧
      gathered.low = (rest.map LtpTick.ltp).foldl min bucket.low ∧
      gathered.close = (rest.getLast?.map LtpTick.ltp).getD bucket.close := by
  induction rest generalizing bucket with
  | nil => exact ⟨rfl, rfl, rfl, rfl⟩
  | cons tick rest inductionHypothesis =>
    obtain ⟨opening, high, low, close⟩ := inductionHypothesis (bucket.absorb tick)
    refine ⟨opening, high, low, ?_⟩
    rw [List.foldl_cons, close, List.getLast?_cons]
    cases rest.getLast? <;> rfl

/-- A gathered bucket summarises what it gathers. -/
theorem gather_summarises {group : List LtpTick}
    (gathered : Segments.gather Candle.ofTick Candle.absorb group = some candle) :
    Summarises candle group := by
  cases group with
  | nil => cases gathered
  | cons tick rest =>
    obtain rfl := Option.some.inj gathered
    obtain ⟨opening, high, low, close⟩ := absorb_spec rest (Candle.ofTick tick)
    constructor
    · rw [opening]
      rfl
    · rw [high, List.map_cons, List.max?_cons']
      rfl
    · rw [low, List.map_cons, List.min?_cons']
      rfl
    · rw [close, List.getLast?_cons]
      cases rest.getLast? <;> rfl

/-- The minute of a tick does not decrease with its time. -/
theorem bucketTs_mono {early late : Int} (order : early ≤ late) :
    bucketTs early ≤ bucketTs late := by
  unfold bucketTs minuteLength
  omega

theorem ordered_minutes (ordered : ticks.Pairwise (fun one other => one.ts ≤ other.ts)) :
    Segments.Ordered LtpTick.minute ticks :=
  ordered.imp bucketTs_mono

end Buckets

section Streams

variable {ticks : List LtpTick} {candle : Candle}

/-- The minutes of the candles of any stream: those of its ticks, without repetitions in a
row and without the last. -/
theorem emitted_minutes (ticks : List LtpTick) :
    (emitted ticks).map Candle.ts =
      ((ticks.map LtpTick.minute).destutter (· ≠ ·)).dropLast := by
  have minutes : (emitted ticks).map Candle.ts = ((emitted ticks).map named).map Prod.fst := by
    rw [List.map_map]
    rfl
  rw [minutes, emitted_eq]
  exact SegmentKeys.closed_keys ticks

theorem exists_last {tick : LtpTick} (member : tick ∈ ticks) :
    ∃ init last, ticks = init ++ [last] := by
  rcases List.eq_nil_or_concat ticks with rfl | ⟨init, last, shape⟩
  · cases member
  · exact ⟨init, last, by rw [shape, List.concat_eq_append]⟩

variable (ordered : Segments.Ordered LtpTick.minute ticks)
include ordered

/-- On an ordered stream a candle is emitted for each minute before the last one, of all
ticks of it. -/
theorem mem_emitted_iff :
    candle ∈ emitted ticks ↔
      (∃ tick ∈ ticks, tick.minute = candle.ts) ∧
        (∃ later ∈ ticks, candle.ts < later.minute) ∧
          Segments.gather Candle.ofTick Candle.absorb (ticksOf ticks candle.ts) = some candle := by
  rw [mem_emitted, emitted_eq]
  exact Segments.mem_closed ordered

/-- The open bucket is that of the last minute. -/
theorem openBucket_spec {init : List LtpTick} {last : LtpTick} (shape : ticks = init ++ [last]) :
    ∃ bucket, openBucket ticks = some bucket ∧ bucket.ts = last.minute ∧
      Segments.gather Candle.ofTick Candle.absorb (ticksOf ticks bucket.ts) = some bucket := by
  subst shape
  obtain ⟨gathered, opened, known⟩ :
      ∃ gathered, run (Segments.step LtpTick.minute Candle.ofTick Candle.absorb) none
        (init ++ [last]) = some (last.minute, gathered) ∧ _ := Segments.run_eq init last ordered
  rw [← openBucket_eq] at opened
  obtain ⟨bucket, found, same⟩ := Option.map_eq_some_iff.mp opened
  obtain ⟨minute, rfl⟩ := Prod.mk.inj same
  have minute : bucket.ts = last.minute := minute
  refine ⟨bucket, found, minute, ?_⟩
  rw [minute]
  exact known

/-- No tick is of a later minute than the last one. -/
theorem minute_le_last {init : List LtpTick} {last tick : LtpTick}
    (shape : ticks = init ++ [last]) (member : tick ∈ ticks) : tick.minute ≤ last.minute := by
  subst shape
  rcases List.mem_append.mp member with early | own
  · exact (List.pairwise_append.mp ordered).2.2 tick early last (List.mem_singleton_self last)
  · exact (List.mem_singleton.mp own) ▸ le_rfl

/-- Every tick is in the candle of its minute, or in the open bucket if this is the last. -/
theorem covered_by {tick : LtpTick} (member : tick ∈ ticks) :
    ∃ candle ∈ emitted ticks ++ (openBucket ticks).toList, candle.ts = tick.minute := by
  obtain ⟨init, last, shape⟩ := exists_last member
  obtain ⟨bucket, found, minute, -⟩ := openBucket_spec ordered shape
  rcases lt_or_eq_of_le (minute_le_last ordered shape member) with below | same
  · -- a later minute has closed the one of the tick
    have some_ticks : ticksOf ticks tick.minute ≠ [] := by
      apply List.ne_nil_of_mem
      exact List.mem_filter.mpr ⟨member, by simp⟩
    obtain ⟨gathered, known⟩ : ∃ gathered,
        Segments.gather Candle.ofTick Candle.absorb (ticksOf ticks tick.minute) =
          some gathered := by
      cases group : ticksOf ticks tick.minute with
      | nil => exact absurd group some_ticks
      | cons first rest => exact ⟨_, rfl⟩
    have closed : (tick.minute, gathered) ∈ (emitted ticks).map named := by
      rw [emitted_eq]
      refine (Segments.mem_closed ordered).mpr ⟨⟨tick, member, rfl⟩, ⟨last, ?_, below⟩, known⟩
      rw [shape]
      simp
    obtain ⟨candle, emittedHere, same⟩ := List.mem_map.mp closed
    exact ⟨candle, List.mem_append_left _ emittedHere, (Prod.mk.inj same).1⟩
  · refine ⟨bucket, ?_, minute.trans same.symm⟩
    rw [found]
    exact List.mem_append_right _ (by simp)

/-- The minutes of the candles and of the open bucket increase. -/
theorem minutes_increase :
    ((emitted ticks ++ (openBucket ticks).toList).map Candle.ts).Pairwise (· < ·) := by
  rw [List.map_append, List.pairwise_append]
  refine ⟨?_, ?_, ?_⟩
  · rw [emitted_minutes]
    have keys : (ticks.map LtpTick.minute).Pairwise (· ≤ ·) := List.pairwise_map.mpr ordered
    have kept := keys.sublist (List.destutter_sublist (· ≠ ·) _)
    exact (SegmentKeys.increasing_of_chain kept (List.isChain_destutter _ _)).sublist
      (List.dropLast_sublist _)
  · cases openBucket ticks <;> simp
  · intro minute closed other opened
    obtain ⟨candle, emittedHere, rfl⟩ := List.mem_map.mp closed
    obtain ⟨⟨tick, member, own⟩, ⟨later, present, above⟩, -⟩ :=
      (mem_emitted_iff ordered).mp emittedHere
    obtain ⟨init, last, shape⟩ := exists_last member
    obtain ⟨bucket, found, minute, -⟩ := openBucket_spec ordered shape
    rw [found] at opened
    simp only [Option.toList_some, List.map_cons, List.map_nil, List.mem_singleton] at opened
    rw [opened, minute]
    exact lt_of_lt_of_le above (minute_le_last ordered shape present)

theorem partition_of_ordered : Partition ticks := by
  have increasing := minutes_increase ordered
  constructor
  · rw [List.map_append] at increasing
    exact (List.pairwise_append.mp increasing).1
  · intro candle member
    exact gather_summarises ((mem_emitted_iff ordered).mp member).2.2
  · intro bucket opened
    rcases List.eq_nil_or_concat ticks with rfl | ⟨init, last, shape⟩
    · cases opened
    · obtain ⟨other, found, -, gathered⟩ :=
        openBucket_spec ordered (shape.trans (List.concat_eq_append ..))
      obtain rfl : bucket = other := Option.some.inj (opened.symm.trans found)
      exact gather_summarises gathered
  · intro tick member
    obtain ⟨candle, present, own⟩ := covered_by ordered member
    refine ⟨candle, ⟨present, own⟩, ?_⟩
    rintro other ⟨alsoPresent, alsoOwn⟩
    -- two candles of one minute would stand in an increasing list of minutes
    have distinct := increasing.imp (fun less => ne_of_lt less)
    exact List.inj_on_of_nodup_map distinct alsoPresent present (alsoOwn.trans own.symm)

end Streams

/-- On ticks in order the candles partition the stream. On any ticks, two candles carry the
same minute exactly if the stream comes back to a minute that it has left and leaves it
again. -/
theorem emitted_spec (ticks : List LtpTick) :
    (ticks.Pairwise (fun one other => one.ts ≤ other.ts) → Partition ticks) ∧
      (¬ ((emitted ticks).map Candle.ts).Nodup ↔
        SegmentKeys.Returns (ticks.map LtpTick.minute)) := by
  constructor
  · intro ordered
    exact partition_of_ordered (ordered_minutes ordered)
  · rw [emitted_minutes]
    exact SegmentKeys.not_nodup_iff_returns

/-- A tick at a second of the trading day. -/
def tickAt (second : Int) (ltp : Rat) : LtpTick := ⟨ltp, second * 10 ^ 6⟩

def orderly : List LtpTick := [tickAt 36000 100, tickAt 36030 104, tickAt 36060 101]

theorem orderly_partition : Partition orderly := (emitted_spec orderly).1 (by decide)

/-- A tick of the minute before cuts the open minute in two. -/
theorem late_tick_doubles :
    ¬ ((emitted [tickAt 36000 100, tickAt 35999 99, tickAt 36010 102, tickAt 36060 101]).map
      Candle.ts).Nodup := by
  decide

end OptionChain.TickBuckets
