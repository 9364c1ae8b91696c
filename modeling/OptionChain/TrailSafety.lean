import OptionChain.TrapTrail

/-!
# When the trailing stop raises

The entry of a position is stored with its zone, the traps that are found after it
lose theirs before both are compared. `trail_safe_iff` says when a call gets
through: when it has nothing to do, or finds no trap, and meets the tick's kind of
timestamp everywhere else.
-/

namespace OptionChain.TrailSafety

open Broker Timestamps TrapScanner TrapPosition TrapTrail

/-- The last five-minute bar is not a text, and knows its zone as the tick does. -/
def LastComparable (last : LastMark) (ts : Stamp) : Prop :=
  match last with
  | .unset => True
  | .text => False
  | .stamp at5m => ts.aware = at5m.aware

/-- The five-minute bar of the tick has been worked on already. -/
def Worked (last : LastMark) (ts : Stamp) : Prop :=
  seen last (ts.floor fiveMinutes) = .ok true

/-- A new five-minute bar is worked on without a trapped zone, or too early for one,
and among the last fifteen bars none differs from the tick in knowing its zone. -/
def Quiet (frames : Frames) (bars : List StoredBar) (ts : Stamp) : Prop :=
  ∃ df5, frames.fiveMinutes bars = .ok df5 ∧ (df5.length < 3 ∨
    (∀ trap ∈ frameTraps df5, trap.status ≠ .trapped) ∧
      ∀ bar ∈ bars.drop (bars.length - 15), bar.datetime.aware = ts.aware)

instance (last : LastMark) (ts : Stamp) : Decidable (LastComparable last ts) :=
  match last with
  | .unset => inferInstanceAs (Decidable True)
  | .text => inferInstanceAs (Decidable False)
  | .stamp at5m => inferInstanceAs (Decidable (ts.aware = at5m.aware))

instance (last : LastMark) (ts : Stamp) : Decidable (Worked last ts) :=
  inferInstanceAs (Decidable (_ = _))

instance (frames : Frames) (bars : List StoredBar) (ts : Stamp) :
    Decidable (Quiet frames bars ts) :=
  match framed : frames.fiveMinutes bars with
  | .error _ => .isFalse (by simp [Quiet, framed])
  | .ok df5 =>
      if quiet : df5.length < 3 ∨ (∀ trap ∈ frameTraps df5, trap.status ≠ .trapped) ∧
          ∀ bar ∈ bars.drop (bars.length - 15), bar.datetime.aware = ts.aware then
        .isTrue ⟨df5, framed, quiet⟩
      else .isFalse (by simpa [Quiet, framed] using quiet)

/-- Every comparison of a call can be made, and pandas makes a frame. -/
def Safe (frames : Frames) (bars : List StoredBar) (marks : TrailMarks) (ts : Stamp) : Prop :=
  LastComparable marks.last5m ts ∧
    (Worked marks.last5m ts ∨ bars = [] ∨ Quiet frames bars ts)

instance (frames : Frames) (bars : List StoredBar) (marks : TrailMarks) (ts : Stamp) :
    Decidable (Safe frames bars marks ts) := inferInstanceAs (Decidable (_ ∧ (_ ∨ _ ∨ _)))

section Parts

variable {bar5m : Stamp}

/-- The last bar is compared where it is comparable. -/
theorem seen_ok_iff (last : LastMark) (ts : Stamp) :
    (∃ answer, seen last (ts.floor fiveMinutes) = .ok answer) ↔ LastComparable last ts := by
  cases last with
  | unset => simp [seen, LastComparable]
  | text => simp [seen, LastComparable]
  | stamp at5m =>
    have comparable := compare_ok_iff (fun first second => decide (first ≤ second))
      (ts.floor fiveMinutes) at5m
    rw [floor_aware] at comparable
    rw [LastComparable, ← comparable, seen, Stamp.le]
    cases (ts.floor fiveMinutes).compare (fun first second => decide (first ≤ second)) at5m with
    | ok answer => simp
    | error error => simp

/-- Without a trapped zone nothing is compared with the entry. -/
theorem registerTraps_quiet (entryTs : Stamp) (entryPrice : Rat) (known : List Int)
    (entries : List (Entry LtfTag)) (traps : List TrailTrap)
    (none : ∀ trap ∈ entries, trap.status ≠ .trapped) :
    (registerTraps entryTs entryPrice known entries traps).2 = .none := by
  induction entries generalizing traps with
  | nil => rfl
  | cons trap rest inductionHypothesis =>
    rw [registerTraps, if_pos (none trap List.mem_cons_self)]
    exact inductionHypothesis traps
      (fun other listed => none other (List.mem_cons_of_mem _ listed))

/-- A trapped zone is compared with the entry, which knows its zone. -/
theorem registerTraps_raises (entryTs : Stamp) (aware : entryTs.aware = true)
    (entryPrice : Rat) (known : List Int) (entries : List (Entry LtfTag))
    (traps : List TrailTrap) (found : ∃ trap ∈ entries, trap.status = .trapped) :
    (registerTraps entryTs entryPrice known entries traps).2 = some .mixedZones := by
  induction entries generalizing traps with
  | nil =>
    obtain ⟨trap, listed, -⟩ := found
    cases listed
  | cons trap rest inductionHypothesis =>
    by_cases trapped : trap.status = .trapped
    · have mixed : (trapStamp trap).le entryTs = .error .mixed := by
        apply compare_error
        rw [aware]
        exact Bool.false_ne_true
      rw [registerTraps, if_neg (by simp [trapped]), mixed]
    · rw [registerTraps, if_pos trapped]
      apply inductionHypothesis
      obtain ⟨other, listed, marked⟩ := found
      rcases List.mem_cons.mp listed with rfl | later
      · exact absurd marked trapped
      · exact ⟨other, later, marked⟩

theorem registerTraps_ok_iff (entryTs : Stamp) (aware : entryTs.aware = true)
    (entryPrice : Rat) (known : List Int) (entries : List (Entry LtfTag))
    (traps : List TrailTrap) :
    (registerTraps entryTs entryPrice known entries traps).2 = none ↔
      ∀ trap ∈ entries, trap.status ≠ .trapped := by
  constructor
  · intro fine trap listed trapped
    have raised := registerTraps_raises entryTs aware entryPrice known entries traps
      ⟨trap, listed, trapped⟩
    rw [raised] at fine
    cases fine
  · exact registerTraps_quiet entryTs entryPrice known entries traps

/-- A bar is compared with both ends of the bucket or with none. -/
theorem inBucket_ok_iff (bar : StoredBar) :
    (∃ answer, inBucket bar5m bar = .ok answer) ↔ bar.datetime.aware = bar5m.aware := by
  by_cases same : bar.datetime.aware = bar5m.aware
  · obtain ⟨first, lower⟩ := (compare_ok_iff (fun first second => decide (first ≤ second))
      (bar5m.add (-fiveMinutes)) bar.datetime).mpr same.symm
    obtain ⟨second, upper⟩ := (compare_ok_iff (fun first second => decide (first < second))
      bar.datetime bar5m).mpr same
    simp only [same, iff_true]
    rw [inBucket, Stamp.le, lower, Stamp.lt, upper]
    cases first with
    | true => exact ⟨second, rfl⟩
    | false => exact ⟨false, rfl⟩
  · have mixed : (bar5m.add (-fiveMinutes)).le bar.datetime = .error .mixed :=
      compare_error _ _ _ (Ne.symm same)
    rw [inBucket, mixed]
    simp [same]

/-- The bucket is found where every bar can be compared. -/
theorem bucketOf_ok_iff (bars : List StoredBar) :
    (∃ bucket, bucketOf bar5m bars = .ok bucket) ↔
      ∀ bar ∈ bars, bar.datetime.aware = bar5m.aware := by
  induction bars with
  | nil => simp [bucketOf]
  | cons bar rest inductionHypothesis =>
    rw [List.forall_mem_cons, ← inBucket_ok_iff bar, ← inductionHypothesis, bucketOf]
    cases inBucket bar5m bar with
    | error error => simp
    | ok inside =>
      cases bucketOf bar5m rest with
      | error error => simp
      | ok others => simp

end Parts

section Call

variable {frames : Frames} {setup : TrailSetup} {pos : Position} {bars : List StoredBar}
  {marks : TrailMarks} {ts : Stamp}

theorem advanceStop_error_iff (marks : TrailMarks) (bar5m : Stamp) :
    (advanceStop setup pos bars marks bar5m).error = none ↔
      ∀ bar ∈ bars.drop (bars.length - 15), bar.datetime.aware = bar5m.aware := by
  rw [← bucketOf_ok_iff]
  unfold advanceStop
  cases bucketOf bar5m (bars.drop (bars.length - 15)) with
  | error error => simp
  | ok bucket =>
    by_cases empty : bucket = []
    · simp [empty]
    · simp [empty]

/-- A call that meets a new five-minute bar and stored bars. -/
theorem fresh_error_iff (aware : marks.entryTs.aware = true)
    (fresh : seen marks.last5m (ts.floor fiveMinutes) = .ok false) (stored : bars ≠ []) :
    (updateTrailSl frames setup pos bars marks ts).error = none ↔ Quiet frames bars ts := by
  rw [updateTrailSl]
  simp only [fresh, stored, if_false, Quiet]
  cases framed : frames.fiveMinutes bars with
  | error error => simp
  | ok df5 =>
    by_cases short : df5.length < 3
    · simp [short]
    · have registered := registerTraps_ok_iff marks.entryTs aware pos.entryPrice
        (marks.trailTraps.map TrailTrap.key) (frameTraps df5) marks.trailTraps
      simp only [short, if_false, Except.ok.injEq, exists_eq_left', false_or]
      cases outcome : (registerTraps marks.entryTs pos.entryPrice
          (marks.trailTraps.map TrailTrap.key) (frameTraps df5) marks.trailTraps).2 with
      | some error =>
        have trapped : ¬∀ trap ∈ frameTraps df5, trap.status ≠ .trapped := by
          rw [← registered, outcome]
          simp
        simp only [reduceCtorEq, false_iff, not_and]
        exact fun none => absurd none trapped
      | none =>
        have none := registered.mp outcome
        rw [advanceStop_error_iff, floor_aware]
        exact (and_iff_right none).symm

end Call

/-- For every position with an aware entry, all stored bars, marks and ticks, and
whatever pandas does: the call gets through exactly when it is safe. -/
theorem trail_safe_iff (frames : Frames) (setup : TrailSetup) (pos : Position)
    (bars : List StoredBar) (marks : TrailMarks) (ts : Stamp)
    (aware : marks.entryTs.aware = true) :
    (updateTrailSl frames setup pos bars marks ts).error = none ↔
      Safe frames bars marks ts := by
  have comparable := seen_ok_iff marks.last5m ts
  rw [Safe, Worked, ← comparable]
  cases compared : seen marks.last5m (ts.floor fiveMinutes) with
  | error error => simp [updateTrailSl, compared]
  | ok worked =>
    cases worked with
    | true => simp [updateTrailSl, compared]
    | false =>
      by_cases stored : bars = []
      · simp [updateTrailSl, compared, stored]
      · rw [fresh_error_iff aware compared stored]
        simp [stored]

/-! ## Pandas on stored bars in time order -/

/-- All bars know their zone alike. -/
def oneZone (bars : List StoredBar) : Bool :=
  bars.all (fun bar => bar.datetime.offset = bars.head?.bind (fun first => first.datetime.offset))

/-- The candle of a bar, or the last one with the bar added. -/
def resampleBar (candles : List Bar) (bar : StoredBar) : List Bar :=
  let start := (bar.datetime.floor fiveMinutes).wall
  match candles.getLast? with
  | some last =>
      if last.datetime = start then
        candles.dropLast ++ [⟨start, max last.high bar.high, min last.low bar.low, bar.close⟩]
      else candles ++ [⟨start, bar.high, bar.low, bar.close⟩]
  | none => [⟨start, bar.high, bar.low, bar.close⟩]

/-- Frames of bars in time order; zones that differ raise. -/
def orderedFrames : Frames where
  minute bars :=
    if oneZone bars then
      .ok (bars.map (fun bar => ⟨bar.datetime.wall, bar.high, bar.low, bar.close⟩))
    else .error .frame
  fiveMinutes bars :=
    if oneZone bars then .ok (bars.foldl resampleBar []) else .error .frame

/-- A quarter past nine and some minutes later, with the zone of the exchange. -/
def morning (minutes : Int) : Stamp := ⟨33300000000 + minutes * 60000000, some 19800000000⟩

/-- A call bought on the future, its first half sold. -/
def afterT1 : Position where
  leg := .fut
  optType := .ce
  strike := 6000
  spotAtEntry := 6000
  entryPrice := 90
  slPrice := 5950
  trailSl := 6000
  t1Price := 120
  totalQty := 10
  t1Qty := 5
  remainingQty := 5
  t1Hit := true
  orderIdEntry := "o1"
  htfZone := ⟨0, 5960, 5940, 5990, "BEAR"⟩
  counted := by decide
  halved := by decide
  balanced := by decide

def futures : TrailSetup := ⟨.futures, 2⟩

/-- Three candles without a lower low. -/
def risingBars : List StoredBar :=
  [⟨morning 0, 6010, 6000, 6005⟩, ⟨morning 5, 6020, 6005, 6015⟩, ⟨morning 10, 6030, 6010, 6025⟩]

/-- Three candles whose last one breaks the high before the lower low. -/
def trappedBars : List StoredBar :=
  [⟨morning 0, 6010, 6000, 6005⟩, ⟨morning 5, 6005, 5990, 5995⟩, ⟨morning 10, 6030, 6001, 6025⟩]

theorem trail_safe_on_rising_bars :
    (updateTrailSl orderedFrames futures afterT1 risingBars { entryTs := morning (-1) }
      (morning 15)).error = none :=
  (trail_safe_iff orderedFrames futures afterT1 risingBars { entryTs := morning (-1) }
    (morning 15) rfl).mpr
    ⟨trivial, Or.inr (Or.inr ⟨risingBars.foldl resampleBar [], by decide +kernel, Or.inr
      ⟨by decide +kernel, by decide +kernel⟩⟩)⟩

/-- The first trapped zone after T1 is compared with the entry and raises. -/
theorem trail_raises_on_a_trap :
    (morning (-1)).aware = true ∧
      (updateTrailSl orderedFrames futures afterT1 trappedBars { entryTs := morning (-1) }
        (morning 15)).error = some .mixedZones := by
  decide +kernel

end OptionChain.TrailSafety
