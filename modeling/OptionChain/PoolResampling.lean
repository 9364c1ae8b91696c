import Mathlib.Tactic.Linarith
import OptionChain.PoolIndicators
import OptionChain.Runs

/-!
# Resampled indicators in time

The engine keeps the minute of the day of a bar, not its date, and orders the
groups of a leg by it. The specification keeps what the engine forgets: every bar
ever committed, with its absolute minute, and the time line of the commits. A
candle is then a day and a clock-aligned group in it, in the order of time.

`resampling_chronological` says that the resampled close, VWAP and slope come
from the last completed candles of both legs as long as no bar in the window of
a leg lies on an earlier day without also lying in an earlier group of the clock.
-/

namespace OptionChain.PoolResampling

open Broker Buckets PoolIndicators Runs

def day (time : Int) : Int := time / 1440

def minuteOfDay (time : Int) : Int := time % 1440

/-- The clock-aligned group of a time within its day. -/
def clock (tf time : Int) : Int := minuteOfDay time / tf

/-- The candle of a time: candles are numbered in the order of time. -/
def candle (tf time : Int) : Int := 1440 * day time + clock tf time

/-- The candle of a time is complete: its day is over, or its final minute slot
has been reached. -/
def Completed (tf now time : Int) : Prop :=
  day time < day now ∨ (clock tf time + 1) * tf - 1 ≤ minuteOfDay now

instance completedDecidable (tf now time : Int) : Decidable (Completed tf now time) :=
  inferInstanceAs (Decidable (_ ∨ _))

/-- A committed bar with its absolute minute. -/
structure Stamped where
  time : Int
  close : Rat
  atp : Rat
deriving DecidableEq

/-- What the engine stores of it. -/
def Stamped.bar (stamped : Stamped) : Bar :=
  ⟨minuteOfDay stamped.time, stamped.close, stamped.atp⟩

inductive Event where
  | tick (key : Key) (ltp atp : Rat)
  | commit (time : Int)

/-- The engine, every bar it was ever given, and the times of the commits. -/
structure Recorded where
  engine : Engine
  history : Key → List Stamped
  timeline : List Int

def Recorded.fresh : Recorded := ⟨Engine.fresh, fun _ => [], []⟩

/-- Ticks and commits; a commit passes the minute of the day. -/
def step (recorded : Recorded) : Event → Recorded
  | .tick key ltp atp => { recorded with engine := updateTick recorded.engine key ltp atp }
  | .commit time =>
      { engine := commitBar recorded.engine (some (minuteOfDay time))
        history := fun key =>
          match recorded.engine.latest.lookup key with
          | none => recorded.history key
          | some quote => recorded.history key ++ [⟨time, quote.ltp, quote.atp⟩]
        timeline := recorded.timeline ++ [time] }

/-- The completed candles of a leg. -/
def candles (tf now : Int) (bars : List Stamped) : Set Int :=
  {c | ∃ b ∈ bars, candle tf b.time = c ∧ Completed tf now b.time}

/-- The candles that both legs have completed. -/
def completed (tf now : Int) (ce pe : List Stamped) : Set Int :=
  candles tf now ce ∩ candles tf now pe

/-- The last bar of a candle of a leg. -/
def candleBar (tf : Int) (bars : List Stamped) (c : Int) : Option Stamped :=
  lastIn (fun b => candle tf b.time) bars c

/-- The combined close and VWAP of a candle. -/
def CandleValue (tf : Int) (ce pe : List Stamped) (c : Int) (close vwap : Rat) : Prop :=
  ∃ b p, candleBar tf ce c = some b ∧ candleBar tf pe c = some p ∧
    close = b.close + p.close ∧ vwap = b.atp + p.atp

/-- The result comes from the last completed candle, its slope also from the one
before it. -/
def FromLastCandles (tf now : Int) (ce pe : List Stamped) (ind : Indicators) : Prop :=
  ∃ last, IsGreatest (completed tf now ce pe) last ∧
    CandleValue tf ce pe last ind.close ind.vwap ∧
    ∀ slope, ind.slope = some slope →
      ∃ before close vwap, IsGreatest {c | c ∈ completed tf now ce pe ∧ c < last} before ∧
        CandleValue tf ce pe before close vwap ∧ slope = ind.vwap - vwap

/-- Every resampled result of a pair is chronological. -/
def Chronological (tf : Int) (recorded : Recorded) (ceStrike peStrike : Int) : Prop :=
  ∀ ind, pairIndicatorsTf recorded.engine ceStrike peStrike tf = some ind →
    ∃ now, recorded.timeline.getLast? = some now ∧
      FromLastCandles tf now (recorded.history (ceStrike, .ce))
        (recorded.history (peStrike, .pe)) ind

/-- A commit in the order of time, where every bar that stays in the window of a
leg lies on the same day or in an earlier group of the clock. -/
def OnClock (tf : Int) (recorded : Recorded) : Event → Prop
  | .tick .. => True
  | .commit time =>
      (∀ earlier ∈ recorded.timeline.getLast?, earlier ≤ time) ∧
        ∀ key ∈ recorded.engine.latest.keys,
          ∀ b ∈ (recorded.history key).rtake (recorded.engine.maxlen - 1),
            day b.time < day time → clock tf b.time < clock tf time

instance onClockDecidable (tf : Int) (recorded : Recorded) :
    ∀ event, Decidable (OnClock tf recorded event)
  | .tick .. => .isTrue trivial
  | .commit _ => inferInstanceAs (Decidable (_ ∧ ∀ key ∈ recorded.engine.latest.keys, _))

/-- Between bars of one leg, a later day is a later group of the clock. -/
def Aligned (tf : Int) (bars : List Stamped) : Prop :=
  ∀ a ∈ bars, ∀ b ∈ bars, day a.time < day b.time → clock tf a.time < clock tf b.time

/-- What the engine keeps of the history. -/
def window (recorded : Recorded) (key : Key) : List Stamped :=
  (recorded.history key).rtake recorded.engine.maxlen

structure Faithful (tf : Int) (recorded : Recorded) : Prop where
  series : ∀ key, recorded.engine.series key = (window recorded key).map Stamped.bar
  timed : ∀ key, (recorded.history key).map Stamped.time <:+ recorded.timeline
  idle : ∀ key, recorded.engine.latest.lookup key = none → recorded.history key = []
  ordered : recorded.timeline.Pairwise (· ≤ ·)
  aligned : ∀ key, Aligned tf (window recorded key)

section Clock

variable {tf : Int}

theorem minuteOfDay_bounds (time : Int) : 0 ≤ minuteOfDay time ∧ minuteOfDay time < 1440 := by
  unfold minuteOfDay
  omega

theorem clock_bounds (long : 1 < tf) (time : Int) : 0 ≤ clock tf time ∧ clock tf time < 1440 := by
  obtain ⟨least, most⟩ := minuteOfDay_bounds time
  have below : clock tf time ≤ minuteOfDay time := Int.ediv_le_self tf least
  exact ⟨Int.ediv_nonneg least (by omega), by omega⟩

/-- Candles are ordered by their day, then by the clock. -/
theorem candle_lt_iff (long : 1 < tf) (a b : Int) : candle tf a < candle tf b ↔
    day a < day b ∨ (day a = day b ∧ clock tf a < clock tf b) := by
  have first := clock_bounds long a
  have second := clock_bounds long b
  unfold candle
  omega

theorem candle_eq_iff (long : 1 < tf) (a b : Int) : candle tf a = candle tf b ↔
    day a = day b ∧ clock tf a = clock tf b := by
  have first := clock_bounds long a
  have second := clock_bounds long b
  unfold candle
  omega

theorem candle_mono (long : 1 < tf) {a b : Int} (before : a ≤ b) : candle tf a ≤ candle tf b := by
  by_contra later
  rcases (candle_lt_iff long b a).mp (by omega) with earlier | ⟨same, smaller⟩
  · unfold day at earlier
    omega
  · have minutes : minuteOfDay a ≤ minuteOfDay b := by
      unfold day at same
      unfold minuteOfDay
      omega
    have grows : clock tf a ≤ clock tf b := Int.ediv_le_ediv (by omega) minutes
    omega

/-- A later group of the clock starts after an earlier one has ended. -/
theorem clock_lt_end (long : 1 < tf) {a b : Int} (earlier : clock tf a < clock tf b) :
    (clock tf a + 1) * tf ≤ minuteOfDay b := by
  have starts : clock tf b * tf ≤ minuteOfDay b := Int.ediv_mul_le _ (by omega)
  have steps : (clock tf a + 1) * tf ≤ clock tf b * tf :=
    Int.mul_le_mul_of_nonneg_right (by omega) (by omega)
  omega

theorem minute_lt_of_clock_lt (long : 1 < tf) {a b : Int} (earlier : clock tf a < clock tf b) :
    minuteOfDay a < minuteOfDay b := by
  by_contra later
  have grows : clock tf b ≤ clock tf a := Int.ediv_le_ediv (by omega) (by omega)
  omega

end Clock

section Invariant

variable {tf : Int} {recorded : Recorded}

theorem fresh_faithful (tf : Int) : Faithful tf Recorded.fresh := by
  constructor
  case series => simp [window, Recorded.fresh, Engine.fresh]
  case timed => simp [Recorded.fresh]
  case idle => intro key _; rfl
  case ordered => exact List.Pairwise.nil
  case aligned =>
    intro key a member
    simp [window, Recorded.fresh] at member

theorem tick_faithful (faithful : Faithful tf recorded) (key : Key) (ltp atp : Rat) :
    Faithful tf (step recorded (.tick key ltp atp)) := by
  constructor
  case series => exact faithful.series
  case timed => exact faithful.timed
  case idle =>
    intro other absent
    apply faithful.idle
    have none := AList.lookup_insert_eq_none.mp absent
    exact none.2
  case ordered => exact faithful.ordered
  case aligned => exact faithful.aligned

theorem map_rtake (n : Nat) (bars : List Stamped) :
    (bars.map Stamped.bar).rtake n = (bars.rtake n).map Stamped.bar := by
  simp only [List.rtake, List.length_map, List.map_drop]

/-- One more bar in a window of bounded length keeps only bars that were there. -/
theorem mem_rtake_snoc {n : Nat} {bars : List Stamped} {x b : Stamped}
    (member : b ∈ (bars ++ [x]).rtake n) : b = x ∨ b ∈ bars.rtake (n - 1) := by
  cases n with
  | zero => simp at member
  | succ n =>
    rw [List.rtake_concat_succ] at member
    rcases List.mem_append.mp member with old | new
    · exact .inr old
    · exact .inl (List.mem_singleton.mp new)

theorem rtake_pred_subset {n : Nat} {bars : List Stamped} {b : Stamped}
    (member : b ∈ bars.rtake (n - 1)) : b ∈ bars.rtake n := by
  rw [List.rtake] at member ⊢
  exact (List.drop_suffix_drop_left bars (by omega)).mem member

/-- In an ordered timeline, what bounds the last time bounds all. -/
theorem timeline_bounded {timeline : List Int} (ordered : timeline.Pairwise (· ≤ ·)) {time : Int}
    (later : ∀ last ∈ timeline.getLast?, last ≤ time) : ∀ earlier ∈ timeline, earlier ≤ time := by
  intro earlier member
  have nonempty : timeline ≠ [] := List.ne_nil_of_mem member
  obtain ⟨init, last, parts⟩ : ∃ init last, timeline = init ++ [last] :=
    ⟨_, _, (List.dropLast_append_getLast nonempty).symm⟩
  rw [parts] at ordered member
  have final : last ≤ time := later last (by simp [parts])
  rcases List.mem_append.mp member with early | late
  · have below := (List.pairwise_append.mp ordered).2.2 earlier early last (by simp)
    omega
  · rw [List.mem_singleton.mp late]
    exact final

theorem commit_faithful (faithful : Faithful tf recorded) (time : Int)
    (onClock : OnClock tf recorded (.commit time)) :
    Faithful tf (step recorded (.commit time)) := by
  obtain ⟨later, clocked⟩ := onClock
  have bounded := timeline_bounded faithful.ordered later
  have past : ∀ key, ∀ b ∈ recorded.history key, b.time ≤ time := by
    intro key b member
    exact bounded b.time ((faithful.timed key).mem (List.mem_map_of_mem member))
  constructor
  case series =>
    intro key
    simp only [step, commitBar, window]
    cases found : recorded.engine.latest.lookup key with
    | none => exact faithful.series key
    | some quote =>
      simp only [faithful.series key, nextMinute, Option.getD_some, window]
      change (((recorded.history key).rtake _).map Stamped.bar ++
        [Stamped.bar ⟨time, quote.ltp, quote.atp⟩]).rtake _ = _
      rw [← List.map_singleton, ← List.map_append, map_rtake, rtake_snoc]
  case timed =>
    intro key
    simp only [step]
    cases found : recorded.engine.latest.lookup key with
    | none => simp [faithful.idle key found]
    | some quote =>
      obtain ⟨before, parts⟩ := faithful.timed key
      exact ⟨before, by simp [← parts]⟩
  case idle =>
    intro key absent
    have none : recorded.engine.latest.lookup key = none := absent
    simp only [step, none]
    exact faithful.idle key none
  case ordered =>
    exact List.pairwise_append.mpr ⟨faithful.ordered, List.pairwise_singleton _ _,
      fun earlier member last only => List.mem_singleton.mp only ▸ bounded earlier member⟩
  case aligned =>
    intro key
    simp only [window, step, commitBar]
    cases found : recorded.engine.latest.lookup key with
    | none => exact faithful.aligned key
    | some quote =>
      have tracked : key ∈ recorded.engine.latest.keys :=
        AList.mem_keys.mp (AList.lookup_isSome.mp (by simp [found]))
      intro a aMember b bMember earlier
      rcases mem_rtake_snoc aMember with rfl | aOld
      · rcases mem_rtake_snoc bMember with rfl | bOld
        · exact absurd earlier (lt_irrefl _)
        · have before := past key b ((rtake_suffix _ _).mem bOld)
          simp only [day] at earlier
          omega
      · rcases mem_rtake_snoc bMember with rfl | bOld
        · exact clocked key tracked a aOld earlier
        · exact faithful.aligned key a (rtake_pred_subset aOld) b (rtake_pred_subset bOld) earlier

theorem step_faithful (event : Event) (faithful : Faithful tf recorded)
    (onClock : OnClock tf recorded event) : Faithful tf (step recorded event) := by
  cases event with
  | tick key ltp atp => exact tick_faithful faithful key ltp atp
  | commit time => exact commit_faithful faithful time onClock

end Invariant

section Window

variable {tf : Int} {bars : List Stamped} {now : Int}

/-- In an aligned window two bars share a candle exactly when they share a group. -/
theorem candle_eq_iff_clock (long : 1 < tf) (aligned : Aligned tf bars) {a b : Stamped}
    (aMember : a ∈ bars) (bMember : b ∈ bars) :
    candle tf a.time = candle tf b.time ↔ clock tf a.time = clock tf b.time := by
  have forward := aligned a aMember b bMember
  have backward := aligned b bMember a aMember
  rw [candle_eq_iff long]
  omega

theorem candle_lt_iff_clock (long : 1 < tf) (aligned : Aligned tf bars) {a b : Stamped}
    (aMember : a ∈ bars) (bMember : b ∈ bars) :
    candle tf a.time < candle tf b.time ↔ clock tf a.time < clock tf b.time := by
  have forward := aligned a aMember b bMember
  have backward := aligned b bMember a aMember
  rw [candle_lt_iff long]
  omega

/-- The greatest minute index of an aligned window is the minute of its last bar. -/
theorem latestMinute_eq (long : 1 < tf) (aligned : Aligned tf bars) {x : Stamped}
    (member : x ∈ bars) (last : ∀ b ∈ bars, b.time ≤ x.time) :
    latestMinute (bars.map Stamped.bar) = minuteOfDay x.time := by
  have greatest : (bars.map Stamped.bar |>.map Bar.minute).max? = some (minuteOfDay x.time) := by
    rw [List.max?_eq_some_iff]
    refine ⟨by simpa [Stamped.bar] using ⟨x, member, rfl⟩, ?_⟩
    simp only [List.map_map, List.mem_map, forall_exists_index, and_imp]
    rintro _ b bMember rfl
    have before := last b bMember
    have clocked := aligned b bMember x member
    simp only [Function.comp, Stamped.bar]
    by_cases same : day b.time = day x.time
    · simp only [day] at same
      simp only [minuteOfDay]
      omega
    · have earlier : day b.time < day x.time := by
        simp only [day] at same ⊢
        omega
      exact le_of_lt (minute_lt_of_clock_lt long (clocked earlier))
  rw [latestMinute, greatest, Option.getD_some]

/-- The engine and the calendar agree on which groups of the window are complete. -/
theorem complete_iff (long : 1 < tf) (aligned : Aligned tf bars) {x b : Stamped}
    (member : x ∈ bars) (last : ∀ b ∈ bars, b.time ≤ x.time) (bMember : b ∈ bars) :
    (clock tf b.time + 1) * tf - 1 ≤ latestMinute (bars.map Stamped.bar) ↔
      Completed tf x.time b.time := by
  rw [latestMinute_eq long aligned member last, Completed]
  constructor
  · exact .inr
  · rintro (earlier | ended)
    · have ends := clock_lt_end long (aligned b bMember x member earlier)
      omega
    · exact ended

/-- A group of the engine is a completed candle of the window. -/
theorem lookup_tfGroups (long : 1 < tf) (aligned : Aligned tf bars) {x : Stamped}
    (member : x ∈ bars) (last : ∀ b ∈ bars, b.time ≤ x.time) (g : Int) (bar : Bar) :
    (tfGroups (bars.map Stamped.bar) tf).lookup g = some bar ↔
      ∃ b, lastIn (fun b => clock tf b.time) bars g = some b ∧ b.bar = bar ∧
        Completed tf x.time b.time := by
  rw [tfGroups, mem_lookup_keep, lookup_groups, lastIn_map, decide_eq_true_iff,
    Option.map_eq_some_iff]
  constructor
  · rintro ⟨complete, b, found, rfl⟩
    obtain ⟨bMember, group⟩ := lastIn_spec _ found
    refine ⟨b, found, rfl, ?_⟩
    rw [← complete_iff long aligned member last bMember]
    rwa [← show clock tf b.time = g from group] at complete
  · rintro ⟨b, found, rfl, complete⟩
    obtain ⟨bMember, group⟩ := lastIn_spec _ found
    refine ⟨?_, b, found, rfl⟩
    rw [← show clock tf b.time = g from group]
    exact (complete_iff long aligned member last bMember).mpr complete

end Window

section Legs

variable {tf : Int} {recorded : Recorded} {now : Int}

theorem window_suffix (recorded : Recorded) (key : Key) :
    window recorded key <:+ recorded.history key := rtake_suffix _ _

/-- The windows of all keys end where the time line ends. -/
theorem window_timed (faithful : Faithful tf recorded) (key : Key) :
    (window recorded key).map Stamped.time <:+ recorded.timeline :=
  ((window_suffix recorded key).map _).trans (faithful.timed key)

/-- A bar of the last commit ends every window that is not empty. -/
theorem window_last (faithful : Faithful tf recorded) (end_ : recorded.timeline.getLast? = some now)
    {key : Key} {b : Stamped} (member : b ∈ window recorded key) :
    ∃ x ∈ window recorded key, x.time = now ∧ ∀ a ∈ window recorded key, a.time ≤ x.time := by
  obtain ⟨before, parts⟩ := window_timed faithful key
  have nonempty : window recorded key ≠ [] := List.ne_nil_of_mem member
  obtain ⟨init, x, split⟩ : ∃ init x, window recorded key = init ++ [x] :=
    ⟨_, _, (List.dropLast_append_getLast nonempty).symm⟩
  have ordered := faithful.ordered
  rw [← parts, split, List.map_append] at ordered
  refine ⟨x, by simp [split], ?_, ?_⟩
  · rw [← parts, split] at end_
    simpa using end_
  · intro a aMember
    rw [split] at aMember
    rcases List.mem_append.mp aMember with early | late
    · have times := (List.pairwise_append.mp (List.pairwise_append.mp ordered).2.1).2.2
      exact times a.time (List.mem_map_of_mem early) x.time (by simp)
    · rw [List.mem_singleton.mp late]

/-- A bar that has left the window is not later than any bar in it. -/
theorem history_before (faithful : Faithful tf recorded) {key : Key} {b a : Stamped}
    (member : b ∈ recorded.history key) (gone : b ∉ window recorded key)
    (kept : a ∈ window recorded key) : b.time ≤ a.time := by
  obtain ⟨old, parts⟩ := window_suffix recorded key
  have ordered := faithful.ordered.sublist (faithful.timed key).sublist
  rw [← parts, List.map_append] at ordered
  rw [← parts] at member
  have early : b ∈ old := by simpa [gone] using member
  exact (List.pairwise_append.mp ordered).2.2 b.time (List.mem_map_of_mem early) a.time
    (List.mem_map_of_mem kept)

/-- Legs share their commits, so a group that both windows meet is one candle. -/
theorem candle_shared (long : 1 < tf) (faithful : Faithful tf recorded) {ce pe : Key}
    {b p : Stamped} (bMember : b ∈ window recorded ce) (pMember : p ∈ window recorded pe)
    (group : clock tf b.time = clock tf p.time) : candle tf b.time = candle tf p.time := by
  rcases List.suffix_or_suffix_of_suffix (window_timed faithful ce) (window_timed faithful pe)
    with inner | inner
  · obtain ⟨q, qMember, same⟩ := List.mem_map.mp (inner.mem (List.mem_map_of_mem bMember))
    rw [← same] at group ⊢
    exact (candle_eq_iff_clock long (faithful.aligned pe) qMember pMember).mpr group
  · obtain ⟨q, qMember, same⟩ := List.mem_map.mp (inner.mem (List.mem_map_of_mem pMember))
    rw [← same] at group ⊢
    exact (candle_eq_iff_clock long (faithful.aligned ce) bMember qMember).mpr group

/-- The last bar of a group of the window is the last bar of its candle. -/
theorem candleBar_window (long : 1 < tf) (faithful : Faithful tf recorded) {key : Key} {g : Int}
    {b : Stamped} (found : lastIn (fun b => clock tf b.time) (window recorded key) g = some b) :
    candleBar tf (recorded.history key) (candle tf b.time) = some b := by
  obtain ⟨member, group⟩ := lastIn_spec _ found
  obtain ⟨old, parts⟩ := window_suffix recorded key
  rw [candleBar, ← parts, lastIn_append (fun b : Stamped => candle tf b.time) member, ← found]
  apply lastIn_congr
  intro x xMember
  rw [candle_eq_iff_clock long (faithful.aligned key) xMember member]
  rw [show clock tf b.time = g from group]

/-- The bars of both legs in a completed group. -/
structure GroupBars (tf now : Int) (ce pe : List Stamped) (g : Int) (b p : Stamped) : Prop where
  ceLast : lastIn (fun b => clock tf b.time) ce g = some b
  peLast : lastIn (fun b => clock tf b.time) pe g = some p
  ceComplete : Completed tf now b.time
  peComplete : Completed tf now p.time

theorem series_lookup (long : 1 < tf) (faithful : Faithful tf recorded)
    (end_ : recorded.timeline.getLast? = some now) (key : Key) (g : Int) (bar : Bar) :
    (tfGroups (recorded.engine.series key) tf).lookup g = some bar ↔
      ∃ b, lastIn (fun b => clock tf b.time) (window recorded key) g = some b ∧ b.bar = bar ∧
        Completed tf now b.time := by
  rw [faithful.series key]
  cases empty : window recorded key with
  | nil => simp [tfGroups, groups, lastIn, mem_lookup_keep]
  | cons first rest =>
    rw [← empty]
    have member : first ∈ window recorded key := by simp [empty]
    obtain ⟨x, xMember, rfl, last⟩ := window_last faithful end_ member
    exact lookup_tfGroups long (faithful.aligned key) xMember last g bar

theorem pairAt_iff (long : 1 < tf) (faithful : Faithful tf recorded)
    (end_ : recorded.timeline.getLast? = some now) (ce pe : Key) (g : Int) (quote : Quote) :
    pairAt (recorded.engine.series ce) (recorded.engine.series pe) tf g = some quote ↔
      ∃ b p, GroupBars tf now (window recorded ce) (window recorded pe) g b p ∧
        quote = ⟨b.close + p.close, b.atp + p.atp⟩ := by
  simp only [pairAt, Option.bind_eq_bind, Option.bind_eq_some_iff, Option.pure_def,
    Option.some.injEq, series_lookup long faithful end_]
  constructor
  · rintro ⟨_, ⟨b, ceLast, rfl, ceComplete⟩, _, ⟨p, peLast, rfl, peComplete⟩, rfl⟩
    exact ⟨b, p, ⟨ceLast, peLast, ceComplete, peComplete⟩, rfl⟩
  · rintro ⟨b, p, bars, rfl⟩
    exact ⟨_, ⟨b, bars.ceLast, rfl, bars.ceComplete⟩, _, ⟨p, bars.peLast, rfl, bars.peComplete⟩,
      rfl⟩

theorem mem_commonGroups (long : 1 < tf) (faithful : Faithful tf recorded)
    (end_ : recorded.timeline.getLast? = some now) (ce pe : Key) (g : Int) :
    g ∈ commonGroups (recorded.engine.series ce) (recorded.engine.series pe) tf ↔
      ∃ b p, GroupBars tf now (window recorded ce) (window recorded pe) g b p := by
  rw [commonGroups, List.mem_insertionSort, List.mem_filter, decide_eq_true_iff, ← AList.mem_keys,
    ← AList.lookup_isSome, ← AList.lookup_isSome, Option.isSome_iff_exists,
    Option.isSome_iff_exists]
  simp only [series_lookup long faithful end_]
  constructor
  · rintro ⟨⟨_, b, ceLast, rfl, ceComplete⟩, ⟨_, p, peLast, rfl, peComplete⟩⟩
    exact ⟨b, p, ceLast, peLast, ceComplete, peComplete⟩
  · rintro ⟨b, p, bars⟩
    exact ⟨⟨_, b, bars.ceLast, rfl, bars.ceComplete⟩, ⟨_, p, bars.peLast, rfl, bars.peComplete⟩⟩

theorem commonGroups_increasing (ceBars peBars : List Bar) (tf : Int) :
    (commonGroups ceBars peBars tf).Pairwise (· < ·) := by
  rw [← List.sortedLT_iff_pairwise]
  apply List.SortedLE.sortedLT_of_nodup
  · rw [List.sortedLE_iff_pairwise]
    exact List.pairwise_insertionSort (· ≤ ·) _
  · rw [commonGroups, (List.perm_insertionSort _ _).nodup_iff]
    exact (AList.keys_nodup _).filter _

/-- Groups that both legs completed are groups of one candle, and it is completed. -/
theorem groupBars_candle (long : 1 < tf) (faithful : Faithful tf recorded) {ce pe : Key} {g : Int}
    {b p : Stamped}
    (bars : GroupBars tf now (window recorded ce) (window recorded pe) g b p) :
    candle tf b.time = candle tf p.time ∧
      candle tf b.time ∈ completed tf now (recorded.history ce) (recorded.history pe) := by
  obtain ⟨bMember, bGroup⟩ := lastIn_spec _ bars.ceLast
  obtain ⟨pMember, pGroup⟩ := lastIn_spec _ bars.peLast
  have shared : candle tf b.time = candle tf p.time :=
    candle_shared long faithful bMember pMember (bGroup.trans pGroup.symm)
  refine ⟨shared, ⟨b, (window_suffix recorded ce).mem bMember, rfl, bars.ceComplete⟩, ?_⟩
  exact ⟨p, (window_suffix recorded pe).mem pMember, shared.symm, bars.peComplete⟩

theorem groupBars_value (long : 1 < tf) (faithful : Faithful tf recorded) {ce pe : Key} {g : Int}
    {b p : Stamped}
    (bars : GroupBars tf now (window recorded ce) (window recorded pe) g b p) :
    CandleValue tf (recorded.history ce) (recorded.history pe) (candle tf b.time)
      (b.close + p.close) (b.atp + p.atp) := by
  have shared := (groupBars_candle long faithful bars).1
  refine ⟨b, p, candleBar_window long faithful bars.ceLast, ?_, rfl, rfl⟩
  rw [shared]
  exact candleBar_window long faithful bars.peLast

/-- A completed candle after one that both windows meet is met by both too. -/
theorem later_group (long : 1 < tf) (faithful : Faithful tf recorded) {ce pe : Key} {g c : Int}
    {b p : Stamped}
    (bars : GroupBars tf now (window recorded ce) (window recorded pe) g b p)
    (complete : c ∈ completed tf now (recorded.history ce) (recorded.history pe))
    (later : candle tf b.time < c) :
    ∃ g' b' p', GroupBars tf now (window recorded ce) (window recorded pe) g' b' p' ∧
      candle tf b'.time = c := by
  obtain ⟨bMember, bGroup⟩ := lastIn_spec _ bars.ceLast
  obtain ⟨pMember, pGroup⟩ := lastIn_spec _ bars.peLast
  have shared := (groupBars_candle long faithful bars).1
  obtain ⟨⟨x, xHistory, rfl, xComplete⟩, ⟨y, yHistory, same, yComplete⟩⟩ := complete
  have xMember : x ∈ window recorded ce := by
    by_contra gone
    have before := candle_mono long (history_before faithful xHistory gone bMember)
    omega
  have yMember : y ∈ window recorded pe := by
    by_contra gone
    have before := candle_mono long (history_before faithful yHistory gone pMember)
    omega
  obtain ⟨days, groups⟩ := (candle_eq_iff long y.time x.time).mp same
  obtain ⟨b', ceLast⟩ := lastIn_exists (fun b => clock tf b.time) xMember
  obtain ⟨p', peLast⟩ := lastIn_exists (fun b => clock tf b.time) yMember
  obtain ⟨bMember', bGroup'⟩ := lastIn_spec _ ceLast
  obtain ⟨pMember', pGroup'⟩ := lastIn_spec _ peLast
  have bCandle : candle tf b'.time = candle tf x.time :=
    (candle_eq_iff_clock long (faithful.aligned ce) bMember' xMember).mpr bGroup'
  have pCandle : candle tf p'.time = candle tf y.time :=
    (candle_eq_iff_clock long (faithful.aligned pe) pMember' yMember).mpr pGroup'
  have complete_congr {s t : Int} (equal : candle tf s = candle tf t)
      (holds : Completed tf now t) : Completed tf now s := by
    obtain ⟨sameDay, sameClock⟩ := (candle_eq_iff long s t).mp equal
    rwa [Completed, sameDay, sameClock]
  refine ⟨clock tf x.time, b', p', ⟨ceLast, ?_, ?_, ?_⟩, bCandle⟩
  · rw [← groups]
    exact peLast
  · exact complete_congr bCandle xComplete
  · exact complete_congr pCandle yComplete

/-- Later groups are later candles. -/
theorem groupBars_lt_iff (long : 1 < tf) (faithful : Faithful tf recorded) {ce pe : Key}
    {g g' : Int} {b b' p p' : Stamped}
    (bars : GroupBars tf now (window recorded ce) (window recorded pe) g b p)
    (others : GroupBars tf now (window recorded ce) (window recorded pe) g' b' p') :
    candle tf b.time < candle tf b'.time ↔ g < g' := by
  obtain ⟨bMember, rfl⟩ := lastIn_spec _ bars.ceLast
  obtain ⟨bMember', rfl⟩ := lastIn_spec _ others.ceLast
  exact candle_lt_iff_clock long (faithful.aligned ce) bMember bMember'

/-- The greatest common group is the last completed candle. -/
theorem last_greatest (long : 1 < tf) (faithful : Faithful tf recorded) {ce pe : Key} {g : Int}
    {b p : Stamped} (bars : GroupBars tf now (window recorded ce) (window recorded pe) g b p)
    (greatest : ∀ g' b' p', GroupBars tf now (window recorded ce) (window recorded pe) g' b' p' →
      g' ≤ g) :
    IsGreatest (completed tf now (recorded.history ce) (recorded.history pe))
      (candle tf b.time) := by
  refine ⟨(groupBars_candle long faithful bars).2, ?_⟩
  intro c complete
  by_contra later
  obtain ⟨g', b', p', others, rfl⟩ := later_group long faithful bars complete (by omega)
  have above : g < g' := (groupBars_lt_iff long faithful bars others).mp (by omega)
  have below : g' ≤ g := greatest g' b' p' others
  omega

/-- The greatest common group below another is the completed candle before it. -/
theorem before_greatest (long : 1 < tf) (faithful : Faithful tf recorded) {ce pe : Key}
    {g g' : Int} {b b' p p' : Stamped}
    (bars : GroupBars tf now (window recorded ce) (window recorded pe) g b p)
    (others : GroupBars tf now (window recorded ce) (window recorded pe) g' b' p')
    (below : g' < g)
    (greatest : ∀ h a q, GroupBars tf now (window recorded ce) (window recorded pe) h a q →
      h < g → h ≤ g') :
    IsGreatest {c | c ∈ completed tf now (recorded.history ce) (recorded.history pe) ∧
      c < candle tf b.time} (candle tf b'.time) := by
  refine ⟨⟨(groupBars_candle long faithful others).2,
    (groupBars_lt_iff long faithful others bars).mpr below⟩, ?_⟩
  rintro c ⟨complete, earlier⟩
  by_contra later
  obtain ⟨h, a, q, between, rfl⟩ := later_group long faithful others complete (by omega)
  have above : g' < h := (groupBars_lt_iff long faithful others between).mp (by omega)
  have bound : h ≤ g' :=
    greatest h a q between ((groupBars_lt_iff long faithful between bars).mp earlier)
  omega

/-- The invariant makes every resampled result chronological. -/
theorem faithful_chronological (long : 1 < tf) (faithful : Faithful tf recorded)
    (ceStrike peStrike : Int) : Chronological tf recorded ceStrike peStrike := by
  intro ind computed
  -- without a commit there is no bar and no result
  obtain ⟨now, end_⟩ : ∃ now, recorded.timeline.getLast? = some now := by
    apply Option.ne_none_iff_exists'.mp
    intro nothing
    have empty := List.getLast?_eq_none_iff.mp nothing
    have none : recorded.engine.series (ceStrike, .ce) = [] := by
      have times := window_timed faithful (ceStrike, .ce)
      rw [empty, List.suffix_nil, List.map_eq_nil_iff] at times
      rw [faithful.series, times, List.map_nil]
    simp [pairIndicatorsTf, show ¬ tf ≤ 1 by omega, none, commonGroups, tfGroups, keep, groups]
      at computed
  refine ⟨now, end_, ?_⟩
  have member := mem_commonGroups long faithful end_ (ceStrike, .ce) (peStrike, .pe)
  have value := pairAt_iff long faithful end_ (ceStrike, .ce) (peStrike, .pe)
  have increasing := commonGroups_increasing (recorded.engine.series (ceStrike, .ce))
    (recorded.engine.series (peStrike, .pe)) tf
  -- every minute of a day is one of a live group
  have live : (commonGroups (recorded.engine.series (ceStrike, .ce))
      (recorded.engine.series (peStrike, .pe)) tf).filter (fun g => 0 ≤ g) =
      commonGroups (recorded.engine.series (ceStrike, .ce))
        (recorded.engine.series (peStrike, .pe)) tf := by
    rw [List.filter_eq_self]
    intro g common
    obtain ⟨b, p, bars⟩ := (member g).mp common
    obtain ⟨_, rfl⟩ := lastIn_spec _ bars.ceLast
    simpa using (clock_bounds long b.time).1
  simp only [pairIndicatorsTf, show ¬ tf ≤ 1 by omega, if_false, live] at computed
  split at computed
  case h_1 => cases computed
  case h_2 quote found =>
    obtain ⟨g, last, atLast⟩ := Option.bind_eq_some_iff.mp found
    obtain ⟨b, p, bars, rfl⟩ := (value g quote).mp atLast
    have greatest := greatest_last increasing last
    split at computed
    case isTrue => cases computed
    case isFalse =>
      cases computed
      refine ⟨candle tf b.time, last_greatest long faithful bars ?_,
        groupBars_value long faithful bars, ?_⟩
      · intro g' b' p' others
        exact greatest.2 ((member g').mpr ⟨b', p', others⟩)
      · intro slope sloped
        obtain ⟨vwap, earlier, rfl⟩ := Option.map_eq_some_iff.mp sloped
        obtain ⟨old, foundOld, rfl⟩ := Option.map_eq_some_iff.mp earlier
        obtain ⟨g', before, atBefore⟩ := Option.bind_eq_some_iff.mp foundOld
        obtain ⟨b', p', others, rfl⟩ := (value g' old).mp atBefore
        have second := greatest_before increasing last before
        refine ⟨candle tf b'.time, _, _, before_greatest long faithful bars others second.1.2 ?_,
          groupBars_value long faithful others, rfl⟩
        intro h a q between smaller
        exact second.2 ⟨(member h).mpr ⟨a, q, between⟩, smaller⟩

end Legs

/-- In every run of ticks and commits whose commits stay on the clock, in any
state reached and for every pair and timeframe, what the engine returns comes
from the last completed candles of both legs. -/
theorem resampling_chronological (tf : Int) (long : 1 < tf) (events : List Event)
    (onClock : Along step (OnClock tf) Recorded.fresh events) (ceStrike peStrike : Int) :
    Chronological tf (run step Recorded.fresh events) ceStrike peStrike :=
  faithful_chronological long
    (along_invariant step (fun _ event faithful admitted => step_faithful event faithful admitted)
      Recorded.fresh events (fresh_faithful tf) onClock) ceStrike peStrike

section Runs

/-- Both legs of one strike tick and a minute is committed. -/
def minuteOf (time : Int) (price : Rat) : List Event :=
  [.tick (24600, .ce) price price, .tick (24600, .pe) 40 40, .commit time]

/-- The last minutes of a day and the first ones of the next. -/
def overMidnight : List Event :=
  minuteOf 1438 70 ++ minuteOf 1439 80 ++ minuteOf 1440 90 ++ minuteOf 1441 100

theorem resampling_chronological_in_the_morning :
    Chronological 2 (run step Recorded.fresh
      (minuteOf 555 70 ++ minuteOf 556 80 ++ minuteOf 557 90 ++ minuteOf 558 95)) 24600 24600 :=
  resampling_chronological 2 (by decide) _ (by decide) 24600 24600

/-- After midnight the engine still returns the candle that ended before it. -/
theorem resampling_stale_after_midnight :
    ¬ Chronological 2 (run step Recorded.fresh overMidnight) 24600 24600 := by
  intro chronological
  have computed : pairIndicatorsTf (run step Recorded.fresh overMidnight).engine 24600 24600 2 =
      some { close := 120, vwap := 120, slope := some (-20), vwapPrev := some 140 } := by
    decide +kernel
  have ce : (run step Recorded.fresh overMidnight).history (24600, .ce) =
      [⟨1438, 70, 70⟩, ⟨1439, 80, 80⟩, ⟨1440, 90, 90⟩, ⟨1441, 100, 100⟩] := by decide
  have pe : (run step Recorded.fresh overMidnight).history (24600, .pe) =
      [⟨1438, 40, 40⟩, ⟨1439, 40, 40⟩, ⟨1440, 40, 40⟩, ⟨1441, 40, 40⟩] := by decide
  obtain ⟨now, end_, last, greatest, ⟨b, p, bLast, pLast, close, _⟩, _⟩ :=
    chronological _ computed
  have clock : some 1441 = some now := by
    rw [← end_]
    decide
  cases clock
  rw [ce] at bLast greatest
  rw [pe] at pLast greatest
  have final : (1440 : Int) ≤ last :=
    greatest.2 ⟨⟨⟨1441, 100, 100⟩, by simp, by decide, by decide⟩,
      ⟨⟨1441, 40, 40⟩, by simp, by decide, by decide⟩⟩
  have listed : last = 719 ∨ last = 1440 := by
    obtain ⟨⟨x, member, rfl, _⟩, _⟩ := greatest.1
    simp only [List.mem_cons, List.not_mem_nil, or_false] at member
    rcases member with rfl | rfl | rfl | rfl <;> decide
  obtain rfl : last = 1440 := by omega
  cases bLast
  cases pLast
  revert close
  decide +kernel

end Runs

end OptionChain.PoolResampling
