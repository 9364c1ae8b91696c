import Mathlib.Algebra.Order.Ring.Abs
import Mathlib.Tactic.Linarith
import OptionChain.TickBuckets
import OptionChain.Ticks
import OptionChain.TrapPosition

/-!
# The filter on the spot

`_idx_tick_loop` takes an index price into the spot cache unless it jumps too far from the
last one it took. A price that jumps but is plausible against the day's open is soft: the
fifth rejection lets it through. A price that is also far from the open is hard and never
comes through, but its rejections are counted with the others.

So a single soft price comes through behind four hard ones. Where the filter gives way
to soft prices alone, it is right.
-/

namespace OptionChain.SpotFilter

open Runs TickBuckets Ticks
open TrapPosition (HtfSource)

/-- The bars of a leg and its open bucket. -/
structure Series where
  bucket : Option Candle := none
  bars : List Candle := []
deriving DecidableEq

/-- A tick goes to the bucket; of the completed candles the last 2000 are kept. -/
def Series.feed (series : Series) (tick : LtpTick) : Series :=
  let updated := updateBucket series.bucket tick
  match updated.2 with
  | none => { series with bucket := updated.1 }
  | some closed =>
      let bars := series.bars ++ [closed]
      ⟨updated.1, bars.drop (bars.length - 2000)⟩

/-- What the loop reads and writes. The open of the day is unknown before the morning. -/
structure Engine where
  initialized : Bool := false
  spotOpen : Rat := 0
  spotCache : Rat := 0
  spotBadCnt : Nat := 0
  futLtp : Option Rat := none
  spot : Series := {}
  fut : Series := {}
deriving DecidableEq

/-- What becomes of a price: rejected as garbage, rejected as a jump, or accepted. -/
inductive Verdict where
  | hard
  | soft
  | accepted
deriving DecidableEq

/-- A book's underlying, and where its bars come from. -/
structure Setup where
  und : String
  isMcx : Bool
  htfSource : HtfSource

/-- Something that happens to the engine: the morning with the open of the day, which is a
price, the end of the day, a change of the expiry mode, or a tick. -/
inductive Event where
  | morning (spotOpen : {price : Rat // 0 < price})
  | reset
  | expiryMode
  | tick (tick : IndexTick)

section Loop

variable (setup : Setup) (engine : Engine)

/-- `_guard`. -/
def guard : Rat := if setup.isMcx then 8 / 100 else 4 / 100

/-- A price is too far from a reference. -/
def Far (ref ltp : Rat) : Prop := guard setup < |ltp - ref| / ref

instance (ref ltp : Rat) : Decidable (Far setup ref ltp) :=
  inferInstanceAs (Decidable (guard setup < |ltp - ref| / ref))

/-- `_ref`. -/
def Engine.ref : Rat := if 0 < engine.spotCache then engine.spotCache else engine.spotOpen

/-- The sanity guard. -/
def verdict (ltp : Rat) : Verdict :=
  if 0 < engine.ref ∧ Far setup engine.ref ltp then
    if 0 < engine.spotOpen ∧ Far setup engine.spotOpen ltp then .hard
    else if engine.spotBadCnt + 1 < 5 then .soft
    else .accepted
  else .accepted

/-- The bars that an accepted tick goes to. -/
def Engine.feed (tick : IndexTick) : Engine :=
  match setup.htfSource with
  | .spot => { engine with spot := engine.spot.feed ⟨tick.ltp, tick.timestamp⟩ }
  | .futures =>
      { engine with
        futLtp := some tick.ltp
        fut := engine.fut.feed ⟨tick.ltp, tick.timestamp⟩ }
  | .option => engine

/-- The loop takes the tick. -/
def Sees (tick : IndexTick) : Prop :=
  tick.symbol.toUpper = setup.und ∧ engine.initialized = true

instance (tick : IndexTick) : Decidable (Sees setup engine tick) :=
  inferInstanceAs (Decidable (_ ∧ _))

/-- A round of `_idx_tick_loop`, up to the exits of an open position. -/
def indexTick (tick : IndexTick) : Engine :=
  if Sees setup engine tick then
    match verdict setup engine tick.ltp with
    | .hard | .soft => { engine with spotBadCnt := engine.spotBadCnt + 1 }
    | .accepted =>
        Engine.feed setup { engine with spotBadCnt := 0, spotCache := tick.ltp } tick
  else engine

/-- `_morning_init`, `_reset_day_state`, `set_expiry_mode` or a tick. -/
def handle : Event → Engine
  | .morning spotOpen => { engine with spotOpen := spotOpen.1, initialized := true }
  | .reset => { engine with initialized := false, spot := {}, fut := {} }
  | .expiryMode => { engine with initialized := false }
  | .tick tick => indexTick setup engine tick

end Loop

/-- The engine with its history: the last accepted price, how many soft ticks came in a row
just before, and whether a hard one came since a price was accepted. -/
structure Watched where
  engine : Engine := {}
  lastAccepted : Option Rat := none
  softRun : Nat := 0
  hardSince : Bool := false
deriving DecidableEq

section Laws

variable (setup : Setup) (watched : Watched)

def step : Event → Watched
  | .tick tick =>
      let engine := handle setup watched.engine (.tick tick)
      if Sees setup watched.engine tick then
        match verdict setup watched.engine tick.ltp with
        | .hard => { watched with engine := engine, softRun := 0, hardSince := true }
        | .soft => { watched with engine := engine, softRun := watched.softRun + 1 }
        | .accepted => ⟨engine, some tick.ltp, 0, false⟩
      else { watched with engine := engine }
  | event => { watched with engine := handle setup watched.engine event }

/-- The last accepted price, or the open of the day. -/
def Watched.anchor : Rat := watched.lastAccepted.getD watched.engine.spotOpen

/-- A tick is too far from the anchor, but not from the open of the day. -/
def Soft (ltp : Rat) : Prop :=
  Far setup watched.anchor ltp ∧ ¬ Far setup watched.engine.spotOpen ltp

/-- The tick goes into the spot cache. -/
def Accepts (tick : IndexTick) : Prop :=
  Sees setup watched.engine tick ∧ verdict setup watched.engine tick.ltp = .accepted

/-- What is accepted is near the anchor, or the fifth soft tick in a row. What is not
leaves the spot cache and the bars as they are. -/
structure LawfulTick (tick : IndexTick) : Prop where
  accepts : Accepts setup watched tick →
    ¬ Far setup watched.anchor tick.ltp ∨
      Soft setup watched tick.ltp ∧ watched.softRun + 1 = 5
  keeps : ¬ Accepts setup watched tick →
    let after := indexTick setup watched.engine tick
    after.spotCache = watched.engine.spotCache ∧ after.fut = watched.engine.fut ∧
      after.futLtp = watched.engine.futLtp ∧ after.spot = watched.engine.spot

def Lawful : Event → Prop
  | .tick tick => LawfulTick setup watched tick
  | _ => True

/-- No hard tick was rejected since the last accepted one where a soft tick finds four
rejections. -/
def Sound : Event → Prop
  | .tick tick =>
      Sees setup watched.engine tick → Soft setup watched tick.ltp →
        4 ≤ watched.engine.spotBadCnt → watched.hardSince = false
  | _ => True

/-- The cache holds the last accepted price, which is positive, and the count holds the
soft ticks in a row, and more behind a hard one. -/
structure Tracks : Prop where
  cached : watched.engine.spotCache = watched.lastAccepted.getD 0
  positive : ∀ price ∈ watched.lastAccepted, 0 < price
  opened : watched.engine.initialized = true → 0 < watched.engine.spotOpen
  counted : watched.hardSince = false →
    watched.engine.spotBadCnt = watched.softRun ∧ watched.softRun ≤ 4
  mixed : watched.hardSince = true →
    watched.softRun < watched.engine.spotBadCnt ∧
      (0 < watched.softRun → watched.engine.spotBadCnt ≤ 4)

end Laws

section Steps

variable {setup : Setup} {watched : Watched} {tick : IndexTick} {ref ltp : Rat}

theorem guard_lt_one : guard setup < 1 := by
  unfold guard
  split <;> norm_num

/-- What is near a positive price is positive. -/
theorem positive_of_near (positive : 0 < ref) (near : ¬ Far setup ref ltp) : 0 < ltp := by
  have close : |ltp - ref| / ref < 1 := lt_of_le_of_lt (not_lt.mp near) guard_lt_one
  have within : |ltp - ref| < ref := by
    rwa [div_lt_one positive] at close
  linarith [(abs_lt.mp within).1]

variable (tracks : Tracks watched)
include tracks

theorem ref_eq : watched.engine.ref = watched.anchor := by
  unfold Engine.ref Watched.anchor
  cases last : watched.lastAccepted with
  | none =>
    have empty := tracks.cached
    rw [last] at empty
    rw [empty]
    exact if_neg (lt_irrefl _)
  | some price =>
    have cached := tracks.cached
    rw [last] at cached
    rw [cached]
    exact if_pos (tracks.positive price (by rw [last]; rfl))

/-- Once the day is open the anchor is a price. -/
theorem anchor_pos (opened : watched.engine.initialized = true) : 0 < watched.anchor := by
  unfold Watched.anchor
  cases last : watched.lastAccepted with
  | none => exact tracks.opened opened
  | some price => exact tracks.positive price (by rw [last]; rfl)

/-- The three verdicts on a tick that the loop takes. -/
theorem verdict_cases (seen : Sees setup watched.engine tick) :
    (verdict setup watched.engine tick.ltp = .hard ∧ Far setup watched.anchor tick.ltp ∧
      Far setup watched.engine.spotOpen tick.ltp) ∨
    (verdict setup watched.engine tick.ltp = .soft ∧ Soft setup watched tick.ltp ∧
      watched.engine.spotBadCnt < 4) ∨
    (verdict setup watched.engine tick.ltp = .accepted ∧ Soft setup watched tick.ltp ∧
      4 ≤ watched.engine.spotBadCnt) ∨
    (verdict setup watched.engine tick.ltp = .accepted ∧
      ¬ Far setup watched.anchor tick.ltp) := by
  have anchored : 0 < watched.anchor := anchor_pos tracks seen.2
  have opened := tracks.opened seen.2
  unfold verdict
  rw [ref_eq tracks]
  by_cases far : Far setup watched.anchor tick.ltp
  · by_cases garbage : Far setup watched.engine.spotOpen tick.ltp
    · rw [if_pos ⟨anchored, far⟩, if_pos ⟨opened, garbage⟩]
      exact .inl ⟨rfl, far, garbage⟩
    · rw [if_pos ⟨anchored, far⟩, if_neg (fun both => garbage both.2)]
      by_cases few : watched.engine.spotBadCnt + 1 < 5
      · rw [if_pos few]
        exact .inr (.inl ⟨rfl, ⟨far, garbage⟩, by omega⟩)
      · rw [if_neg few]
        exact .inr (.inr (.inl ⟨rfl, ⟨far, garbage⟩, by omega⟩))
  · rw [if_neg (fun both => far both.2)]
    exact .inr (.inr (.inr ⟨rfl, far⟩))

/-- An accepted price is positive. -/
theorem accepted_pos (seen : Sees setup watched.engine tick)
    (accepted : verdict setup watched.engine tick.ltp = .accepted) : 0 < tick.ltp := by
  rcases verdict_cases tracks seen with
    ⟨hard, -⟩ | ⟨soft, -⟩ | ⟨-, ⟨-, near⟩, -⟩ | ⟨-, near⟩
  · rw [accepted] at hard
    cases hard
  · rw [accepted] at soft
    cases soft
  · exact positive_of_near (tracks.opened seen.2) near
  · exact positive_of_near (anchor_pos tracks seen.2) near

end Steps

section Invariant

variable {setup : Setup} {watched : Watched} {tick : IndexTick}

@[simp] theorem feed_spotCache (engine : Engine) (tick : IndexTick) :
    (engine.feed setup tick).spotCache = engine.spotCache := by
  unfold Engine.feed
  split <;> rfl

@[simp] theorem feed_spotBadCnt (engine : Engine) (tick : IndexTick) :
    (engine.feed setup tick).spotBadCnt = engine.spotBadCnt := by
  unfold Engine.feed
  split <;> rfl

@[simp] theorem feed_opening (engine : Engine) (tick : IndexTick) :
    (engine.feed setup tick).initialized = engine.initialized ∧
      (engine.feed setup tick).spotOpen = engine.spotOpen := by
  unfold Engine.feed
  split <;> exact ⟨rfl, rfl⟩

theorem indexTick_rejected {engine : Engine} (seen : Sees setup engine tick)
    (rejected : verdict setup engine tick.ltp ≠ .accepted) :
    indexTick setup engine tick = { engine with spotBadCnt := engine.spotBadCnt + 1 } := by
  unfold indexTick
  rw [if_pos seen]
  cases shape : verdict setup engine tick.ltp with
  | hard => rfl
  | soft => rfl
  | accepted => exact absurd shape rejected

theorem indexTick_accepted {engine : Engine} (seen : Sees setup engine tick)
    (accepted : verdict setup engine tick.ltp = .accepted) :
    indexTick setup engine tick =
      Engine.feed setup { engine with spotBadCnt := 0, spotCache := tick.ltp } tick := by
  unfold indexTick
  rw [if_pos seen, accepted]

theorem indexTick_unseen {engine : Engine} (unseen : ¬ Sees setup engine tick) :
    indexTick setup engine tick = engine := if_neg unseen

/-- A tick keeps the invariant, whatever becomes of it. -/
theorem tracks_tick (tracks : Tracks watched) (tick : IndexTick) :
    Tracks (step setup watched (.tick tick)) := by
  unfold step handle
  by_cases seen : Sees setup watched.engine tick
  case neg =>
    simp only [if_neg seen, indexTick_unseen seen]
    exact tracks
  simp only [if_pos seen]
  rcases verdict_cases tracks seen with
    ⟨hard, -, -⟩ | ⟨soft, -, few⟩ | ⟨accepted, -⟩ | ⟨accepted, -⟩
  · rw [hard, indexTick_rejected seen (by simp [hard])]
    exact ⟨tracks.cached, tracks.positive, tracks.opened, nofun,
      fun _ => ⟨Nat.succ_pos _, fun none => absurd none (lt_irrefl _)⟩⟩
  · rw [soft, indexTick_rejected seen (by simp [soft])]
    refine ⟨tracks.cached, tracks.positive, tracks.opened, ?_, ?_⟩
    · intro clean
      obtain ⟨same, -⟩ := tracks.counted clean
      refine ⟨congrArg (· + 1) same, ?_⟩
      change watched.softRun + 1 ≤ 4
      omega
    · intro hardly
      obtain ⟨more, -⟩ := tracks.mixed hardly
      exact ⟨Nat.succ_lt_succ more, fun _ => Nat.succ_le_of_lt few⟩
  all_goals
    have positive := accepted_pos tracks seen accepted
    rw [accepted, indexTick_accepted seen accepted]
    refine ⟨by simp, ?_, ?_, fun _ => ⟨by simp, Nat.zero_le _⟩, nofun⟩
    · rintro _ ⟨⟩
      exact positive
    · rw [(feed_opening _ tick).1, (feed_opening _ tick).2]
      exact tracks.opened

theorem tracks_step (tracks : Tracks watched) (event : Event) :
    Tracks (step setup watched event) := by
  cases event with
  | tick tick => exact tracks_tick tracks tick
  | morning spotOpen =>
    exact ⟨tracks.cached, tracks.positive, fun _ => spotOpen.2, tracks.counted, tracks.mixed⟩
  | reset => exact ⟨tracks.cached, tracks.positive, nofun, tracks.counted, tracks.mixed⟩
  | expiryMode => exact ⟨tracks.cached, tracks.positive, nofun, tracks.counted, tracks.mixed⟩

theorem tracks_start : Tracks {} :=
  ⟨rfl, nofun, nofun, fun _ => ⟨rfl, Nat.zero_le _⟩, nofun⟩

/-- A tick that is not accepted changes no more than the count. -/
theorem keeps_unaccepted (rejected : ¬ Accepts setup watched tick) :
    let after := indexTick setup watched.engine tick
    after.spotCache = watched.engine.spotCache ∧ after.fut = watched.engine.fut ∧
      after.futLtp = watched.engine.futLtp ∧ after.spot = watched.engine.spot := by
  by_cases seen : Sees setup watched.engine tick
  · rw [indexTick_rejected seen (fun accepted => rejected ⟨seen, accepted⟩)]
    exact ⟨rfl, rfl, rfl, rfl⟩
  · rw [indexTick_unseen seen]
    exact ⟨rfl, rfl, rfl, rfl⟩

/-- A soft tick behind four rejections is the fifth in a row exactly if none of them was a
hard one. -/
theorem fifth_iff (tracks : Tracks watched) (full : 4 ≤ watched.engine.spotBadCnt) :
    watched.softRun + 1 = 5 ↔ watched.hardSince = false := by
  cases mixed : watched.hardSince with
  | false =>
    obtain ⟨same, atMost⟩ := tracks.counted mixed
    exact ⟨fun _ => rfl, fun _ => by omega⟩
  | true =>
    obtain ⟨more, bounded⟩ := tracks.mixed mixed
    constructor
    · intro fifth
      have few := bounded (by omega)
      omega
    · intro clean
      cases clean

/-- On a tracked engine the law of a tick is that it is sound. -/
theorem lawful_iff_sound (tracks : Tracks watched) (event : Event) :
    Lawful setup watched event ↔ Sound setup watched event := by
  cases event with
  | morning spotOpen => exact Iff.rfl
  | reset => exact Iff.rfl
  | expiryMode => exact Iff.rfl
  | tick tick =>
    constructor
    · intro lawful seen soft full
      rcases verdict_cases tracks seen with
        ⟨-, -, garbage⟩ | ⟨-, -, few⟩ | ⟨accepted, -, -⟩ | ⟨-, near⟩
      · exact absurd garbage soft.2
      · exact absurd full (Nat.not_le.mpr few)
      · rcases lawful.accepts ⟨seen, accepted⟩ with near | ⟨-, fifth⟩
        · exact absurd soft.1 near
        · exact (fifth_iff tracks full).mp fifth
      · exact absurd soft.1 near
    · intro sound
      refine ⟨?_, keeps_unaccepted⟩
      rintro ⟨seen, accepted⟩
      rcases verdict_cases tracks seen with
        ⟨hard, -⟩ | ⟨softly, -⟩ | ⟨-, soft, full⟩ | ⟨-, near⟩
      · rw [accepted] at hard
        cases hard
      · rw [accepted] at softly
        cases softly
      · exact .inr ⟨soft, (fifth_iff tracks full).mpr (sound seen soft full)⟩
      · exact .inl near

end Invariant

/-- Along every run of an engine the filter follows its law exactly if no soft tick finds
four rejections with a hard one among them. -/
theorem spot_filter_iff (setup : Setup) (events : List Event) :
    Along (step setup) (Lawful setup) {} events ↔ Along (step setup) (Sound setup) {} events :=
  along_congr (step setup) (fun _ event tracks => tracks_step tracks event)
    (fun _ event tracks => lawful_iff_sound tracks event) {} events tracks_start

def sensex : Setup := ⟨"SENSEX", false, .spot⟩

def sensexTick (ltp : Rat) : Event := .tick ⟨"SENSEX", ltp, ltp, ltp, ltp, ltp, 0, 0⟩

theorem open_positive : (0 : Rat) < 76700 := by norm_num

/-- Four misread prices let a single jump through. -/
theorem jump_behind_garbage :
    ¬ Along (step sensex) (Lawful sensex) {}
      [.morning ⟨76700, open_positive⟩, sensexTick 76500, sensexTick 80000, sensexTick 80000,
        sensexTick 80000, sensexTick 80000, sensexTick 79700] := by
  have upper : "SENSEX".toUpper = "SENSEX" := by decide +kernel
  rintro ⟨-, -, -, -, -, -, jump, -⟩
  have accepted := jump.accepts
  norm_num [Accepts, Sees, step, handle, indexTick, verdict, Engine.ref, Engine.feed, Far, guard,
    Soft, Watched.anchor, sensex, sensexTick, upper] at accepted

end OptionChain.SpotFilter
