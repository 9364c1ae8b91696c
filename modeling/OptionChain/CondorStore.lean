import Mathlib.Tactic.Linarith
import OptionChain.Runs
import OptionChain.CondorEffects

/-!
# The stored iron condor

An entry saves the position and a close clears the file; an adjustment writes
nothing, unless it is the last one and closes the position. `store_tracks_iff`
states for every run that the stored position is the one in memory after each
event exactly when no event is an adjustment that changes what would have to be
saved.
-/

namespace OptionChain.CondorStore

open Broker CondorPosition IronCondor CondorEffects

/-- Two legs with the same terms. Their last prices are quotes and may differ. -/
structure SameLeg (leg other : IronCondorLeg) : Prop where
  side : leg.side = other.side
  optionType : leg.optionType = other.optionType
  strike : leg.strike = other.strike
  entryPrice : leg.entryPrice = other.entryPrice

/-- The same four legs, credit, realised points and adjustment counters. -/
structure SameBook (pos other : IronCondorPosition) : Prop where
  shortCe : SameLeg pos.shortCe other.shortCe
  shortPe : SameLeg pos.shortPe other.shortPe
  longCe : SameLeg pos.longCe other.longCe
  longPe : SameLeg pos.longPe other.longPe
  netCredit : pos.netCredit = other.netCredit
  cumulativeAdjPnl : pos.cumulativeAdjPnl = other.cumulativeAdjPnl
  adjCountCe : pos.adjCountCe = other.adjCountCe
  adjCountPe : pos.adjCountPe = other.adjCountPe

/-- The file holds the position in memory, and none where there is none. -/
def Tracks (strategy : Strategy) : Prop :=
  Option.Rel SameBook strategy.position (reloaded strategy.stored)

/-- An adjustment, where it is made at all, realises nothing if it stops halfway
and closes the position if it is complete. -/
def Saves (strategy : Strategy) (event : CondorEvent) : Prop :=
  match event.operation with
  | .adjust side => ∀ pos ∈ strategy.position, strategy.adjusting = false →
      pos.status ≠ .broken → pos.lotSize ≠ 0 →
      if event.settings.strikeStep = 0 then
        (pos.short side).entryPrice = (pos.long side).entryPrice
      else pos.maxAdj ≤ pos.adjCount side + 1
  | .optionTick _ | .indexTick _ _ | .candle _ | .close _ => True

instance (strategy : Strategy) : ∀ event, Decidable (Saves strategy event)
  | ⟨settings, _, .adjust side⟩ =>
      inferInstanceAs (Decidable (∀ pos ∈ strategy.position, strategy.adjusting = false →
        pos.status ≠ .broken → pos.lotSize ≠ 0 →
        if settings.strikeStep = 0 then
          (pos.short side).entryPrice = (pos.long side).entryPrice
        else pos.maxAdj ≤ pos.adjCount side + 1))
  | ⟨_, _, .optionTick _⟩ | ⟨_, _, .indexTick _ _⟩ | ⟨_, _, .candle _⟩ | ⟨_, _, .close _⟩ =>
      .isTrue trivial

section Books

variable {pos other third : IronCondorPosition}

theorem SameLeg.refl (leg : IronCondorLeg) : SameLeg leg leg := ⟨rfl, rfl, rfl, rfl⟩

theorem SameLeg.trans {leg other third : IronCondorLeg} (first : SameLeg leg other)
    (second : SameLeg other third) : SameLeg leg third :=
  ⟨first.side.trans second.side, first.optionType.trans second.optionType,
    first.strike.trans second.strike, first.entryPrice.trans second.entryPrice⟩

theorem SameBook.refl (pos : IronCondorPosition) : SameBook pos pos :=
  ⟨.refl _, .refl _, .refl _, .refl _, rfl, rfl, rfl, rfl⟩

theorem SameBook.trans (first : SameBook pos other) (second : SameBook other third) :
    SameBook pos third :=
  ⟨first.shortCe.trans second.shortCe, first.shortPe.trans second.shortPe,
    first.longCe.trans second.longCe, first.longPe.trans second.longPe,
    first.netCredit.trans second.netCredit,
    first.cumulativeAdjPnl.trans second.cumulativeAdjPnl,
    first.adjCountCe.trans second.adjCountCe, first.adjCountPe.trans second.adjCountPe⟩

theorem sameLeg_update (tick : OptionTick) (leg : IronCondorLeg) :
    SameLeg (updateLegLtp tick leg) leg := by
  rw [updateLegLtp]
  split
  · exact ⟨rfl, rfl, rfl, rfl⟩
  · exact .refl leg

/-- A tick changes no terms. -/
theorem sameBook_update (tick : OptionTick) (pos : IronCondorPosition) :
    SameBook (IronCondorPosition.updateLtp tick pos) pos := by
  rw [IronCondorPosition.updateLtp]
  split
  · exact .refl pos
  · exact ⟨sameLeg_update tick _, sameLeg_update tick _, sameLeg_update tick _,
      sameLeg_update tick _, rfl, rfl, rfl, rfl⟩

/-- Neither does the mark of a failed adjustment. -/
theorem sameBook_broken (pos : IronCondorPosition) : SameBook (broken pos) pos := by
  rw [broken]
  split
  · exact .refl pos
  · exact ⟨.refl _, .refl _, .refl _, .refl _, rfl, rfl, rfl, rfl⟩

end Books

section Step

variable {before after : Strategy} {settings : Settings} {clock : Clock} {side : OptType}
  {pos : IronCondorPosition} {reason : String}

theorem unchanged_tracks (same : Unchanged before after) (tracks : Tracks before) :
    Tracks after := by
  rw [Tracks, same.position, same.stored]
  exact tracks

theorem entered_tracks (entered : Entered settings clock before after pos) : Tracks after := by
  rw [Tracks, entered.position, entered.stored, reloaded_saved]
  exact .some (.refl pos)

theorem closed_tracks (closed : Closed before after pos reason) : Tracks after := by
  rw [Tracks, closed.position, closed.stored]
  exact .none

/-- The position that the file holds for a tracked one. -/
theorem tracks_stored (tracks : Tracks before) (held : before.position = some pos) :
    ∃ saved, reloaded before.stored = some saved ∧ SameBook pos saved := by
  rw [Tracks, held] at tracks
  cases found : reloaded before.stored with
  | none =>
    rw [found] at tracks
    cases tracks
  | some saved =>
    rw [found] at tracks
    cases tracks with
    | some same => exact ⟨saved, rfl, same⟩

/-- What an adjustment realises at prices it does not find. -/
theorem booked_cumulative (strategy : Strategy) (lots : pos.lotSize ≠ 0) :
    (IronCondorPosition.booked pos side strategy).cumulativeAdjPnl = pos.cumulativeAdjPnl +
      ((pos.short side).entryPrice - (pos.long side).entryPrice) := by
  have nonzero : (pos.lotSize : Rat) ≠ 0 := by exact_mod_cast lots
  simp only [IronCondorPosition.booked, realized, execPrice_legKey]
  rw [← add_mul, mul_div_assoc, div_self nonzero]
  linarith

/-- An adjustment that stops halfway is tracked where it realises nothing. -/
theorem halved_tracks_iff (halved : Halved settings side before after pos)
    (tracks : Tracks before) (held : before.position = some pos) :
    Tracks after ↔ (pos.short side).entryPrice = (pos.long side).entryPrice := by
  obtain ⟨saved, found, same⟩ := tracks_stored tracks held
  have points := @booked_cumulative side _ before halved.lots
  rw [Tracks, halved.position, halved.stored, found]
  constructor
  · intro related
    have tracked := Option.rel_some_some.mp related
    have kept := (sameBook_broken (IronCondorPosition.booked pos side before)).cumulativeAdjPnl
    have cumulative := tracked.cumulativeAdjPnl
    rw [kept, points, ← same.cumulativeAdjPnl] at cumulative
    linarith
  · intro level
    have nothing : SameBook (IronCondorPosition.booked pos side before) pos := by
      refine ⟨.refl _, .refl _, .refl _, .refl _, rfl, ?_, rfl, rfl⟩
      rw [points, level, sub_self, add_zero]
    exact .some ((sameBook_broken _).trans (nothing.trans same))

/-- A complete adjustment that keeps the position is one ahead of its file. -/
theorem rolled_untracked (rolled : Rolled settings side before after pos)
    (tracks : Tracks before) (held : before.position = some pos) : ¬Tracks after := by
  obtain ⟨saved, found, same⟩ := tracks_stored tracks held
  rw [Tracks, rolled.position, rolled.stored, found]
  intro related
  have tracked := Option.rel_some_some.mp related
  cases side with
  | ce =>
    have ahead : (rolledPosition settings .ce before pos).adjCountCe = pos.adjCountCe + 1 := rfl
    have counted := tracked.adjCountCe
    rw [ahead, ← same.adjCountCe] at counted
    omega
  | pe =>
    have ahead : (rolledPosition settings .pe before pos).adjCountPe = pos.adjCountPe + 1 := rfl
    have counted := tracked.adjCountPe
    rw [ahead, ← same.adjCountPe] at counted
    omega

/-- An adjustment is tracked exactly when it saves. -/
theorem adjust_tracks_iff (tracks : Tracks before) :
    Tracks (adjustIronCondor settings clock side before) ↔
      Saves before ⟨settings, clock, .adjust side⟩ := by
  by_cases idle : ∀ pos ∈ before.position, before.adjusting = true ∨ pos.status = .broken
  · rw [adjust_skipped side idle]
    simp only [tracks, Saves, true_iff]
    intro pos held free sound
    rcases idle pos held with locked | marked
    · exact absurd locked (by simp [free])
    · exact absurd marked sound
  · simp only [not_forall, not_or, Bool.not_eq_true] at idle
    obtain ⟨pos, held, free, sound⟩ := idle
    have saves : Saves before ⟨settings, clock, .adjust side⟩ ↔ (pos.lotSize ≠ 0 →
        if settings.strikeStep = 0 then
          (pos.short side).entryPrice = (pos.long side).entryPrice
        else pos.maxAdj ≤ pos.adjCount side + 1) := by
      rw [Option.mem_def] at held
      simp [Saves, held, free, sound]
    rw [saves]
    cases @adjust_effect settings clock _ _ held free sound side with
    | refused refused =>
      obtain ⟨saved, found, same⟩ := tracks_stored tracks held
      have tracked : Tracks (adjustIronCondor settings clock side before) := by
        rw [Tracks, refused.position, refused.stored, found]
        exact .some ((sameBook_broken pos).trans same)
      simp [tracked, refused.lots]
    | halved halved =>
      rw [halved_tracks_iff halved tracks held]
      simp [halved.lots, halved.step]
    | rolled rolled =>
      have untracked := rolled_untracked rolled tracks held
      simp [untracked, rolled.lots, rolled.step, rolled.below]
    | exhausted exhausted =>
      have tracked : Tracks (adjustIronCondor settings clock side before) := by
        rw [Tracks, exhausted.position, exhausted.stored]
        exact .none
      simp [tracked, exhausted.step, exhausted.reached]

/-- One event keeps the file and the memory alike exactly when it saves. -/
theorem operate_tracks_iff (strategy : Strategy) (event : CondorEvent)
    (tracks : Tracks strategy) : Tracks (operate strategy event) ↔ Saves strategy event := by
  obtain ⟨settings, clock, operation⟩ := event
  cases operation with
  | optionTick tick =>
    obtain ⟨priced, stored, -⟩ := @optionTick_effect strategy tick
    have tracked : Tracks (optionTick tick strategy) := by
      rw [Tracks, stored]
      rcases priced with same | moved
      · rw [same]
        exact tracks
      · rw [moved]
        cases held : strategy.position with
        | none =>
          rw [Tracks, held] at tracks
          exact tracks
        | some pos =>
          obtain ⟨saved, found, same⟩ := tracks_stored tracks held
          rw [found]
          exact .some ((sameBook_update tick pos).trans same)
    simp [operate, Saves, tracked]
  | indexTick ltp tradeId =>
    have tracked : Tracks (indexTick settings clock ltp tradeId strategy) := by
      rcases @indexTick_effect settings clock strategy
        ltp tradeId with same | ⟨pos, reason, closes⟩ | ⟨pos, entered⟩
      · exact unchanged_tracks same tracks
      · exact closed_tracks closes.closed
      · exact entered_tracks entered
    simp [operate, Saves, tracked]
  | candle tradeId =>
    have tracked : Tracks (enter settings clock tradeId strategy) := by
      rcases @enter_effect settings clock strategy
        tradeId with same | ⟨pos, entered⟩
      · exact unchanged_tracks same tracks
      · exact entered_tracks entered
    simp [operate, Saves, tracked]
  | adjust side => exact adjust_tracks_iff tracks
  | close reason =>
    have tracked : Tracks (closePosition settings clock reason strategy) := by
      cases held : strategy.position with
      | none =>
        rw [closePosition_none reason held]
        exact tracks
      | some pos => exact closed_tracks (closePosition_closed reason held)
    simp [operate, Saves, tracked]

end Step

/-- In every run from a tracked position, in particular from none: the file tracks
the position after every event exactly when every event saves what it changes. -/
theorem store_tracks_iff (start : Strategy) (events : List CondorEvent)
    (initially : Tracks start) :
    Runs.Along operate (fun strategy event => Tracks (operate strategy event)) start events ↔
      Runs.Along operate Saves start events := by
  have exact (strategy : Strategy) (event : CondorEvent) (_ : True) (tracks : Tracks strategy) :=
    operate_tracks_iff strategy event tracks
  exact Runs.along_exact operate (fun _ _ _ _ => trivial) exact start events trivial initially

/-- A strategy without a position that sees the quotes of an entry. -/
def quoted : Strategy where
  underlying := "NIFTY"
  prem := entryQuotes

/-- An entry followed by an adjustment of its call side. -/
def enterAndAdjust (settings : Settings) : List CondorEvent :=
  [⟨settings, noon, .indexTick 24600 "t1"⟩, ⟨settings, noon, .adjust .ce⟩]

/-- With a single adjustment allowed per side, the adjustment closes the position. -/
theorem store_tracks_a_last_adjustment :
    Runs.Along operate (fun strategy event => Tracks (operate strategy event)) quoted
      (enterAndAdjust { Settings.shipped with maxAdj := 1 }) :=
  (store_tracks_iff quoted (enterAndAdjust { Settings.shipped with maxAdj := 1 }) .none).mpr
    (by decide +kernel)

/-- With four allowed the position has been adjusted once and its file never. -/
theorem store_misses_an_adjustment :
    ¬Runs.Along operate (fun strategy event => Tracks (operate strategy event)) quoted
      (enterAndAdjust .shipped) := by
  rintro ⟨-, tracks, -⟩
  obtain ⟨pos, held, counted⟩ : ∃ pos,
      (Runs.run operate quoted (enterAndAdjust .shipped)).position = some pos ∧
        pos.adjCountCe = 1 :=
    Option.map_eq_some_iff.mp (by decide +kernel :
      ((Runs.run operate quoted (enterAndAdjust .shipped)).position.map
        IronCondorPosition.adjCountCe) = some 1)
  obtain ⟨saved, found, same⟩ := tracks_stored tracks held
  have stored : (reloaded (Runs.run operate quoted (enterAndAdjust .shipped)).stored).map
      IronCondorPosition.adjCountCe = some 0 := by decide +kernel
  have none : saved.adjCountCe = 0 := by
    have read := congrArg (Option.map IronCondorPosition.adjCountCe) found
    exact Option.some.inj (read.symm.trans stored)
  have ahead := same.adjCountCe
  omega

end OptionChain.CondorStore
