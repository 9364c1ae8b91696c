import Mathlib.Data.Rat.Floor
import OptionChain.PeakStops
import OptionChain.SessionRestart

/-!
# Decisions of a restored position

A snapshot keeps neither the peak that the trailing stop follows nor what the day is
measured against: a restart takes the peak as zero, and measures the day against the
pair at hand instead of the first pair of the day. `decisions_kept_iff` says for which
positions no later prices show the difference.

Every tick here brings prices for both legs, so the warm-up of a restart is over.
-/

namespace OptionChain.SnapshotDecisions

open Broker PeakStops SessionRestart StraddleEvents StraddleBook StraddleExits StraddleStore

/-- The prices of both legs, and the spot. -/
structure Tick where
  ce : Rat
  pe : Rat
  spot : Rat
  ce_nonneg : 0 ≤ ce
  pe_nonneg : 0 ≤ pe
  spot_nonneg : 0 ≤ spot

instance : Inhabited Tick := ⟨⟨0, 0, 0, le_rfl, le_rfl, le_rfl⟩⟩

/-- What a check decides by the position and the day. -/
@[ext] structure Decision where
  day : Option DayExit
  trailing : Bool
  tsl : Bool
deriving DecidableEq

def priced (pos : StraddlePosition) (tick : Tick) : StraddlePosition :=
  { pos with
    ceLeg := { pos.ceLeg with ltp := tick.ce }
    peLeg := { pos.peLeg with ltp := tick.pe } }

section Judging

variable (identity : Identity) (settings : ExitSettings) (book : Book)

/-- The decisions on a tick, and the position with its trackers moved. -/
def judge (pos : StraddlePosition) (tick : Tick) : StraddlePosition × Decision :=
  let priced := priced pos tick
  let trailed := trailingSl settings priced
  let locked := scalableTsl settings identity trailed.1 tick.spot
  (locked.1, ⟨dayExit settings { book with spot := tick.spot } priced, trailed.2, locked.2⟩)

/-- The decisions on a sequence of ticks. -/
def judgeAll (pos : StraddlePosition) : List Tick → List Decision
  | [] => []
  | tick :: rest =>
      (judge identity settings book pos tick).2 ::
        judgeAll (judge identity settings book pos tick).1 rest

/-- The decisions on the position of a book. -/
def decisions (ticks : List Tick) : List Decision :=
  match book.position with
  | none => []
  | some pos => judgeAll identity settings book pos ticks

end Judging

/-- The book of a strategy that starts from what another book saved. -/
def restarted (settings : ExitSettings) (clock : Clock) (book : Book) : Book :=
  (start settings clock .fresh (write settings clock {} (persist book))).1.book

/-! ## What the day is measured against -/

/-- Whether the running points are those of the time value, and the denominator. -/
@[ext] structure DayRule where
  byTheta : Bool
  denom : Rat
  positive : 0 < denom

section Days

variable (settings : ExitSettings) (book : Book) (pos : StraddlePosition)

/-- The rule of a book that measures the day. -/
def dayRule : Option DayRule :=
  if credit : 0 < book.initialNetCredit then
    if timed : settings.dayExitBasis = .theta ∧ 0 < book.initialEntryTimeValue then
      some ⟨decide (0 < pos.entryTimeValue), book.initialEntryTimeValue, timed.2⟩
    else some ⟨false, book.initialNetCredit, credit⟩
  else none

/-- The decision of a rule on the points of the day. -/
def ruleExit (rule : DayRule) (total : Rat) : Option DayExit :=
  let totalDayPct := total / rule.denom * 100
  if 0 < settings.dayProfitTargetPct ∧ settings.dayProfitTargetPct ≤ totalDayPct then
    some .profitTarget
  else if 0 < settings.dayLossSlPct ∧ totalDayPct ≤ -settings.dayLossSlPct then some .lossSl
  else none

/-- The points of the day on a tick. -/
def dayTotal (tick : Tick) (byTheta : Bool) : Rat :=
  book.sessionRealizedPnlPts +
    if byTheta then pos.entryTimeValue - (priced pos tick).currentTimeValue tick.spot
    else (priced pos tick).unrealizedPnl

/-- The most that the points of the day can be. -/
def dayBound (byTheta : Bool) : Rat :=
  book.sessionRealizedPnlPts + if byTheta then pos.entryTimeValue else pos.netCredit

/-- The decision of a rule on a tick. -/
def ruled (rule : Option DayRule) (tick : Tick) : Option DayExit :=
  rule.bind (fun rule => ruleExit settings rule (dayTotal book pos tick rule.byTheta))

variable {settings} {book} {pos}

theorem dayExit_ruled (tick : Tick) :
    dayExit settings { book with spot := tick.spot } (priced pos tick) =
      ruled settings book pos (dayRule settings book pos) tick := by
  rw [dayExit, dayRule]
  by_cases credit : 0 < book.initialNetCredit
  · simp only [if_pos credit, dif_pos credit]
    by_cases timed : settings.dayExitBasis = .theta ∧ 0 < book.initialEntryTimeValue
    · simp only [dif_pos timed, ruled, Option.bind_some, ruleExit, dayMeasure, if_pos timed]
      by_cases earning : 0 < pos.entryTimeValue
      · simp [dayTotal, priced, earning]
      · simp [dayTotal, priced, earning]
    · simp [timed, ruled, ruleExit, dayMeasure, dayTotal, priced]
  · simp [credit, ruled]

theorem ruleExit_target (rule : DayRule) (total : Rat) :
    ruleExit settings rule total = some .profitTarget ↔
      0 < settings.dayProfitTargetPct ∧
        settings.dayProfitTargetPct * rule.denom / 100 ≤ total := by
  have scaled : settings.dayProfitTargetPct ≤ total / rule.denom * 100 ↔
      settings.dayProfitTargetPct * rule.denom / 100 ≤ total := by
    rw [div_mul_eq_mul_div, le_div_iff₀ rule.positive, div_le_iff₀ (by norm_num)]
  rw [ruleExit, ← scaled]
  split
  · next reached => exact iff_of_true rfl reached
  · next missed =>
    refine iff_of_false ?_ missed
    split <;> simp

theorem ruleExit_loss (rule : DayRule) (total : Rat) :
    ruleExit settings rule total = some .lossSl ↔
      0 < settings.dayLossSlPct ∧ total ≤ -(settings.dayLossSlPct * rule.denom / 100) := by
  have scaled : total / rule.denom * 100 ≤ -settings.dayLossSlPct ↔
      total ≤ -(settings.dayLossSlPct * rule.denom / 100) := by
    rw [div_mul_eq_mul_div, div_le_iff₀ rule.positive, ← neg_div, le_div_iff₀ (by norm_num),
      neg_mul]
  rw [ruleExit, ← scaled]
  split
  · next reached =>
    refine iff_of_false (by simp) ?_
    rintro ⟨loss, fallen⟩
    linarith [reached.1, reached.2]
  · split
    · next fallen => exact iff_of_true rfl fallen
    · next kept => exact iff_of_false (by simp) kept

/-- Above both strikes, a worthless put leaves the time value of the call. -/
theorem currentTimeValue_above {tick : Tick} (worthless : tick.pe = 0)
    (call : pos.ceLeg.strike ≤ tick.spot) (put : pos.peLeg.strike ≤ tick.spot) :
    (priced pos tick).currentTimeValue tick.spot =
      |tick.ce - (tick.spot - pos.ceLeg.strike)| := by
  have inside : max 0 (tick.spot - pos.ceLeg.strike) = tick.spot - pos.ceLeg.strike :=
    max_eq_right (by linarith)
  have outside : max 0 (pos.peLeg.strike - tick.spot) = 0 := max_eq_left (by linarith)
  simp [StraddlePosition.currentTimeValue, combinedTimeValue, timeValue, intrinsicValue, priced,
    inside, outside, worthless]

theorem unrealizedPnl_priced (pos : StraddlePosition) (tick : Tick) :
    (priced pos tick).unrealizedPnl = pos.netCredit - (tick.ce + tick.pe) := rfl

theorem dayTotal_bound (tick : Tick) (byTheta : Bool) :
    dayTotal book pos tick byTheta ≤ dayBound book pos byTheta := by
  cases byTheta with
  | true =>
    have decayed : 0 ≤ (priced pos tick).currentTimeValue tick.spot :=
      add_nonneg (abs_nonneg _) (abs_nonneg _)
    simp only [dayTotal, dayBound, if_true]
    linarith
  | false =>
    have costs := add_nonneg tick.ce_nonneg tick.pe_nonneg
    simp only [dayTotal, dayBound, Bool.false_eq_true, if_false, unrealizedPnl_priced]
    linarith

/-- A spot as far above both strikes as one likes. -/
theorem exists_spot_above (pos : StraddlePosition) {far : Rat} (apart : 0 ≤ far) :
    ∃ spot, 0 ≤ spot ∧ pos.ceLeg.strike + far ≤ spot ∧ pos.peLeg.strike ≤ spot := by
  let strikes := max (max pos.ceLeg.strike pos.peLeg.strike) 0
  have call : pos.ceLeg.strike ≤ strikes := (le_max_left _ _).trans (le_max_left _ _)
  have put : pos.peLeg.strike ≤ strikes := (le_max_right _ _).trans (le_max_left _ _)
  have positive : 0 ≤ strikes := le_max_right _ _
  exact ⟨strikes + far, by linarith, by linarith, by linarith⟩

/-- A call far above its strike costs much, whatever its time value is. -/
theorem thetaTotal_taken {total : Rat} (bounded : total ≤ dayBound book pos true) (low : Rat) :
    ∃ tick, dayTotal book pos tick true = total ∧ dayTotal book pos tick false ≤ low := by
  have left : 0 ≤ dayBound book pos true - total := sub_nonneg.mpr bounded
  have lowered := le_abs_self (dayBound book pos false - low)
  obtain ⟨spot, positive, call, put⟩ :=
    exists_spot_above pos (abs_nonneg (dayBound book pos false - low))
  have inside : pos.ceLeg.strike ≤ spot := by
    linarith [abs_nonneg (dayBound book pos false - low)]
  let tick : Tick :=
    { ce := spot - pos.ceLeg.strike + (dayBound book pos true - total)
      pe := 0
      spot := spot
      ce_nonneg := by linarith
      pe_nonneg := le_rfl
      spot_nonneg := positive }
  have value : (priced pos tick).currentTimeValue tick.spot = dayBound book pos true - total := by
    have worthless : tick.pe = 0 := rfl
    have called : pos.ceLeg.strike ≤ tick.spot := inside
    have unput : pos.peLeg.strike ≤ tick.spot := put
    rw [currentTimeValue_above worthless called unput]
    simp only [tick]
    rw [add_sub_cancel_left, abs_of_nonneg left]
  refine ⟨tick, ?_, ?_⟩
  · simp only [dayTotal, if_true, value, dayBound]
    ring
  · simp only [dayBound, if_true, Bool.false_eq_true, if_false] at lowered call left
    simp only [dayTotal, Bool.false_eq_true, if_false, unrealizedPnl_priced, tick, dayBound,
      if_true]
    linarith

/-- A call far below its intrinsic value has much time value, whatever it costs. -/
theorem priceTotal_taken {total : Rat} (bounded : total ≤ dayBound book pos false) (low : Rat) :
    ∃ tick, dayTotal book pos tick false = total ∧ dayTotal book pos tick true ≤ low := by
  have left : 0 ≤ dayBound book pos false - total := sub_nonneg.mpr bounded
  have lowered := le_abs_self (dayBound book pos true - low)
  obtain ⟨spot, positive, call, put⟩ := exists_spot_above pos
    (add_nonneg (abs_nonneg (dayBound book pos true - low)) left)
  have inside : pos.ceLeg.strike ≤ spot := by
    linarith [abs_nonneg (dayBound book pos true - low)]
  let tick : Tick :=
    { ce := dayBound book pos false - total
      pe := 0
      spot := spot
      ce_nonneg := left
      pe_nonneg := le_rfl
      spot_nonneg := positive }
  have value : spot - pos.ceLeg.strike - (dayBound book pos false - total) ≤
      (priced pos tick).currentTimeValue tick.spot := by
    have worthless : tick.pe = 0 := rfl
    have called : pos.ceLeg.strike ≤ tick.spot := inside
    have unput : pos.peLeg.strike ≤ tick.spot := put
    rw [currentTimeValue_above worthless called unput, abs_sub_comm]
    exact le_abs_self _
  refine ⟨tick, ?_, ?_⟩
  · simp only [dayTotal, Bool.false_eq_true, if_false, unrealizedPnl_priced, tick, dayBound]
    ring
  · simp only [dayTotal, if_true]
    simp only [dayBound, if_true, Bool.false_eq_true, if_false] at lowered call value
    linarith

/-- Every value up to the bound of a kind is taken, with the other kind as low as one
likes. -/
theorem dayTotal_taken (byTheta : Bool) {total : Rat} (bounded : total ≤ dayBound book pos byTheta)
    (low : Rat) :
    ∃ tick, dayTotal book pos tick byTheta = total ∧ dayTotal book pos tick (!byTheta) ≤ low := by
  cases byTheta with
  | true => exact thetaTotal_taken bounded low
  | false => exact priceTotal_taken bounded low

variable (settings) (book) (pos)

/-- The loss stop of a rule, in points. -/
def lossLevel (rule : DayRule) : Rat := -(settings.dayLossSlPct * rule.denom / 100)

/-- The profit target of a rule, in points. -/
def targetLevel (rule : DayRule) : Rat := settings.dayProfitTargetPct * rule.denom / 100

/-- The day is lost by a rule whatever the prices are. -/
def Lost (rule : DayRule) : Prop :=
  0 < settings.dayLossSlPct ∧ dayBound book pos rule.byTheta ≤ lossLevel settings rule

/-- Some prices reach the target of a rule. -/
def Reachable (rule : DayRule) : Prop :=
  0 < settings.dayProfitTargetPct ∧ targetLevel settings rule ≤ dayBound book pos rule.byTheta

/-- Two rules are one, both lose the day at once, or no loss is stopped and neither
target can be reached. -/
def DayTied (rule other : Option DayRule) : Prop :=
  rule = other ∨
    ((∃ measured ∈ rule, Lost settings book pos measured) ∧
      ∃ measured ∈ other, Lost settings book pos measured) ∨
    (settings.dayLossSlPct ≤ 0 ∧ (∀ measured ∈ rule, ¬Reachable settings book pos measured) ∧
      ∀ measured ∈ other, ¬Reachable settings book pos measured)

variable {settings} {book} {pos} {rule other : Option DayRule} {measured : DayRule}

/-- A lost day is lost on every tick. -/
theorem ruled_lost (lost : Lost settings book pos measured) (tick : Tick) :
    ruled settings book pos (some measured) tick = some .lossSl :=
  (ruleExit_loss measured _).mpr ⟨lost.1, (dayTotal_bound tick _).trans lost.2⟩

/-- Without a loss stop, a rule whose target is out of reach decides nothing. -/
theorem ruled_quiet (unstopped : settings.dayLossSlPct ≤ 0)
    (far : ∀ measured ∈ rule, ¬Reachable settings book pos measured) (tick : Tick) :
    ruled settings book pos rule tick = none := by
  cases rule with
  | none => rfl
  | some measured =>
    cases decided : ruled settings book pos (some measured) tick with
    | none => rfl
    | some exit =>
      exfalso
      cases exit with
      | profitTarget =>
        obtain ⟨positive, reached⟩ := (ruleExit_target measured _).mp decided
        exact far measured rfl ⟨positive, reached.trans (dayTotal_bound tick _)⟩
      | lossSl =>
        obtain ⟨positive, _⟩ := (ruleExit_loss measured _).mp decided
        linarith

/-- Prices on which a rule with a loss stop loses the day, and the other kind of points
is as low as one likes. -/
theorem exists_loss (loss : 0 < settings.dayLossSlPct) (measured : DayRule) (low : Rat) :
    ∃ tick, ruled settings book pos (some measured) tick = some .lossSl ∧
      dayTotal book pos tick (!measured.byTheta) ≤ low := by
  obtain ⟨tick, total, other⟩ := @dayTotal_taken book pos measured.byTheta
    (min (dayBound book pos measured.byTheta) (lossLevel settings measured)) (min_le_left _ _) low
  refine ⟨tick, (ruleExit_loss measured _).mpr ⟨loss, ?_⟩, other⟩
  rw [total]
  exact min_le_right _ _

theorem same_of_dayTied (tied : DayTied settings book pos rule other) (tick : Tick) :
    ruled settings book pos rule tick = ruled settings book pos other tick := by
  rcases tied with equal | ⟨⟨first, here, lost⟩, second, there, fallen⟩ | ⟨unstopped, near, far⟩
  · rw [equal]
  · cases here
    cases there
    rw [ruled_lost lost, ruled_lost fallen]
  · rw [ruled_quiet unstopped near, ruled_quiet unstopped far]

/-- Of two rules of one kind, the higher loss stop is never missed: all totals are below
both. -/
theorem lost_of_same_kind {second : DayRule} (loss : 0 < settings.dayLossSlPct)
    (kind : measured.byTheta = second.byTheta) (different : measured ≠ second)
    (same : ∀ tick, ruled settings book pos (some measured) tick =
      ruled settings book pos (some second) tick) : Lost settings book pos measured := by
  have apart : lossLevel settings measured ≠ lossLevel settings second := by
    intro equal
    apply different
    apply DayRule.ext kind
    have scaled : settings.dayLossSlPct * measured.denom =
        settings.dayLossSlPct * second.denom := by
      simp only [lossLevel] at equal
      linarith
    exact mul_left_cancel₀ loss.ne' scaled
  let top := max (lossLevel settings measured) (lossLevel settings second)
  obtain ⟨tick, total, _⟩ := @dayTotal_taken book pos measured.byTheta
    (min (dayBound book pos measured.byTheta) top) (min_le_left _ _) 0
  have both : ruled settings book pos (some measured) tick = some .lossSl := by
    have under : dayTotal book pos tick measured.byTheta ≤ top := by
      rw [total]
      exact min_le_right _ _
    rcases le_max_iff.mp under with here | there
    · exact (ruleExit_loss measured _).mpr ⟨loss, here⟩
    · rw [same]
      exact (ruleExit_loss second _).mpr ⟨loss, by rwa [← kind]⟩
  have here := ((ruleExit_loss measured _).mp both).2
  have there := ((ruleExit_loss second _).mp ((same tick).symm.trans both)).2
  rw [total] at here
  rw [← kind, total] at there
  refine ⟨loss, ?_⟩
  rcases min_choice (dayBound book pos measured.byTheta) top with bounded | levelled
  · rwa [bounded] at here
  · rw [levelled] at here there
    have first : lossLevel settings measured ≤ lossLevel settings second :=
      (le_max_left _ _).trans there
    have last : lossLevel settings second ≤ lossLevel settings measured :=
      (le_max_right _ _).trans here
    exact absurd (le_antisymm first last) apart

/-- With a loss stop, two different rules that agree on every tick lose the day. -/
theorem lost_of_same (loss : 0 < settings.dayLossSlPct) (different : rule ≠ other)
    (same : ∀ tick, ruled settings book pos rule tick = ruled settings book pos other tick) :
    ∃ measured ∈ rule, Lost settings book pos measured := by
  cases rule with
  | none =>
    cases other with
    | none => exact absurd rfl different
    | some second =>
      obtain ⟨tick, lost, _⟩ := @exists_loss settings book pos loss second 0
      exact absurd ((same tick).trans lost) (by simp [ruled])
  | some measured =>
    refine ⟨measured, rfl, ?_⟩
    cases other with
    | none =>
      obtain ⟨tick, lost, _⟩ := @exists_loss settings book pos loss measured 0
      exact absurd ((same tick).symm.trans lost) (by simp [ruled])
    | some second =>
      by_cases kind : measured.byTheta = second.byTheta
      · exact lost_of_same_kind loss kind (fun equal => different (congrArg some equal)) same
      · -- The points of the other rule sink while those of this one are at their best.
        have flipped : second.byTheta = !measured.byTheta := by grind
        obtain ⟨tick, total, sunk⟩ := @dayTotal_taken book pos measured.byTheta _ le_rfl
          (lossLevel settings second)
        have lost : ruled settings book pos (some second) tick = some .lossSl :=
          (ruleExit_loss second _).mpr ⟨loss, by rwa [flipped]⟩
        have here := (ruleExit_loss measured _).mp ((same tick).trans lost)
        rw [total] at here
        exact here

/-- Two rules of one kind that agree everywhere, one with its target in reach, are one:
both targets are hit at the lower of them. -/
theorem eq_of_same_kind {second : DayRule} (reachable : Reachable settings book pos measured)
    (kind : measured.byTheta = second.byTheta)
    (same : ∀ tick, ruled settings book pos (some measured) tick =
      ruled settings book pos (some second) tick) : measured = second := by
  obtain ⟨positive, reached⟩ := reachable
  let bottom := min (targetLevel settings measured) (targetLevel settings second)
  obtain ⟨tick, total, _⟩ := @dayTotal_taken book pos measured.byTheta bottom
    ((min_le_left _ _).trans reached) 0
  have both : ruled settings book pos (some measured) tick = some .profitTarget := by
    rcases min_le_iff.mp total.ge with here | there
    · exact (ruleExit_target measured _).mpr ⟨positive, here⟩
    · rw [same]
      exact (ruleExit_target second _).mpr ⟨positive, by rwa [← kind]⟩
  have here := ((ruleExit_target measured _).mp both).2
  have there := ((ruleExit_target second _).mp ((same tick).symm.trans both)).2
  rw [total] at here
  rw [← kind, total] at there
  have first : targetLevel settings measured ≤ targetLevel settings second :=
    here.trans (min_le_right _ _)
  have last : targetLevel settings second ≤ targetLevel settings measured :=
    there.trans (min_le_left _ _)
  have scaled : settings.dayProfitTargetPct * measured.denom =
      settings.dayProfitTargetPct * second.denom := by
    simp only [targetLevel] at first last
    linarith
  exact DayRule.ext kind (mul_left_cancel₀ positive.ne' scaled)

/-- Prices on which a rule with its target in reach hits it, and the other kind of points
is as low as one likes. -/
theorem exists_target (reachable : Reachable settings book pos measured) (low : Rat) :
    ∃ tick, ruled settings book pos (some measured) tick = some .profitTarget ∧
      dayTotal book pos tick (!measured.byTheta) ≤ low := by
  obtain ⟨positive, reached⟩ := reachable
  obtain ⟨tick, total, other⟩ := @dayTotal_taken book pos measured.byTheta _ le_rfl low
  exact ⟨tick, (ruleExit_target measured _).mpr ⟨positive, by rwa [total]⟩, other⟩

/-- Two different rules that agree on every tick have their targets out of reach. -/
theorem quiet_of_same (different : rule ≠ other)
    (same : ∀ tick, ruled settings book pos rule tick = ruled settings book pos other tick) :
    ∀ measured ∈ rule, ¬Reachable settings book pos measured := by
  intro measured listed reachable
  cases listed
  cases other with
  | none =>
    obtain ⟨tick, hit, _⟩ := exists_target reachable 0
    exact absurd ((same tick).symm.trans hit) (by simp [ruled])
  | some second =>
    by_cases kind : measured.byTheta = second.byTheta
    · exact different (congrArg some (eq_of_same_kind reachable kind same))
    · -- The points of the other rule sink below its target.
      have flipped : second.byTheta = !measured.byTheta := by grind
      obtain ⟨tick, hit, sunk⟩ := exists_target reachable 0
      have there := ((ruleExit_target second _).mp ((same tick).symm.trans hit)).2
      have above : 0 < settings.dayProfitTargetPct * second.denom / 100 :=
        div_pos (mul_pos reachable.1 second.positive) (by norm_num)
      rw [flipped] at there
      linarith

/-- Which rules decide alike on all prices. -/
theorem ruled_same_iff :
    (∀ tick, ruled settings book pos rule tick = ruled settings book pos other tick) ↔
      DayTied settings book pos rule other := by
  constructor
  case mpr => exact same_of_dayTied
  case mp =>
    intro same
    by_cases equal : rule = other
    · exact .inl equal
    · have flipped : ∀ tick, ruled settings book pos other tick =
          ruled settings book pos rule tick := fun tick => (same tick).symm
      right
      rcases lt_or_ge 0 settings.dayLossSlPct with loss | unstopped
      · exact .inl ⟨lost_of_same loss equal same, lost_of_same loss (Ne.symm equal) flipped⟩
      · exact .inr ⟨unstopped, quiet_of_same equal same,
          quiet_of_same (Ne.symm equal) flipped⟩

end Days

/-! ## What the trailing stop follows -/

section Trailing

variable (settings : ExitSettings) (pos : StraddlePosition)

/-- The profit that moves the peak, if the stop follows one. -/
def followed : Option Rat :=
  if settings.trailSlEnabled then profitPct settings pos else none

/-- The profits that later prices can bring. -/
def profits : Set Rat := {profit | ∃ tick, followed settings (priced pos tick) = some profit}

/-- What the premium that decays is measured against. -/
def premiumBase : Rat := if pos.entryTimeValue ≠ 0 then pos.entryTimeValue else pos.netCredit

/-- No profit tells the peak from zero. A profit in credit is at most the credit, one in
time value at most the credit over the base, and without a base it is always zero. -/
def TrailTied : Prop :=
  let lock := settings.trailLockPct * 100
  let floor := settings.trailFloorPct * 100
  let peak := pos.trailPeakPct
  settings.trailSlEnabled = true →
    match settings.trailBasis with
    | .ltp => 0 < pos.netCredit → peak = 0 ∨ Tied lock floor 100 (min peak 0) (max peak 0)
    | .theta =>
        if 0 < premiumBase pos then
          peak = 0 ∨
            Tied lock floor (pos.netCredit / premiumBase pos * 100) (min peak 0) (max peak 0)
        else (Hits lock floor peak 0 ↔ Hits lock floor 0 0)

variable {settings} {pos}

theorem premiumDecayPct_priced (pos : StraddlePosition) (tick : Tick) :
    premiumDecayPct (priced pos tick) =
      if premiumBase pos ≤ 0 then 0
      else (priced pos tick).unrealizedPnl / premiumBase pos * 100 := rfl

/-- The trailing stop moves the peak by the profit that it follows. -/
theorem trailingSl_followed :
    trailingSl settings pos =
      match followed settings pos with
      | none => (pos, false)
      | some profit =>
          ({ pos with trailPeakPct := max pos.trailPeakPct profit },
            decide (Hits (settings.trailLockPct * 100) (settings.trailFloorPct * 100)
              pos.trailPeakPct profit)) := by
  rw [trailingSl, followed]
  by_cases enabled : settings.trailSlEnabled = true
  · simp only [if_pos enabled]
    cases profitPct settings pos with
    | none => rfl
    | some profit => simp [Hits]
  · simp only [if_neg enabled]

/-- The profits over a base take every value up to that of worthless legs. -/
theorem range_profit {base : Rat} (positive : 0 < base) :
    {profit | ∃ tick, (priced pos tick).unrealizedPnl / base * 100 = profit} =
      Set.Iic (pos.netCredit / base * 100) := by
  ext profit
  simp only [Set.mem_ofPred_eq, Set.mem_Iic, unrealizedPnl_priced]
  constructor
  · rintro ⟨tick, rfl⟩
    have costs := add_nonneg tick.ce_nonneg tick.pe_nonneg
    gcongr
    linarith
  · intro bounded
    have spent : 0 ≤ pos.netCredit - profit * base / 100 := by
      rw [div_mul_eq_mul_div, le_div_iff₀ positive] at bounded
      linarith
    refine ⟨⟨pos.netCredit - profit * base / 100, 0, 0, spent, le_rfl, le_rfl⟩, ?_⟩
    field_simp
    ring

/-- The profits that later prices can bring. -/
theorem profits_eq :
    profits settings pos =
      if settings.trailSlEnabled then
        match settings.trailBasis with
        | .ltp => if 0 < pos.netCredit then Set.Iic 100 else ∅
        | .theta =>
            if 0 < premiumBase pos then Set.Iic (pos.netCredit / premiumBase pos * 100) else {0}
      else ∅ := by
  by_cases enabled : settings.trailSlEnabled = true
  · simp only [profits, followed, if_pos enabled, profitPct]
    cases settings.trailBasis with
    | ltp =>
      by_cases credit : 0 < pos.netCredit
      · have whole : pos.netCredit / pos.netCredit * 100 = 100 := by
          rw [div_self credit.ne', one_mul]
        have range := @range_profit pos _ credit
        rw [whole] at range
        simpa [priced, credit] using range
      · simp [priced, credit]
    | theta =>
      by_cases based : 0 < premiumBase pos
      · have range := @range_profit pos _ based
        have decay (tick : Tick) : premiumDecayPct (priced pos tick) =
            (priced pos tick).unrealizedPnl / premiumBase pos * 100 := if_neg (not_le.mpr based)
        simpa [decay, based] using range
      · have decay (tick : Tick) : premiumDecayPct (priced pos tick) = 0 := if_pos (not_lt.mp based)
        ext profit
        simp [decay, based, eq_comm]
  · simp [profits, followed, enabled]

/-- No profit tells the peak from zero exactly where they are tied. -/
theorem same_profits_iff :
    Same (profits settings pos) (settings.trailLockPct * 100) (settings.trailFloorPct * 100)
      pos.trailPeakPct 0 ↔ TrailTied settings pos := by
  rw [profits_eq, TrailTied]
  by_cases enabled : settings.trailSlEnabled = true
  · simp only [enabled, true_implies]
    cases settings.trailBasis with
    | ltp =>
      by_cases credit : 0 < pos.netCredit
      · simp only [credit, true_implies]
        exact same_iff
      · simp [credit, same_empty]
    | theta =>
      by_cases based : 0 < premiumBase pos
      · simp only [if_pos based]
        exact same_iff
      · simp [based, Same]
  · simp [enabled, same_empty]

/-- A profit keeps the peaks from being told apart by the profits after it. -/
theorem same_profits_moved {lock floor peak other profit : Rat}
    (same : Same (profits settings pos) lock floor peak other)
    (brought : profit ∈ profits settings pos) :
    Same (profits settings pos) lock floor (max peak profit) (max other profit) := by
  rw [profits_eq] at same brought ⊢
  split
  · next enabled =>
    rw [if_pos enabled] at same brought
    cases basis : settings.trailBasis with
    | ltp =>
      simp only [basis] at same
      by_cases credit : 0 < pos.netCredit
      · simp only [if_pos credit] at same ⊢
        exact same.moved_bounded profit
      · simp only [if_neg credit] at same ⊢
        exact same_empty
    | theta =>
      simp only [basis] at same brought
      by_cases based : 0 < premiumBase pos
      · simp only [if_pos based] at same ⊢
        exact same.moved_bounded profit
      · simp only [if_neg based] at same brought ⊢
        cases brought
        exact same.moved_constant
  · exact same_empty

end Trailing

/-! ## Two positions on the same prices -/

/-- Positions of one pair, sold for the same. -/
structure Alike (pos other : StraddlePosition) : Prop where
  call : other.ceLeg.strike = pos.ceLeg.strike
  put : other.peLeg.strike = pos.peLeg.strike
  credit : other.netCredit = pos.netCredit
  timeValue : other.entryTimeValue = pos.entryTimeValue

section Pairs

variable {identity : Identity} {settings : ExitSettings} {book after : Book}
  {pos other : StraddlePosition}

theorem Alike.symm (alike : Alike pos other) : Alike other pos :=
  ⟨alike.call.symm, alike.put.symm, alike.credit.symm, alike.timeValue.symm⟩

theorem Alike.trans {third : StraddlePosition} (first : Alike pos other)
    (second : Alike other third) : Alike pos third :=
  ⟨second.call.trans first.call, second.put.trans first.put, second.credit.trans first.credit,
    second.timeValue.trans first.timeValue⟩

theorem Alike.unrealizedPnl (alike : Alike pos other) (tick : Tick) :
    (priced other tick).unrealizedPnl = (priced pos tick).unrealizedPnl := by
  simp only [unrealizedPnl_priced, alike.credit]

theorem Alike.currentTimeValue (alike : Alike pos other) (tick : Tick) :
    (priced other tick).currentTimeValue tick.spot =
      (priced pos tick).currentTimeValue tick.spot := by
  simp [StraddlePosition.currentTimeValue, priced, alike.call, alike.put]

theorem Alike.dayRule (alike : Alike pos other) :
    dayRule settings book other = dayRule settings book pos := by
  simp only [SnapshotDecisions.dayRule, alike.timeValue]

theorem Alike.ruled (alike : Alike pos other) (rule : Option DayRule) (tick : Tick) :
    ruled settings book other rule tick = ruled settings book pos rule tick := by
  simp only [SnapshotDecisions.ruled, dayTotal, alike.timeValue, alike.unrealizedPnl,
    alike.currentTimeValue]

theorem Alike.followed (alike : Alike pos other) (tick : Tick) :
    followed settings (priced other tick) = followed settings (priced pos tick) := by
  have based : premiumBase other = premiumBase pos := by
    simp only [premiumBase, alike.timeValue, alike.credit]
  have decay : premiumDecayPct (priced other tick) = premiumDecayPct (priced pos tick) := by
    simp only [premiumDecayPct_priced, based, alike.unrealizedPnl]
  have credit : (priced other tick).netCredit = (priced pos tick).netCredit := alike.credit
  simp only [SnapshotDecisions.followed, profitPct, decay, credit, alike.unrealizedPnl]

theorem Alike.profits (alike : Alike pos other) :
    profits settings other = profits settings pos := by
  simp only [SnapshotDecisions.profits, alike.followed]

theorem Alike.tslPnl (alike : Alike pos other) (tick : Tick) :
    tslPnl settings (priced other tick) tick.spot =
      tslPnl settings (priced pos tick) tick.spot := by
  have timeValue : (priced other tick).entryTimeValue = (priced pos tick).entryTimeValue :=
    alike.timeValue
  simp only [StraddleExits.tslPnl, timeValue, alike.unrealizedPnl, alike.currentTimeValue]

/-- The scalable stop looks at its lock and the points that it follows. -/
theorem scalableTsl_congr {spot : Rat} (lock : other.tslHighLockRs = pos.tslHighLockRs)
    (points : tslPnl settings other spot = tslPnl settings pos spot) :
    (scalableTsl settings identity other spot).2 = (scalableTsl settings identity pos spot).2 ∧
      (scalableTsl settings identity other spot).1.tslHighLockRs =
        (scalableTsl settings identity pos spot).1.tslHighLockRs := by
  by_cases enabled : settings.tslEnabled = true
  · simp only [scalableTsl, if_pos enabled, checkScalableTsl, points, lock]
    split
    · split
      · exact ⟨rfl, rfl⟩
      · simp only [lock]
        exact ⟨trivial, trivial⟩
    · simp only [lock]
      exact ⟨trivial, trivial⟩
  · simp only [scalableTsl, if_neg enabled]
    exact ⟨trivial, lock⟩

/-- The position after a tick. -/
theorem judge_frame (pos : StraddlePosition) (tick : Tick) :
    (judge identity settings book pos tick).1 =
      { priced pos tick with
        trailPeakPct := (trailingSl settings (priced pos tick)).1.trailPeakPct
        tslHighLockRs := (judge identity settings book pos tick).1.tslHighLockRs } := by
  simp only [judge]
  rw [scalableTsl_frame, trailingSl_frame]

/-- The peak after a tick is that of the trailing stop. -/
theorem judge_peak (pos : StraddlePosition) (tick : Tick) :
    (judge identity settings book pos tick).1.trailPeakPct =
      (trailingSl settings (priced pos tick)).1.trailPeakPct := by
  rw [judge_frame]

theorem judge_alike (pos : StraddlePosition) (tick : Tick) :
    Alike pos (judge identity settings book pos tick).1 := by
  rw [judge_frame]
  exact ⟨rfl, rfl, rfl, rfl⟩

/-- Two positions, each with its book, that no later prices tell apart. -/
structure Matched (settings : ExitSettings) (book after : Book) (pos other : StraddlePosition) :
    Prop where
  alike : Alike pos other
  lock : other.tslHighLockRs = pos.tslHighLockRs
  day : ∀ tick, ruled settings after other (dayRule settings after other) tick =
    ruled settings book pos (dayRule settings book pos) tick
  peak : Same (profits settings pos) (settings.trailLockPct * 100) (settings.trailFloorPct * 100)
    pos.trailPeakPct other.trailPeakPct

/-- What the scalable stop follows is not moved by the trailing one. -/
theorem tslPnl_trailed (pos : StraddlePosition) (spot : Rat) :
    tslPnl settings (trailingSl settings pos).1 spot = tslPnl settings pos spot := by
  rw [trailingSl_frame]
  rfl

/-- The scalable stop decides alike, and moves alike, on matched positions. -/
theorem Matched.tsl (matched : Matched settings book after pos other) (tick : Tick) :
    (judge identity settings after other tick).2.tsl =
        (judge identity settings book pos tick).2.tsl ∧
      (judge identity settings after other tick).1.tslHighLockRs =
        (judge identity settings book pos tick).1.tslHighLockRs := by
  have locks : (trailingSl settings (priced other tick)).1.tslHighLockRs =
      (trailingSl settings (priced pos tick)).1.tslHighLockRs := by
    rw [trailingSl_frame, trailingSl_frame settings (priced pos tick)]
    exact matched.lock
  have points : tslPnl settings (trailingSl settings (priced other tick)).1 tick.spot =
      tslPnl settings (trailingSl settings (priced pos tick)).1 tick.spot := by
    rw [tslPnl_trailed, tslPnl_trailed, matched.alike.tslPnl]
  exact scalableTsl_congr locks points

/-- The trailing stop decides alike, and no later profit tells the peaks apart. -/
theorem Matched.trailing (matched : Matched settings book after pos other) (tick : Tick) :
    (judge identity settings after other tick).2.trailing =
        (judge identity settings book pos tick).2.trailing ∧
      Same (profits settings pos) (settings.trailLockPct * 100) (settings.trailFloorPct * 100)
        (judge identity settings book pos tick).1.trailPeakPct
        (judge identity settings after other tick).1.trailPeakPct := by
  rw [judge_peak, judge_peak]
  simp only [judge, trailingSl_followed, matched.alike.followed]
  cases brought : followed settings (priced pos tick) with
  | none => exact ⟨rfl, matched.peak⟩
  | some profit =>
    have listed : profit ∈ profits settings pos := ⟨tick, brought⟩
    have agreed := (matched.peak profit listed).symm
    exact ⟨decide_eq_decide.mpr agreed, same_profits_moved matched.peak listed⟩

/-- A tick finds the same decisions, and leaves the positions matched. -/
theorem Matched.step (matched : Matched settings book after pos other) (tick : Tick) :
    (judge identity settings after other tick).2 = (judge identity settings book pos tick).2 ∧
      Matched settings book after (judge identity settings book pos tick).1
        (judge identity settings after other tick).1 := by
  have here := @judge_alike identity settings book pos tick
  have there := @judge_alike identity settings after other tick
  obtain ⟨trailing, peak⟩ := @Matched.trailing identity settings book after pos other matched tick
  obtain ⟨tsl, lock⟩ := @Matched.tsl identity settings book after pos other matched tick
  have day : (judge identity settings after other tick).2.day =
      (judge identity settings book pos tick).2.day := by
    simp only [judge, dayExit_ruled]
    exact matched.day tick
  refine ⟨?_, here.symm.trans (matched.alike.trans there), lock, ?_, ?_⟩
  case refine_1 => exact Decision.ext day trailing tsl
  case refine_2 =>
    intro later
    rw [there.dayRule, there.ruled, here.dayRule, here.ruled]
    exact matched.day later
  case refine_3 =>
    rw [here.profits]
    exact peak

/-- Matched positions decide alike on every sequence of ticks. -/
theorem Matched.run (matched : Matched settings book after pos other) (ticks : List Tick) :
    judgeAll identity settings after other ticks = judgeAll identity settings book pos ticks := by
  induction ticks generalizing pos other with
  | nil => rfl
  | cons tick rest inductionHypothesis =>
    obtain ⟨same, next⟩ := @Matched.step identity settings book after pos other matched tick
    rw [judgeAll, judgeAll, same, inductionHypothesis next]

/-- Positions that decide alike on every single tick are matched. -/
theorem matched_of_ticks (alike : Alike pos other) (lock : other.tslHighLockRs = pos.tslHighLockRs)
    (same : ∀ tick, judgeAll identity settings after other [tick] =
      judgeAll identity settings book pos [tick]) :
    Matched settings book after pos other := by
  have decided (tick : Tick) : (judge identity settings after other tick).2 =
      (judge identity settings book pos tick).2 := by
    simpa [judgeAll] using same tick
  refine ⟨alike, lock, ?_, ?_⟩
  · intro tick
    have day := congrArg Decision.day (decided tick)
    simpa only [judge, dayExit_ruled] using day
  · rintro profit ⟨tick, brought⟩
    have trailing := congrArg Decision.trailing (decided tick)
    simp only [judge, trailingSl_followed, alike.followed, brought] at trailing
    exact (decide_eq_decide.mp trailing).symm

end Pairs

/-! ## A restart on the same prices -/

section Restarts

variable (identity : Identity) (settings : ExitSettings) (clock : Clock) {book : Book}
  {pos : StraddlePosition}

/-- The rule that a restart derives from the position at hand. -/
def restoredRule (pos : StraddlePosition) : Option DayRule :=
  if credit : 0 < pos.netCredit then
    if timed : settings.dayExitBasis = .theta ∧ 0 < premiumBase pos then
      some ⟨decide (0 < pos.entryTimeValue), premiumBase pos, timed.2⟩
    else some ⟨false, pos.netCredit, credit⟩
  else none

/-- Two ticks of the legs price an open position. -/
theorem optionTick_priced (held : book.position = some pos) (opened : pos.status = .open)
    (tick : Tick) :
    optionTick (optionTick book .ce pos.ceLeg.strike tick.ce) .pe pos.peLeg.strike tick.pe =
      { book with position := some (priced pos tick) } := by
  have near : (0 : Rat) < 1 / 100 := by norm_num
  simp [optionTick, held, opened, StraddlePosition.leg, StraddlePosition.setLeg, priced]

/-- What a start keeps of the book that saved. -/
def carried (book : Book) : Strategy where
  book := { Book.fresh with
    sessionRealizedPnlPts := book.sessionRealizedPnlPts
    tradesToday := book.tradesToday
    stopForDay := book.stopForDay }

/-- The book that starts from what a book with an open position saved. -/
theorem restarted_book (held : book.position = some pos) (opened : pos.status = .open) :
    restarted settings clock book =
      (restorePosition settings clock (carried book) (toDict pos)).book := by
  have kept : book.position.filter (fun pos => decide (pos.status = .open)) = some pos := by
    simp [held, Option.filter, opened]
  let position : Dated PositionDict := ⟨clock.day, toDict pos⟩
  let session : Dated SessionDict := ⟨clock.day, ⟨book.sessionRealizedPnlPts, book.tradesToday,
    book.stopForDay, sessionDay settings clock⟩⟩
  have written : write settings clock {} (persist book) = ⟨some position, some session⟩ := by
    simp only [persist, kept, write, writeFiles, Option.map_some, position, session]
  have dated : load clock (some position) = some position := load_today rfl
  have loaded : load clock (some session) = some session := load_today rfl
  have restored : restoreSession settings clock .fresh ⟨some position, some session⟩ =
      carried book :=
    @restoreSession_kept settings clock ⟨some position, some session⟩ session loaded rfl
  simp only [restarted, written, start, dated, restored, position]

theorem restarted_position (held : book.position = some pos) (opened : pos.status = .open) :
    (restarted settings clock book).position =
      some (healLots settings (fromDict (toDict pos))) := by
  rw [restarted_book settings clock held opened, restorePosition_position]

/-- A restored position is alike, and its peak is zero. -/
theorem healLots_frame (pos : StraddlePosition) :
    Alike pos (healLots settings (fromDict (toDict pos))) ∧
      (healLots settings (fromDict (toDict pos))).tslHighLockRs = pos.tslHighLockRs ∧
      (healLots settings (fromDict (toDict pos))).trailPeakPct = 0 := by
  rw [healLots]
  split
  · exact ⟨⟨rfl, rfl, rfl, rfl⟩, rfl, rfl⟩
  · exact ⟨⟨rfl, rfl, rfl, rfl⟩, rfl, rfl⟩

/-- The denominators of the restarted book are those of the position at hand. -/
theorem restarted_denominators (held : book.position = some pos) (opened : pos.status = .open) :
    (restarted settings clock book).initialNetCredit =
        (if 0 < pos.netCredit then pos.netCredit else 0) ∧
      (restarted settings clock book).initialEntryTimeValue =
        if pos.entryTimeValue ≠ 0 then pos.entryTimeValue
        else if 0 < pos.netCredit then pos.netCredit else 0 := by
  obtain ⟨alike, _, _⟩ := healLots_frame settings pos
  rw [restarted_book settings clock held opened]
  simp only [restorePosition, deriveDenominators, carried, Book.fresh, alike.credit,
    alike.timeValue, le_refl, true_and, if_true]

/-- The rule of the restarted book is that of the position at hand. -/
theorem restarted_rule (held : book.position = some pos) (opened : pos.status = .open)
    {other : StraddlePosition} (alike : Alike pos other) :
    dayRule settings (restarted settings clock book) other = restoredRule settings pos := by
  obtain ⟨credit, timeValue⟩ := restarted_denominators settings clock held opened
  by_cases sold : 0 < pos.netCredit
  · rw [if_pos sold] at credit timeValue
    have based : (restarted settings clock book).initialEntryTimeValue = premiumBase pos :=
      timeValue
    simp only [dayRule, restoredRule, credit, based, alike.timeValue]
  · rw [if_neg sold] at credit
    simp [dayRule, restoredRule, credit, sold]

/-- The points of the day are those of the book before. -/
theorem restarted_ruled (held : book.position = some pos) (opened : pos.status = .open)
    (rule : Option DayRule) (tick : Tick) :
    ruled settings (restarted settings clock book) pos rule tick =
      ruled settings book pos rule tick := by
  have session : (restarted settings clock book).sessionRealizedPnlPts =
      book.sessionRealizedPnlPts := by
    rw [restarted_book settings clock held opened]
    rfl
  simp only [ruled, dayTotal, session]

/-- A snapshot preserves the decisions of a position on all later prices exactly where no
profit tells its peak from zero, and the rule of its day is tied to the rule that a
restart derives from it. -/
theorem decisions_kept_iff (held : book.position = some pos) (opened : pos.status = .open) :
    (∀ ticks, decisions identity settings (restarted settings clock book) ticks =
        decisions identity settings book ticks) ↔
      TrailTied settings pos ∧
        DayTied settings book pos (dayRule settings book pos) (restoredRule settings pos) := by
  obtain ⟨alike, lock, peak⟩ := healLots_frame settings pos
  have position := restarted_position settings clock held opened
  have rule := restarted_rule settings clock held opened alike
  simp only [decisions, position, held]
  rw [← same_profits_iff, ← ruled_same_iff]
  constructor
  case mp =>
    intro same
    have matched := matched_of_ticks alike lock (fun tick => same [tick])
    refine ⟨peak ▸ matched.peak, ?_⟩
    intro tick
    have day := matched.day tick
    rw [rule, alike.ruled, restarted_ruled settings clock held opened] at day
    exact day.symm
  case mpr =>
    rintro ⟨trail, day⟩
    have matched : Matched settings book (restarted settings clock book) pos
        (healLots settings (fromDict (toDict pos))) := by
      refine ⟨alike, lock, ?_, by rwa [peak]⟩
      intro tick
      rw [rule, alike.ruled, restarted_ruled settings clock held opened]
      exact (day tick).symm
    exact matched.run

end Restarts

/-! ## A position at a peak -/

/-- A day with a trailing stop and a profit target. -/
def trailingDay : ExitSettings :=
  { targeted with
    trailSlEnabled := true
    trailLockPct := 3 / 10
    trailFloorPct := 1 / 10 }

/-- A pair sold for 200 that has been at a peak. -/
def soldAt (peak : Rat) : StraddlePosition where
  underlying := "NIFTY"
  atmAtEntry := 24000
  entrySpot := 24000
  ceLeg := { strike := 24000, entryPrice := 110, ltp := 110 }
  peLeg := { strike := 24000, entryPrice := 90, ltp := 90 }
  netCredit := 200
  entryTimeValue := 200
  trailPeakPct := peak
  lotSize := 75

/-- A day whose first pair was sold for a credit. -/
def dayOf (initialNetCredit : Rat) (pos : StraddlePosition) : Book :=
  { Book.fresh with
    position := some pos
    sessionRealizedPnlPts := 30
    initialNetCredit := initialNetCredit
    initialEntryTimeValue := initialNetCredit }

def noon : Clock := { day := 1, seconds := 43200 }

/-- A peak below the lock on the first pair of the day is not missed. -/
theorem decisions_kept_below_the_lock :
    (soldAt 20).trailPeakPct ≠ 0 ∧ ∀ ticks,
      decisions nifty trailingDay (restarted trailingDay noon (dayOf 200 (soldAt 20))) ticks =
        decisions nifty trailingDay (dayOf 200 (soldAt 20)) ticks := by
  have unlocked : TrailTied trailingDay (soldAt 20) := by
    intro _ _
    exact .inr (.inl (by decide +kernel))
  have first : dayRule trailingDay (dayOf 200 (soldAt 20)) (soldAt 20) =
      restoredRule trailingDay (soldAt 20) := rfl
  exact ⟨by decide,
    (decisions_kept_iff nifty trailingDay noon rfl rfl).mpr ⟨unlocked, .inl first⟩⟩

/-- A peak above the lock is forgotten, and so is the credit of the first pair. -/
theorem peak_and_credit_forgotten :
    (¬∀ ticks,
      decisions nifty trailingDay (restarted trailingDay noon (dayOf 200 (soldAt 40))) ticks =
        decisions nifty trailingDay (dayOf 200 (soldAt 40)) ticks) ∧
    ¬∀ ticks,
      decisions nifty trailingDay (restarted trailingDay noon (dayOf 300 (soldAt 0))) ticks =
        decisions nifty trailingDay (dayOf 300 (soldAt 0)) ticks := by
  constructor
  · intro same
    have dropped := same [⟨75, 75, 24000, by norm_num, by norm_num, by norm_num⟩]
    revert dropped
    decide +kernel
  · intro same
    have earned := same [⟨60, 50, 24000, by norm_num, by norm_num, by norm_num⟩]
    revert earned
    decide +kernel

end OptionChain.SnapshotDecisions
