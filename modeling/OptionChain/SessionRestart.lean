import OptionChain.Runs
import OptionChain.StraddleStore

/-!
# A session across restarts

Every close, roll and fill writes the sums of the session with what they are in
memory. Two operations go on changing them: an exit that ends the day sets the flag
after its close has saved, and an entry counts the trade after it has saved. A reset
does not write at all. `session_survives` says that nothing else goes wrong.
-/

namespace OptionChain.SessionRestart

open Broker Runs StraddleEvents StraddleBook StraddleExits StraddleStore

/-- What a restart has to bring back. -/
structure Sums where
  sessionRealizedPnlPts : Rat := 0
  tradesToday : Nat := 0
  stopForDay : Bool := false
deriving DecidableEq

def sums (book : Book) : Sums :=
  ⟨book.sessionRealizedPnlPts, book.tradesToday, book.stopForDay⟩

def storedSums (d : SessionDict) : Sums :=
  ⟨d.sessionRealizedPnlPts, d.tradesToday, d.stopForDay⟩

/-! ## What an operation leaves in the files -/

/-- The last snapshot of an operation. -/
def latest : List Effect → Option Snapshot
  | [] => none
  | .order _ :: rest => latest rest
  | .persist snapshot :: rest => (latest rest).or (some snapshot)

theorem latest_append (first second : List Effect) :
    latest (first ++ second) = (latest second).or (latest first) := by
  induction first with
  | nil => simp [latest]
  | cons effect rest inductionHypothesis =>
    cases effect with
    | order ev => simpa [latest] using inductionHypothesis
    | persist snapshot => simp [latest, inductionHypothesis]

/-- Only the last snapshot stays in the files. -/
theorem write_latest (settings : ExitSettings) (clock : Clock) (store : Store)
    (effects : List Effect) :
    effects.foldl (write settings clock) store =
      ((latest effects).map (writeFiles settings clock)).getD store := by
  induction effects generalizing store with
  | nil => rfl
  | cons effect rest inductionHypothesis =>
    rw [List.foldl_cons, inductionHypothesis]
    cases effect with
    | order ev => rfl
    | persist snapshot =>
      cases later : latest rest with
      | none => simp [latest, later, write]
      | some last => simp [latest, later]

/-- Every recorded position is open and has been counted. -/
structure Proper (book : Book) : Prop where
  opened : ∀ pos ∈ book.position, pos.status = .open
  counted : book.position.isSome → 1 ≤ book.tradesToday

/-- A snapshot from which a restart brings back the sums of a book. -/
structure Saves (snapshot : Snapshot) (book : Book) : Prop where
  pnl : snapshot.sessionRealizedPnlPts = book.sessionRealizedPnlPts
  stop : snapshot.stopForDay = book.stopForDay
  held : snapshot.position.isSome = book.position.isSome
  opened : ∀ pos ∈ snapshot.position, pos.status = .open
  trades : book.tradesToday =
    if book.position.isSome then max snapshot.tradesToday 1 else snapshot.tradesToday

/-- Nothing that a restart brings back has changed. -/
structure Still (before after : Book) : Prop where
  sums : sums after = sums before
  held : after.position.isSome = before.position.isSome

/-- An operation saves what it leaves, or leaves everything as it was. -/
structure Recorded (before after : Book) (effects : List Effect) : Prop where
  proper : Proper after
  written : match latest effects with
    | some snapshot => Saves snapshot after
    | none => Still before after

section Recording

variable {before book after : Book} {effects : List Effect}

theorem Still.refl (book : Book) : Still book book := ⟨rfl, rfl⟩

theorem Still.trans (first : Still before book) (second : Still book after) :
    Still before after :=
  ⟨second.sums.trans first.sums, second.held.trans first.held⟩

/-- Only the sums and whether there is a position matter. -/
theorem Saves.congr {snapshot : Snapshot} (saves : Saves snapshot book) (still : Still book after) :
    Saves snapshot after := by
  have same := still.sums
  simp only [sums, Sums.mk.injEq] at same
  obtain ⟨pnl, trades, stop⟩ := same
  exact ⟨saves.pnl.trans pnl.symm, saves.stop.trans stop.symm, saves.held.trans still.held.symm,
    saves.opened, by rw [trades, still.held, saves.trades]⟩

theorem proper_flat (flat : book.position = none) : Proper book :=
  ⟨by simp [flat], by simp [flat]⟩

theorem Recorded.unchanged (proper : Proper after) (still : Still before after) :
    Recorded before after [] := ⟨proper, still⟩

/-- One operation after the other. -/
theorem Recorded.andThen {more : List Effect} (first : Recorded before book effects)
    (second : Recorded book after more) : Recorded before after (effects ++ more) := by
  refine ⟨second.proper, ?_⟩
  have earlier := first.written
  have later := second.written
  rw [latest_append]
  cases last : latest more with
  | some snapshot =>
    rw [last] at later
    exact later
  | none =>
    rw [last] at later
    cases saved : latest effects with
    | some snapshot =>
      rw [saved] at earlier
      exact earlier.congr later
    | none =>
      rw [saved] at earlier
      exact earlier.trans later

/-- What happens before and after an operation that changes no sums. -/
theorem Recorded.congr {start : Book} (recorded : Recorded before book effects)
    (first : Still start before) (last : Still book after) (proper : Proper after) :
    Recorded start after effects := by
  have written := recorded.written
  refine ⟨proper, ?_⟩
  cases saved : latest effects with
  | some snapshot =>
    rw [saved] at written
    exact written.congr last
  | none =>
    rw [saved] at written
    exact (first.trans written).trans last

/-- A snapshot of the book as it is. -/
theorem saves_persist (proper : Proper book) :
    ∃ snapshot, persist book = .persist snapshot ∧ Saves snapshot book := by
  have kept : book.position.filter (fun pos => decide (pos.status = .open)) = book.position := by
    cases held : book.position with
    | none => rfl
    | some pos => simp [Option.filter, proper.opened pos held]
  refine ⟨_, rfl, ⟨rfl, rfl, by rw [kept], ?_, ?_⟩⟩
  · rw [kept]
    exact proper.opened
  · cases held : book.position with
    | none => rfl
    | some pos =>
      have counted := proper.counted (by simp [held])
      simp [counted]

/-- The last thing an operation does is to save. -/
theorem recorded_persist {saved : Book} (proper : Proper saved) (still : Still saved after)
    (last : Proper after) (orders : List Effect) :
    Recorded before after (orders ++ [persist saved]) := by
  obtain ⟨snapshot, written, saves⟩ := saves_persist proper
  refine ⟨last, ?_⟩
  rw [latest_append, written]
  exact saves.congr still

end Recording

section Operations

variable {identity : Identity} {settings : Settings} {now : Int} {book : Book}

theorem cooldown_still (book : Book) : Still book (applySlCooldown settings now book) :=
  ⟨by simp [sums], by simp⟩

/-- A close saves, whatever the book was before. -/
theorem closePosition_saved (before : Book) {pos : StraddlePosition}
    (held : book.position = some pos) (reason : String) :
    Recorded before (closePosition identity settings now book reason).1
      (closePosition identity settings now book reason).2 := by
  rw [closePosition, held]
  exact recorded_persist (proper_flat rfl) (cooldown_still _) (proper_flat (by simp)) [_]

theorem closePosition_recorded (proper : Proper book) (reason : String) :
    Recorded book (closePosition identity settings now book reason).1
      (closePosition identity settings now book reason).2 := by
  cases held : book.position with
  | none =>
    rw [closePosition, held]
    exact .unchanged proper (.refl book)
  | some pos => exact closePosition_saved book held reason

/-- A position that differs in no status keeps the book proper. -/
theorem proper_moved (proper : Proper book) {pos moved : StraddlePosition} {after : Book}
    (held : book.position = some pos) (position : after.position = some moved)
    (same : moved.status = pos.status) (trades : after.tradesToday = book.tradesToday) :
    Proper after := by
  constructor
  case opened =>
    rw [position]
    intro other listed
    cases listed
    rw [same]
    exact proper.opened pos held
  case counted =>
    intro _
    rw [trades]
    exact proper.counted (by simp [held])

@[simp] theorem replacedLeg_status (pos : StraddlePosition) (side : OptType) (strike : Int)
    (ltp : Rat) (reason : String) :
    (replacedLeg pos side strike ltp reason).status = pos.status :=
  setLeg_status pos side _

/-- The book after both halves of a roll. -/
theorem proper_rebaseline (proper : Proper book) {pos : StraddlePosition}
    (held : book.position = some pos) : Proper (rebaseline book) := by
  have based : rebaseline book =
      { book with
        position := some
          { pos with
            sessionMinVwap := none
            peakProfit := 0
            tslHighLockRs := 0
            trailingActive := false
            trailPeakPct := 0
            entryTimeValue := pos.currentTimeValue book.spot }
        initialEntryTimeValue :=
          max (pos.currentTimeValue book.spot) book.initialEntryTimeValue } := by
    rw [rebaseline, held]
  rw [based]
  exact proper_moved proper held rfl rfl rfl

theorem singleSideRoll_recorded (proper : Proper book) (side : OptType) (reason : String)
    (sel : Option (Int × Rat)) :
    Recorded book (singleSideRoll identity settings now book side reason sel).1
      (singleSideRoll identity settings now book side reason sel).2 := by
  rw [singleSideRoll]
  cases held : book.position with
  | none => exact .unchanged proper (.refl book)
  | some pos =>
    cases sel with
    | none =>
      exact recorded_persist (proper_flat rfl) (cooldown_still _) (proper_flat (by simp)) _
    | some partner =>
      obtain ⟨strike, ltp⟩ := partner
      by_cases same : strike = truncate (pos.leg side).strike
      · simp only [same, if_true]
        exact .unchanged proper (.refl book)
      · simp only [same, if_false]
        have moved : Proper (openLeg identity settings
            (closeLeg identity settings book pos side reason).1 pos side strike ltp
            ("single_side_roll_" ++ reason)).1 :=
          proper_moved proper held rfl
            (replacedLeg_status pos side strike ltp ("single_side_roll_" ++ reason)) rfl
        have based := proper_rebaseline moved rfl
        exact recorded_persist based (.refl _) based _

theorem adoptFill_status (fill : StraddleFillEvent) (pos : StraddlePosition) :
    (adoptFill fill pos).status = pos.status := rfl

/-- Every fill that changes the book saves it. -/
theorem fillLoop_recorded (proper : Proper book) (fill : StraddleFillEvent) :
    Recorded book (fillLoop identity settings now book fill).1
      (fillLoop identity settings now book fill).2 := by
  have waiting : Recorded book { book with orderPending := false } [] :=
    .unchanged ⟨proper.opened, proper.counted⟩ ⟨rfl, rfl⟩
  rw [fillLoop]
  by_cases other : fill.underlying ≠ identity.underlying
  · rw [if_pos other]
    exact .unchanged proper (.refl book)
  · rw [if_neg other, onFill]
    cases fill.action with
    | exit => exact waiting
    | entry =>
      by_cases aborted : fill.entryAborted = true
      · simp only [aborted, if_true]
        exact recorded_persist (proper_flat rfl) (cooldown_still _) (proper_flat (by simp)) []
      · simp only [aborted, Bool.false_eq_true, if_false]
        cases held : book.position with
        | none => exact .unchanged (proper_flat rfl) ⟨rfl, by simp [held]⟩
        | some pos =>
          have opened := proper.opened pos held
          have confirmed : Proper { book with position := some (adoptFill fill pos) } :=
            proper_moved proper held rfl (adoptFill_status fill pos) rfl
          have settled : Still { book with position := some (adoptFill fill pos) }
              { book with position := some (adoptFill fill pos), orderPending := false } :=
            ⟨rfl, rfl⟩
          simp only [opened, if_true]
          exact recorded_persist confirmed settled ⟨confirmed.opened, confirmed.counted⟩ []

/-- The first entry of a session: its trade is counted after the save, and a restart
counts a restored position once. -/
theorem openPosition_recorded (first : book.tradesToday = 0) (ceStrike peStrike : Int)
    (ceLtp peLtp : Rat) (ruleKey : String) :
    Recorded book (openPosition identity settings book ceStrike peStrike ceLtp peLtp ruleKey).1
      (openPosition identity settings book ceStrike peStrike ceLtp peLtp ruleKey).2 := by
  have opened : (openedPosition identity settings book ceStrike peStrike ceLtp peLtp
      ruleKey).status = .open := rfl
  constructor
  case proper =>
    constructor
    case opened =>
      intro pos listed
      cases listed
      exact opened
    case counted => simp [openPosition, first]
  case written =>
    refine ⟨rfl, rfl, ?_, ?_, ?_⟩
    · simp [openPosition, Option.filter, opened]
    · intro pos listed
      cases listed
      exact opened
    · simp [openPosition, first]

/-- A close leaves the flag of the day. -/
theorem closePosition_stopForDay (reason : String) :
    (closePosition identity settings now book reason).1.stopForDay = book.stopForDay := by
  rw [closePosition]
  cases book.position with
  | none => rfl
  | some pos => simp

end Operations

/-! ## What the checks of a tick leave in the files -/

section Checks

variable (identity : Identity) (settings : ExitSettings) (clock : Clock) (market : Market)
  {strategy : Strategy} {pos : StraddlePosition}

theorem close_recorded (proper : Proper strategy.book) (reason : String) :
    Recorded strategy.book (close identity settings clock strategy reason).1.book
      (close identity settings clock strategy reason).2 :=
  closePosition_recorded proper reason

theorem roll_recorded (proper : Proper strategy.book) (side : OptType) (reason : String) :
    Recorded strategy.book (roll identity settings clock market strategy side reason).1.book
      (roll identity settings clock market strategy side reason).2 :=
  singleSideRoll_recorded proper side reason _

/-- Nothing was saved, and only trackers were moved. -/
theorem setPosition_still (held : strategy.book.position = some pos) (moved : StraddlePosition) :
    Still strategy.book (strategy.setPosition moved).book :=
  ⟨rfl, by simp [Strategy.setPosition, held]⟩

theorem setPosition_proper (proper : Proper strategy.book)
    (held : strategy.book.position = some pos) {moved : StraddlePosition}
    (same : moved.status = pos.status) : Proper (strategy.setPosition moved).book :=
  proper_moved proper held rfl same rfl

/-- What a check does with a moved position. -/
theorem recorded_moved (held : strategy.book.position = some pos) {moved : StraddlePosition}
    {after : Book} {effects : List Effect}
    (recorded : Recorded (strategy.setPosition moved).book after effects) :
    Recorded strategy.book after effects :=
  recorded.congr (setPosition_still held moved) (.refl after) recorded.proper

/-- Forgetting the low of a VWAP is no change of the sums. -/
theorem forgetLow_still (strategy : Strategy) : Still strategy.book (forgetLow strategy).book :=
  ⟨rfl, by simp [forgetLow]⟩

theorem forgetLow_proper (proper : Proper strategy.book) : Proper (forgetLow strategy).book := by
  cases held : strategy.book.position with
  | none => exact proper_flat (by simp [forgetLow, held])
  | some pos =>
    have moved : (forgetLow strategy).book.position = some { pos with sessionMinVwap := none } := by
      simp [forgetLow, held]
    exact proper_moved proper held moved rfl rfl

theorem trailingSl_status (pos : StraddlePosition) :
    (trailingSl settings pos).1.status = pos.status := by
  rw [trailingSl_frame]

theorem scalableTsl_status (pos : StraddlePosition) (spot : Rat) :
    (scalableTsl settings identity pos spot).1.status = pos.status := by
  rw [scalableTsl_frame]

/-- An exit that ends the day is recorded only where the day was ended before. -/
theorem enact_recorded (proper : Proper strategy.book) (verdict : Verdict)
    (ended : verdict.stopsDay = true → strategy.book.stopForDay = true) :
    Recorded strategy.book (enact identity settings clock strategy verdict).1.book
      (enact identity settings clock strategy verdict).2 := by
  have closed := close_recorded identity settings clock proper verdict.reason
  rw [enact]
  by_cases stops : verdict.stopsDay = true
  · have stopped : (close identity settings clock strategy verdict.reason).1.book.stopForDay =
        true := (closePosition_stopForDay verdict.reason).trans (ended stops)
    rw [if_pos stops]
    refine closed.congr (.refl _) ⟨?_, rfl⟩ ⟨closed.proper.opened, closed.proper.counted⟩
    simp only [sums, stopped]
  · rw [if_neg stops]
    exact closed

/-- The roll of the call, if it is decayed, and the roll of the put after it. -/
theorem rollDecayed_recorded (proper : Proper strategy.book) (pos : StraddlePosition) :
    Recorded strategy.book (rollDecayed identity settings clock market strategy pos).1.book
      (rollDecayed identity settings clock market strategy pos).2 := by
  have second (first : Strategy × List Effect)
      (recorded : Recorded strategy.book first.1.book first.2) :
      Recorded strategy.book
        (if decayed settings pos.peLeg.ltp ∧ first.1.book.position.isSome then
          ((roll identity settings clock market first.1 .pe "ltp_decay_PE").1,
            first.2 ++ (roll identity settings clock market first.1 .pe "ltp_decay_PE").2)
        else first).1.book
        (if decayed settings pos.peLeg.ltp ∧ first.1.book.position.isSome then
          ((roll identity settings clock market first.1 .pe "ltp_decay_PE").1,
            first.2 ++ (roll identity settings clock market first.1 .pe "ltp_decay_PE").2)
        else first).2 := by
    split
    · exact recorded.andThen
        (roll_recorded identity settings clock market recorded.proper .pe "ltp_decay_PE")
    · exact recorded
  apply second
  split
  · exact roll_recorded identity settings clock market proper .ce "ltp_decay_CE"
  · exact .unchanged proper (.refl _)

theorem checkExitRules_recorded (proper : Proper strategy.book) :
    Recorded strategy.book (checkExitRules identity settings clock market strategy).1.book
      (checkExitRules identity settings clock market strategy).2 := by
  rw [checkExitRules]
  generalize clock.bucket _ = bucket
  by_cases due : clock.minute % (if settings.exitRules then settings.exitRulesTf else 5) = 0 ∧
      5 ≤ clock.seconds % 60 ∧ strategy.lastExitRulesBucket ≠ some bucket
  · simp only [if_pos due]
    by_cases passes : settings.exitRules = true ∧ market.rulesPass = true
    · simp only [if_pos passes]
      exact closePosition_recorded proper "exit_rules"
    · simp only [if_neg passes]
      exact .unchanged proper (.refl _)
  · simp only [if_neg due]
    exact .unchanged proper (.refl _)

theorem checkVwapRise_recorded (proper : Proper strategy.book)
    (held : strategy.book.position = some pos) :
    Recorded strategy.book (checkVwapRise identity settings clock market strategy pos).1.book
      (checkVwapRise identity settings clock market strategy pos).2 := by
  rw [checkVwapRise]
  cases market.vwap with
  | none => exact checkExitRules_recorded identity settings clock market proper
  | some reading =>
    obtain ⟨vwap, closing⟩ := reading
    have moved : Proper (strategy.setPosition (vwapRise pos vwap).1).book :=
      setPosition_proper proper held rfl
    by_cases takes : settings.vwapRiseEnabled = true ∧ takesVwap pos vwap closing = true
    · simp only [if_pos takes]
      by_cases risen : settings.vwapRiseThreshold ≤ (vwapRise pos vwap).2
      · simp only [if_pos risen]
        have rolled := recorded_moved held
          (roll_recorded identity settings clock market moved (lessBurning pos) "vwap_rise_roll")
        exact rolled.congr (.refl _) (forgetLow_still _) (forgetLow_proper rolled.proper)
      · simp only [if_neg risen]
        exact recorded_moved held (checkExitRules_recorded identity settings clock market moved)
    · simp only [if_neg takes]
      exact checkExitRules_recorded identity settings clock market proper

theorem checkRoc_recorded (proper : Proper strategy.book)
    (held : strategy.book.position = some pos) :
    Recorded strategy.book (checkRoc identity settings clock market strategy pos).1.book
      (checkRoc identity settings clock market strategy pos).2 := by
  simp only [checkRoc]
  split
  · cases (guardrailRoc settings market.premCloses).bind (rocExit settings) with
    | some reason => exact closePosition_recorded proper reason
    | none =>
      exact @checkVwapRise_recorded identity settings clock market
        { strategy with lastRocGuardBucket := some (clock.bucket settings.guardrailRocTf) } pos
        proper held
  · exact checkVwapRise_recorded identity settings clock market proper held

theorem checkTsl_recorded (proper : Proper strategy.book)
    (held : strategy.book.position = some pos) :
    Recorded strategy.book (checkTsl identity settings clock market strategy pos).1.book
      (checkTsl identity settings clock market strategy pos).2 := by
  have moved := setPosition_proper proper held
    (scalableTsl_status identity settings pos strategy.book.spot)
  simp only [checkTsl]
  split
  · exact recorded_moved held
      (roll_recorded identity settings clock market moved _ "scalable_tsl")
  · exact recorded_moved held (checkRoc_recorded identity settings clock market moved rfl)

theorem checkTrailing_recorded (proper : Proper strategy.book)
    (held : strategy.book.position = some pos) :
    Recorded strategy.book (checkTrailing identity settings clock market strategy pos).1.book
      (checkTrailing identity settings clock market strategy pos).2 := by
  have moved := setPosition_proper proper held (trailingSl_status settings pos)
  simp only [checkTrailing]
  split
  · exact recorded_moved held (close_recorded identity settings clock moved _)
  · split
    · exact recorded_moved held (rollDecayed_recorded identity settings clock market moved _)
    · split
      · exact recorded_moved held
          (roll_recorded identity settings clock market moved _ "ratio_exit")
      · exact recorded_moved held (checkTsl_recorded identity settings clock market moved rfl)

/-- The warm-up is no part of the book. -/
theorem arm_book (strategy : Strategy) : (arm settings clock strategy).book = strategy.book := by
  rw [arm]
  split <;> rfl

theorem checkExits_recorded (proper : Proper strategy.book)
    (ended : ∀ pos ∈ strategy.book.position, ∀ found ∈ verdict settings clock strategy pos,
      found.stopsDay = true → strategy.book.stopForDay = true) :
    Recorded strategy.book (checkExits identity settings clock market strategy).1.book
      (checkExits identity settings clock market strategy).2 := by
  have same := arm_book settings clock strategy
  have armed : Proper (arm settings clock strategy).book := by rwa [same]
  rw [checkExits]
  cases held : strategy.book.position with
  | none => exact .unchanged proper (.refl _)
  | some pos =>
    cases found : verdict settings clock strategy pos with
    | some verdict =>
      have enacted := enact_recorded identity settings clock armed verdict
        (fun stops => by
          rw [same]
          exact ended pos held verdict found stops)
      rw [same] at enacted
      simpa only [found] using enacted
    | none =>
      by_cases isWarm : warm clock strategy = true
      · have checked := checkTrailing_recorded identity settings clock market armed
          (by rw [same, held])
        rw [same] at checked
        simpa only [found, if_pos isWarm] using checked
      · simp only [found, if_neg isWarm, same]
        exact .unchanged proper (.refl _)

/-- What a tick needs for its sums to be saved: no exit ends a day that was not
ended, and no entry is the second of its session. -/
def TickSaves (strategy : Strategy) (ltp : Rat) : Prop :=
  (∀ pos ∈ strategy.book.position, ∀ found ∈ verdict settings clock (strategy.see ltp) pos,
    found.stopsDay = true → strategy.book.stopForDay = true) ∧
  (strategy.book.position = none →
    (entryPick settings clock market (strategy.see ltp)).isSome = true →
      strategy.book.tradesToday = 0)

instance (strategy : Strategy) (ltp : Rat) :
    Decidable (TickSaves settings clock market strategy ltp) :=
  inferInstanceAs (Decidable ((∀ pos ∈ strategy.book.position,
    ∀ found ∈ verdict settings clock (strategy.see ltp) pos,
      found.stopsDay = true → strategy.book.stopForDay = true) ∧ (_ → _ → _)))

theorem isPositionOpen_iff (proper : Proper strategy.book) :
    isPositionOpen strategy = strategy.book.position.isSome := by
  rw [isPositionOpen]
  cases held : strategy.book.position with
  | none => rfl
  | some pos => simp [proper.opened pos held]

theorem indexTick_recorded (proper : Proper strategy.book) (ltp : Rat)
    (saves : TickSaves settings clock market strategy ltp) :
    Recorded strategy.book (indexTick identity settings clock market strategy ltp).1.book
      (indexTick identity settings clock market strategy ltp).2 := by
  have seen : Proper (strategy.see ltp).book := ⟨proper.opened, proper.counted⟩
  have still : Still strategy.book (strategy.see ltp).book := ⟨rfl, rfl⟩
  rw [indexTick, isPositionOpen_iff seen]
  by_cases held : (strategy.see ltp).book.position.isSome = true
  · simp only [if_pos held]
    have checked := checkExits_recorded identity settings clock market seen saves.1
    exact checked.congr still (.refl _) checked.proper
  · simp only [if_neg held, maybeTryEntry]
    have flat : strategy.book.position = none := Option.not_isSome_iff_eq_none.mp held
    cases picked : entryPick settings clock market (strategy.see ltp) with
    | none => exact .unchanged seen still
    | some pick =>
      have first := saves.2 flat (by simp [picked])
      have opened := @openPosition_recorded identity settings.toSettings (strategy.see ltp).book
        first pick.ceStrike pick.peStrike pick.ceLtp pick.peLtp pick.ruleKey
      exact opened.congr still (.refl _) opened.proper

theorem squareOff_recorded (proper : Proper strategy.book) (reason : String) :
    Recorded strategy.book (squareOff identity settings clock strategy reason).1.book
      (squareOff identity settings clock strategy reason).2 := by
  rw [squareOff, isPositionOpen_iff proper]
  cases held : strategy.book.position with
  | none => exact .unchanged proper (.refl _)
  | some pos =>
    exact @closePosition_saved identity settings.toSettings clock.now
      { strategy.book with stopForDay := true } strategy.book pos held reason

theorem onOptionTick_still (strategy : Strategy) (optType : OptType) (strike ltp : Rat) :
    Still strategy.book (onOptionTick settings strategy optType strike ltp).book := by
  simp only [onOptionTick, optionTick]
  cases held : strategy.book.position with
  | none => exact .refl _
  | some pos =>
    simp only
    split
    · exact ⟨rfl, by simp [held]⟩
    · exact .refl _

theorem onOptionTick_proper (proper : Proper strategy.book) (optType : OptType)
    (strike ltp : Rat) : Proper (onOptionTick settings strategy optType strike ltp).book := by
  simp only [onOptionTick, optionTick]
  cases held : strategy.book.position with
  | none => exact proper
  | some pos =>
    simp only
    split
    · exact proper_moved proper held rfl (setLeg_status _ _ _) rfl
    · exact proper

theorem markOpen_book (strategy : Strategy) :
    (markOpen settings clock strategy).book = strategy.book := by
  rw [markOpen]
  split <;> rfl

/-- A candle within a session closes at the end of the day, or changes nothing. -/
theorem onCandle_recorded (proper : Proper strategy.book)
    (same : newSession settings clock strategy = false) :
    Recorded strategy.book (onCandle identity settings clock strategy).1.book
      (onCandle identity settings clock strategy).2 := by
  have marked := markOpen_book settings clock strategy
  simp only [onCandle, same, Bool.false_eq_true, if_false]
  split
  · have unchanged : Proper (markOpen settings clock strategy).book := by rwa [marked]
    have closed := close_recorded identity settings clock unchanged "time_exit_eod"
    rwa [marked] at closed
  · rw [marked]
    exact .unchanged proper (.refl _)

/-- A candle of a new session leaves an untouched book and saves nothing. -/
theorem onCandle_renews (anew : newSession settings clock strategy = true) :
    (onCandle identity settings clock strategy).2 = [] ∧
      (onCandle identity settings clock strategy).1.book = resetSession strategy.book := by
  have marked := markOpen_book settings clock (resetStrategy strategy)
  have flat : isPositionOpen (markOpen settings clock (resetStrategy strategy)) = false := by
    rw [isPositionOpen, marked]
    rfl
  simp only [onCandle, anew, if_true, flat, Bool.false_eq_true, and_false, if_false]
  exact ⟨trivial, marked⟩

end Checks

/-! ## The files of a session -/

/-- The files as a snapshot. -/
def readBack (store : Store) (d : SessionDict) : Snapshot where
  position := store.position.map (fun stored => fromDict stored.content)
  sessionRealizedPnlPts := d.sessionRealizedPnlPts
  tradesToday := d.tradesToday
  stopForDay := d.stopForDay

/-- The files hold the session that the book is in. -/
structure Holds (machine : Machine) (file : Dated SessionDict) : Prop where
  stored : machine.store.session = some file
  sameDay : file.content.sessionDay = machine.day
  together : ∀ position ∈ machine.store.position, position.date = file.date
  saves : Saves (readBack machine.store file.content) machine.strategy.book

/-- Files from which a start on a session day brings nothing back. -/
def Stale (store : Store) (label day : Int) : Prop :=
  (∀ file ∈ store.session, file.content.sessionDay = label → storedSums file.content = {}) ∧
  ∀ stored ∈ store.position, stored.date < day

instance (store : Store) (label day : Int) : Decidable (Stale store label day) :=
  inferInstanceAs (Decidable ((∀ file ∈ store.session, _ → _) ∧ ∀ stored ∈ store.position, _))

/-- Nothing has happened in the session, and the files are of an earlier one. -/
structure Blank (machine : Machine) : Prop where
  untouched : sums machine.strategy.book = {}
  flat : machine.strategy.book.position = none
  stale : Stale machine.store machine.day machine.date

/-- A restart would bring the session back. -/
def Recoverable (machine : Machine) : Prop :=
  Proper machine.strategy.book ∧ ((∃ file, Holds machine file) ∨ Blank machine)

section Starts

variable {settings : ExitSettings} {clock : Clock} {store : Store} {book : Book}

/-- What is stale stays so as days pass. -/
theorem Stale.later {label day next : Int} (stale : Stale store label day) (passed : day ≤ next) :
    Stale store label next :=
  ⟨stale.1, fun stored listed => lt_of_lt_of_le (stale.2 stored listed) passed⟩

/-- A save makes the files those of the book. -/
theorem holds_writeFiles {snapshot : Snapshot} {strategy : Strategy}
    (saves : Saves snapshot strategy.book) :
    ∃ file, Holds ⟨strategy, writeFiles settings clock snapshot, sessionDay settings clock,
      clock.day⟩ file := by
  refine ⟨_, rfl, rfl, ?_, ?_⟩
  case refine_1 =>
    intro position listed
    simp only [writeFiles, Option.mem_def, Option.map_eq_some_iff] at listed
    obtain ⟨pos, _, rfl⟩ := listed
    rfl
  case refine_2 =>
    refine ⟨saves.pnl, saves.stop, ?_, ?_, saves.trades⟩
    · simp [readBack, writeFiles, saves.held]
    · intro pos listed
      simp only [readBack, writeFiles, Option.map_map, Option.mem_def,
        Option.map_eq_some_iff] at listed
      obtain ⟨original, known, rfl⟩ := listed
      exact saves.opened original known

/-- A file of today is kept. -/
theorem load_today {α : Type} {file : Dated α} (today : file.date = clock.day) :
    load clock (some file) = some file := by
  simp [load, Option.filter, today]

theorem healLots_status (pos : StraddlePosition) :
    (healLots settings pos).status = pos.status := by
  rw [healLots]
  split <;> rfl

/-- A restored position is counted as a trade, and nothing else of the sums moves. -/
theorem restorePosition_sums (strategy : Strategy) (stored : PositionDict) :
    sums (restorePosition settings clock strategy stored).book =
      { sums strategy.book with tradesToday := max strategy.book.tradesToday 1 } := rfl

theorem restorePosition_position (strategy : Strategy) (stored : PositionDict) :
    (restorePosition settings clock strategy stored).book.position =
      some (healLots settings (fromDict stored)) := rfl

/-- The session file of today and of the session day. -/
theorem restoreSession_kept {file : Dated SessionDict} (kept : load clock store.session = some file)
    (sameDay : file.content.sessionDay = sessionDay settings clock) :
    restoreSession settings clock .fresh store =
      { Strategy.fresh with
        book := { Book.fresh with
          sessionRealizedPnlPts := file.content.sessionRealizedPnlPts
          tradesToday := file.content.tradesToday
          stopForDay := file.content.stopForDay } } := by
  simp [restoreSession, kept, Option.filter, sameDay, Strategy.fresh, Book.fresh]

/-- The files that a start leaves. -/
theorem start_files (strategy : Strategy) :
    (start settings clock strategy store).2 =
      ⟨load clock store.position, load clock store.session⟩ := by
  rw [start]
  split <;> rfl

/-- The sums after a start, if the session file is of today and of the session day. -/
theorem start_sums {file : Dated SessionDict} (kept : load clock store.session = some file)
    (sameDay : file.content.sessionDay = sessionDay settings clock) :
    sums (start settings clock .fresh store).1.book =
      { storedSums file.content with
        tradesToday :=
          if (load clock store.position).isSome then max file.content.tradesToday 1
          else file.content.tradesToday } := by
  have restored := restoreSession_kept kept sameDay
  rw [start]
  cases load clock store.position with
  | none =>
    simp only [restored]
    rfl
  | some stored =>
    simp only [restored, restorePosition_sums]
    rfl

/-- A start on files of today brings back what a book saved in them. -/
theorem start_still {file : Dated SessionDict} (kept : load clock store.session = some file)
    (sameDay : file.content.sessionDay = sessionDay settings clock)
    (dated : load clock store.position = store.position)
    (saves : Saves (readBack store file.content) book) :
    Still book (start settings clock .fresh store).1.book ∧
      Proper (start settings clock .fresh store).1.book := by
  have restored := restoreSession_kept kept sameDay
  have held : store.position.isSome = book.position.isSome := by
    rw [← saves.held, readBack, Option.isSome_map]
  have same : sums (start settings clock .fresh store).1.book = sums book := by
    rw [start_sums kept sameDay, dated, held]
    simp only [sums, storedSums, saves.trades, ← saves.pnl, ← saves.stop]
    rfl
  cases position : store.position with
  | none =>
    rw [position] at dated held
    simp only [start, position, dated, kept, restored] at same ⊢
    exact ⟨⟨same, held⟩, proper_flat rfl⟩
  | some pos =>
    have opened : (fromDict pos.content).status = .open :=
      saves.opened _ (by simp [readBack, position])
    rw [position] at dated held
    simp only [start, position, dated, kept, restored] at same ⊢
    refine ⟨⟨same, held⟩, ?_, fun _ => le_max_right _ _⟩
    intro other listed
    cases listed
    exact (healLots_status _).trans opened

/-- A start on files of its session day and date brings the sums back, and leaves the
files. -/
theorem start_holds {file : Dated SessionDict} (stored : store.session = some file)
    (sameDay : file.content.sessionDay = sessionDay settings clock)
    (today : file.date = clock.day) (together : ∀ pos ∈ store.position, pos.date = file.date)
    (saves : Saves (readBack store file.content) book) :
    Still book (start settings clock .fresh store).1.book ∧
      Recoverable ⟨(start settings clock .fresh store).1, (start settings clock .fresh store).2,
        sessionDay settings clock, clock.day⟩ := by
  have kept : load clock store.session = some file := by rw [stored, load_today today]
  have dated : load clock store.position = store.position := by
    cases position : store.position with
    | none => rfl
    | some pos => exact load_today ((together pos position).trans today)
  obtain ⟨still, proper⟩ := start_still kept sameDay dated saves
  have files : (start settings clock .fresh store).2 = store := by
    rw [start_files, dated, kept, ← stored]
  rw [files]
  exact ⟨still, proper, .inl ⟨file, stored, sameDay, together, saves.congr still⟩⟩

/-- A start on stale files is that of a new session. -/
theorem start_stale {label day : Int} (stale : Stale store label day) (passed : day ≤ clock.day)
    (here : sessionDay settings clock = label) :
    sums (start settings clock .fresh store).1.book = {} ∧
      Recoverable ⟨(start settings clock .fresh store).1, (start settings clock .fresh store).2,
        sessionDay settings clock, clock.day⟩ := by
  obtain ⟨nothing, earlier⟩ := stale
  have gone : load clock store.position = none := by
    cases position : store.position with
    | none => rfl
    | some pos =>
      have before := earlier pos position
      have other : pos.date ≠ clock.day := by omega
      simp [load, Option.filter, other]
  have restored : (restoreSession settings clock .fresh store).book = Book.fresh := by
    rw [restoreSession]
    cases kept : (load clock store.session).filter
        (fun stored => decide (stored.content.sessionDay = sessionDay settings clock)) with
    | none => rfl
    | some file =>
      obtain ⟨loaded, sameDay⟩ := Option.filter_eq_some_iff.mp kept
      obtain ⟨listed, _⟩ := Option.filter_eq_some_iff.mp loaded
      have zero := nothing file listed (by simpa [here] using sameDay)
      simp only [storedSums, Sums.mk.injEq] at zero
      simp [zero, Strategy.fresh, Book.fresh]
  have left : ∀ file ∈ load clock store.session,
      file.content.sessionDay = sessionDay settings clock → storedSums file.content = {} := by
    intro file loaded sameDay
    obtain ⟨listed, _⟩ := Option.filter_eq_some_iff.mp loaded
    exact nothing file listed (sameDay.trans here)
  simp only [start, gone]
  rw [Recoverable, restored]
  refine ⟨rfl, proper_flat rfl, .inr ⟨?_, ?_, left, by simp⟩⟩
  · rw [restored]
    rfl
  · rw [restored]
    rfl

end Starts

/-! ## Runs with restarts -/

/-- The events that begin a session. -/
def Renews (machine : Machine) (event : StraddleEvent) : Bool :=
  match event.handled with
  | .candle => newSession event.settings event.clock machine.strategy
  | .restart => decide (sessionDay event.settings event.clock ≠ machine.day)
  | .indexTick _ _ | .optionTick _ _ _ | .fill _ | .squareOff _ => false

/-- A tick saves its sums. A restart within a session finds the files on the date of
their writing, or there is nothing to lose. -/
def Fits (machine : Machine) (event : StraddleEvent) : Prop :=
  match event.handled with
  | .indexTick market ltp => TickSaves event.settings event.clock market machine.strategy ltp
  | .restart =>
      ∀ file ∈ machine.store.session, file.content.sessionDay = machine.day →
        sessionDay event.settings event.clock = machine.day → file.date = event.clock.day ∨
          (storedSums file.content = {} ∧ machine.store.position = none)
  | .candle | .optionTick _ _ _ | .fill _ | .squareOff _ => True

/-- Dates do not go back. A session begins on files of an earlier one, and no other
event meets the sums of an earlier session. -/
def Admitted (machine : Machine) (event : StraddleEvent) : Prop :=
  machine.date ≤ event.clock.day ∧
  (if Renews machine event then
    Stale machine.store (sessionDay event.settings event.clock) event.clock.day
  else sessionDay event.settings event.clock = machine.day ∨
    (sums machine.strategy.book = {} ∧
      Stale machine.store (sessionDay event.settings event.clock) event.clock.day)) ∧
  Fits machine event

instance (machine : Machine) (event : StraddleEvent) : Decidable (Fits machine event) := by
  unfold Fits
  split <;> infer_instance

instance (machine : Machine) (event : StraddleEvent) : Decidable (Admitted machine event) :=
  inferInstanceAs (Decidable (_ ∧ _ ∧ _))

section Session

variable (identity : Identity) {machine : Machine} {settings : ExitSettings} {clock : Clock}

/-- Sums that are those of a new session go with an empty book. -/
theorem Proper.flat {book : Book} (proper : Proper book) (untouched : sums book = {}) :
    book.position = none := by
  simp only [sums, Sums.mk.injEq] at untouched
  cases held : book.position with
  | none => rfl
  | some pos =>
    have counted := proper.counted (by simp [held])
    omega

theorem still_untouched {before after : Book} (first : Proper before) (last : Proper after)
    (untouched : sums before = {}) (fresh : sums after = {}) : Still before after :=
  ⟨fresh.trans untouched.symm, by rw [first.flat untouched, last.flat fresh]⟩

/-- An operation that saves what it leaves keeps the session recoverable. -/
theorem recorded_recoverable {strategy : Strategy} {effects : List Effect}
    (recoverable : Recoverable machine)
    (recorded : Recorded machine.strategy.book strategy.book effects)
    (passed : machine.date ≤ clock.day)
    (days : sessionDay settings clock = machine.day ∨ (sums machine.strategy.book = {} ∧
      Stale machine.store (sessionDay settings clock) clock.day)) :
    Recoverable ⟨strategy, effects.foldl (write settings clock) machine.store,
      sessionDay settings clock, clock.day⟩ := by
  have written := recorded.written
  refine ⟨recorded.proper, ?_⟩
  rw [write_latest]
  cases last : latest effects with
  | some snapshot =>
    rw [last] at written
    exact .inl (holds_writeFiles written)
  | none =>
    rw [last] at written
    obtain ⟨proper, files⟩ := recoverable
    rcases days with sameDay | ⟨untouched, stale⟩
    · rcases files with ⟨file, holds⟩ | blank
      · exact .inl ⟨file, holds.stored, holds.sameDay.trans sameDay.symm, holds.together,
          holds.saves.congr written⟩
      · have unchanged := written.sums.trans blank.untouched
        refine .inr ⟨unchanged, recorded.proper.flat unchanged, ?_⟩
        rw [sameDay]
        exact blank.stale.later passed
    · have unchanged := written.sums.trans untouched
      exact .inr ⟨unchanged, recorded.proper.flat unchanged, stale⟩

/-- A start brings the sums back within a session, and begins a new one otherwise. -/
theorem restart_recoverable (recoverable : Recoverable machine)
    (admitted : Admitted machine ⟨settings, clock, .restart⟩) :
    Recoverable (machineStep identity machine ⟨settings, clock, .restart⟩) ∧
      (sessionDay settings clock = machine.day → Still machine.strategy.book
        (machineStep identity machine ⟨settings, clock, .restart⟩).strategy.book) := by
  obtain ⟨passed, days, fits⟩ := admitted
  simp only [Fits] at fits
  by_cases sameDay : sessionDay settings clock = machine.day
  · rcases recoverable.2 with ⟨file, holds⟩ | blank
    · rcases fits file holds.stored holds.sameDay sameDay with today | ⟨nothing, none⟩
      · obtain ⟨same, after⟩ := start_holds holds.stored (holds.sameDay.trans sameDay.symm) today
          holds.together holds.saves
        exact ⟨after, fun _ => same⟩
      · have stale : Stale machine.store machine.day machine.date := by
          refine ⟨?_, by simp [none]⟩
          intro other listed _
          have one : other = file := Option.some.inj (listed.symm.trans holds.stored)
          rw [one]
          exact nothing
        have flat : machine.strategy.book.position = .none := by
          simpa [readBack, none] using holds.saves.held.symm
        have untouched : sums machine.strategy.book = {} := by
          rw [← nothing]
          simp only [sums, storedSums, holds.saves.trades, flat, ← holds.saves.pnl,
            ← holds.saves.stop]
          rfl
        obtain ⟨fresh, after⟩ := start_stale stale passed sameDay
        exact ⟨after, fun _ => still_untouched recoverable.1 after.1 untouched fresh⟩
    · obtain ⟨fresh, after⟩ := start_stale blank.stale passed sameDay
      exact ⟨after, fun _ => still_untouched recoverable.1 after.1 blank.untouched fresh⟩
  · have renews : Renews machine ⟨settings, clock, .restart⟩ = true := by simp [Renews, sameDay]
    rw [if_pos renews] at days
    obtain ⟨_, after⟩ := start_stale days le_rfl rfl
    exact ⟨after, fun same => absurd same sameDay⟩

/-- Every admitted event keeps the session recoverable. -/
theorem step_recoverable (machine : Machine) (event : StraddleEvent)
    (recoverable : Recoverable machine) (admitted : Admitted machine event) :
    Recoverable (machineStep identity machine event) := by
  obtain ⟨settings, clock, handled⟩ := event
  have proper := recoverable.1
  obtain ⟨passed, days, fits⟩ := id admitted
  cases handled with
  | restart => exact (restart_recoverable identity recoverable admitted).1
  | candle =>
    cases renews : newSession settings clock machine.strategy with
    | true =>
      obtain ⟨silent, reset⟩ := onCandle_renews identity settings clock renews
      simp only [Renews, renews, if_true] at days
      have anew : Recoverable ⟨(onCandle identity settings clock machine.strategy).1,
          machine.store, sessionDay settings clock, clock.day⟩ :=
        ⟨proper_flat (by rw [reset]; rfl), .inr ⟨by rw [reset]; rfl, by rw [reset]; rfl, days⟩⟩
      simpa [machineStep, handle, silent] using anew
    | false =>
      simp only [Renews, renews, Bool.false_eq_true, if_false] at days
      exact recorded_recoverable recoverable
        (onCandle_recorded identity settings clock proper renews) passed days
  | indexTick market ltp =>
    exact recorded_recoverable recoverable
      (indexTick_recorded identity settings clock market proper ltp fits) passed days
  | optionTick optType strike ltp =>
    exact recorded_recoverable recoverable
      (.unchanged (onOptionTick_proper settings proper optType strike ltp)
        (onOptionTick_still settings machine.strategy optType strike ltp)) passed days
  | fill ev =>
    exact recorded_recoverable recoverable (fillLoop_recorded proper ev) passed days
  | squareOff reason =>
    exact recorded_recoverable recoverable
      (squareOff_recorded identity settings clock proper reason) passed days

/-! ## After the last exit of a day -/

/-- The day is ended and nothing is held. -/
def Halted (book : Book) : Prop := book.stopForDay = true ∧ book.position = none

instance (book : Book) : Decidable (Halted book) :=
  inferInstanceAs (Decidable (_ ∧ book.position = none))

def isEntry : Effect → Bool
  | .order ev => decide (ev.action = .entry)
  | .persist _ => false

/-- A restart within a session brings the sums of the session back. -/
def Preserved (machine : Machine) (event : StraddleEvent) : Prop :=
  match event.handled with
  | .restart => sessionDay event.settings event.clock = machine.day →
      sums (machineStep identity machine event).strategy.book = sums machine.strategy.book
  | .candle | .indexTick _ _ | .optionTick _ _ _ | .fill _ | .squareOff _ => True

/-- A day that is ended stays so within its session, and nothing is entered. -/
def Silent (machine : Machine) (event : StraddleEvent) : Prop :=
  Halted machine.strategy.book → Renews machine event = false →
    Halted (machineStep identity machine event).strategy.book ∧
      ∀ effect ∈ emitted identity machine event, isEntry effect = false

instance (machine : Machine) (event : StraddleEvent) :
    Decidable (Preserved identity machine event) := by
  unfold Preserved
  split <;> infer_instance

instance (machine : Machine) (event : StraddleEvent) : Decidable (Silent identity machine event) :=
  inferInstanceAs (Decidable (_ → _ → _ ∧ _))

section Halts

variable {strategy : Strategy} (settings) (clock)

theorem isPositionOpen_flat (flat : strategy.book.position = none) :
    isPositionOpen strategy = false := by
  rw [isPositionOpen, flat]
  rfl

/-- No exit looks for a position that is not there, and no entry passes the flag. -/
theorem indexTick_halted (market : Market) (ltp : Rat) (halted : Halted strategy.book) :
    indexTick identity settings clock market strategy ltp = (strategy.see ltp, []) := by
  have gated : entryPick settings clock market (strategy.see ltp) = none := by
    simp [entryPick, mayEnter, Strategy.see, halted.1]
  have flat : isPositionOpen (strategy.see ltp) = false := isPositionOpen_flat halted.2
  simp [indexTick, flat, maybeTryEntry, gated]

theorem onCandle_halted (same : newSession settings clock strategy = false)
    (halted : Halted strategy.book) :
    onCandle identity settings clock strategy = (markOpen settings clock strategy, []) := by
  have flat : isPositionOpen (markOpen settings clock strategy) = false :=
    isPositionOpen_flat (by rw [markOpen_book, halted.2])
  simp [onCandle, same, flat]

/-- A fill that meets no position leaves none, and sends no order. -/
theorem fillLoop_halted {book : Book} (halted : Halted book) (now : Int)
    (fill : StraddleFillEvent) :
    Halted (fillLoop identity settings.toSettings now book fill).1 ∧
      ∀ effect ∈ (fillLoop identity settings.toSettings now book fill).2,
        isEntry effect = false := by
  rw [fillLoop]
  split
  · exact ⟨halted, by simp⟩
  · rw [onFill]
    cases fill.action with
    | exit => exact ⟨halted, by simp⟩
    | entry =>
      by_cases aborted : fill.entryAborted = true
      · simp only [aborted, if_true]
        exact ⟨⟨by simp [halted.1], by simp⟩, by simp [isEntry, persist]⟩
      · simp only [aborted, Bool.false_eq_true, if_false, halted.2]
        exact ⟨⟨halted.1, rfl⟩, by simp⟩

/-- A book whose day has ended stays flat and sends no entry, whatever it handles within
its session. -/
theorem handle_halted (handled : Handled) (halted : Halted strategy.book)
    (within : handled = .candle → newSession settings clock strategy = false) :
    Halted (handle identity settings clock strategy handled).1.book ∧
      ∀ effect ∈ (handle identity settings clock strategy handled).2, isEntry effect = false := by
  cases handled with
  | candle =>
    simp only [handle, onCandle_halted identity settings clock (within rfl) halted]
    exact ⟨by rwa [markOpen_book], by simp⟩
  | indexTick market ltp =>
    simp only [handle, indexTick_halted identity settings clock market ltp halted]
    exact ⟨halted, by simp⟩
  | optionTick optType strike ltp =>
    have same : (onOptionTick settings strategy optType strike ltp).book = strategy.book := by
      simp [onOptionTick, optionTick, halted.2]
    simp only [handle, same]
    exact ⟨halted, by simp⟩
  | fill ev => exact fillLoop_halted identity settings halted clock.now ev
  | squareOff reason =>
    simp only [handle, squareOff, isPositionOpen_flat halted.2, Bool.false_eq_true, if_false]
    exact ⟨halted, by simp⟩
  | restart => exact ⟨halted, by simp [handle]⟩

end Halts

/-- An ended day is silent wherever a restart can bring its session back. -/
theorem step_silent (machine : Machine) (event : StraddleEvent)
    (recoverable : Recoverable machine) (admitted : Admitted machine event) :
    Silent identity machine event := by
  obtain ⟨settings, clock, handled⟩ := event
  intro halted within
  cases handled with
  | restart =>
    have sameDay : sessionDay settings clock = machine.day := by simpa [Renews] using within
    have still := (restart_recoverable identity recoverable admitted).2 sameDay
    have stopped := congrArg Sums.stopForDay still.sums
    have held := still.held
    rw [halted.2] at held
    exact ⟨⟨stopped.trans halted.1, by simpa using held⟩, by simp [emitted, handle]⟩
  | candle => exact handle_halted identity settings clock .candle halted (fun _ => within)
  | indexTick market ltp =>
    exact handle_halted identity settings clock (.indexTick market ltp) halted (by simp)
  | optionTick optType strike ltp =>
    exact handle_halted identity settings clock (.optionTick optType strike ltp) halted (by simp)
  | fill ev => exact handle_halted identity settings clock (.fill ev) halted (by simp)
  | squareOff reason =>
    exact handle_halted identity settings clock (.squareOff reason) halted (by simp)

/-- What a restart right after an operation reads is the last snapshot. -/
theorem restart_reads {snapshot : Snapshot} {effects : List Effect} (store : Store)
    (last : latest effects = some snapshot) :
    sums (start settings clock .fresh (effects.foldl (write settings clock) store)).1.book =
      ⟨snapshot.sessionRealizedPnlPts,
        if snapshot.position.isSome then max snapshot.tradesToday 1 else snapshot.tradesToday,
        snapshot.stopForDay⟩ := by
  have session : load clock (writeFiles settings clock snapshot).session =
      (writeFiles settings clock snapshot).session := load_today rfl
  have position : (load clock (writeFiles settings clock snapshot).position).isSome =
      snapshot.position.isSome := by
    cases held : snapshot.position with
    | none => simp [writeFiles, load, held]
    | some pos => simp [writeFiles, load, Option.filter, held]
  rw [write_latest, last, Option.map_some, Option.getD_some, start_sums session rfl, position]
  rfl

/-- An exit that ends a day is saved with the day still going. -/
theorem ended_unsaved {strategy : Strategy} {pos : StraddlePosition} {exit : Verdict}
    (market : Market) (held : strategy.book.position = some pos)
    (found : verdict settings clock strategy pos = some exit) (stops : exit.stopsDay = true) :
    ∃ snapshot, latest (checkExits identity settings clock market strategy).2 = some snapshot ∧
      snapshot.stopForDay = strategy.book.stopForDay := by
  have armed := arm_book settings clock strategy
  rw [checkExits, held]
  simp only [found, enact, stops, if_true, close, Strategy.withBook, closePosition, armed, held]
  exact ⟨_, rfl, rfl⟩

/-- An entry is saved before its trade is counted. -/
theorem entered_unsaved (settings : Settings) (book : Book) (pick : Pick) :
    ∃ snapshot,
      latest (openPosition identity settings book pick.ceStrike pick.peStrike pick.ceLtp pick.peLtp
        pick.ruleKey).2 = some snapshot ∧
      snapshot.tradesToday = book.tradesToday ∧ snapshot.position.isSome = true := by
  have opened : (openedPosition identity settings book pick.ceStrike pick.peStrike pick.ceLtp
      pick.peLtp pick.ruleKey).status = .open := rfl
  refine ⟨_, rfl, rfl, ?_⟩
  simp [Option.filter, opened]

/-- The exits of a day end it in memory. -/
theorem checkExits_halted {strategy : Strategy} {pos : StraddlePosition} {exit : Verdict}
    (market : Market) (held : strategy.book.position = some pos)
    (found : verdict settings clock strategy pos = some exit) (stops : exit.stopsDay = true) :
    Halted (checkExits identity settings clock market strategy).1.book := by
  have armed : (arm settings clock strategy).book.position = some pos := by
    rw [arm_book, held]
  have flat : (close identity settings clock (arm settings clock strategy)
      exit.reason).1.book.position = none := by
    simp [close, Strategy.withBook, closePosition, armed]
  rw [checkExits, held]
  simp only [found, enact, stops, if_true]
  exact ⟨rfl, flat⟩

/-- A tick that ends the day, or enters after a counted trade, is forgotten by a restart
right after it. -/
theorem tick_forgotten (proper : Proper machine.strategy.book) (market : Market) (ltp : Rat)
    (unsaved : ¬TickSaves settings clock market machine.strategy ltp) :
    ¬Preserved identity (machineStep identity machine ⟨settings, clock, .indexTick market ltp⟩)
      ⟨settings, clock, .restart⟩ := by
  intro preserved
  have seen : Proper (machine.strategy.see ltp).book := ⟨proper.opened, proper.counted⟩
  have same := preserved rfl
  simp only [machineStep, handle] at same
  rw [TickSaves, not_and_or] at unsaved
  rcases unsaved with ended | entered
  · simp only [not_forall] at ended
    obtain ⟨pos, held, exit, found, stops, going⟩ := ended
    have holding : isPositionOpen (machine.strategy.see ltp) = true := by
      rw [isPositionOpen_iff seen]
      exact Option.isSome_of_mem held
    have checked : indexTick identity settings clock market machine.strategy ltp =
        checkExits identity settings clock market (machine.strategy.see ltp) := by
      simp only [indexTick, holding, if_true]
    have here : (machine.strategy.see ltp).book.position = some pos := held
    obtain ⟨snapshot, last, stop⟩ := ended_unsaved identity market here found stops
    have halted := checkExits_halted identity market here found stops
    rw [checked, restart_reads machine.store last] at same
    have stopped := congrArg Sums.stopForDay same
    exact going (stop.symm.trans (stopped.trans halted.1))
  · simp only [Classical.not_imp] at entered
    obtain ⟨flat, picked, counted⟩ := entered
    have empty : isPositionOpen (machine.strategy.see ltp) = false := isPositionOpen_flat flat
    obtain ⟨pick, found⟩ := Option.isSome_iff_exists.mp picked
    have entry : indexTick identity settings clock market machine.strategy ltp =
        (machine.strategy.see ltp).withBook (openPosition identity settings.toSettings
          (machine.strategy.see ltp).book pick.ceStrike pick.peStrike pick.ceLtp pick.peLtp
          pick.ruleKey) := by
      simp only [indexTick, empty, Bool.false_eq_true, if_false, maybeTryEntry, found]
    obtain ⟨snapshot, last, trades, held⟩ := entered_unsaved identity settings.toSettings
      (machine.strategy.see ltp).book pick
    simp only [entry, Strategy.withBook] at same
    rw [restart_reads machine.store last, held, trades] at same
    have kept : max machine.strategy.book.tradesToday 1 = machine.strategy.book.tradesToday + 1 :=
      congrArg Sums.tradesToday same
    omega

/-- The first start has nothing to lose. -/
theorem fresh_recoverable (settings : ExitSettings) (clock : Clock) :
    Recoverable (Machine.fresh settings clock) :=
  ⟨proper_flat rfl, .inr ⟨rfl, rfl, by simp [Machine.fresh], by simp [Machine.fresh]⟩⟩

theorem step_preserved (machine : Machine) (event : StraddleEvent)
    (recoverable : Recoverable machine) (admitted : Admitted machine event) :
    Preserved identity machine event := by
  obtain ⟨settings, clock, handled⟩ := event
  cases handled with
  | restart =>
    intro sameDay
    exact ((restart_recoverable identity recoverable admitted).2 sameDay).sums
  | candle => trivial
  | indexTick market ltp => trivial
  | optionTick optType strike ltp => trivial
  | fill ev => trivial
  | squareOff reason => trivial

/-- Restarts keep the sums of a session and the end of its day, in every run in which
no exit ends the day on a tick, no entry follows a counted trade, and sessions begin
and files age as `Admitted` has it. -/
theorem session_survives (settings : ExitSettings) (clock : Clock) (events : List StraddleEvent)
    (admitted : Along (machineStep identity) Admitted (Machine.fresh settings clock) events) :
    Along (machineStep identity)
      (fun machine event => Preserved identity machine event ∧ Silent identity machine event)
      (Machine.fresh settings clock) events :=
  along_under (machineStep identity) (step_recoverable identity)
    (fun machine event recoverable admitted =>
      ⟨step_preserved identity machine event recoverable admitted,
        step_silent identity machine event recoverable admitted⟩)
    _ events (fresh_recoverable settings clock) admitted

end Session

/-! ## Days with a restart -/

def nifty : Identity := ⟨"NIFTY", "c1", "b1"⟩

/-- A day with a profit target of half the credit, and no other exit. -/
def targeted : ExitSettings where
  step := 50
  lotSize := 75
  lotMultiplier := 1
  slCooldownMinutes := 0
  isCrypto := false
  marketOpenAt := 33300
  entryStart := 33600
  entryCutoff := 54000
  forceExit := 54900
  maxTrades := 5
  guardrailPnlEnabled := false
  guardrailPnlTargetPts := 0
  guardrailPnlSlPts := 0
  dayExitBasis := .ltp
  dayProfitTargetPct := 50
  dayLossSlPct := 0
  trailSlEnabled := false
  trailBasis := .ltp
  trailLockPct := 0
  trailFloorPct := 0
  ltpDecayEnabled := false
  ltpExitMin := 0
  ratioThreshold := 10
  tslEnabled := false
  tslBasis := .ltp
  tslBaseProfitRs := 0
  tslBaseLockRs := 0
  tslStepProfitRs := 0
  tslStepLockRs := 0
  guardrailRocEnabled := false
  guardrailRocTf := 5
  guardrailRocLength := 1
  guardrailRocTarget := 0
  guardrailRocStoploss := 0
  vwapRiseEnabled := false
  vwapRiseThreshold := 0
  exitRules := false
  exitRulesTf := 5

/-- A market in which the pair at 24000 may be entered. -/
def pairOffered : Market where
  terminalActive := true
  picked := some ⟨24000, 24000, 100, 90, "entry_rules_beginning"⟩
  partner := fun _ => none
  premCloses := []
  vwap := none
  rulesPass := false

def atSecond (seconds : Int) (handled : Handled) : StraddleEvent :=
  ⟨targeted, { day := 1, seconds := seconds, monotonic := seconds }, handled⟩

/-- What the bridge made of the entry. -/
def confirmed : StraddleFillEvent where
  action := .entry
  underlying := "NIFTY"
  atm := 24000
  ceStrike := 24000
  peStrike := 24000
  ceFill := 101
  peFill := 90
  clientId := "c1"
  bindingId := "b1"
  eventId := ⟨"NIFTY", .entry, 1⟩

/-- An entry of the morning, and its confirmation. -/
def morning : List StraddleEvent :=
  [atSecond 33660 .candle,
    atSecond 33661 (.indexTick pairOffered 24000),
    atSecond 33662 (.optionTick .ce 24000 100),
    atSecond 33662 (.optionTick .pe 24000 90),
    atSecond 33663 (.indexTick pairOffered 24000),
    atSecond 33664 (.fill confirmed)]

/-- A restart, the premiums after it, and a tick on which a pair is offered. -/
def restartAt (seconds : Int) : List StraddleEvent :=
  [atSecond seconds .restart,
    atSecond (seconds + 1) (.indexTick pairOffered 24000),
    atSecond (seconds + 2) (.optionTick .ce 24000 100),
    atSecond (seconds + 2) (.optionTick .pe 24000 90),
    atSecond (seconds + 3) (.indexTick pairOffered 24000)]

/-- The premiums fall far enough for the target of the day. -/
def decay : List StraddleEvent :=
  [atSecond 33800 (.optionTick .ce 24000 45),
    atSecond 33800 (.optionTick .pe 24000 40),
    atSecond 33801 (.indexTick pairOffered 24000)]

/-- A restart with an open position, a square-off by hand, and a restart after it. -/
theorem session_survives_a_square_off :
    Along (machineStep nifty)
      (fun machine event => Preserved nifty machine event ∧ Silent nifty machine event)
      (Machine.fresh targeted { day := 1, seconds := 33600 })
      (morning ++ restartAt 33700 ++ [atSecond 33900 (.squareOff "manual")] ++ restartAt 34000) :=
  session_survives nifty targeted _ _ (by decide +kernel)

/-- The profit target ends the day in memory and not in the file: the restarted book
enters again. -/
theorem target_forgotten :
    Halted (run (machineStep nifty) (Machine.fresh targeted { day := 1, seconds := 33600 })
      (morning ++ decay)).strategy.book ∧
    ¬Along (machineStep nifty) (Preserved nifty)
      (Machine.fresh targeted { day := 1, seconds := 33600 })
      (morning ++ decay ++ restartAt 34000) ∧
    (emitted nifty
      (run (machineStep nifty) (Machine.fresh targeted { day := 1, seconds := 33600 })
        (morning ++ decay ++ (restartAt 34000).dropLast))
      (atSecond 34003 (.indexTick pairOffered 24000))).any isEntry = true := by
  decide +kernel

end OptionChain.SessionRestart
