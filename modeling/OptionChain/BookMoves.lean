import OptionChain.OrderStream
import OptionChain.StraddleRuns

/-!
# What a moment does to the book

Whatever a strategy object handles, it acts on its book by the operations of
`StraddleBook`, by moving trackers of the position, and by ending the day. `respond_chain`
says so once, with what is known where each operation is made; a property that every move
keeps is kept by every moment.
-/

namespace OptionChain.BookMoves

open Broker StraddleEvents StraddleBook StraddleExits StraddleStore SessionRestart StraddleRuns
  OrderStream

inductive Move where
  | op (op : Op)
  | track (moved : StraddlePosition)
  | endDay
deriving DecidableEq

/-- Only trackers of the exits have moved. -/
def Tracks (pos moved : StraddlePosition) : Prop :=
  moved =
    { pos with
      tslHighLockRs := moved.tslHighLockRs
      trailPeakPct := moved.trailPeakPct
      sessionMinVwap := moved.sessionMinVwap
      vwapLastGood := moved.vwapLastGood }

def isOpen (book : Book) : Bool := book.position.any (fun pos => decide (pos.status = .open))

/-- What is known where a move is made. -/
def Allowed (moment : Moment) (anew : Bool) (book : Book) : Move → Prop
  | .op (.openPosition _ _ _ _ _) =>
      isOpen book = false ∧ (book.tradesToday : Int) < moment.settings.maxTrades
  | .op (.fill ev) => moment.stimulus = .fill ev
  | .op .resetSession => anew = true
  | .op (.closePosition _) | .op (.singleSideRoll _ _ _) | .op (.optionTick _ _ _)
  | .op (.indexTick _) => True
  | .track moved => ∃ pos, book.position = some pos ∧ Tracks pos moved
  | .endDay => True

section Chains

variable (identity : Identity) (settings : Settings) (now : Int)

def move (book : Book) : Move → Book × List Effect
  | .op op => operate identity settings now book op
  | .track moved => ({ book with position := some moved }, [])
  | .endDay => ({ book with stopForDay := true }, [])

/-- Moves one after the other, each allowed where it is made. -/
inductive Chain (ok : Book → Move → Prop) : Book → Book → List Effect → Prop where
  | done (book : Book) : Chain ok book book []
  | step {book after : Book} {effects : List Effect} (next : Move) (allowed : ok book next)
      (rest : Chain ok (move identity settings now book next).1 after effects) :
      Chain ok book after ((move identity settings now book next).2 ++ effects)

variable {identity} {settings} {now} {ok : Book → Move → Prop} {book middle after : Book}
  {effects more : List Effect}

theorem Chain.single (next : Move) (allowed : ok book next) :
    Chain identity settings now ok book (move identity settings now book next).1
      (move identity settings now book next).2 := by
  have chain : Chain identity settings now ok book (move identity settings now book next).1
      ((move identity settings now book next).2 ++ []) := .step next allowed (.done _)
  rwa [List.append_nil] at chain

theorem Chain.trans (first : Chain identity settings now ok book middle effects)
    (second : Chain identity settings now ok middle after more) :
    Chain identity settings now ok book after (effects ++ more) := by
  induction first with
  | done book => exact second
  | step next allowed rest inductionHypothesis =>
    rw [List.append_assoc]
    exact .step next allowed (inductionHypothesis second)

/-- What each allowed move keeps, a chain keeps. -/
theorem Chain.invariant {invariant : Book → List StraddleOrderEvent → Prop}
    (kept : ∀ book orders next, invariant book orders → ok book next →
      invariant (move identity settings now book next).1
        (orders ++ ordersOf (move identity settings now book next).2))
    (chain : Chain identity settings now ok book after effects)
    (orders : List StraddleOrderEvent) (initially : invariant book orders) :
    invariant after (orders ++ ordersOf effects) := by
  induction chain generalizing orders with
  | done book => simpa [ordersOf] using initially
  | step next allowed rest inductionHypothesis =>
    rw [ordersOf_append, ← List.append_assoc]
    exact inductionHypothesis _ (kept _ _ next initially allowed)

end Chains

/-! ## What a move does -/

/-- An order that prices and places a pair. -/
structure Ordered (identity : Identity) (settings : Settings) (ev : StraddleOrderEvent)
    (pos : StraddlePosition) (action : Action) (legs : List OptType) : Prop where
  action : ev.action = action
  legs : ev.legs = legs
  underlying : ev.underlying = identity.underlying
  lotSize : ev.lotSize = settings.lotSize
  lotMultiplier : ev.lotMultiplier = settings.lotMultiplier
  strike : ∀ side, ev.strike side = (pos.leg side).strike
  ltp : ∀ side, ev.ltp side = (pos.leg side).ltp

/-- The entry price that an EXIT carries. -/
def entryOf (ev : StraddleOrderEvent) : OptType → Rat
  | .ce => ev.ceEntry
  | .pe => ev.peEntry

/-- An EXIT carries the entry prices of the pair that it closes. -/
structure Exits (identity : Identity) (settings : Settings) (ev : StraddleOrderEvent)
    (pos : StraddlePosition) (legs : List OptType) : Prop
    extends Ordered identity settings ev pos .exit legs where
  entry : ∀ side, entryOf ev side = (pos.leg side).entryPrice

/-- The credit of a position is what its legs were sold for. -/
def Credit (pos : StraddlePosition) : Prop :=
  pos.netCredit = pos.ceLeg.entryPrice + pos.peLeg.entryPrice

/-- What the legs were sold for, and where, is unchanged. -/
structure SameSale (pos moved : StraddlePosition) : Prop where
  entryPrice : ∀ side, (moved.leg side).entryPrice = (pos.leg side).entryPrice
  strike : ∀ side, (moved.leg side).strike = (pos.leg side).strike
  netCredit : moved.netCredit = pos.netCredit

/-- The position is there as before, but for prices and trackers. -/
inductive SameHeld : Option StraddlePosition → Option StraddlePosition → Prop where
  | flat : SameHeld none none
  | holding {pos moved : StraddlePosition} (same : SameSale pos moved) :
      SameHeld (some pos) (some moved)

/-- The points that `_close_leg` books. -/
def legPoints (leg : StraddleLeg) : Rat :=
  if 0 < leg.entryPrice then leg.entryPrice - leg.ltp else 0

/-- What a move other than a fill can do, with the orders that it sends. -/
inductive Did (identity : Identity) (settings : ExitSettings) (anew : Bool) (book after : Book) :
    List StraddleOrderEvent → Prop where
  | kept (trades : after.tradesToday = book.tradesToday)
      (points : after.sessionRealizedPnlPts = book.sessionRealizedPnlPts)
      (held : SameHeld book.position after.position) : Did identity settings anew book after []
  | opened (pos : StraddlePosition) (ev : StraddleOrderEvent)
      (free : (book.tradesToday : Int) < settings.maxTrades)
      (trades : after.tradesToday = book.tradesToday + 1)
      (points : after.sessionRealizedPnlPts = book.sessionRealizedPnlPts)
      (held : after.position = some pos)
      (fresh : ∀ side, (pos.leg side).ltp = (pos.leg side).entryPrice) (credit : Credit pos)
      (order : Ordered identity settings.toSettings ev pos .entry [.ce, .pe]) :
      Did identity settings anew book after [ev]
  | closed (pos : StraddlePosition) (ev : StraddleOrderEvent)
      (trades : after.tradesToday = book.tradesToday)
      (points : after.sessionRealizedPnlPts = book.sessionRealizedPnlPts + pos.unrealizedPnl)
      (held : book.position = some pos) (flat : after.position = none)
      (order : Exits identity settings.toSettings ev pos [.ce, .pe]) :
      Did identity settings anew book after [ev]
  | rolled (pos moved : StraddlePosition) (side : OptType) (exit entry : StraddleOrderEvent)
      (trades : after.tradesToday = book.tradesToday)
      (points : after.sessionRealizedPnlPts =
        book.sessionRealizedPnlPts + legPoints (pos.leg side))
      (held : book.position = some pos) (now : after.position = some moved)
      (fresh : (moved.leg side).ltp = (moved.leg side).entryPrice)
      (other : moved.leg side.other = pos.leg side.other) (credit : Credit moved)
      (leaves : Exits identity settings.toSettings exit pos [side])
      (enters : Ordered identity settings.toSettings entry moved .entry [side]) :
      Did identity settings anew book after [exit, entry]
  | cleared (pos : StraddlePosition) (side : OptType) (first second : StraddleOrderEvent)
      (trades : after.tradesToday = book.tradesToday)
      (points : after.sessionRealizedPnlPts = book.sessionRealizedPnlPts +
        legPoints (pos.leg side) + legPoints (pos.leg side.other))
      (held : book.position = some pos) (flat : after.position = none)
      (one : Exits identity settings.toSettings first pos [side])
      (two : Exits identity settings.toSettings second pos [side.other]) :
      Did identity settings anew book after [first, second]
  | reset (renewed : anew = true) (trades : after.tradesToday = 0)
      (points : after.sessionRealizedPnlPts = 0) (flat : after.position = none) :
      Did identity settings anew book after []

section Doing

variable {identity : Identity} {settings : Settings} {now : Int} {moment : Moment} {anew : Bool}
  {book : Book}

theorem SameHeld.refl (position : Option StraddlePosition) : SameHeld position position := by
  cases position with
  | none => exact .flat
  | some pos => exact .holding ⟨fun _ => rfl, fun _ => rfl, rfl⟩

/-- A position that is there now was there before. -/
theorem SameHeld.sale {before after : Option StraddlePosition} {moved : StraddlePosition}
    (held : SameHeld before after) (now : after = some moved) :
    ∃ pos, before = some pos ∧ SameSale pos moved := by
  cases held with
  | flat => cases now
  | holding same =>
    cases now
    exact ⟨_, rfl, same⟩

theorem openPosition_did (ceStrike peStrike : Int) (ceLtp peLtp : Rat) (ruleKey : String)
    (free : (book.tradesToday : Int) < moment.settings.maxTrades) :
    let done := openPosition identity moment.settings.toSettings book ceStrike peStrike ceLtp peLtp
      ruleKey
    Did identity moment.settings anew book done.1 (ordersOf done.2) := by
  refine .opened _ _ free rfl rfl rfl ?_ rfl ⟨rfl, rfl, rfl, rfl, rfl, ?_, ?_⟩
  · intro side
    cases side <;> rfl
  · intro side
    cases side <;> rfl
  · intro side
    cases side <;> rfl

/-- A close: the EXIT of both legs, at the profit of the position. -/
theorem closePosition_closes {pos : StraddlePosition} (held : book.position = some pos)
    (reason : String) :
    let done := closePosition identity settings now book reason
    ∃ ev, ordersOf done.2 = [ev] ∧ Exits identity settings ev pos [.ce, .pe] ∧
      done.1.position = none ∧ done.1.tradesToday = book.tradesToday ∧
      done.1.sessionRealizedPnlPts = book.sessionRealizedPnlPts + pos.unrealizedPnl := by
  dsimp only
  rw [closePosition, held]
  refine ⟨_, rfl, ⟨⟨rfl, rfl, rfl, rfl, rfl, ?_, ?_⟩, ?_⟩, by simp, by simp, by simp⟩
  · intro side
    cases side <;> rfl
  · intro side
    cases side <;> rfl
  · intro side
    cases side <;> rfl

theorem closePosition_did (reason : String) :
    let done := closePosition identity moment.settings.toSettings moment.clock.now book reason
    Did identity moment.settings anew book done.1 (ordersOf done.2) := by
  cases held : book.position with
  | none =>
    dsimp only
    rw [closePosition, held]
    exact .kept rfl rfl (.refl _)
  | some pos =>
    obtain ⟨ev, orders, order, flat, trades, points⟩ := @closePosition_closes identity
      moment.settings.toSettings moment.clock.now book pos held reason
    dsimp only
    rw [orders]
    exact .closed pos ev trades points held flat order

/-- The EXIT of one leg. -/
theorem closeLeg_exits (pos : StraddlePosition) (side : OptType) (reason : String) :
    ∃ ev, (closeLeg identity settings book pos side reason).2 = [.order ev] ∧
      Exits identity settings ev pos [side] := by
  refine ⟨_, rfl, ⟨rfl, rfl, rfl, rfl, rfl, ?_, ?_⟩, ?_⟩
  · intro optType
    cases optType <;> rfl
  · intro optType
    cases optType <;> rfl
  · intro optType
    cases optType <;> rfl

/-- The ENTRY of one leg. -/
theorem openLeg_ordered (pos : StraddlePosition) (side : OptType) (strike : Int) (ltp : Rat)
    (reason : String) :
    ∃ ev, (openLeg identity settings book pos side strike ltp reason).2 = [.order ev] ∧
      Ordered identity settings ev (replacedLeg pos side strike ltp reason) .entry [side] := by
  refine ⟨_, rfl, rfl, rfl, rfl, rfl, rfl, ?_, ?_⟩
  · intro optType
    cases optType <;> rfl
  · intro optType
    cases optType <;> rfl

/-- The trackers of a roll leave the legs, the credit and the sums alone. -/
theorem rebaseline_frame {pos : StraddlePosition} (held : book.position = some pos) :
    ∃ moved, (rebaseline book).position = some moved ∧ (∀ side, moved.leg side = pos.leg side) ∧
      moved.netCredit = pos.netCredit ∧ (rebaseline book).tradesToday = book.tradesToday ∧
      (rebaseline book).sessionRealizedPnlPts = book.sessionRealizedPnlPts := by
  rw [rebaseline, held]
  refine ⟨_, rfl, ?_, rfl, rfl, rfl⟩
  intro side
  cases side <;> rfl

theorem Ordered.congr {ev : StraddleOrderEvent} {pos moved : StraddlePosition} {action : Action}
    {legs : List OptType} (same : ∀ side, moved.leg side = pos.leg side)
    (ordered : Ordered identity settings ev pos action legs) :
    Ordered identity settings ev moved action legs :=
  { ordered with
    strike := fun side => by rw [same]; exact ordered.strike side
    ltp := fun side => by rw [same]; exact ordered.ltp side }

theorem Credit.congr {pos moved : StraddlePosition} (credit : Credit pos)
    (same : ∀ side, moved.leg side = pos.leg side) (netCredit : moved.netCredit = pos.netCredit) :
    Credit moved := by
  have ce : moved.ceLeg = pos.ceLeg := same .ce
  have pe : moved.peLeg = pos.peLeg := same .pe
  rw [Credit, netCredit, ce, pe]
  exact credit

/-- The new leg is sold at its price, the other one is the same, and the credit is theirs. -/
theorem replacedLeg_legs (pos : StraddlePosition) (side : OptType) (strike : Int) (ltp : Rat)
    (reason : String) :
    ((replacedLeg pos side strike ltp reason).leg side).ltp =
        ((replacedLeg pos side strike ltp reason).leg side).entryPrice ∧
      (replacedLeg pos side strike ltp reason).leg side.other = pos.leg side.other ∧
      Credit (replacedLeg pos side strike ltp reason) := by
  cases side with
  | ce => exact ⟨rfl, rfl, rfl⟩
  | pe => exact ⟨rfl, rfl, rfl⟩

/-- A roll without a partner: the EXIT of one leg, and of the other. -/
theorem singleSideRoll_clears {pos : StraddlePosition} (held : book.position = some pos)
    (side : OptType) (reason : String) :
    let done := singleSideRoll identity settings now book side reason none
    ∃ first second, ordersOf done.2 = [first, second] ∧ Exits identity settings first pos [side] ∧
      Exits identity settings second pos [side.other] ∧ done.1.position = none ∧
      done.1.tradesToday = book.tradesToday ∧
      done.1.sessionRealizedPnlPts = book.sessionRealizedPnlPts +
        legPoints (pos.leg side) + legPoints (pos.leg side.other) := by
  obtain ⟨first, left, one⟩ := @closeLeg_exits identity settings book pos side reason
  obtain ⟨second, cleaned, two⟩ := @closeLeg_exits identity settings
    (closeLeg identity settings book pos side reason).1 pos side.other
    ("single_side_cleanup_" ++ reason)
  dsimp only
  rw [singleSideRoll, held]
  refine ⟨first, second, ?_, one, two, by simp, by simp [closeLeg], by simp [closeLeg, legPoints]⟩
  simp only [ordersOf_append, ordersOf_persist, List.append_nil, left, cleaned]
  rfl

/-- A roll to a partner: the EXIT of the leg, and the ENTRY of the new one. -/
theorem singleSideRoll_rolls {pos : StraddlePosition} (held : book.position = some pos)
    (side : OptType) (reason : String) {strike : Int} {ltp : Rat}
    (far : strike ≠ truncate (pos.leg side).strike) :
    let done := singleSideRoll identity settings now book side reason (some (strike, ltp))
    ∃ exit entry moved, ordersOf done.2 = [exit, entry] ∧ Exits identity settings exit pos [side] ∧
      Ordered identity settings entry moved .entry [side] ∧ done.1.position = some moved ∧
      (moved.leg side).ltp = (moved.leg side).entryPrice ∧
      moved.leg side.other = pos.leg side.other ∧ Credit moved ∧
      done.1.tradesToday = book.tradesToday ∧
      done.1.sessionRealizedPnlPts =
        book.sessionRealizedPnlPts + legPoints (pos.leg side) := by
  obtain ⟨exit, left, leaves⟩ := @closeLeg_exits identity settings book pos side reason
  obtain ⟨entry, entered, enters⟩ := @openLeg_ordered identity settings
    (closeLeg identity settings book pos side reason).1 pos side strike ltp
    ("single_side_roll_" ++ reason)
  obtain ⟨moved, here, legs, netCredit, trades, points⟩ := @rebaseline_frame
    (openLeg identity settings (closeLeg identity settings book pos side reason).1 pos side strike
      ltp ("single_side_roll_" ++ reason)).1 _ rfl
  obtain ⟨fresh, other, credit⟩ := replacedLeg_legs pos side strike ltp
    ("single_side_roll_" ++ reason)
  dsimp only
  rw [singleSideRoll, held]
  simp only [if_neg far]
  refine ⟨exit, entry, moved, ?_, leaves, enters.congr legs, here, ?_, ?_,
    credit.congr legs netCredit, trades, points⟩
  · simp only [ordersOf_append, ordersOf_persist, List.append_nil, left, entered]
    rfl
  · rw [legs]
    exact fresh
  · rw [legs]
    exact other

theorem singleSideRoll_did (side : OptType) (reason : String) (sel : Option (Int × Rat)) :
    let done := singleSideRoll identity moment.settings.toSettings moment.clock.now book side
      reason sel
    Did identity moment.settings anew book done.1 (ordersOf done.2) := by
  cases held : book.position with
  | none =>
    dsimp only
    rw [singleSideRoll, held]
    exact .kept rfl rfl (.refl _)
  | some pos =>
    cases sel with
    | none =>
      obtain ⟨first, second, orders, one, two, flat, trades, points⟩ :=
        @singleSideRoll_clears identity moment.settings.toSettings moment.clock.now book pos held
          side reason
      dsimp only
      rw [orders]
      exact .cleared pos side first second trades points held flat one two
    | some partner =>
      obtain ⟨strike, ltp⟩ := partner
      by_cases near : strike = truncate (pos.leg side).strike
      · dsimp only
        rw [singleSideRoll, held]
        simp only [if_pos near]
        exact .kept rfl rfl (.refl _)
      · obtain ⟨exit, entry, moved, orders, leaves, enters, here, fresh, other, credit, trades,
          points⟩ := @singleSideRoll_rolls identity moment.settings.toSettings moment.clock.now
            book pos held side reason strike ltp near
        dsimp only
        rw [orders]
        exact .rolled pos moved side exit entry trades points held here fresh other credit leaves
          enters

theorem optionTick_did (optType : OptType) (strike ltp : Rat) :
    Did identity moment.settings anew book (optionTick book optType strike ltp) [] := by
  rw [optionTick]
  cases held : book.position with
  | none => exact .kept rfl rfl (.refl _)
  | some pos =>
    dsimp only
    split
    · refine .kept rfl rfl ?_
      rw [held]
      refine .holding ⟨?_, ?_, ?_⟩
      · intro side
        cases optType <;> cases side <;> rfl
      · intro side
        cases optType <;> cases side <;> rfl
      · cases optType <;> rfl
    · exact .kept rfl rfl (.refl _)

theorem track_did {pos moved : StraddlePosition} (held : book.position = some pos)
    (tracks : Tracks pos moved) :
    Did identity moment.settings anew book { book with position := some moved } [] := by
  refine .kept rfl rfl ?_
  rw [held, tracks]
  refine .holding ⟨?_, ?_, rfl⟩
  · intro side
    cases side <;> rfl
  · intro side
    cases side <;> rfl

/-- Every allowed move but a fill does one of these things. -/
theorem move_did (next : Move) (allowed : Allowed moment anew book next)
    (own : ∀ ev, next ≠ .op (.fill ev)) :
    Did identity moment.settings anew book
      (move identity moment.settings.toSettings moment.clock.now book next).1
      (ordersOf (move identity moment.settings.toSettings moment.clock.now book next).2) := by
  cases next with
  | op op =>
    cases op with
    | openPosition ceStrike peStrike ceLtp peLtp ruleKey =>
      exact openPosition_did ceStrike peStrike ceLtp peLtp ruleKey allowed.2
    | closePosition reason => exact closePosition_did reason
    | singleSideRoll side reason sel => exact singleSideRoll_did side reason sel
    | fill ev => exact absurd rfl (own ev)
    | resetSession => exact .reset allowed rfl rfl rfl
    | optionTick optType strike ltp => exact optionTick_did optType strike ltp
    | indexTick ltp => exact .kept rfl rfl (.refl _)
  | track moved =>
    obtain ⟨pos, held, tracks⟩ := allowed
    exact track_did held tracks
  | endDay => exact .kept rfl rfl (.refl _)

end Doing

/-! ## The checks as chains -/

section Checks

variable (identity : Identity) (moment : Moment) (anew : Bool) (market : Market)
  {strategy : Strategy} {pos : StraddlePosition}

/-- A part of a moment acts on the book by allowed moves. -/
def Acts (strategy : Strategy) (done : Strategy × List Effect) : Prop :=
  Chain identity moment.settings.toSettings moment.clock.now (Allowed moment anew) strategy.book
    done.1.book done.2

theorem acts_nothing (after : Strategy) (same : after.book = strategy.book) :
    Acts identity moment anew strategy (after, []) := by
  rw [Acts, same]
  exact .done _

/-- What does not touch the book may be done before. -/
theorem acts_before {marked : Strategy} (same : marked.book = strategy.book)
    {done : Strategy × List Effect} (acts : Acts identity moment anew marked done) :
    Acts identity moment anew strategy done := by
  rw [Acts, ← same]
  exact acts

theorem close_acts (reason : String) :
    Acts identity moment anew strategy
      (close identity moment.settings moment.clock strategy reason) :=
  .single (.op (.closePosition reason)) trivial

theorem roll_acts (side : OptType) (reason : String) :
    Acts identity moment anew strategy
      (roll identity moment.settings moment.clock market strategy side reason) :=
  .single (.op (.singleSideRoll side reason (market.partner side))) trivial

theorem enact_acts (found : Verdict) :
    Acts identity moment anew strategy
      (enact identity moment.settings moment.clock strategy found) := by
  have closed : Acts identity moment anew strategy
      (close identity moment.settings moment.clock strategy found.reason) :=
    close_acts identity moment anew found.reason
  rw [enact]
  split
  · have ended := closed.trans (.single .endDay trivial)
    rwa [move, List.append_nil] at ended
  · exact closed

/-- What is done with a position whose trackers have moved. -/
theorem acts_tracked (held : strategy.book.position = some pos) {moved : StraddlePosition}
    (tracks : Tracks pos moved) {done : Strategy × List Effect}
    (acts : Acts identity moment anew (strategy.setPosition moved) done) :
    Acts identity moment anew strategy done :=
  .step (.track moved) ⟨pos, held, tracks⟩ acts

/-- The roll of the call, if it is decayed, and the roll of the put after it. -/
theorem rollDecayed_acts (pos : StraddlePosition) :
    Acts identity moment anew strategy
      (rollDecayed identity moment.settings moment.clock market strategy pos) := by
  have second (first : Strategy × List Effect)
      (acts : Acts identity moment anew strategy first) :
      Acts identity moment anew strategy
        (if decayed moment.settings pos.peLeg.ltp ∧ first.1.book.position.isSome then
          ((roll identity moment.settings moment.clock market first.1 .pe "ltp_decay_PE").1,
            first.2 ++
              (roll identity moment.settings moment.clock market first.1 .pe "ltp_decay_PE").2)
        else first) := by
    split
    · exact acts.trans (roll_acts identity moment anew market .pe "ltp_decay_PE")
    · exact acts
  apply second
  split
  · exact roll_acts identity moment anew market .ce "ltp_decay_CE"
  · exact acts_nothing identity moment anew strategy rfl

theorem checkExitRules_acts :
    Acts identity moment anew strategy
      (checkExitRules identity moment.settings moment.clock market strategy) := by
  simp only [checkExitRules]
  generalize (if moment.settings.exitRules = true then moment.settings.exitRulesTf else 5) = maxTf
  split
  · split
    · apply acts_before identity moment anew _ (close_acts identity moment anew "exit_rules")
      rfl
    · exact acts_nothing identity moment anew _ rfl
  · exact acts_nothing identity moment anew strategy rfl

/-- A roll for a rising VWAP forgets the low afterwards. -/
theorem forgetLow_acts {done : Strategy × List Effect}
    (acts : Acts identity moment anew strategy done) :
    Acts identity moment anew strategy (forgetLow done.1, done.2) := by
  cases held : done.1.book.position with
  | none =>
    have same : (forgetLow done.1).book = done.1.book := by
      simp only [forgetLow, held, Option.map_none]
      rw [← held]
    rw [Acts, same]
    exact acts
  | some pos =>
    have same : (forgetLow done.1).book =
        { done.1.book with position := some { pos with sessionMinVwap := none } } := by
      simp [forgetLow, held]
    have forgotten := acts.trans
      (.single (.track { pos with sessionMinVwap := none }) ⟨pos, held, rfl⟩)
    rw [move, List.append_nil] at forgotten
    rw [Acts, same]
    exact forgotten

theorem checkVwapRise_acts (held : strategy.book.position = some pos) :
    Acts identity moment anew strategy
      (checkVwapRise identity moment.settings moment.clock market strategy pos) := by
  rw [checkVwapRise]
  cases market.vwap with
  | none => exact checkExitRules_acts identity moment anew market
  | some reading =>
    obtain ⟨vwap, closing⟩ := reading
    dsimp only
    split
    · have tracks : Tracks pos (vwapRise pos vwap).1 := rfl
      apply acts_tracked identity moment anew held tracks
      split
      · exact forgetLow_acts identity moment anew
          (roll_acts identity moment anew market (lessBurning pos) "vwap_rise_roll")
      · exact checkExitRules_acts identity moment anew market
    · exact checkExitRules_acts identity moment anew market

theorem checkRoc_acts (held : strategy.book.position = some pos) :
    Acts identity moment anew strategy
      (checkRoc identity moment.settings moment.clock market strategy pos) := by
  simp only [checkRoc]
  split
  · cases (guardrailRoc moment.settings market.premCloses).bind (rocExit moment.settings) with
    | some reason =>
      apply acts_before identity moment anew _ (close_acts identity moment anew reason)
      rfl
    | none =>
      apply acts_before identity moment anew _ (checkVwapRise_acts identity moment anew market _)
      · rfl
      · exact held
  · exact checkVwapRise_acts identity moment anew market held

theorem scalableTsl_tracks (settings : ExitSettings) (pos : StraddlePosition) (spot : Rat) :
    Tracks pos (scalableTsl settings identity pos spot).1 := by
  rw [Tracks, scalableTsl_frame]

theorem trailingSl_tracks (settings : ExitSettings) (pos : StraddlePosition) :
    Tracks pos (trailingSl settings pos).1 := by
  rw [Tracks, trailingSl_frame]

theorem checkTsl_acts (held : strategy.book.position = some pos) :
    Acts identity moment anew strategy
      (checkTsl identity moment.settings moment.clock market strategy pos) := by
  simp only [checkTsl]
  apply acts_tracked identity moment anew held
    (scalableTsl_tracks identity moment.settings pos strategy.book.spot)
  split
  · exact roll_acts identity moment anew market _ "scalable_tsl"
  · exact checkRoc_acts identity moment anew market rfl

theorem checkTrailing_acts (held : strategy.book.position = some pos) :
    Acts identity moment anew strategy
      (checkTrailing identity moment.settings moment.clock market strategy pos) := by
  simp only [checkTrailing]
  apply acts_tracked identity moment anew held (trailingSl_tracks moment.settings pos)
  split
  · exact close_acts identity moment anew _
  · split
    · exact rollDecayed_acts identity moment anew market _
    · split
      · exact roll_acts identity moment anew market _ "ratio_exit"
      · exact checkTsl_acts identity moment anew market rfl

theorem checkExits_acts :
    Acts identity moment anew strategy
      (checkExits identity moment.settings moment.clock market strategy) := by
  have same := arm_book moment.settings moment.clock strategy
  rw [checkExits]
  cases held : strategy.book.position with
  | none => exact acts_nothing identity moment anew strategy rfl
  | some pos =>
    dsimp only
    cases verdict moment.settings moment.clock strategy pos with
    | some found =>
      exact acts_before identity moment anew same (enact_acts identity moment anew found)
    | none =>
      dsimp only
      split
      · apply acts_before identity moment anew same
        exact checkTrailing_acts identity moment anew market (by rw [same, held])
      · exact acts_nothing identity moment anew _ same

/-- An entry meets its gates. -/
theorem maybeTryEntry_acts (flat : isPositionOpen strategy = false) :
    Acts identity moment anew strategy
      (maybeTryEntry identity moment.settings moment.clock market strategy) := by
  rw [maybeTryEntry]
  cases picked : entryPick moment.settings moment.clock market strategy with
  | none => exact acts_nothing identity moment anew strategy rfl
  | some pick =>
    rw [entryPick] at picked
    split at picked
    case isTrue free =>
      simp only [mayEnter, Bool.and_eq_true, decide_eq_true_eq] at free
      exact .single (.op (.openPosition pick.ceStrike pick.peStrike pick.ceLtp pick.peLtp
        pick.ruleKey)) ⟨flat, by tauto⟩
    case isFalse => simp at picked

end Checks

/-- A candle of a new session resets the book first. -/
theorem onCandle_acts (identity : Identity) (settings : ExitSettings) (clock : Clock)
    (strategy : Strategy) :
    Acts identity ⟨settings, clock, .candle⟩ (newSession settings clock strategy) strategy
      (onCandle identity settings clock strategy) := by
  have closing (started : Strategy) :
      Acts identity ⟨settings, clock, .candle⟩ (newSession settings clock strategy) started
        (if pastSquareoff settings clock ∧ isPositionOpen started then
          close identity settings clock started "time_exit_eod" else (started, [])) := by
    split
    · exact close_acts identity ⟨settings, clock, .candle⟩ _ "time_exit_eod"
    · exact acts_nothing identity _ _ started rfl
  rw [onCandle]
  cases anew : newSession settings clock strategy with
  | true =>
    have reset : (markOpen settings clock (resetStrategy strategy)).book =
        resetSession strategy.book := markOpen_book settings clock _
    rw [anew] at closing
    have closed := closing (markOpen settings clock (resetStrategy strategy))
    rw [Acts, reset] at closed
    exact .step (.op .resetSession) rfl closed
  | false =>
    rw [anew] at closing
    exact acts_before identity _ _ (markOpen_book settings clock strategy) (closing _)

/-- Every moment acts on the book by allowed moves. -/
theorem respond_acts (identity : Identity) (strategy : Strategy) (moment : Moment) :
    Acts identity moment (resets strategy moment) strategy (respond identity strategy moment) := by
  obtain ⟨settings, clock, stimulus⟩ := moment
  cases stimulus with
  | candle => exact onCandle_acts identity settings clock strategy
  | indexTick market ltp =>
    have ticked : Acts identity ⟨settings, clock, .indexTick market ltp⟩ false
        (strategy.see ltp) (indexTick identity settings clock market strategy ltp) := by
      rw [indexTick]
      cases holding : isPositionOpen (strategy.see ltp) with
      | true => exact checkExits_acts identity ⟨settings, clock, .indexTick market ltp⟩ false market
      | false =>
        exact maybeTryEntry_acts identity ⟨settings, clock, .indexTick market ltp⟩ false market
          holding
    exact .step (.op (.indexTick ltp)) trivial ticked
  | optionTick optType strike ltp => exact .single (.op (.optionTick optType strike ltp)) trivial
  | fill ev => exact .single (.op (.fill ev)) rfl
  | squareOff reason =>
    have squared : Acts identity ⟨settings, clock, .squareOff reason⟩ false strategy
        (squareOff identity settings clock strategy reason) := by
      rw [squareOff]
      split
      · have closed : Acts identity ⟨settings, clock, .squareOff reason⟩ false
            { strategy with book := { strategy.book with stopForDay := true } }
            (close identity settings clock
              { strategy with book := { strategy.book with stopForDay := true } } reason) :=
          close_acts identity ⟨settings, clock, .squareOff reason⟩ false reason
        exact .step .endDay trivial closed
      · exact acts_nothing identity _ _ strategy rfl
    exact squared

end OptionChain.BookMoves
