import Mathlib.Data.List.DropRight
import OptionChain.ExitReport
import OptionChain.OrderDesk

/-!
# The points of a session and its trade history

A paper book adds the points of what it closes to its session, and the bridge writes the
same legs to the trade history, in currency. The two are computed apart: the history has no
contract value, keeps two decimals and five hundred trades, and takes the entry price of a
leg that lost it from the last ENTRY, where the book books nothing.
-/

namespace OptionChain.HistoryAgreement

open Broker Rounding Runs StraddleEvents StraddleBook StraddleExits StraddleBridge ExitReport
  SessionRestart StraddleRuns OrderStream BookMoves OrderDesk

/-! ## The history of a paper book -/

/-- A leg of a recorded trade, with the quantity that it was closed with. -/
structure RecordedLeg where
  leg : HistoryLeg
  qty : Int
deriving DecidableEq

/-- A paper book, the last ENTRY that the bridge remembers, and the trades of the session
that are in the history. -/
structure PaperBook where
  book : Book
  lastEntry : Option StraddleOrderEvent
  history : List (List RecordedLeg)
deriving DecidableEq

def PaperBook.of (book : Book) : PaperBook := ⟨book, none, []⟩

/-- The order as the bridge works on it. -/
def paperCall (ev : StraddleOrderEvent) : LiveCall where
  event := ev
  clientId := ev.clientId
  bindingId := ev.bindingId
  exchange := ""
  product := ""
  paper := true

/-- `_CAP`. -/
def cap : Nat := 500

/-- What `record` keeps of a leg. -/
def recordLeg (leg : HistoryLeg) : HistoryLeg where
  side := leg.side
  strike := truncate leg.strike
  entry := roundTo 2 leg.entry
  exit := roundTo 2 leg.exit
  pnl := roundTo 2 leg.pnl

/-- `record`: one more trade, and the oldest ones dropped beyond the cap. -/
def record (history : List (List RecordedLeg)) (qty : Int) (legs : List HistoryLeg) :
    List (List RecordedLeg) :=
  (history ++ [legs.map (fun leg => RecordedLeg.mk (recordLeg leg) qty)]).rtake cap

/-- The legs that `log_exit` hands over for a paper EXIT. -/
def exitLegs (lastEntry : Option StraddleOrderEvent) (ev : StraddleOrderEvent) : List HistoryLeg :=
  logExitRecord (paperCall ev) (paperFill ev)
    (exitEntryPrice ev.ceEntry (lastEntry.map (·.ceLtp)))
    (exitEntryPrice ev.peEntry (lastEntry.map (·.peLtp)))

/-- `_paper_fill`, as far as it is remembered. -/
def PaperBook.handle (paper : PaperBook) (ev : StraddleOrderEvent) : PaperBook :=
  match ev.action with
  | .entry => { paper with lastEntry := some ev }
  | .exit =>
      let legs := exitLegs paper.lastEntry ev
      if legs = [] then paper
      else { paper with history := record paper.history (paperCall ev).qty legs }

/-- A move with the settings and the clock it meets. -/
structure Act where
  settings : Settings
  now : Int
  move : Move
deriving DecidableEq

/-- The trades of a session that are left after a move: a reset starts a session. -/
def carried (history : List (List RecordedLeg)) : Move → List (List RecordedLeg)
  | .op .resetSession => []
  | .op (.openPosition _ _ _ _ _) | .op (.closePosition _) | .op (.singleSideRoll _ _ _)
  | .op (.fill _) | .op (.optionTick _ _ _) | .op (.indexTick _) | .track _ | .endDay => history

section Papers

variable (identity : Identity)

/-- One move of the book, and what the bridge makes of its orders. -/
def paperStep (paper : PaperBook) (act : Act) : PaperBook :=
  let done := move identity act.settings act.now paper.book act.move
  (ordersOf done.2).foldl PaperBook.handle
    { paper with book := done.1, history := carried paper.history act.move }

/-- The points of a recorded leg. -/
def pointsOf (recorded : RecordedLeg) : Rat :=
  recorded.leg.pnl / (recorded.qty * contractCv identity.underlying)

/-- The points of the history. -/
def historyPoints (history : List (List RecordedLeg)) : Rat :=
  (history.flatten.map (pointsOf identity)).sum

def Agrees (paper : PaperBook) : Prop :=
  historyPoints identity paper.history = paper.book.sessionRealizedPnlPts

instance (paper : PaperBook) : Decidable (Agrees identity paper) :=
  inferInstanceAs (Decidable (_ = _))

/-- A leg that both accounts value alike when it is closed: it has kept its entry price, and
is closed there or has a profit of whole hundredths and no contract value. -/
structure Exact (settings : Settings) (leg : StraddleLeg) : Prop where
  entered : 0 < leg.entryPrice
  valued : leg.entryPrice = leg.ltp ∨
    contractCv identity.underlying = 1 ∧ settings.lotSize * settings.lotMultiplier ≠ 0 ∧
      roundTo 2 ((leg.entryPrice - leg.ltp) * (settings.lotSize * settings.lotMultiplier : Int)) =
        (leg.entryPrice - leg.ltp) * (settings.lotSize * settings.lotMultiplier : Int)

/-- The legs of a position that a move closes are exact, and the history has room for them. -/
def LeavesExactly (trades : Nat) (pos : StraddlePosition) (act : Act) : Prop :=
  match act.move with
  | .op (.closePosition _) =>
      Credit pos ∧ Exact identity act.settings pos.ceLeg ∧ Exact identity act.settings pos.peLeg ∧
        trades < cap
  | .op (.singleSideRoll side _ none) =>
      Exact identity act.settings (pos.leg side) ∧
        Exact identity act.settings (pos.leg side.other) ∧ trades + 1 < cap
  | .op (.singleSideRoll side _ (some (strike, _))) =>
      strike = truncate (pos.leg side).strike ∨
        Exact identity act.settings (pos.leg side) ∧ trades < cap
  | .op (.openPosition _ _ _ _ _) | .op (.fill _) | .op .resetSession | .op (.optionTick _ _ _)
  | .op (.indexTick _) | .track _ | .endDay => True

def ClosesExactly (paper : PaperBook) (act : Act) : Prop :=
  ∀ pos ∈ paper.book.position, LeavesExactly identity paper.history.length pos act

end Papers

/-! ## What a closed leg adds -/

section Adding

variable {identity : Identity} {settings : Settings} {pos : StraddlePosition}
  {ev : StraddleOrderEvent} {lastEntry : Option StraddleOrderEvent}

/-- The leg that a paper EXIT records, if it carries its entry price. -/
def closedLeg (settings : Settings) (side : OptType) (leg : StraddleLeg) : HistoryLeg where
  side := side
  strike := leg.strike
  entry := leg.entryPrice
  exit := leg.ltp
  pnl := (leg.entryPrice - leg.ltp) * (settings.lotSize * settings.lotMultiplier : Int)

theorem historyLeg_paper {legs : List OptType} (exits : Exits identity settings ev pos legs)
    {side : OptType} (listed : side ∈ legs) (entered : 0 < (pos.leg side).entryPrice)
    (last : Option Rat) :
    historyLeg (paperCall ev) (paperFill ev) side (exitEntryPrice (entryOf ev side) last) =
      closedLeg settings side (pos.leg side) := by
  have here : side ∈ ev.legs := exits.legs ▸ listed
  have fill : (paperFill ev).fill side = (pos.leg side).ltp := by
    rw [← exits.ltp side]
    cases side with
    | ce => simp [StraddleFillEvent.fill, paperFill, here, StraddleOrderEvent.ltp]
    | pe => simp [StraddleFillEvent.fill, paperFill, here, StraddleOrderEvent.ltp]
  have entry : exitEntryPrice (entryOf ev side) last = (pos.leg side).entryPrice := by
    rw [exits.entry side, exitEntryPrice, if_pos entered.ne']
  have qty : (paperCall ev).qty = settings.lotSize * settings.lotMultiplier := by
    simp [LiveCall.qty, paperCall, exits.lotSize, exits.lotMultiplier]
  rw [historyLeg, fill, entry, qty, closedLeg]
  simp [paperCall, exits.strike side]

theorem exitLegs_one {side : OptType} (exits : Exits identity settings ev pos [side])
    (entered : 0 < (pos.leg side).entryPrice) :
    exitLegs lastEntry ev = [closedLeg settings side (pos.leg side)] := by
  have leg (last : Option Rat) := historyLeg_paper exits List.mem_cons_self entered last
  have sides : historySides (paperCall ev) = [side] := by
    simp [historySides, paperCall, exits.legs]
  rw [exitLegs, logExitRecord, sides]
  cases side with
  | ce =>
    rw [← leg (lastEntry.map (·.ceLtp))]
    rfl
  | pe =>
    rw [← leg (lastEntry.map (·.peLtp))]
    rfl

theorem exitLegs_both (exits : Exits identity settings ev pos [.ce, .pe])
    (ceEntered : 0 < pos.ceLeg.entryPrice) (peEntered : 0 < pos.peLeg.entryPrice) :
    exitLegs lastEntry ev =
      [closedLeg settings .ce pos.ceLeg, closedLeg settings .pe pos.peLeg] := by
  have ce := historyLeg_paper exits (by simp : OptType.ce ∈ _) ceEntered
    (lastEntry.map (·.ceLtp))
  have pe := historyLeg_paper exits (by simp : OptType.pe ∈ _) peEntered
    (lastEntry.map (·.peLtp))
  have sides : historySides (paperCall ev) = [.ce, .pe] := by
    simp [historySides, paperCall, exits.legs]
  simp only [entryOf] at ce pe
  rw [exitLegs, logExitRecord, sides, ce, pe]
  simp [closedLeg, StraddlePosition.leg]

/-- The points that the history shows for a leg that both accounts value alike. -/
theorem exact_points {leg : StraddleLeg} (exact : Exact identity settings leg) (side : OptType) :
    pointsOf identity ⟨recordLeg (closedLeg settings side leg),
      settings.lotSize * settings.lotMultiplier⟩ = leg.entryPrice - leg.ltp := by
  simp only [pointsOf, recordLeg, closedLeg]
  rcases exact.valued with flat | ⟨unit, lots, decimals⟩
  · have nothing : roundTo 2 0 = 0 := by decide +kernel
    rw [flat, sub_self, zero_mul, nothing, zero_div]
  · have lots : ((settings.lotSize * settings.lotMultiplier : Int) : Rat) ≠ 0 := by
      exact_mod_cast lots
    rw [decimals, unit, mul_one, mul_div_assoc, div_self lots, mul_one]

/-- Room for one more trade. -/
theorem historyPoints_record {history : List (List RecordedLeg)} (room : history.length < cap)
    (qty : Int) (legs : List HistoryLeg) :
    historyPoints identity (record history qty legs) = historyPoints identity history +
      (legs.map (fun leg => pointsOf identity ⟨recordLeg leg, qty⟩)).sum := by
  have whole : record history qty legs =
      history ++ [legs.map (fun leg => RecordedLeg.mk (recordLeg leg) qty)] := by
    rw [record, List.rtake, List.length_append, List.length_singleton,
      Nat.sub_eq_zero_of_le room, List.drop_zero]
  simp [whole, historyPoints, List.map_map, Function.comp_def]

theorem handle_entry (paper : PaperBook) (entry : ev.action = .entry) :
    paper.handle ev = { paper with lastEntry := some ev } := by
  rw [PaperBook.handle, entry]

/-- An EXIT that records something adds its points, and one trade. -/
theorem handle_exit (paper : PaperBook) {legs : List OptType}
    (exits : Exits identity settings ev pos legs) (room : paper.history.length < cap)
    (recorded : exitLegs paper.lastEntry ev ≠ []) :
    (paper.handle ev).book = paper.book ∧
      historyPoints identity (paper.handle ev).history = historyPoints identity paper.history +
        ((exitLegs paper.lastEntry ev).map (fun leg => pointsOf identity
          ⟨recordLeg leg, settings.lotSize * settings.lotMultiplier⟩)).sum ∧
      (paper.handle ev).history.length ≤ paper.history.length + 1 := by
  have qty : (paperCall ev).qty = settings.lotSize * settings.lotMultiplier := by
    simp [LiveCall.qty, paperCall, exits.lotSize, exits.lotMultiplier]
  let history := record paper.history (paperCall ev).qty (exitLegs paper.lastEntry ev)
  have handled : paper.handle ev = { paper with history := history } := by
    simp [PaperBook.handle, exits.action, recorded, history]
  rw [handled]
  refine ⟨rfl, ?_, ?_⟩
  · rw [← qty]
    simp only [history]
    rw [historyPoints_record room]
  · simp only [history, record, List.rtake, List.length_drop, List.length_append,
      List.length_singleton]
    omega

/-- An EXIT of one leg adds what the book adds for it. -/
theorem handle_leg (paper : PaperBook) {side : OptType}
    (exits : Exits identity settings ev pos [side])
    (exact : Exact identity settings (pos.leg side)) (room : paper.history.length < cap) :
    (paper.handle ev).book = paper.book ∧
      historyPoints identity (paper.handle ev).history =
        historyPoints identity paper.history + legPoints (pos.leg side) ∧
      (paper.handle ev).history.length ≤ paper.history.length + 1 := by
  have legs := @exitLegs_one _ _ _ _ paper.lastEntry side exits exact.entered
  have added := handle_exit paper exits room (by simp [legs])
  rw [legs, List.map_singleton, List.sum_singleton, exact_points exact] at added
  rwa [legPoints, if_pos exact.entered]

/-- An EXIT of both legs adds the profit of the position. -/
theorem handle_both (paper : PaperBook) (exits : Exits identity settings ev pos [.ce, .pe])
    (credit : Credit pos) (ce : Exact identity settings pos.ceLeg)
    (pe : Exact identity settings pos.peLeg) (room : paper.history.length < cap) :
    (paper.handle ev).book = paper.book ∧
      historyPoints identity (paper.handle ev).history =
        historyPoints identity paper.history + pos.unrealizedPnl := by
  have legs := @exitLegs_both _ _ _ _ paper.lastEntry exits ce.entered pe.entered
  obtain ⟨same, added, _⟩ := handle_exit paper exits room (by simp [legs])
  refine ⟨same, ?_⟩
  rw [legs, List.map_cons, List.map_singleton, List.sum_cons, List.sum_singleton,
    exact_points ce, exact_points pe] at added
  rw [added, StraddlePosition.unrealizedPnl, credit]
  ring

end Adding

/-! ## Moves and runs -/

section Moves

variable {identity : Identity} {paper : PaperBook} {act : Act}

/-- A move that sends no EXIT books nothing, and neither does the history. -/
theorem silent_agrees (agrees : Agrees identity paper)
    (points : (move identity act.settings act.now paper.book act.move).1.sessionRealizedPnlPts =
      paper.book.sessionRealizedPnlPts)
    (same : carried paper.history act.move = paper.history)
    (orders : ordersOf (move identity act.settings act.now paper.book act.move).2 = []) :
    Agrees identity (paperStep identity paper act) := by
  rw [Agrees, paperStep, orders, same]
  exact agrees.trans points.symm

theorem fillLoop_points (settings : Settings) (now : Int) (book : Book) (fill : StraddleFillEvent) :
    (fillLoop identity settings now book fill).1.sessionRealizedPnlPts =
        book.sessionRealizedPnlPts ∧
      ordersOf (fillLoop identity settings now book fill).2 = [] := by
  rw [fillLoop]
  split
  · exact ⟨rfl, rfl⟩
  · refine ⟨?_, onFill_orders settings now book fill⟩
    rw [onFill]
    split
    · split
      · simp
      · split
        · split <;> rfl
        · rfl
    · rfl

theorem optionTick_points (book : Book) (optType : OptType) (strike ltp : Rat) :
    (optionTick book optType strike ltp).sessionRealizedPnlPts = book.sessionRealizedPnlPts := by
  rw [optionTick]
  split
  · rfl
  · split <;> rfl

theorem closePosition_agrees (agrees : Agrees identity paper) {settings : Settings} {now : Int}
    {reason : String}
    (exact : ClosesExactly identity paper ⟨settings, now, .op (.closePosition reason)⟩) :
    Agrees identity (paperStep identity paper ⟨settings, now, .op (.closePosition reason)⟩) := by
  cases held : paper.book.position with
  | none =>
    have idle : closePosition identity settings now paper.book reason = (paper.book, []) := by
      rw [closePosition, held]
    apply silent_agrees agrees
    · rw [move, operate, idle]
    · rfl
    · rw [move, operate, idle]
      rfl
  | some pos =>
    obtain ⟨credit, ce, pe, room⟩ := exact pos held
    obtain ⟨ev, orders, exits, _, _, points⟩ :=
      @closePosition_closes identity settings now paper.book pos held reason
    let closing : PaperBook :=
      { paper with book := (closePosition identity settings now paper.book reason).1 }
    have after : paperStep identity paper ⟨settings, now, .op (.closePosition reason)⟩ =
        closing.handle ev := by
      rw [paperStep, move, operate, orders]
      rfl
    obtain ⟨book, history⟩ := handle_both closing exits credit ce pe room
    rw [after, Agrees, book, history, points, ← agrees]

theorem singleSideRoll_agrees (agrees : Agrees identity paper) {settings : Settings} {now : Int}
    {side : OptType} {reason : String} {sel : Option (Int × Rat)}
    (exact : ClosesExactly identity paper ⟨settings, now, .op (.singleSideRoll side reason sel)⟩) :
    Agrees identity
      (paperStep identity paper ⟨settings, now, .op (.singleSideRoll side reason sel)⟩) := by
  have idle (same : singleSideRoll identity settings now paper.book side reason sel =
      (paper.book, [])) :
      Agrees identity
        (paperStep identity paper ⟨settings, now, .op (.singleSideRoll side reason sel)⟩) := by
    apply silent_agrees agrees
    · rw [move, operate, same]
    · rfl
    · rw [move, operate, same]
      rfl
  let closing : PaperBook :=
    { paper with book := (singleSideRoll identity settings now paper.book side reason sel).1 }
  cases held : paper.book.position with
  | none => exact idle (by rw [singleSideRoll, held])
  | some pos =>
    cases sel with
    | none =>
      obtain ⟨one, two, room⟩ := exact pos held
      obtain ⟨first, second, orders, exit, clean, _, _, points⟩ :=
        @singleSideRoll_clears identity settings now paper.book pos held side reason
      have after : paperStep identity paper
          ⟨settings, now, .op (.singleSideRoll side reason none)⟩ =
            (closing.handle first).handle second := by
        rw [paperStep, move, operate, orders]
        rfl
      have closes : closing.history.length = paper.history.length := rfl
      obtain ⟨book, history, length⟩ := handle_leg closing exit one (by omega)
      obtain ⟨same, more, _⟩ := handle_leg (closing.handle first) clean two (by omega)
      rw [after, Agrees, same, book, more, history, points, ← agrees]
    | some partner =>
      obtain ⟨strike, ltp⟩ := partner
      by_cases near : strike = truncate (pos.leg side).strike
      · apply idle
        rw [singleSideRoll, held]
        simp only [if_pos near]
      · obtain ⟨one, room⟩ := (exact pos held).resolve_left near
        obtain ⟨exit, entry, moved, orders, leaves, enters, _, _, _, _, _, points⟩ :=
          @singleSideRoll_rolls identity settings now paper.book pos held side reason strike ltp
            near
        have after : paperStep identity paper
            ⟨settings, now, .op (.singleSideRoll side reason (some (strike, ltp)))⟩ =
              (closing.handle exit).handle entry := by
          rw [paperStep, move, operate, orders]
          rfl
        obtain ⟨book, history, _⟩ := handle_leg closing leaves one room
        rw [after, handle_entry _ enters.action, Agrees]
        dsimp only
        rw [book, history, points, ← agrees]

/-- A move that closes exactly keeps the agreement. -/
theorem paperStep_agrees (agrees : Agrees identity paper)
    (exact : ClosesExactly identity paper act) :
    Agrees identity (paperStep identity paper act) := by
  obtain ⟨settings, now, next⟩ := act
  cases next with
  | op op =>
    cases op with
    -- An ENTRY is remembered, and neither account is touched.
    | openPosition ceStrike peStrike ceLtp peLtp ruleKey => exact agrees
    | closePosition reason => exact closePosition_agrees agrees exact
    | singleSideRoll side reason sel => exact singleSideRoll_agrees agrees exact
    | fill ev =>
      obtain ⟨points, silent⟩ := @fillLoop_points identity settings now paper.book ev
      exact silent_agrees agrees points rfl silent
    | resetSession => rfl
    | optionTick optType strike ltp =>
      exact silent_agrees agrees (optionTick_points paper.book optType strike ltp) rfl rfl
    | indexTick ltp => exact silent_agrees agrees rfl rfl rfl
  | track moved => exact silent_agrees agrees rfl rfl rfl
  | endDay => exact silent_agrees agrees rfl rfl rfl

/-- The bridge does not touch the book. -/
theorem handle_book (paper : PaperBook) (after : Book) (ev : StraddleOrderEvent) :
    { paper with book := after }.handle ev = { paper.handle ev with book := after } := by
  cases kind : ev.action with
  | entry => simp [PaperBook.handle, kind]
  | exit =>
    by_cases empty : exitLegs paper.lastEntry ev = []
    · simp [PaperBook.handle, kind, empty]
    · simp [PaperBook.handle, kind, empty]

theorem handled_book (paper : PaperBook) (after : Book) (orders : List StraddleOrderEvent) :
    orders.foldl PaperBook.handle { paper with book := after } =
      { orders.foldl PaperBook.handle paper with book := after } := by
  induction orders generalizing paper with
  | nil => rfl
  | cons ev rest inductionHypothesis =>
    rw [List.foldl_cons, handle_book, inductionHypothesis, List.foldl_cons]

/-- A chain of moves within a session is a run of the paper book. -/
theorem chain_runs {settings : Settings} {now : Int} {ok : Book → Move → Prop}
    {book after : Book} {effects : List StraddleBook.Effect}
    (session : ∀ book next, ok book next → next ≠ .op .resetSession)
    (chain : Chain identity settings now ok book after effects)
    (lastEntry : Option StraddleOrderEvent) (history : List (List RecordedLeg)) :
    ∃ moves : List Move,
      run (paperStep identity) ⟨book, lastEntry, history⟩ (moves.map (Act.mk settings now)) =
        (ordersOf effects).foldl PaperBook.handle ⟨after, lastEntry, history⟩ := by
  induction chain generalizing lastEntry history with
  | done book => exact ⟨[], rfl⟩
  | @step book after effects next allowed rest inductionHypothesis =>
    have carries : carried history next = history := by
      cases next with
      | op op =>
        cases op with
        | resetSession => exact absurd rfl (session book _ allowed)
        | _ => rfl
      | track moved => rfl
      | endDay => rfl
    have stepped : paperStep identity ⟨book, lastEntry, history⟩ ⟨settings, now, next⟩ =
        (ordersOf (move identity settings now book next).2).foldl PaperBook.handle
          ⟨(move identity settings now book next).1, lastEntry, history⟩ := by
      rw [paperStep, carries]
    let handled := (ordersOf (move identity settings now book next).2).foldl PaperBook.handle
      ⟨after, lastEntry, history⟩
    have sent := handled_book ⟨after, lastEntry, history⟩
      (move identity settings now book next).1 (ordersOf (move identity settings now book next).2)
    have kept := handled_book ⟨after, lastEntry, history⟩ after
      (ordersOf (move identity settings now book next).2)
    obtain ⟨moves, ran⟩ := inductionHypothesis handled.lastEntry handled.history
    refine ⟨next :: moves, ?_⟩
    dsimp only at sent kept
    rw [List.map_cons, run_cons, stepped, ordersOf_append, List.foldl_append, sent, ran, kept]

/-- Whatever a strategy object does within a session is a run of the paper book, and the
bridge handles its orders. -/
theorem respond_runs (strategy : Strategy) (moment : Moment)
    (session : resets strategy moment = false) (lastEntry : Option StraddleOrderEvent)
    (history : List (List RecordedLeg)) :
    ∃ moves : List Move,
      run (paperStep identity) ⟨strategy.book, lastEntry, history⟩
          (moves.map (Act.mk moment.settings.toSettings moment.clock.now)) =
        (ordersOf (respond identity strategy moment).2).foldl PaperBook.handle
          ⟨(respond identity strategy moment).1.book, lastEntry, history⟩ := by
  have acts := respond_acts identity strategy moment
  rw [session] at acts
  apply chain_runs _ acts lastEntry history
  rintro book next allowed rfl
  cases allowed

end Moves

/-- In every run of a paper book whose closes are all exact, the points of the history are
the points of the session, after every move. -/
theorem history_agrees (identity : Identity) (paper : PaperBook)
    (agrees : Agrees identity paper) (acts : List Act)
    (exact : Along (paperStep identity) (ClosesExactly identity) paper acts) :
    Along (paperStep identity) (fun paper act => Agrees identity (paperStep identity paper act))
      paper acts := by
  apply @along_under _ _ (paperStep identity) _ _ (Agrees identity) _ _ paper acts agrees exact
  · exact fun paper act agrees exact => paperStep_agrees agrees exact
  · exact fun paper act agrees exact => paperStep_agrees agrees exact

/-! ## A leg rolled and a pair closed -/

instance (identity : Identity) (settings : Settings) (leg : StraddleLeg) :
    Decidable (Exact identity settings leg) :=
  decidable_of_iff (0 < leg.entryPrice ∧ (leg.entryPrice = leg.ltp ∨
    contractCv identity.underlying = 1 ∧ settings.lotSize * settings.lotMultiplier ≠ 0 ∧
      roundTo 2 ((leg.entryPrice - leg.ltp) * (settings.lotSize * settings.lotMultiplier : Int)) =
        (leg.entryPrice - leg.ltp) * (settings.lotSize * settings.lotMultiplier : Int)))
    ⟨fun both => ⟨both.1, both.2⟩, fun exact => ⟨exact.entered, exact.valued⟩⟩

instance (pos : StraddlePosition) : Decidable (Credit pos) :=
  inferInstanceAs (Decidable (_ = _))

instance (identity : Identity) (trades : Nat) (pos : StraddlePosition) (act : Act) :
    Decidable (LeavesExactly identity trades pos act) := by
  unfold LeavesExactly
  split <;> infer_instance

instance (identity : Identity) (paper : PaperBook) (act : Act) :
    Decidable (ClosesExactly identity paper act) :=
  inferInstanceAs (Decidable (∀ pos ∈ paper.book.position,
    LeavesExactly identity paper.history.length pos act))

def trading (move : Move) : Act := ⟨⟨50, 75, 1, 0⟩, 0, move⟩

/-- A pair is entered, its put is rolled, and both legs are closed. -/
def rolledAndClosed : List Act :=
  [trading (.op (.openPosition 24000 24000 100 90 "entry_rules_beginning")),
    trading (.op (.optionTick .pe 24000 15)),
    trading (.op (.singleSideRoll .pe "ltp_decay_PE" (some (23900, 60)))),
    trading (.op (.optionTick .ce 24000 80)),
    trading (.op (.closePosition "profit_target"))]

theorem rolled_and_closed_agree :
    Along (paperStep nifty) (fun paper act => Agrees nifty (paperStep nifty paper act))
      (.of .fresh) rolledAndClosed :=
  history_agrees nifty (.of .fresh) rfl rolledAndClosed (by decide +kernel)

/-- The session of a bitcoin book. -/
def bitcoin : Identity := ⟨"BTC", "c1", "b1"⟩

/-- Its history shows a thousand times the points of its session. -/
theorem crypto_history_disagrees :
    ¬Along (paperStep bitcoin) (fun paper act => Agrees bitcoin (paperStep bitcoin paper act))
      (.of .fresh) rolledAndClosed ∧
    (run (paperStep bitcoin) (.of .fresh) rolledAndClosed).book.sessionRealizedPnlPts = 95 ∧
    historyPoints bitcoin (run (paperStep bitcoin) (.of .fresh) rolledAndClosed).history =
      95000 := by
  refine ⟨?_, ?_, ?_⟩
  · decide +kernel
  · decide +kernel
  · decide +kernel

/-- A restored put without its entry price: its roll books nothing, and is recorded as sold
at zero. -/
example :
    let lost : StraddlePosition :=
      { underlying := "NIFTY", atmAtEntry := 24000, entrySpot := 24000
        ceLeg := ⟨24000, 100, 80, "", ""⟩, peLeg := ⟨24000, 0, 15, "", ""⟩, netCredit := 190 }
    let after := paperStep nifty (.of { Book.fresh with position := some lost })
      (trading (.op (.singleSideRoll .pe "ltp_decay_PE" (some (23900, 60)))))
    after.book.sessionRealizedPnlPts = 0 ∧ historyPoints nifty after.history = -15 := by
  decide +kernel

end OptionChain.HistoryAgreement
