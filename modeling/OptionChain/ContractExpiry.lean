import OptionChain.ContractSymbols
import OptionChain.StraddleBook

/-!
# The contracts that an EXIT buys back

An order event names its legs by their strikes. Over a run of a book, every EXIT asks
for the strike at which the leg was last sold, so strike and option type always agree.

The expiry is not in the event. The bridge resolves it from the clock, once for the
ENTRY and once for the EXIT. Both name one contract exactly if no roll lies between
the two orders.
-/

namespace OptionChain.ContractExpiry

open Broker ContractSymbols StraddleBook StraddleEvents

section Log

variable (identity : Identity)

/-- The orders among some effects. -/
def ordersOf (effects : List Effect) : List StraddleOrderEvent :=
  effects.filterMap (fun effect =>
    match effect with
    | .order ev => some ev
    | .persist _ => none)

/-- The orders that a run of the book publishes. -/
def orders : Book → List BookEvent → List StraddleOrderEvent
  | _, [] => []
  | book, event :: rest =>
      ordersOf (operate identity event.settings event.now book event.op).2 ++
        orders (bookStep identity book event) rest

/-- The strike at which each leg was last sold. -/
abbrev Sold := OptType → Option Rat

/-- What an order makes of the strikes sold. -/
def note (sold : Sold) (ev : StraddleOrderEvent) : Sold := fun side =>
  if ev.action = .entry ∧ side ∈ ev.legs then some (ev.strike side) else sold side

/-- An EXIT asks for the strikes sold. -/
def Buys (sold : Sold) (ev : StraddleOrderEvent) : Prop :=
  ev.action = .exit → ∀ side ∈ ev.legs, sold side = some (ev.strike side)

/-- Every EXIT of a log asks for the strikes sold before it. -/
def Balanced : Sold → List StraddleOrderEvent → Prop
  | _, [] => True
  | sold, ev :: rest => Buys sold ev ∧ Balanced (note sold ev) rest

/-- The legs of an open position are the legs sold. -/
def Held (book : Book) (sold : Sold) : Prop :=
  ∀ pos ∈ book.position, ∀ side, sold side = some (pos.leg side).strike

end Log

theorem ordersOf_append (first second : List Effect) :
    ordersOf (first ++ second) = ordersOf first ++ ordersOf second :=
  List.filterMap_append

theorem balanced_append (sold : Sold) (first second : List StraddleOrderEvent) :
    Balanced sold (first ++ second) ↔
      Balanced sold first ∧ Balanced (first.foldl note sold) second := by
  induction first generalizing sold with
  | nil => simp [Balanced]
  | cons ev rest inductionHypothesis => simp [Balanced, inductionHypothesis, and_assoc]

/-- An order that does not sell a leg leaves the strike of the leg. -/
theorem foldl_note_kept (sold : Sold) (side : OptType) (log : List StraddleOrderEvent)
    (unsold : ∀ ev ∈ log, ¬ (ev.action = .entry ∧ side ∈ ev.legs)) :
    log.foldl note sold side = sold side := by
  induction log generalizing sold with
  | nil => rfl
  | cons ev rest inductionHypothesis =>
    have later : ∀ ev ∈ rest, ¬ (ev.action = .entry ∧ side ∈ ev.legs) :=
      fun ev member => unsold ev (List.mem_cons_of_mem _ member)
    rw [List.foldl_cons, inductionHypothesis _ later]
    exact if_neg (unsold ev List.mem_cons_self)

/-- Publishing nothing, and no position but one with the strikes of the old. -/
structure Still (book after : Book) (effects : List Effect) : Prop where
  silent : ordersOf effects = []
  strikes : ∀ pos ∈ after.position, ∃ old ∈ book.position,
    ∀ side, (pos.leg side).strike = (old.leg side).strike

/-- An operation asks only for strikes sold, and the legs stay the legs sold. -/
def Faithful (book after : Book) (effects : List Effect) : Prop :=
  ∀ sold, Held book sold →
    Balanced sold (ordersOf effects) ∧ Held after ((ordersOf effects).foldl note sold)

theorem Still.faithful {book after : Book} {effects : List Effect}
    (still : Still book after effects) : Faithful book after effects := by
  intro sold held
  rw [still.silent]
  refine ⟨trivial, ?_⟩
  intro pos present side
  obtain ⟨old, before, same⟩ := still.strikes pos present
  rw [same side]
  exact held old before side

/-- A position that is dropped leaves no strike to agree with. -/
theorem still_flat {book after : Book} {effects : List Effect} (silent : ordersOf effects = [])
    (flat : after.position = none) : Still book after effects :=
  ⟨silent, by simp [flat]⟩

theorem still_same {book after : Book} (same : after.position = book.position) :
    Still book after [] :=
  ⟨rfl, fun pos present => ⟨pos, same ▸ present, fun _ => rfl⟩⟩

theorem setLeg_strike (pos : StraddlePosition) (optType side : OptType) (leg : StraddleLeg)
    (same : leg.strike = (pos.leg optType).strike) :
    ((pos.setLeg optType leg).leg side).strike = (pos.leg side).strike := by
  cases optType <;> cases side <;> first | rfl | exact same

theorem adoptLeg_strike (fill : StraddleFillEvent) (optType : OptType) (leg : StraddleLeg) :
    (adoptLeg fill optType leg).strike = leg.strike := by
  unfold adoptLeg
  split <;> rfl

theorem adoptFill_strike (fill : StraddleFillEvent) (pos : StraddlePosition) (side : OptType) :
    ((adoptFill fill pos).leg side).strike = (pos.leg side).strike := by
  cases side
  · exact adoptLeg_strike fill .ce pos.ceLeg
  · exact adoptLeg_strike fill .pe pos.peLeg

section Operations

variable (identity : Identity) (settings : Settings) (now : Int) (book : Book)

theorem fillLoop_still (fill : StraddleFillEvent) :
    Still book (fillLoop identity settings now book fill).1
      (fillLoop identity settings now book fill).2 := by
  unfold fillLoop
  split
  · exact still_same rfl
  · unfold onFill
    split
    · split
      · exact still_flat rfl (by simp)
      · split
        · rename_i pos held
          split
          · refine ⟨rfl, ?_⟩
            rintro adopted ⟨rfl⟩
            exact ⟨pos, held, adoptFill_strike fill pos⟩
          · exact still_same rfl
        · exact still_same rfl
    · exact still_same rfl

theorem optionTick_still (optType : OptType) (strike ltp : Rat) :
    Still book (optionTick book optType strike ltp) [] := by
  unfold optionTick
  split
  · exact still_same rfl
  · rename_i pos held
    split
    · refine ⟨rfl, ?_⟩
      rintro ticked ⟨rfl⟩
      exact ⟨pos, held, fun side => setLeg_strike pos optType side _ rfl⟩
    · exact still_same rfl

theorem openPosition_faithful (ceStrike peStrike : Int) (ceLtp peLtp : Rat) (ruleKey : String) :
    Faithful book
      (openPosition identity settings book ceStrike peStrike ceLtp peLtp ruleKey).1
      (openPosition identity settings book ceStrike peStrike ceLtp peLtp ruleKey).2 := by
  intro sold held
  refine ⟨⟨by rintro ⟨⟩, trivial⟩, ?_⟩
  rintro pos ⟨rfl⟩ side
  cases side <;> rfl

/-- One EXIT of some legs of the position asks for the strikes sold. -/
theorem exit_buys {pos : StraddlePosition} {sold : Sold}
    (held : ∀ side, sold side = some (pos.leg side).strike) {ev : StraddleOrderEvent}
    (strikes : ∀ side, ev.strike side = (pos.leg side).strike) : Buys sold ev := by
  intro _ side _
  rw [held side, strikes side]

theorem closePosition_faithful (reason : String) :
    Faithful book (closePosition identity settings now book reason).1
      (closePosition identity settings now book reason).2 := by
  unfold closePosition
  split
  · exact (still_same rfl).faithful
  · rename_i pos present
    intro sold held
    refine ⟨⟨exit_buys (held pos present) (fun side => ?_), trivial⟩, ?_⟩
    · cases side <;> rfl
    · intro kept closed
      simp at closed

/-- An EXIT sells nothing. -/
theorem note_exit {ev : StraddleOrderEvent} (exit : ev.action = .exit) (sold : Sold) :
    note sold ev = sold := by
  funext side
  simp [note, exit]

theorem note_entry {ev : StraddleOrderEvent} (entry : ev.action = .entry) (sold : Sold)
    (side : OptType) :
    note sold ev side = if side ∈ ev.legs then some (ev.strike side) else sold side := by
  simp [note, entry]

/-- The strikes after one leg was sold anew. -/
theorem replacedLeg_strike (pos : StraddlePosition) (rolled side : OptType) (strike : Int)
    (ltp : Rat) (reason : String) :
    ((replacedLeg pos rolled strike ltp reason).leg side).strike =
      if side = rolled then (strike : Rat) else (pos.leg side).strike := by
  cases rolled <;> cases side <;> rfl

/-- The order that closes one leg. -/
theorem closeLeg_orders (pos : StraddlePosition) (side : OptType) (reason : String) :
    ∃ ev, ordersOf (closeLeg identity settings book pos side reason).2 = [ev] ∧
      ev.action = .exit ∧ ∀ leg, ev.strike leg = (pos.leg leg).strike := by
  refine ⟨_, rfl, rfl, ?_⟩
  intro leg
  cases leg <;> rfl

/-- The order that sells one leg anew. -/
theorem openLeg_orders (pos : StraddlePosition) (side : OptType) (strike : Int) (ltp : Rat)
    (reason : String) :
    ∃ ev, ordersOf (openLeg identity settings book pos side strike ltp reason).2 = [ev] ∧
      ev.action = .entry ∧ ev.legs = [side] ∧
      ∀ leg, ev.strike leg = ((replacedLeg pos side strike ltp reason).leg leg).strike := by
  refine ⟨_, rfl, rfl, rfl, ?_⟩
  intro leg
  cases leg <;> rfl

/-- A roll buys back one leg and sells it at another strike. -/
theorem roll_faithful {pos : StraddlePosition} (present : book.position = some pos)
    (side : OptType) (reason : String) (strike : Int) (ltp : Rat) :
    let closed := closeLeg identity settings book pos side reason
    let moved := openLeg identity settings closed.1 pos side strike ltp
      ("single_side_roll_" ++ reason)
    let based := rebaseline moved.1
    Faithful book based (closed.2 ++ moved.2 ++ [persist based]) := by
  intro closed moved based sold held
  obtain ⟨bought, closing, exits, oldStrikes⟩ := closeLeg_orders identity settings book pos side
    reason
  obtain ⟨sells, opening, enters, legs, newStrikes⟩ := openLeg_orders identity settings closed.1
    pos side strike ltp ("single_side_roll_" ++ reason)
  have log : ordersOf (closed.2 ++ moved.2 ++ [persist based]) = [bought, sells] := by
    rw [ordersOf_append, ordersOf_append, closing, opening]
    rfl
  rw [log]
  have idle : Buys (note sold bought) sells := fun exit => by simp [enters] at exit
  refine ⟨⟨exit_buys (held pos present) oldStrikes, idle, trivial⟩, ?_⟩
  rintro rolled ⟨rfl⟩ leg
  change note (note sold bought) sells leg =
    some ((replacedLeg pos side strike ltp _).leg leg).strike
  rw [note_exit exits, note_entry enters, legs, newStrikes leg, replacedLeg_strike]
  by_cases same : leg = side
  · simp [same]
  · simp [same, held pos present leg]

/-- Without a partner both legs are bought back. -/
theorem cleanup_faithful {pos : StraddlePosition} (present : book.position = some pos)
    (side : OptType) (reason : String) :
    let closed := closeLeg identity settings book pos side reason
    let both := closeLeg identity settings closed.1 pos side.other
      ("single_side_cleanup_" ++ reason)
    let flat : Book := { both.1 with position := none }
    Faithful book (applySlCooldown settings now flat) (closed.2 ++ both.2 ++ [persist flat]) := by
  intro closed both flat sold held
  obtain ⟨first, closing, exits, strikes⟩ := closeLeg_orders identity settings book pos side reason
  obtain ⟨second, closingOther, -, otherStrikes⟩ := closeLeg_orders identity settings closed.1 pos
    side.other ("single_side_cleanup_" ++ reason)
  have log : ordersOf (closed.2 ++ both.2 ++ [persist flat]) = [first, second] := by
    rw [ordersOf_append, ordersOf_append, closing, closingOther]
    rfl
  rw [log]
  refine ⟨⟨exit_buys (held pos present) strikes, ?_, trivial⟩, ?_⟩
  · rw [note_exit exits]
    exact exit_buys (held pos present) otherStrikes
  · intro kept remains
    simp [flat] at remains

theorem singleSideRoll_faithful (side : OptType) (reason : String) (sel : Option (Int × Rat)) :
    Faithful book (singleSideRoll identity settings now book side reason sel).1
      (singleSideRoll identity settings now book side reason sel).2 := by
  unfold singleSideRoll
  split
  · exact (still_same rfl).faithful
  · rename_i pos present
    dsimp only
    split
    · rename_i strike ltp
      split
      · exact (still_same rfl).faithful
      · exact roll_faithful identity settings book present side reason strike ltp
    · exact cleanup_faithful identity settings now book present side reason

/-- Every operation of the book is faithful. -/
theorem operate_faithful (op : Op) :
    Faithful book (operate identity settings now book op).1
      (operate identity settings now book op).2 := by
  cases op with
  | openPosition ceStrike peStrike ceLtp peLtp ruleKey =>
    exact openPosition_faithful identity settings book ceStrike peStrike ceLtp peLtp ruleKey
  | closePosition reason => exact closePosition_faithful identity settings now book reason
  | singleSideRoll side reason sel =>
    exact singleSideRoll_faithful identity settings now book side reason sel
  | fill ev => exact (fillLoop_still identity settings now book ev).faithful
  | resetSession => exact (still_flat rfl rfl).faithful
  | optionTick optType strike ltp => exact (optionTick_still book optType strike ltp).faithful
  | indexTick ltp => exact (still_same rfl).faithful

end Operations

/-- The log of a run asks only for strikes sold. -/
theorem orders_balanced (identity : Identity) (events : List BookEvent) (book : Book) (sold : Sold)
    (held : Held book sold) : Balanced sold (orders identity book events) := by
  induction events generalizing book sold with
  | nil => trivial
  | cons event rest inductionHypothesis =>
    obtain ⟨balanced, after⟩ :=
      operate_faithful identity event.settings event.now book event.op sold held
    exact (balanced_append sold _ _).mpr ⟨balanced, inductionHypothesis _ _ after⟩

/-- The orders of an operation name the underlying of the book. -/
theorem operate_underlying (identity : Identity) (settings : Settings) (now : Int) (book : Book)
    (op : Op) : ∀ ev ∈ ordersOf (operate identity settings now book op).2,
      ev.underlying = identity.underlying := by
  intro ev published
  cases op with
  | openPosition ceStrike peStrike ceLtp peLtp ruleKey =>
    rw [List.mem_singleton.mp published]
    rfl
  | closePosition reason =>
    simp only [operate, closePosition] at published
    split at published
    · simp [ordersOf] at published
    · rw [List.mem_singleton.mp published]
      rfl
  | singleSideRoll side reason sel =>
    simp only [operate, singleSideRoll] at published
    split at published
    · simp [ordersOf] at published
    · split at published
      · split at published
        · simp [ordersOf] at published
        · rcases List.mem_pair.mp published with rfl | rfl <;> rfl
      · rcases List.mem_pair.mp published with rfl | rfl <;> rfl
  | fill fill =>
    have silent := (fillLoop_still identity settings now book fill).silent
    simp [operate, silent] at published
  | resetSession => simp [operate, ordersOf] at published
  | optionTick optType strike ltp => simp [operate, ordersOf] at published
  | indexTick ltp => simp [operate, ordersOf] at published

theorem orders_underlying (identity : Identity) (events : List BookEvent) (book : Book) :
    ∀ ev ∈ orders identity book events, ev.underlying = identity.underlying := by
  induction events generalizing book with
  | nil => simp [orders]
  | cons event rest inductionHypothesis =>
    intro ev published
    rcases List.mem_append.mp published with now | later
    · exact operate_underlying identity event.settings event.now book event.op ev now
    · exact inductionHypothesis _ ev later

/-- An EXIT of a leg, and the ENTRY before it that last sold the leg. -/
structure Closes (log : List StraddleOrderEvent) (side : OptType)
    (entry exit : StraddleOrderEvent) : Prop where
  placed : ∃ before middle after, log = before ++ entry :: (middle ++ exit :: after) ∧
    ∀ ev ∈ middle, ¬ (ev.action = .entry ∧ side ∈ ev.legs)
  sells : entry.action = .entry ∧ side ∈ entry.legs
  buys : exit.action = .exit ∧ side ∈ exit.legs

/-- An EXIT asks for the strike that its ENTRY sold. -/
theorem closes_strike {identity : Identity} {book : Book} {events : List BookEvent}
    {side : OptType} {entry exit : StraddleOrderEvent}
    (closes : Closes (orders identity book events) side entry exit) :
    exit.strike side = entry.strike side := by
  obtain ⟨⟨before, middle, after, log, unsold⟩, sells, buys⟩ := closes
  have held : Held book (fun side => book.position.map (fun pos => (pos.leg side).strike)) := by
    rintro pos present side
    simp [Option.mem_def.mp present]
  have balanced := orders_balanced identity events book _ held
  rw [log, balanced_append] at balanced
  obtain ⟨-, -, later⟩ := balanced
  rw [balanced_append] at later
  have bought := later.2.1 buys.1 side buys.2
  rw [foldl_note_kept _ side middle unsold, note_entry sells.1, if_pos sells.2] at bought
  exact (Option.some.inj bought).symm

section Legs

variable (registry : InstrumentRegistry) (provider : String) (ev : StraddleOrderEvent)
  (side : OptType) (now : Moment)

/-- The symbol that `_do_leg` resolves for a leg. -/
def legSymbol : String :=
  resolveOptionSymbol registry provider ev.underlying now (truncate (ev.strike side)) side

/-- The contract that the symbol is made from. -/
def legContract : InternalSymbol :=
  resolveContract registry provider ev.underlying now (truncate (ev.strike side)) side

end Legs

/-- An EXIT resolves the symbol and the contract of its ENTRY exactly if the expiry was
not replaced in between. -/
theorem buy_back_iff (registry : InstrumentRegistry) (provider : String) (identity : Identity)
    (book : Book) (events : List BookEvent) (side : OptType) (entry exit : StraddleOrderEvent)
    (closes : Closes (orders identity book events) side entry exit) (entered exited : Moment)
    (order : entered ≤ exited) :
    (legSymbol registry provider exit side exited = legSymbol registry provider entry side entered ∧
      legContract registry provider exit side exited =
        legContract registry provider entry side entered) ↔
      ExpiryKept registry provider identity.underlying entered exited := by
  have strike := closes_strike closes
  obtain ⟨before, middle, after, log, -⟩ := closes.placed
  have underlying := orders_underlying identity events book
  have entryUnderlying : entry.underlying = identity.underlying :=
    underlying entry (by simp [log])
  have exitUnderlying : exit.underlying = identity.underlying :=
    underlying exit (by simp [log])
  unfold legSymbol legContract
  rw [strike, entryUnderlying, exitUnderlying,
    ← resolveContract_eq_iff registry provider identity.underlying order
      (truncate (entry.strike side)) side]
  constructor
  · exact And.right
  · intro same
    exact ⟨resolveOptionSymbol_eq registry provider identity.underlying same, same⟩

/-- A straddle sold and closed. -/
def soldAndClosed (spot : Rat) (strike : Int) : List BookEvent :=
  let settings : Settings := ⟨50, 1, 1, 0⟩
  [⟨settings, 0, .indexTick spot⟩,
    ⟨settings, 0, .openPosition strike strike 100 100 "entry_rules_beginning"⟩,
    ⟨settings, 0, .closePosition "stop_loss"⟩]

def june (day : Nat) (valid : 1 ≤ day ∧ day ≤ 30) : CivilDates.Date :=
  ⟨2026, 6, day, by decide, valid⟩

def moment (day : Nat) (hour : Fin 24) (valid : 1 ≤ day ∧ day ≤ 30) : Moment :=
  toLex (june day valid, ⟨hour * 3600000000, by omega⟩)

/-- A registry that lists two expiries of every underlying. -/
def twoExpiries : InstrumentRegistry where
  allExpiries _ := [june 16 (by decide), june 23 (by decide)]
  sorted _ := by decide
  getUpstoxKey _ _ _ _ := ""

/-- A position carried to the day of its expiry. -/
theorem buy_back_on_expiry_day :
    ∃ entry exit,
      Closes (orders ⟨"NIFTY", "A", "A_b1"⟩ Book.fresh (soldAndClosed 24510 24500)) .ce
        entry exit ∧
      legSymbol twoExpiries "zerodha" exit .ce (moment 16 15 (by decide)) =
        legSymbol twoExpiries "zerodha" entry .ce (moment 12 10 (by decide)) := by
  have closes : ∃ entry exit,
      Closes (orders ⟨"NIFTY", "A", "A_b1"⟩ Book.fresh (soldAndClosed 24510 24500)) .ce
        entry exit :=
    ⟨_, _, ⟨[], [], [], rfl, by simp⟩, ⟨rfl, by decide⟩, ⟨rfl, by decide⟩⟩
  obtain ⟨entry, exit, closes⟩ := closes
  have kept : ExpiryKept twoExpiries "zerodha" "NIFTY" (moment 12 10 (by decide))
      (moment 16 15 (by decide)) := by
    unfold ExpiryKept
    rw [if_neg (by decide +kernel)]
    decide +kernel
  exact ⟨entry, exit, closes,
    ((buy_back_iff _ _ _ _ _ _ _ _ closes _ _ (by decide)).mpr kept).1⟩

/-- A crypto straddle sold in the morning and closed after 17:30 buys the next day's
contract. -/
theorem buy_back_after_rollover :
    ∃ entry exit,
      Closes (orders ⟨"BTC", "A", "A_b1"⟩ Book.fresh (soldAndClosed 60010 60000)) .ce entry exit ∧
      moment 14 10 (by decide) ≤ moment 14 18 (by decide) ∧
      legSymbol twoExpiries "delta" entry .ce (moment 14 10 (by decide)) =
        "C-BTC-60000-140626" ∧
      legSymbol twoExpiries "delta" exit .ce (moment 14 18 (by decide)) = "C-BTC-60000-150626" := by
  refine ⟨_, _, ⟨⟨[], [], [], rfl, by simp⟩, ⟨rfl, by decide⟩, ⟨rfl, by decide⟩⟩, ?_, ?_, ?_⟩
  · decide +kernel
  · decide +kernel
  · decide +kernel

end OptionChain.ContractExpiry
