import OptionChain.PinnedRebalance

/-!
# The close of a session

The ticks of several days, with the feed restores that reset the anchors. At the close of
a day the strikes without a position are to be dropped, no rebalance is to follow, and on
the next day a reset index is to subscribe again.

The flag `eod_unsubscribed` is set before the block that unsubscribes asks whether it is
set, and nothing clears it. `session_lawful_iff` says what that leaves of the law.
-/

namespace OptionChain.SessionClose

open Runs StrikeRebalancer PinnedRebalance

/-- A call of another task, a restore of the live feed, or a tick of some day. A restore
can also come while the tick waits for the feeder. -/
inductive Event where
  | call (call : Call)
  | restored
  | tick (day : Nat) (tick : IndexTick) (resolvable : Bool) (first second : List Call)
      (restored : Bool)

/-- The rebalancer, and the last day of which a tick at or after the close was seen. -/
structure Session where
  rebalancer : Rebalancer := {}
  closed : Option Nat := none
deriving DecidableEq

/-- `_sysevt_loop` on a restore of the dual or the single feed. -/
def resetAnchors (rebalancer : Rebalancer) : Rebalancer :=
  { rebalancer with state := { rebalancer.state with openAtm := none, currentAtm := none } }

/-- The same while a tick waits: a rebalance that gets through has its new ATM written
after the wait. -/
def resetDuring (before after : Rebalancer) : Rebalancer :=
  if after.calls = before.calls then after
  else if after.state.rebalanceCount = before.state.rebalanceCount then resetAnchors after
  else { after with state := { after.state with openAtm := none } }

section Sessions

variable (cfg : Config)

/-- A tick at or after the close. -/
def AtClose (tick : IndexTick) : Prop := nseClose ≤ tick.time

/-- A tick in the hours of the market. -/
def InHours (tick : IndexTick) : Prop := marketOpen ≤ tick.time ∧ tick.time < nseClose

instance (tick : IndexTick) : Decidable (AtClose tick) := inferInstanceAs (Decidable (_ ≤ _))

instance (tick : IndexTick) : Decidable (InHours tick) := inferInstanceAs (Decidable (_ ∧ _))

def step (session : Session) : Event → Session
  | .call call => { session with rebalancer := session.rebalancer.during [call] }
  | .restored => { session with rebalancer := resetAnchors session.rebalancer }
  | .tick day tick resolvable first second restored =>
      let after := StrikeRebalancer.step cfg session.rebalancer (.tick tick resolvable first second)
      { rebalancer := if restored then resetDuring session.rebalancer after else after
        closed := if AtClose tick then some day else session.closed }

/-- What a tick asks for; the loop may have ended. -/
def asks (rebalancer : Rebalancer) (tick : IndexTick) : Rebalancer.Plan :=
  if rebalancer.failed then .idle else Rebalancer.plan cfg (rebalancer.markClose cfg tick).state tick

/-- The law of the close. The first tick at or after it leaves nothing but the pins, no
tick of that day rebalances any more, and in the hours of a later day a tick with reset
anchors subscribes again. -/
structure LawfulTick (session : Session) (day : Nat) (tick : IndexTick) (after : Session) :
    Prop where
  unsubscribes : AtClose tick → session.closed ≠ some day →
    after.rebalancer.state.activeStrikes = after.rebalancer.state.pinnedStrikes
  still : AtClose tick ∨ session.closed = some day →
    ∀ atm, asks cfg session.rebalancer tick ≠ .rebalance atm
  again : (∃ earlier ∈ session.closed, earlier < day) → InHours tick →
    session.rebalancer.state.openAtm = none → ∃ atm, asks cfg session.rebalancer tick = .initial atm

def Lawful (session : Session) (event : Event) : Prop :=
  match event with
  | .call _ | .restored => True
  | .tick day tick _ _ _ _ => LawfulTick cfg session day tick (step cfg session event)

/-- The price has left the current ATM far enough for a rebalance. -/
def Drifts (rebalancer : Rebalancer) (tick : IndexTick) : Prop :=
  rebalancer.failed = false ∧
    ¬(rebalancer.state.openAtm = none ∧ marketOpen ≤ tick.time) ∧
      ∃ current ∈ rebalancer.state.currentAtm,
        rebalanceThreshold ≤ |roundToStrike tick.ltp cfg.step - current| / cfg.step

/-- What keeps the law: nothing but pins at the close, no drift from then on, and no reset
on a later day. -/
structure MetTick (session : Session) (day : Nat) (tick : IndexTick) : Prop where
  onlyPins : AtClose tick → session.closed ≠ some day →
    session.rebalancer.state.activeStrikes = session.rebalancer.state.pinnedStrikes
  steady : AtClose tick ∨ session.closed = some day → ¬Drifts cfg session.rebalancer tick
  unreset : ¬((∃ earlier ∈ session.closed, earlier < day) ∧ InHours tick ∧
    session.rebalancer.state.openAtm = none)

def Met (session : Session) : Event → Prop
  | .call _ | .restored => True
  | .tick day tick _ _ _ _ => MetTick cfg session day tick

instance (rebalancer : Rebalancer) (tick : IndexTick) : Decidable (Drifts cfg rebalancer tick) :=
  inferInstanceAs (Decidable (_ ∧ ¬(_ ∧ _) ∧ ∃ current ∈ rebalancer.state.currentAtm, _ ≤ _))

instance (session : Session) (day : Nat) (tick : IndexTick) :
    Decidable (MetTick cfg session day tick) :=
  decidable_of_iff
    ((AtClose tick → session.closed ≠ some day →
        session.rebalancer.state.activeStrikes = session.rebalancer.state.pinnedStrikes) ∧
      (AtClose tick ∨ session.closed = some day → ¬Drifts cfg session.rebalancer tick) ∧
      ¬((∃ earlier ∈ session.closed, earlier < day) ∧ InHours tick ∧
        session.rebalancer.state.openAtm = none))
    ⟨fun met => ⟨met.1, met.2.1, met.2.2⟩, fun met => ⟨met.onlyPins, met.steady, met.unreset⟩⟩

instance (session : Session) : ∀ event, Decidable (Met cfg session event)
  | .call _ | .restored => inferInstanceAs (Decidable True)
  | .tick day tick _ _ _ _ => inferInstanceAs (Decidable (MetTick cfg session day tick))

end Sessions

/-- A day that has closed has left its mark, or the loop has ended. -/
def Marked (session : Session) : Prop :=
  session.closed.isSome = true →
    session.rebalancer.state.eodUnsubscribed = true ∨ session.rebalancer.failed = true

section Marks

variable (cfg : Config)

theorem calls_marked (state : UnderlyingState) (calls : List Call) :
    (calls.foldl UnderlyingState.call state).eodUnsubscribed = state.eodUnsubscribed := by
  induction calls generalizing state with
  | nil => rfl
  | cons call rest inductionHypothesis =>
    rw [List.foldl_cons, inductionHypothesis]
    cases call <;> rfl

theorem awaitFeeder_marked (rebalancer : Rebalancer) (resolvable : Bool)
    (make : Finset Rat → FeederCall) (strikes : Finset Rat) (others : List Call) :
    (rebalancer.awaitFeeder resolvable make strikes others).state.eodUnsubscribed =
      rebalancer.state.eodUnsubscribed := by
  rw [awaitFeeder_state, calls_marked]

theorem finishRebalance_marked (rebalancer : Rebalancer) (newAtm : Rat) (unsub sub : Finset Rat) :
    (rebalancer.finishRebalance newAtm unsub sub).state.eodUnsubscribed =
      rebalancer.state.eodUnsubscribed := by
  rw [Rebalancer.finishRebalance]
  split <;> rfl

/-- A tick keeps the mark of its first block. -/
theorem onTick_marked (rebalancer : Rebalancer) (tick : IndexTick) (resolvable : Bool)
    (first second : List Call) :
    (rebalancer.onTick cfg tick resolvable first second).state.eodUnsubscribed =
      (rebalancer.markClose cfg tick).state.eodUnsubscribed := by
  rw [onTick_eq]
  cases Rebalancer.plan cfg (rebalancer.markClose cfg tick).state tick with
  | idle => rfl
  | initial atm => exact awaitFeeder_marked _ resolvable _ _ first
  | rebalance atm =>
    exact (finishRebalance_marked _ atm _ _).trans
      ((awaitFeeder_marked _ resolvable _ _ second).trans
        (awaitFeeder_marked _ resolvable _ _ first))

theorem resetDuring_marked (before after : Rebalancer) :
    (resetDuring before after).state.eodUnsubscribed = after.state.eodUnsubscribed ∧
      (resetDuring before after).failed = after.failed := by
  rw [resetDuring]
  split
  · exact ⟨rfl, rfl⟩
  · split
    · exact ⟨rfl, rfl⟩
    · exact ⟨rfl, rfl⟩

variable {cfg}

theorem tick_marked (session : Session) (day : Nat) (tick : IndexTick) (resolvable : Bool)
    (first second : List Call) (restored : Bool) :
    let next := (step cfg session (.tick day tick resolvable first second restored)).rebalancer
    let after := StrikeRebalancer.step cfg session.rebalancer (.tick tick resolvable first second)
    next.state.eodUnsubscribed = after.state.eodUnsubscribed ∧ next.failed = after.failed := by
  cases restored with
  | false => exact ⟨rfl, rfl⟩
  | true => exact resetDuring_marked _ _

/-- No event takes the mark back. -/
theorem step_marked (nse : cfg.nse = true) (session : Session) (event : Event)
    (marked : Marked session) : Marked (step cfg session event) := by
  cases event with
  | call call =>
    intro closed
    exact (marked closed).imp_left (fun flag => (calls_marked _ [call]).trans flag)
  | restored => exact marked
  | tick day tick resolvable first second restored =>
    intro closed
    let before := session.rebalancer
    let after := StrikeRebalancer.step cfg before (.tick tick resolvable first second)
    obtain ⟨mark, failed⟩ := @tick_marked cfg session day tick resolvable first second restored
    rw [mark, failed]
    change after.state.eodUnsubscribed = true ∨ after.failed = true
    by_cases ended : before.failed = true
    · right
      have idle : after = before := if_pos ended
      rwa [idle]
    · left
      have ticked : after = before.onTick cfg tick resolvable first second := if_neg ended
      rw [ticked, onTick_marked, Rebalancer.markClose]
      by_cases atClose : nseClose ≤ tick.time
      · rw [if_pos ⟨nse, atClose⟩]
      · have earlier : session.closed.isSome = true := by
          have same : (step cfg session
              (.tick day tick resolvable first second restored)).closed = session.closed :=
            if_neg atClose
          rwa [same] at closed
        rw [if_neg (fun both => atClose both.2)]
        exact (marked earlier).resolve_right ended

end Marks

/-! ## The law of one event -/

section Tick

variable {cfg : Config} (nse : cfg.nse = true) {session : Session} {day : Nat} {tick : IndexTick}

/-- A tick rebalances where its price drifts. -/
theorem asks_rebalance_iff (cfg : Config) (rebalancer : Rebalancer) (tick : IndexTick) :
    (∃ atm, asks cfg rebalancer tick = .rebalance atm) ↔ Drifts cfg rebalancer tick := by
  have anchors : (rebalancer.markClose cfg tick).state.openAtm = rebalancer.state.openAtm ∧
      (rebalancer.markClose cfg tick).state.currentAtm = rebalancer.state.currentAtm := by
    rw [Rebalancer.markClose]
    split <;> exact ⟨rfl, rfl⟩
  rw [asks, Drifts, Rebalancer.plan, anchors.1, anchors.2]
  cases ended : rebalancer.failed with
  | true => simp
  | false =>
    simp only [Bool.false_eq_true, if_false, true_and]
    by_cases fresh : rebalancer.state.openAtm = none ∧ marketOpen ≤ tick.time
    · rw [if_pos fresh]
      refine iff_of_false ?_ (fun drifts => drifts.1 fresh)
      rintro ⟨atm, asked⟩
      split at asked <;> cases asked
    · rw [if_neg fresh, and_iff_right fresh]
      cases rebalancer.state.currentAtm with
      | none => simp
      | some current =>
        by_cases far : rebalanceThreshold ≤
            |roundToStrike tick.ltp cfg.step - current| / cfg.step
        · simp [far]
        · simp [far]

/-- A tick subscribes anew only where no close has been marked. -/
theorem asks_initial {rebalancer : Rebalancer} {atm : Rat}
    (initial : asks cfg rebalancer tick = .initial atm) :
    rebalancer.failed = false ∧
      (rebalancer.markClose cfg tick).state.eodUnsubscribed = false := by
  rw [asks] at initial
  cases ended : rebalancer.failed with
  | true => simp [ended] at initial
  | false =>
    rw [ended, if_neg Bool.false_ne_true, Rebalancer.plan] at initial
    refine ⟨rfl, ?_⟩
    cases marked : (rebalancer.markClose cfg tick).state.eodUnsubscribed with
    | false => rfl
    | true =>
      exfalso
      revert initial
      rw [marked]
      split
      · simp
      · split
        · simp
        · split <;> simp

include nse

/-- A tick at the close that does not rebalance leaves the strikes. -/
theorem close_leaves (atClose : AtClose tick)
    (still : ∀ atm, asks cfg session.rebalancer tick ≠ .rebalance atm) (resolvable : Bool)
    (first second : List Call) (restored : Bool) :
    let after := (step cfg session (.tick day tick resolvable first second restored)).rebalancer
    after.state.activeStrikes = session.rebalancer.state.activeStrikes ∧
      after.state.pinnedStrikes = session.rebalancer.state.pinnedStrikes := by
  let before := session.rebalancer
  let after := StrikeRebalancer.step cfg before (.tick tick resolvable first second)
  have marked : (before.markClose cfg tick).state.eodUnsubscribed = true := by
    rw [Rebalancer.markClose, if_pos ⟨nse, atClose⟩]
  -- Without a rebalance the tick changes the mark at most, and waits for nothing.
  have idle : after = before ∨ after = before.markClose cfg tick := by
    by_cases ended : before.failed = true
    · exact Or.inl (if_pos ended)
    · right
      have ticked : after = before.onTick cfg tick resolvable first second := if_neg ended
      have planned : asks cfg before tick =
          Rebalancer.plan cfg (before.markClose cfg tick).state tick := if_neg ended
      rw [ticked, onTick_eq, ← planned]
      cases asked : asks cfg before tick with
      | idle => rfl
      | initial atm => exact absurd ((asks_initial asked).2.symm.trans marked) Bool.false_ne_true
      | rebalance atm => exact absurd asked (still atm)
  have closes : before.markClose cfg tick =
      { before with state := { before.state with eodUnsubscribed := true } } :=
    if_pos ⟨nse, atClose⟩
  have calls : after.calls = before.calls := by
    obtain same | same := idle
    · rw [same]
    · rw [same, closes]
  have reached : (step cfg session (.tick day tick resolvable first second restored)).rebalancer =
      after := by
    cases restored with
    | false => rfl
    | true => exact if_pos calls
  intro result
  simp only [result, reached]
  obtain same | same := idle
  · rw [same]
    exact ⟨rfl, rfl⟩
  · rw [same, closes]
    exact ⟨rfl, rfl⟩

/-- Once a closed day is marked, the law of a tick holds exactly where it is met. -/
theorem tick_lawful_iff (marked : Marked session) (resolvable : Bool) (first second : List Call)
    (restored : Bool) :
    LawfulTick cfg session day tick
        (step cfg session (.tick day tick resolvable first second restored)) ↔
      MetTick cfg session day tick := by
  have still_iff : (∀ atm, asks cfg session.rebalancer tick ≠ .rebalance atm) ↔
      ¬Drifts cfg session.rebalancer tick := by
    rw [← asks_rebalance_iff]
    exact not_exists.symm
  constructor
  · intro lawful
    refine ⟨fun atClose once => ?_, fun late => still_iff.mp (lawful.still late), ?_⟩
    · obtain ⟨active, pinned⟩ := @close_leaves cfg nse session day tick atClose
        (lawful.still (Or.inl atClose)) resolvable first second restored
      rw [← active, ← pinned]
      exact lawful.unsubscribes atClose once
    · rintro ⟨⟨earlier, closed, later⟩, inHours, reset⟩
      obtain ⟨atm, initial⟩ := lawful.again ⟨earlier, closed, later⟩ inHours reset
      obtain ⟨alive, unmarked⟩ := asks_initial initial
      have open' : ¬nseClose ≤ tick.time := not_le.mpr inHours.2
      rw [Rebalancer.markClose, if_neg (fun both => open' both.2)] at unmarked
      rcases marked (Option.isSome_of_mem closed) with flag | ended
      · exact absurd (unmarked.symm.trans flag) Bool.false_ne_true
      · exact absurd (alive.symm.trans ended) Bool.false_ne_true
  · intro met
    refine ⟨fun atClose once => ?_, fun late => still_iff.mpr (met.steady late), ?_⟩
    · obtain ⟨active, pinned⟩ := @close_leaves cfg nse session day tick atClose
        (still_iff.mpr (met.steady (Or.inl atClose))) resolvable first second restored
      rw [active, pinned]
      exact met.onlyPins atClose once
    · intro earlier inHours reset
      exact absurd ⟨earlier, inHours, reset⟩ met.unreset

end Tick

/-- In every run of an NSE or BSE index, over any number of days: the first tick at or after
each close leaves nothing but the pins, no tick of that day rebalances any more, and a later
day with reset anchors subscribes again, exactly when there is nothing but pins at the
close, the price does not drift from then on, and no later day has reset anchors. -/
theorem session_lawful_iff (cfg : Config) (nse : cfg.nse = true) (events : List Event) :
    Along (step cfg) (Lawful cfg) {} events ↔ Along (step cfg) (Met cfg) {} events := by
  have initially : Marked {} := fun closed => by cases closed
  refine @along_congr _ _ (step cfg) _ _ Marked (step_marked nse) ?_ {} events initially
  intro session event marked
  cases event with
  | call call => exact Iff.rfl
  | restored => exact Iff.rfl
  | tick day tick resolvable first second restored =>
    exact tick_lawful_iff nse marked resolvable first second restored

/-! ## Two days of an index -/

def nifty : Config := ⟨true, 50, 1⟩

def tickAt (day : Nat) (ltp : Rat) (time : Nat) : Event := .tick day ⟨ltp, time⟩ true [] [] false

/-- One pinned strike and no chain: the close has nothing to drop. -/
def pinnedDay : List Event :=
  [.call (.pinStrike 24000), tickAt 0 24010 marketOpen, tickAt 0 24040 nseClose,
    tickAt 0 24060 (nseClose + 60)]

theorem lawful_on_a_pinned_day : Along (step nifty) (Lawful nifty) {} pinnedDay :=
  (session_lawful_iff nifty rfl pinnedDay).mpr (by decide +kernel)

/-- A chain over the close, a drift after it, and a restore before the next day. -/
def chainDays : List Event :=
  [.call .enableChain, tickAt 0 24010 marketOpen, tickAt 0 24010 nseClose,
    tickAt 0 24200 (nseClose + 60), .restored, tickAt 1 24200 marketOpen]

/-- The close drops nothing, the tick after it rebalances, and the next day does not
subscribe. -/
theorem close_drops_nothing :
    let closed := run (step nifty) {} (chainDays.take 3)
    let evening := run (step nifty) {} (chainDays.take 4)
    let morning := run (step nifty) {} chainDays
    closed.rebalancer.state.activeStrikes = {23950, 24000, 24050} ∧
      closed.rebalancer.state.pinnedStrikes = ∅ ∧
      evening.rebalancer.state.rebalanceCount = 1 ∧
      evening.rebalancer.state.activeStrikes = {24150, 24200, 24250} ∧
      morning.rebalancer.state.openAtm = none ∧
      morning.rebalancer.calls = evening.rebalancer.calls ∧
      ¬Along (step nifty) (Lawful nifty) {} chainDays := by
  refine ⟨by decide +kernel, by decide +kernel, by decide +kernel, by decide +kernel,
    by decide +kernel, by decide +kernel, ?_⟩
  intro along
  exact absurd (along.2.2.1.unsubscribes (by decide) (by decide)) (by decide +kernel)

end OptionChain.SessionClose
