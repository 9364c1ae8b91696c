import Mathlib.Data.List.GetD
import OptionChain.EndlessRuns
import OptionChain.FeedStages

/-!
# How long the crypto feed lives

The manager should run up to a stop and make one pass after the other, the feeder should
run again after each reconnect, and a socket that falls silent should be given up. That
is so in every run that is spared: a connected socket leads from stage to stage to a tick
or to the next connect, and the manager from pass to pass.
-/

namespace OptionChain.FeedLifetime

open DeltaFeed EndlessRuns FeedStages

section Statement

variable (events : ℕ → Event)

/-- The state before each event. -/
abbrev feedAt : ℕ → Feed := trace step opening events

/-- A pass of the manager begins. -/
def Passes (feed : Feed) (event : Event) : Prop :=
  event = .managerWakes ∧ feed.manager = .sleeping

/-- `connect` returns `True` to the reconnect loop. -/
def Reconnects (feed : Feed) : Event → Prop
  | .opened .reconnect _ => feed.reconnect = .connecting ∧ feed.subs = ∅
  | .resubscribed .reconnect true => feed.reconnect = .resubscribing
  | _ => False

/-- No wait lasts for ever: sleeps end, tasks that are there get to run, sends and passes
come to an end, and so does the receive on a closed socket. -/
structure Fair : Prop where
  passDone : Answered step opening events
    (fun feed => feed.stopped = false ∧ feed.manager = .passing) (· = .passDone)
  managerWakes : Answered step opening events
    (fun feed => feed.stopped = false ∧ feed.manager = .sleeping) (· = .managerWakes)
  feederStarts : Answered step opening events
    (fun feed => feed.stopped = false ∧ feed.reconnect = .created) (· = .feederStarts)
  resubscribed : Answered step opening events
    (fun feed => feed.stopped = false ∧ feed.reconnect = .resubscribing)
    (fun event => ∃ ok, event = .resubscribed .reconnect ok)
  receiveEnds : Answered step opening events
    (fun feed => feed.stopped = false ∧ feed.reconnect = .running ∧ feed.ws ≠ some true)
    (· = .receiveEnds)
  slept : Answered step opening events
    (fun feed => feed.stopped = false ∧ feed.reconnect = .sleeping) (· = .slept)
  watchdogStarts : Answered step opening events
    (fun feed => feed.stopped = false ∧ feed.watchdog = .starting) (· = .watchdogStarts)
  watchdogWakes : ∀ late, Answered step opening events
    (fun feed => feed.stopped = false ∧ feed.watchdog = .sleeping)
    (fun event => ∃ now, late < now ∧ event = .watchdogWakes now)

/-- The feed outlives its socket. Up to a stop the manager runs and makes one pass after
the other, after each reconnect the feeder runs again, and after each connect there is a
tick at some time or the next connect. -/
structure Outlives : Prop where
  runs : ∀ n, (feedAt events n).stopped = false → (feedAt events n).manager ≠ .ended
  passes : Fair events → LeadsTo (fun n => (feedAt events n).reconnect ≠ .absent)
    (fun n => (feedAt events n).stopped = true ∨ Passes (feedAt events n) (events n))
  loops : ∀ n, (feedAt events n).stopped = false → Reconnects (feedAt events n) (events n) →
    (feedAt events (n + 1)).reconnect = .running ∧ (feedAt events (n + 1)).running = true
  closes : Fair events → LeadsTo (fun n => (feedAt events n).ws = some true)
    (fun n => (feedAt events n).stopped = true ∨ (∃ now, events n = .ticker now) ∨
      (feedAt events n).reconnect = .connecting)

end Statement

section Lifetime

variable {events : ℕ → Event} {feed : Feed} {event : Event}

theorem feedAt_wired (spared : ∀ n, Spared (feedAt events n) (events n)) (n : ℕ) :
    Wired (feedAt events n) := by
  have preserved : ∀ feed event, Wired feed → Spared feed event → Wired (step feed event) :=
    fun _ event wired fine => step_wired wired event fine
  exact trace_invariant preserved opening_wired spared n

theorem not_ended (wired : Wired feed) : feed.manager ≠ .ended := by
  intro ended
  by_cases absent : feed.reconnect = .absent
  · have before := (wired.before absent).2.2
    simp [ended] at before
  · have started := wired.manager absent
    simp [ended] at started

/-- The manager changes between passing and sleeping by its own events. -/
theorem manager_stays (wired : Wired feed) (there : feed.reconnect ≠ .absent)
    (spared : Spared feed event) (pass : event = .passDone → feed.manager ≠ .passing)
    (wake : event = .managerWakes → feed.manager ≠ .sleeping) :
    (step feed event).manager = feed.manager := by
  by_cases stopped : feed.stopped = true
  · rw [step_stopped stopped]
  obtain ⟨connects, resubscribes⟩ := wired.connected there
  cases event <;> simp only [step, if_neg stopped]
  case opened caller now =>
    cases caller with
    | manager => rw [if_neg connects]
    | reconnect =>
      rw [Feed.opened]
      split
      · split <;> rfl
      · rfl
  case refused caller =>
    cases caller with
    | manager => rw [if_neg connects]
    | reconnect => split <;> rfl
  case resubscribed caller ok =>
    cases caller with
    | manager => rw [if_neg resubscribes]
    | reconnect => split <;> rfl
  case paused =>
    rcases wired.manager there with started | started <;> simp [started]
  case asks sender change tokens raised =>
    split
    case isTrue sends =>
      refine if_neg ?_
      rintro ⟨rfl, -, rfl⟩
      exact absurd (spared (by simpa [Feed.sends] using sends)) (by simp)
    case isFalse => rfl
  case passDone => rw [if_neg (pass rfl)]
  case managerWakes => rw [if_neg (wake rfl)]
  case watchdogWakes now =>
    split
    · rw [Feed.watch]
      split
      · rfl
      · split <;> rfl
    · rfl
  case feederStarts => split <;> rfl
  case receiveEnds => split <;> rfl
  case slept => split <;> rfl
  case watchdogStarts => split <;> rfl

/-- From a stage to a goal that a stop reaches. -/
theorem stage_leadsTo (stage : Feed → Prop) {waits : Feed → Prop} {answer : Event → Prop}
    {goal : ℕ → Prop} (stops : ∀ n, (feedAt events n).stopped = true → goal n)
    (fair : Answered step opening events (fun feed => feed.stopped = false ∧ waits feed) answer)
    (waiting : ∀ n, stage (feedAt events n) → waits (feedAt events n))
    (moves : ∀ n, stage (feedAt events n) →
      goal n ∨ goal (n + 1) ∨ stage (feedAt events (n + 1)) ∧ ¬ answer (events n)) :
    LeadsTo (fun n => stage (feedAt events n)) goal := by
  have going : LeadsTo (fun n => (feedAt events n).stopped = false ∧ stage (feedAt events n))
      goal := by
    refine leadsTo_of_answered fair (fun n holds => ⟨holds.1, waiting n holds.2⟩) ?_
    rintro n ⟨-, holds⟩
    refine (moves n holds).imp_right ?_
    rintro (reached | ⟨stays, other⟩)
    · exact Or.inl reached
    · cases stopped : (feedAt events (n + 1)).stopped with
      | true => exact Or.inl (stops (n + 1) stopped)
      | false => exact Or.inr ⟨⟨rfl, stays⟩, other⟩
  intro n holds
  cases stopped : (feedAt events n).stopped with
  | true => exact ⟨n, Nat.le_refl n, stops n stopped⟩
  | false => exact going n ⟨stopped, holds⟩

variable (events) in
/-- The run is stopped, or a pass begins. -/
def Begun (n : ℕ) : Prop :=
  (feedAt events n).stopped = true ∨ Passes (feedAt events n) (events n)

variable (events) in
/-- The run is stopped, a tick comes, or the loop connects. -/
def Next (n : ℕ) : Prop :=
  (feedAt events n).stopped = true ∨ (∃ now, events n = .ticker now) ∨
    (feedAt events n).reconnect = .connecting

theorem next_of_over {n : ℕ} (done : Over (feedAt events n)) : Next events n :=
  done.imp id Or.inr

/-- From a stage of the feeder's tasks, if no tick comes, to one that follows. -/
theorem silent_leadsTo (stage middle : Feed → Prop) {waits : Feed → Prop}
    {answer : Event → Prop}
    (fair : Answered step opening events (fun feed => feed.stopped = false ∧ waits feed) answer)
    (waiting : ∀ n, stage (feedAt events n) → waits (feedAt events n))
    (moves : ∀ n, stage (feedAt events n) → (∀ now, events n ≠ .ticker now) →
      (Over (feedAt events (n + 1)) ∨ middle (feedAt events (n + 1))) ∨
        stage (feedAt events (n + 1)) ∧ ¬ answer (events n)) :
    LeadsTo (fun n => stage (feedAt events n))
      (fun n => Next events n ∨ middle (feedAt events n)) := by
  refine stage_leadsTo stage (fun n stopped => Or.inl (Or.inl stopped)) fair waiting ?_
  intro n holds
  by_cases tick : ∃ now, events n = .ticker now
  · exact Or.inl (Or.inl (Or.inr (Or.inl tick)))
  · refine Or.inr ((moves n holds fun now same => tick ⟨now, same⟩).imp_left ?_)
    exact Or.imp_left next_of_over

variable (spared : ∀ n, Spared (feedAt events n) (events n)) (fair : Fair events)

include spared fair

theorem sleeping_leadsTo :
    LeadsTo (fun n => (feedAt events n).reconnect = .sleeping) (Next events) := by
  have leads : LeadsTo (fun n => (feedAt events n).reconnect = .sleeping)
      (fun n => Next events n ∨ False) := by
    refine silent_leadsTo (fun feed => feed.reconnect = .sleeping) (fun _ => False) fair.slept
      (fun n holds => holds) fun n holds silent => ?_
    exact (sleeping_moves (feedAt_wired spared n) holds silent).imp_left Or.inl
  intro n holds
  obtain ⟨m, later, reached⟩ := leads n holds
  exact ⟨m, later, reached.resolve_right id⟩

theorem lost_leadsTo : LeadsTo (fun n => Lost (feedAt events n)) (Next events) := by
  refine LeadsTo.through ?_ (sleeping_leadsTo spared fair)
  refine silent_leadsTo Lost (fun feed => feed.reconnect = .sleeping) fair.receiveEnds
    (fun n lost => ⟨lost.running, lost.closed⟩) ?_
  exact fun n lost silent => lost_moves (feedAt_wired spared n) lost silent

theorem watched_leadsTo (tick : Rat) :
    LeadsTo (fun n => Watched tick (feedAt events n)) (Next events) := by
  refine LeadsTo.through ?_ ((lost_leadsTo spared fair).or (sleeping_leadsTo spared fair))
  refine silent_leadsTo (Watched tick) (fun feed => Lost feed ∨ feed.reconnect = .sleeping)
    (fair.watchdogWakes (staleTickSec + tick)) (fun n watched => watched.watchdog) ?_
  exact fun n watched silent => watched_moves (feedAt_wired spared n) watched silent

theorem fresh_leadsTo : LeadsTo (fun n => Fresh (feedAt events n)) (Next events) := by
  have watched : LeadsTo (fun n => ∃ tick, Watched tick (feedAt events n)) (Next events) := by
    rintro n ⟨tick, holds⟩
    exact watched_leadsTo spared fair tick n holds
  refine LeadsTo.through ?_ (watched.or (sleeping_leadsTo spared fair))
  refine silent_leadsTo Fresh
    (fun feed => (∃ tick, Watched tick feed) ∨ feed.reconnect = .sleeping)
    fair.watchdogStarts (fun n fresh => fresh.watchdog) ?_
  intro n fresh silent
  refine (fresh_moves (feedAt_wired spared n) fresh silent).imp_left (Or.imp_right ?_)
  exact Or.imp_left fun holds => ⟨_, holds⟩

theorem created_leadsTo :
    LeadsTo (fun n => Waiting .created (feedAt events n)) (Next events) := by
  refine LeadsTo.through ?_ (fresh_leadsTo spared fair)
  refine silent_leadsTo (Waiting .created) Fresh fair.feederStarts
    (fun n waiting => waiting.task) ?_
  intro n waiting silent
  refine (waiting_moves (feedAt_wired spared n) waiting (Or.inl rfl) (spared n) silent).imp_right ?_
  rintro ⟨stays, idle⟩
  refine ⟨stays, fun starts => idle ?_⟩
  rw [starts]
  exact waiting.task

theorem resubscribing_leadsTo :
    LeadsTo (fun n => Waiting .resubscribing (feedAt events n)) (Next events) := by
  refine LeadsTo.through ?_ (fresh_leadsTo spared fair)
  refine silent_leadsTo (Waiting .resubscribing) Fresh fair.resubscribed
    (fun n waiting => waiting.task) ?_
  intro n waiting silent
  refine (waiting_moves (feedAt_wired spared n) waiting (Or.inr rfl) (spared n) silent).imp_right ?_
  rintro ⟨stays, idle⟩
  refine ⟨stays, ?_⟩
  rintro ⟨ok, sent⟩
  apply idle
  rw [sent]
  exact waiting.task

/-- A connected socket leads to a tick or to the next connect. -/
theorem live_leadsTo : LeadsTo (fun n => (feedAt events n).ws = some true) (Next events) := by
  intro n live
  rcases (feedAt_wired spared n).socket live with ⟨waits, starting⟩ | ⟨running, watchdog⟩
  · rcases waits with created | resubscribing
    · exact created_leadsTo spared fair n ⟨created, live, starting⟩
    · exact resubscribing_leadsTo spared fair n ⟨resubscribing, live, starting⟩
  · rcases watchdog with starting | sleeping
    · exact fresh_leadsTo spared fair n ⟨running, live, starting⟩
    · exact watched_leadsTo spared fair _ n ⟨running, live, sleeping, rfl⟩

theorem sleeping_begins :
    LeadsTo (fun n => (feedAt events n).manager = .sleeping) (Begun events) := by
  refine stage_leadsTo (fun feed => feed.manager = .sleeping) (fun n stopped => Or.inl stopped)
    fair.managerWakes (fun n sleeping => sleeping) ?_
  intro n sleeping
  by_cases wake : events n = .managerWakes
  · exact Or.inl (Or.inr ⟨wake, sleeping⟩)
  · have wired := feedAt_wired spared n
    have there := wired.there (Or.inr sleeping)
    refine Or.inr (Or.inr ⟨?_, wake⟩)
    exact (manager_stays wired there (spared n) (by simp [sleeping])
      (fun same => absurd same wake)).trans sleeping

theorem passing_begins :
    LeadsTo (fun n => (feedAt events n).manager = .passing) (Begun events) := by
  refine LeadsTo.through ?_ (sleeping_begins spared fair)
  refine stage_leadsTo (fun feed => feed.manager = .passing)
    (fun n stopped => Or.inl (Or.inl stopped)) fair.passDone (fun n passing => passing) ?_
  intro n passing
  cases stopped : (feedAt events n).stopped with
  | true => exact Or.inl (Or.inl (Or.inl stopped))
  | false =>
    by_cases done : events n = .passDone
    · have sleeping : (feedAt events (n + 1)).manager = .sleeping := by
        change (step (feedAt events n) (events n)).manager = .sleeping
        simp only [done, step, stopped, if_pos passing, Bool.false_eq_true, if_false]
      exact Or.inr (Or.inl (Or.inr sleeping))
    · have wired := feedAt_wired spared n
      have there := wired.there (Or.inl passing)
      refine Or.inr (Or.inr ⟨?_, done⟩)
      exact (manager_stays wired there (spared n) (fun same => absurd same done)
        (by simp [passing])).trans passing

omit spared fair in
/-- The reconnect loop runs the feeder at once when `connect` returns. -/
theorem step_reconnects (stopped : feed.stopped = false) (reconnects : Reconnects feed event) :
    (step feed event).reconnect = .running ∧ (step feed event).running = true := by
  cases event with
  | opened caller now =>
    cases caller with
    | manager => exact reconnects.elim
    | reconnect =>
      obtain ⟨connecting, none⟩ := reconnects
      simp [step, stopped, Feed.connects, connecting, Feed.opened, none, Feed.returns, Feed.run]
  | resubscribed caller ok =>
    cases caller with
    | manager => exact reconnects.elim
    | reconnect =>
      cases ok with
      | false => exact reconnects.elim
      | true =>
        have waits : feed.reconnect = .resubscribing := reconnects
        simp [step, stopped, Feed.resubscribes, waits, Feed.returns, Feed.run]
  | _ => exact reconnects.elim

end Lifetime

section Claim

/-- A feed whose run is spared outlives its socket. -/
theorem spared_feed_outlives (events : ℕ → Event)
    (spared : ∀ n, Spared (feedAt events n) (events n)) : Outlives events := by
  refine ⟨fun n _ => not_ended (feedAt_wired spared n), fun fair => ?_, fun n stopped =>
    step_reconnects stopped, fun fair => live_leadsTo spared fair⟩
  intro n there
  rcases (feedAt_wired spared n).manager there with passing | sleeping
  · exact passing_begins spared fair n passing
  · exact sleeping_begins spared fair n sleeping

def oneToken : Finset String := {"C-BTC-90000-050126"}

/-- A silent socket is closed, the next connect fails and the one after it succeeds, and the
manager goes on meanwhile. -/
def silentSocket : List Event :=
  [.opened .manager 0, .feederStarts, .watchdogStarts, .asks .manager .subscribe oneToken false,
    .passDone, .watchdogWakes 60, .watchdogWakes 361, .receiveEnds, .slept, .refused .reconnect,
    .receiveEnds, .slept, .opened .reconnect 400, .managerWakes, .resubscribed .reconnect true,
    .watchdogStarts, .asks .manager .unsubscribe oneToken false, .passDone]

theorem silent_socket_outlived : Outlives fun n => silentSocket.getD n .stop := by
  refine spared_feed_outlives _ fun n => ?_
  by_cases within : n < 18
  · have early : ∀ n < 18, Spared (feedAt (fun n => silentSocket.getD n .stop) n)
        (silentSocket.getD n .stop) := by decide +kernel
    exact early n within
  · have late : silentSocket.getD n .stop = .stop :=
      List.getD_eq_default _ _ (Nat.le_of_not_lt within)
    simp only [late, Spared]

/-- A send of the first pass raises. -/
def brokenSend : ℕ → Event
  | 0 => .opened .manager 0
  | 1 => .asks .manager .subscribe oneToken true
  | _ + 2 => .passDone

/-- The watchdog looks before the feeder runs, and the socket is silent for ever. -/
def earlyLook : ℕ → Event
  | 0 => .opened .manager 0
  | 1 => .watchdogStarts
  | 2 => .feederStarts
  | n + 3 => if n % 2 = 0 then .passDone else .managerWakes

/-- The feeder waits for a message that does not come, and nobody watches. -/
theorem earlyLook_unwatched (n : ℕ) :
    (feedAt earlyLook (n + 3)).stopped = false ∧
      (feedAt earlyLook (n + 3)).reconnect = .running ∧
      (feedAt earlyLook (n + 3)).ws = some true ∧
      (feedAt earlyLook (n + 3)).watchdog = .ended := by
  induction n with
  | zero => exact ⟨rfl, rfl, rfl, rfl⟩
  | succ n inductionHypothesis =>
    have next : feedAt earlyLook (n + 1 + 3) =
        step (feedAt earlyLook (n + 3)) (if n % 2 = 0 then .passDone else .managerWakes) := rfl
    obtain ⟨stopped, rest⟩ := inductionHypothesis
    rw [next]
    split
    all_goals
      simp only [step, stopped, Bool.false_eq_true, if_false]
      split
      · exact ⟨rfl, rest⟩
      · exact ⟨stopped, rest⟩

theorem earlyLook_answered {waits : Feed → Prop} {answer : Event → Prop}
    (never : ∀ n, ¬ waits (feedAt earlyLook (n + 3))) :
    Answered step opening earlyLook waits answer := by
  intro n always
  exact absurd (always (n + 3) (Nat.le_add_right n 3)) (never n)

theorem earlyLook_fair : Fair earlyLook := by
  have even : ∀ n, earlyLook (2 * n + 3) = .passDone := by
    intro n
    simp [earlyLook]
  have odd : ∀ n, earlyLook (2 * n + 1 + 3) = .managerWakes := by
    intro n
    simp [earlyLook]
  refine ⟨fun n _ => ⟨2 * n + 3, by omega, even n⟩, fun n _ => ⟨2 * n + 1 + 3, by omega, odd n⟩,
    ?_, ?_, ?_, ?_, ?_, fun late => ?_⟩
  all_goals
    refine earlyLook_answered fun n => ?_
    obtain ⟨-, running, live, ended⟩ := earlyLook_unwatched n
    simp [running, live, ended]

/-- A send that raises ends the manager, and a watchdog that looks too early leaves a silent
socket open for ever. -/
theorem feed_dies : ¬ Outlives brokenSend ∧ ¬ Outlives earlyLook := by
  constructor
  · intro outlives
    exact outlives.runs 2 rfl rfl
  · intro outlives
    obtain ⟨m, later, reached⟩ := outlives.closes earlyLook_fair 3 rfl
    obtain ⟨n, rfl⟩ := Nat.exists_eq_add_of_le' later
    obtain ⟨stopped, running, -⟩ := earlyLook_unwatched n
    rcases reached with halted | ⟨now, tick⟩ | connecting
    · simp [stopped] at halted
    · simp only [earlyLook] at tick
      split at tick <;> cases tick
    · simp [running] at connecting

end Claim

end OptionChain.FeedLifetime
