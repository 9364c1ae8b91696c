import OptionChain.FeedSubscriptions
import OptionChain.Runs

/-!
# Who runs a feeder again

A feeder's socket loop swallows whatever ends the socket and returns. `BaseFeeder.run`
hands on how the loop ended, and both supervisors, the stream task of the dual feeder
and the feeder task of the global one, take a return for a clean exit and end with it.
Over the initial feeder there is also the heartbeat of the global feeder. After a
silence it disconnects, connects and starts a new feeder task, unless the old one is
not done; the old one cannot be, for neither call gives it the chance to notice.

The delays between attempts are left out, and so is which ticks arrive: a beat says
whether it found the feed silent.
-/

namespace OptionChain.FeedSupervision

open FeedSubscriptions (Provider)
open Runs

section Layers

/-- How the blocking `connect` of a socket ends. -/
inductive SocketOutcome where
  | closed
  | raised
deriving DecidableEq

/-- How a coroutine ends. -/
inductive Finish where
  | returned
  | raised
deriving DecidableEq

/-- How `feeder.connect()` ends. -/
inductive ConnectResult where
  | ok
  | failed
  | raised
deriving DecidableEq

/-- A task that runs a feeder: in `feeder.run()`, there but on a socket that was
disconnected, in the sleep before a reconnect, or done. -/
inductive Task where
  | streaming
  | unwinding
  | sleeping
  | ended
deriving DecidableEq

/-- `_ws_loop`; without a socket it returns at once. -/
def wsLoop : Option SocketOutcome → Finish
  | none | some .closed | some .raised => .returned

/-- `BaseFeeder.run`: the flush and the parse task swallow their exceptions. -/
def baseRun (loop : Finish) : Finish := loop

/-- The loops of `_run_stream` and `_run_feeder` once `feeder.run()` is over. -/
def afterRun : Finish → Task
  | .returned => .ended
  | .raised => .sleeping

/-- The same loops after the reconnect that follows a sleep. -/
def runAgain (connected : Bool) : Task :=
  if connected then .streaming else afterRun (baseRun (wsLoop none))

end Layers

section Tasks

/-- The initial feeder: its task, whether the socket of the last successful connect has
neither ended nor been closed, and whether the heartbeat task runs. -/
structure InitialFeeder where
  task : Task
  live : Bool
  heartbeat : Bool
deriving DecidableEq

/-- The global feeder with the stream tasks of its dual feeder. -/
structure Feed where
  initial : Option InitialFeeder
  streams : Provider → Option Task

inductive Event where
  | streamEnds (provider : Provider) (outcome : SocketOutcome)
  | streamSlept (provider : Provider) (result : ConnectResult)
  | initialEnds (outcome : SocketOutcome)
  | oldSocketEnds (outcome : SocketOutcome)
  | initialSlept (result : ConnectResult)
  | beat (silent : Bool) (result : ConnectResult)
  | startDual (upstox fyers : ConnectResult)
  | startSingle (provider : Provider) (result : ConnectResult)
  | stop

namespace InitialFeeder

/-- The socket ends under the feeder task. -/
def ends (feeder : InitialFeeder) (outcome : SocketOutcome) : InitialFeeder :=
  if feeder.task = .streaming then
    { feeder with task := afterRun (baseRun (wsLoop (some outcome))), live := false }
  else feeder

/-- The socket that was disconnected before comes back to its task. -/
def oldEnds (feeder : InitialFeeder) (outcome : SocketOutcome) : InitialFeeder :=
  if feeder.task = .unwinding then
    { feeder with task := afterRun (baseRun (wsLoop (some outcome))) }
  else feeder

/-- `disconnect`. -/
def disconnect (feeder : InitialFeeder) : InitialFeeder :=
  { feeder with
    task := if feeder.task = .streaming then .unwinding else feeder.task
    live := false }

/-- `_reconnect` after the sleep of the feeder task, which an exception ends. -/
def slept (feeder : InitialFeeder) (result : ConnectResult) : InitialFeeder :=
  if feeder.task = .sleeping then
    match result with
    | .ok => { feeder with task := runAgain true, live := true }
    | .failed => { feeder with task := runAgain false, live := false }
    | .raised => { feeder with task := .ended, live := false }
  else feeder

/-- `_reconnect` in the heartbeat, which an exception ends. -/
def reconnect (feeder : InitialFeeder) (result : ConnectResult) : InitialFeeder :=
  let feeder := feeder.disconnect
  match result with
  | .ok =>
      { feeder with task := if feeder.task = .ended then .streaming else feeder.task, live := true }
  | .failed => feeder
  | .raised => { feeder with heartbeat := false }

end InitialFeeder

/-- A stream task is created if the feeder connects; an exception counts as a failure. -/
def started (result : ConnectResult) : Option Task := if result = .ok then some .streaming else none

def step (feed : Feed) : Event → Feed
  | .streamEnds provider outcome =>
      { feed with
        streams := Function.update feed.streams provider
          ((feed.streams provider).map fun task =>
            if task = .streaming then afterRun (baseRun (wsLoop (some outcome))) else task) }
  | .streamSlept provider result =>
      { feed with
        streams := Function.update feed.streams provider
          ((feed.streams provider).map fun task =>
            if task = .sleeping then runAgain (decide (result = .ok)) else task) }
  | .initialEnds outcome =>
      { feed with initial := feed.initial.map fun feeder => feeder.ends outcome }
  | .oldSocketEnds outcome =>
      { feed with initial := feed.initial.map fun feeder => feeder.oldEnds outcome }
  | .initialSlept result =>
      { feed with initial := feed.initial.map fun feeder => feeder.slept result }
  | .beat silent result =>
      { feed with
        initial := feed.initial.map fun feeder =>
          if feeder.heartbeat && silent then feeder.reconnect result else feeder }
  | .startDual upstox fyers =>
      ⟨none, fun provider => match provider with
        | .upstox => started upstox
        | .fyers => started fyers⟩
  | .startSingle provider result =>
      ⟨none, Function.update (fun _ => none) provider (started result)⟩
  | .stop => ⟨none, fun _ => none⟩

/-- After the constructor, or after `start` if the initial feeder has connected. -/
def opening (connected : Bool) : Feed :=
  ⟨if connected then some ⟨.streaming, true, true⟩ else none, fun _ => none⟩

end Tasks

section Supervision

/-- A connected socket has its task, and some task will run the feeder again. -/
structure Kept (feeder : InitialFeeder) : Prop where
  restarted : feeder.live = true → feeder.task = .streaming
  watched : feeder.task = .streaming ∨ feeder.task = .sleeping ∨ feeder.heartbeat = true

/-- Every stream task that was started and not stopped is there to run its feeder, and
the initial feeder is kept. -/
structure Supervised (feed : Feed) : Prop where
  streams : ∀ provider, feed.streams provider ≠ some .ended
  initial : ∀ feeder ∈ feed.initial, Kept feeder

/-- No socket ends under a stream task, and a reconnect by the heartbeat does not raise
and succeeds only if the feeder task has ended before. -/
def Spared (feed : Feed) : Event → Prop
  | .streamEnds provider _ => feed.streams provider = none
  | .beat silent result => ∀ feeder ∈ feed.initial, feeder.heartbeat = true → silent = true →
      result ≠ .raised ∧ (result = .ok → feeder.task = .ended)
  | .streamSlept _ _ | .initialEnds _ | .oldSocketEnds _ | .initialSlept _ | .startDual _ _
  | .startSingle _ _ | .stop => True

/-- No run of a feeder raises, so its task never sleeps; and the initial feeder does not
stream without the heartbeat. -/
structure Settled (feeder : InitialFeeder) : Prop where
  awake : feeder.task ≠ .sleeping
  beating : feeder.task = .streaming → feeder.heartbeat = true

structure Steady (feed : Feed) : Prop where
  streams : ∀ provider, ∀ task ∈ feed.streams provider, task = .streaming ∨ task = .ended
  initial : ∀ feeder ∈ feed.initial, Settled feeder

variable {feeder : InitialFeeder}

theorem ends_kept (settled : Settled feeder) (kept : Kept feeder) (outcome : SocketOutcome) :
    Settled (feeder.ends outcome) ∧ Kept (feeder.ends outcome) := by
  unfold InitialFeeder.ends
  by_cases streaming : feeder.task = .streaming
  · rw [if_pos streaming]
    have ended : afterRun (baseRun (wsLoop (some outcome))) = .ended := by cases outcome <;> rfl
    rw [ended]
    have beats := settled.beating streaming
    exact ⟨⟨Task.noConfusion, Task.noConfusion⟩, ⟨Bool.noConfusion, Or.inr (Or.inr beats)⟩⟩
  · rw [if_neg streaming]
    exact ⟨settled, kept⟩

theorem oldEnds_kept (settled : Settled feeder) (kept : Kept feeder) (outcome : SocketOutcome) :
    Settled (feeder.oldEnds outcome) ∧ Kept (feeder.oldEnds outcome) := by
  unfold InitialFeeder.oldEnds
  by_cases unwinding : feeder.task = .unwinding
  · rw [if_pos unwinding]
    have ended : afterRun (baseRun (wsLoop (some outcome))) = .ended := by cases outcome <;> rfl
    rw [ended]
    obtain ⟨restarted, watched⟩ := kept
    rw [unwinding] at restarted watched
    simp only [reduceCtorEq, false_or, imp_false] at restarted watched
    exact ⟨⟨Task.noConfusion, Task.noConfusion⟩,
      ⟨fun live => absurd live restarted, Or.inr (Or.inr watched)⟩⟩
  · rw [if_neg unwinding]
    exact ⟨settled, kept⟩

theorem slept_settled (settled : Settled feeder) (result : ConnectResult) :
    feeder.slept result = feeder := if_neg settled.awake

/-- Disconnecting leaves no task on a live socket, and the heartbeat as it was. -/
theorem disconnect_spec (settled : Settled feeder) :
    (feeder.disconnect.task = .ended ↔ feeder.task = .ended) ∧
      feeder.disconnect.task ≠ .streaming ∧ feeder.disconnect.task ≠ .sleeping ∧
      feeder.disconnect.live = false ∧ feeder.disconnect.heartbeat = feeder.heartbeat := by
  have awake := settled.awake
  unfold InitialFeeder.disconnect
  cases task : feeder.task with
  | sleeping => exact absurd task awake
  | streaming | unwinding | ended => simp

/-- The heartbeat keeps the initial feeder exactly if it does not raise, and connects only
after the feeder task has ended. -/
theorem reconnect_spec (settled : Settled feeder) (beats : feeder.heartbeat = true)
    (result : ConnectResult) :
    Settled (feeder.reconnect result) ∧
      (Kept (feeder.reconnect result) ↔
        result ≠ .raised ∧ (result = .ok → feeder.task = .ended)) := by
  obtain ⟨ended, idle, awake, silent, same⟩ := disconnect_spec settled
  rw [beats] at same
  unfold InitialFeeder.reconnect
  cases result with
  | ok =>
    by_cases done : feeder.task = .ended
    · simp only [if_pos (ended.mpr done)]
      exact ⟨⟨Task.noConfusion, fun _ => same⟩,
        iff_of_true ⟨fun _ => rfl, Or.inl rfl⟩ ⟨ConnectResult.noConfusion, fun _ => done⟩⟩
    · simp only [if_neg (mt ended.mp done)]
      exact ⟨⟨awake, fun running => absurd running idle⟩,
        iff_of_false (fun kept => idle (kept.restarted rfl)) fun due => done (due.2 trivial)⟩
  | failed =>
    have dark : feeder.disconnect.live ≠ true := by rw [silent]; exact Bool.noConfusion
    exact ⟨⟨awake, fun running => absurd running idle⟩,
      iff_of_true ⟨fun live => absurd live dark, Or.inr (Or.inr same)⟩
        ⟨ConnectResult.noConfusion, ConnectResult.noConfusion⟩⟩
  | raised =>
    refine ⟨⟨awake, fun running => absurd running idle⟩, iff_of_false ?_ fun due => due.1 rfl⟩
    intro kept
    rcases kept.watched with running | sleeping | beating
    · exact idle running
    · exact awake sleeping
    · cases beating

theorem started_cases (result : ConnectResult) :
    started result = none ∨ started result = some .streaming := by
  cases result with
  | ok => exact Or.inr rfl
  | failed | raised => exact Or.inl rfl

/-- New streams are steady and supervised. -/
theorem fresh_supervised {streams : Provider → Option Task}
    (fresh : ∀ provider, streams provider = none ∨ streams provider = some .streaming) :
    Steady ⟨none, streams⟩ ∧ Supervised ⟨none, streams⟩ := by
  have nobody {P : InitialFeeder → Prop} : ∀ feeder ∈ (none : Option InitialFeeder), P feeder :=
    fun _ running => Option.noConfusion rfl (heq_of_eq running)
  refine ⟨⟨?_, nobody⟩, ⟨?_, nobody⟩⟩
  · intro provider task running
    rcases fresh provider with absent | streaming
    · cases absent.symm.trans running
    · cases streaming.symm.trans running
      exact Or.inl rfl
  · intro provider ended
    rcases fresh provider with absent | streaming
    · cases absent.symm.trans ended
    · cases streaming.symm.trans ended

/-- The end of a socket ends its stream task, whichever way the socket ends. -/
theorem streamEnds_eq {feed : Feed} {provider : Provider}
    (running : feed.streams provider = some .streaming) (outcome : SocketOutcome) :
    step feed (.streamEnds provider outcome) =
      { feed with streams := Function.update feed.streams provider (some .ended) } := by
  have ends : afterRun (baseRun (wsLoop (some outcome))) = .ended := by cases outcome <;> rfl
  simp only [step, running, Option.map_some, if_true, ends]

theorem streamEnds_none {feed : Feed} {provider : Provider}
    (absent : feed.streams provider = none) (outcome : SocketOutcome) :
    step feed (.streamEnds provider outcome) = feed := by
  simp only [step, absent, Option.map_none]
  rw [← absent, Function.update_eq_self]

/-- No stream task sleeps, so none wakes. -/
theorem streamSlept_eq {feed : Feed} (steady : Steady feed) (provider : Provider)
    (result : ConnectResult) : step feed (.streamSlept provider result) = feed := by
  cases stream : feed.streams provider with
  | none =>
    simp only [step, stream, Option.map_none]
    rw [← stream, Function.update_eq_self]
  | some task =>
    have awake : task ≠ .sleeping := by
      rcases steady.streams provider task stream with rfl | rfl <;> exact Task.noConfusion
    simp only [step, stream, Option.map_some, if_neg awake]
    rw [← stream, Function.update_eq_self]

section Step

variable {feed : Feed} (steady : Steady feed) (supervised : Supervised feed)

include steady supervised

/-- An event of the initial feeder alone that keeps it. -/
theorem alone_supervised {change : InitialFeeder → InitialFeeder} {event : Event}
    (moved : step feed event = { feed with initial := feed.initial.map change })
    (spared : Spared feed event)
    (keeps : ∀ feeder ∈ feed.initial, Settled (change feeder) ∧ Kept (change feeder)) :
    Steady (step feed event) ∧ (Supervised (step feed event) ↔ Spared feed event) := by
  rw [moved]
  refine ⟨⟨steady.streams, ?_⟩, iff_of_true ⟨supervised.streams, ?_⟩ spared⟩
  all_goals
    intro later running
    obtain ⟨feeder, was, rfl⟩ := Option.mem_map.mp running
  · exact (keeps feeder was).1
  · exact (keeps feeder was).2

/-- A beat reconnects the initial feeder where it was silent, and spares it elsewhere. -/
theorem beat_supervised_iff (silent : Bool) (result : ConnectResult) :
    Steady (step feed (.beat silent result)) ∧
      (Supervised (step feed (.beat silent result)) ↔ Spared feed (.beat silent result)) := by
  have moved (feeder : InitialFeeder) (was : feeder ∈ feed.initial) :=
    reconnect_spec (steady.initial feeder was)
  constructor
  · refine ⟨steady.streams, ?_⟩
    intro later running
    obtain ⟨feeder, was, rfl⟩ := Option.mem_map.mp running
    by_cases due : (feeder.heartbeat && silent) = true
    · rw [if_pos due]
      exact (moved feeder was (Bool.and_eq_true_iff.mp due).1 result).1
    · rw [if_neg due]
      exact steady.initial feeder was
  · constructor
    · intro after feeder was beats quiet
      have kept := after.initial _ (Option.mem_map_of_mem _ was)
      rw [if_pos (Bool.and_eq_true_iff.mpr ⟨beats, quiet⟩)] at kept
      exact (moved feeder was beats result).2.mp kept
    · intro spared
      refine ⟨supervised.streams, ?_⟩
      intro later running
      obtain ⟨feeder, was, rfl⟩ := Option.mem_map.mp running
      by_cases due : (feeder.heartbeat && silent) = true
      · rw [if_pos due]
        obtain ⟨beats, quiet⟩ := Bool.and_eq_true_iff.mp due
        exact (moved feeder was beats result).2.mpr (spared feeder was beats quiet)
      · rw [if_neg due]
        exact supervised.initial feeder was

/-- The end of a socket leaves the stream task that served it ended. -/
theorem streamEnds_supervised_iff (provider : Provider) (outcome : SocketOutcome) :
    Steady (step feed (.streamEnds provider outcome)) ∧
      (Supervised (step feed (.streamEnds provider outcome)) ↔
        Spared feed (.streamEnds provider outcome)) := by
  cases stream : feed.streams provider with
  | none =>
    rw [streamEnds_none stream]
    exact ⟨steady, iff_of_true supervised stream⟩
  | some task =>
    rcases steady.streams provider task stream with rfl | rfl
    · rw [streamEnds_eq stream]
      refine ⟨⟨?_, steady.initial⟩, iff_of_false ?_ (by simp [Spared, stream])⟩
      · intro other task running
        change Function.update feed.streams provider (some .ended) other = some task at running
        by_cases same : other = provider
        · rw [same, Function.update_self] at running
          exact Or.inr (Option.some.inj running).symm
        · rw [Function.update_of_ne same] at running
          exact steady.streams other task running
      · intro after
        exact after.streams provider (Function.update_self ..)
    · exact absurd stream (supervised.streams provider)

/-- One event keeps the feed steady; and it stays supervised exactly under the condition. -/
theorem step_supervised_iff (event : Event) :
    Steady (step feed event) ∧ (Supervised (step feed event) ↔ Spared feed event) := by
  cases event with
  | initialEnds outcome =>
    exact alone_supervised steady supervised rfl trivial fun feeder was =>
      ends_kept (steady.initial feeder was) (supervised.initial feeder was) outcome
  | oldSocketEnds outcome =>
    exact alone_supervised steady supervised rfl trivial fun feeder was =>
      oldEnds_kept (steady.initial feeder was) (supervised.initial feeder was) outcome
  | initialSlept result =>
    refine alone_supervised steady supervised rfl trivial fun feeder was => ?_
    rw [slept_settled (steady.initial feeder was)]
    exact ⟨steady.initial feeder was, supervised.initial feeder was⟩
  | beat silent result => exact beat_supervised_iff steady supervised silent result
  | streamEnds provider outcome =>
    exact streamEnds_supervised_iff steady supervised provider outcome
  | streamSlept provider result =>
    rw [streamSlept_eq steady]
    exact ⟨steady, iff_of_true supervised trivial⟩
  | startDual upstox fyers =>
    have fresh : Steady (step feed (.startDual upstox fyers)) ∧
        Supervised (step feed (.startDual upstox fyers)) := by
      apply fresh_supervised
      rintro (_ | _)
      · exact started_cases upstox
      · exact started_cases fyers
    exact ⟨fresh.1, iff_of_true fresh.2 trivial⟩
  | startSingle provider result =>
    have fresh : Steady (step feed (.startSingle provider result)) ∧
        Supervised (step feed (.startSingle provider result)) := by
      apply fresh_supervised
      intro other
      by_cases same : other = provider
      · rw [same, Function.update_self]
        exact started_cases result
      · exact Or.inl (Function.update_of_ne same ..)
    exact ⟨fresh.1, iff_of_true fresh.2 trivial⟩
  | stop =>
    have fresh : Steady (step feed .stop) ∧ Supervised (step feed .stop) :=
      fresh_supervised fun _ => Or.inl rfl
    exact ⟨fresh.1, iff_of_true fresh.2 trivial⟩

end Step

theorem opening_supervised (connected : Bool) :
    Steady (opening connected) ∧ Supervised (opening connected) := by
  cases connected with
  | false => exact fresh_supervised fun _ => Or.inl rfl
  | true =>
    refine ⟨⟨?_, ?_⟩, ⟨?_, ?_⟩⟩
    · rintro provider task ⟨⟩
    · rintro feeder ⟨⟩
      exact ⟨Task.noConfusion, fun _ => rfl⟩
    · rintro provider ⟨⟩
    · rintro feeder ⟨⟩
      exact ⟨fun _ => rfl, Or.inl rfl⟩

/-- The feeds are supervised after every event of a run if and only if every event
spares them. -/
theorem feeds_supervised_iff (connected : Bool) (events : List Event) :
    Along step (fun feed event => Supervised (step feed event)) (opening connected) events ↔
      Along step Spared (opening connected) events := by
  obtain ⟨steady, supervised⟩ := opening_supervised connected
  have kept (feed : Feed) (event : Event) (steady : Steady feed) (supervised : Supervised feed) :
      Steady (step feed event) := (step_supervised_iff steady supervised event).1
  have exact (feed : Feed) (event : Event) (steady : Steady feed) (supervised : Supervised feed) :
      Supervised (step feed event) ↔ Spared feed event :=
    (step_supervised_iff steady supervised event).2
  exact along_exact step kept exact _ events steady supervised

/-- A closed socket ends the stream for good, and a reconnect of a silent feed leaves the
new socket without a task. -/
theorem closed_socket_ends_stream :
    ¬ Supervised (run step (opening true) [.startDual .ok .ok, .streamEnds .upstox .closed]) ∧
      (run step (opening true) [.beat true .ok, .oldSocketEnds .closed]).initial =
        some ⟨.ended, true, true⟩ ∧
      ¬ Supervised (run step (opening true) [.beat true .ok, .oldSocketEnds .closed]) := by
  refine ⟨fun supervised => supervised.streams .upstox rfl, rfl, fun supervised => ?_⟩
  cases (supervised.initial _ rfl).restarted rfl

end Supervision

end OptionChain.FeedSupervision
