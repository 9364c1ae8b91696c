import Mathlib.Algebra.Order.Ring.Rat
import Mathlib.Data.Finset.Basic

/-!
# The crypto feed and its socket

Three tasks share one socket and one running flag. The manager connects the feeder once
and then makes its passes, which send over the socket. The reconnect loop runs the
feeder, and when its receive loop ends it sleeps, disconnects and connects again. Each
connect starts a watchdog, which closes the socket after a silence.

The flag is set by `BaseFeeder.run` and cleared by `disconnect`, so it is not set while
the feeder connects; the watchdog that is started there ends if it finds it so at its
first look. Nothing guards the sends of the manager's passes.

What the sends are about is left to the events, and so are the delays; times are those
of `time.monotonic()`. What happens after `stop` is left out.
-/

namespace OptionChain.DeltaFeed

section Tasks

/-- `_STALE_TICK_SEC`. -/
def staleTickSec : Rat := 300

/-- `DeltaChainManager.run`: in `connect`, in the send there, in the sleep after a failure,
in a pass, in the sleep between two passes, or over. -/
inductive ManagerTask where
  | connecting
  | resubscribing
  | pausing
  | passing
  | sleeping
  | ended
deriving DecidableEq

/-- `_run_feeder_with_reconnect`: not there yet, about to start, in `feeder.run()`, in the
sleep after it, in `connect` or in the send there. -/
inductive ReconnectTask where
  | absent
  | created
  | running
  | sleeping
  | connecting
  | resubscribing
deriving DecidableEq

/-- `_heartbeat_loop`: up to its first look at the flag, in its sleep, or over. -/
inductive Watchdog where
  | absent
  | starting
  | sleeping
  | ended
deriving DecidableEq

/-- Who calls `connect`. -/
inductive Caller where
  | manager
  | reconnect

/-- Whose pass sends. -/
inductive Sender where
  | manager
  | rollover
deriving DecidableEq

inductive Change where
  | subscribe
  | unsubscribe

def Change.apply (subs tokens : Finset String) : Change → Finset String
  | .subscribe => subs ∪ tokens
  | .unsubscribe => subs \ tokens

/-- The tasks with the attributes of the feeder; of the socket, whether it is connected. -/
structure Feed where
  stopped : Bool
  manager : ManagerTask
  reconnect : ReconnectTask
  watchdog : Watchdog
  ws : Option Bool
  running : Bool
  subs : Finset String
  lastTick : Rat

inductive Event where
  | opened (caller : Caller) (now : Rat)
  | refused (caller : Caller)
  | resubscribed (caller : Caller) (ok : Bool)
  | paused
  | asks (sender : Sender) (change : Change) (tokens : Finset String) (raised : Bool)
  | passDone
  | managerWakes
  | feederStarts
  | receiveEnds
  | slept
  | watchdogStarts
  | watchdogWakes (now : Rat)
  | ticker (now : Rat)
  | stop

end Tasks

namespace Feed

variable (feed : Feed)

/-- The caller waits for the socket to open. -/
def connects : Caller → Bool
  | .manager => decide (feed.manager = .connecting)
  | .reconnect => decide (feed.reconnect = .connecting)

/-- The caller waits for the send in `connect`. -/
def resubscribes : Caller → Bool
  | .manager => decide (feed.manager = .resubscribing)
  | .reconnect => decide (feed.reconnect = .resubscribing)

/-- `feeder.run()` up to the receive. -/
def run : Feed := { feed with reconnect := .running, running := true }

/-- `connect` returns. The manager goes on with its first pass or tries again later; the
reconnect loop runs the feeder in either case. -/
def returns : Caller → Bool → Feed
  | .manager, true => { feed with manager := .passing, reconnect := .created }
  | .manager, false => { feed with manager := .pausing }
  | .reconnect, _ => feed.run

/-- The caller waits for the send. -/
def resubscribe : Caller → Feed
  | .manager => { feed with manager := .resubscribing }
  | .reconnect => { feed with reconnect := .resubscribing }

/-- `connect` once the socket is open. -/
def opened (caller : Caller) (now : Rat) : Feed :=
  let fresh : Feed := { feed with ws := some true, lastTick := now, watchdog := .starting }
  if feed.subs = ∅ then fresh.returns caller true else fresh.resubscribe caller

/-- The sender is in a pass. -/
def sends : Sender → Bool
  | .manager => decide (feed.manager = .passing)
  | .rollover => decide (feed.reconnect ≠ .absent)

/-- `subscribe_tokens` and `unsubscribe_tokens` in a pass. The worker that makes the
rollover's pass catches what is raised. -/
def asks (sender : Sender) (change : Change) (tokens : Finset String) (raised : Bool) : Feed :=
  { feed with
    subs := change.apply feed.subs tokens
    manager := if sender = .manager ∧ feed.ws ≠ none ∧ raised = true then .ended
      else feed.manager }

/-- The socket is closed, if there is one. -/
def close : Feed := { feed with ws := feed.ws.map fun _ => false }

/-- `disconnect`. -/
def disconnect : Feed :=
  { feed.close with
    running := false
    watchdog := if feed.watchdog = .absent then .absent else .ended }

/-- The watchdog looks at the flag and sleeps. -/
def look : Feed :=
  { feed with watchdog := if feed.running = true ∧ feed.ws ≠ none then .sleeping else .ended }

/-- The watchdog after a sleep. -/
def watch (now : Rat) : Feed :=
  if feed.running = false then { feed with watchdog := .ended }
  else if staleTickSec < now - feed.lastTick then { feed.close with watchdog := .ended }
  else feed.look

end Feed

def step (feed : Feed) (event : Event) : Feed :=
  if feed.stopped = true then feed
  else
    match event with
    | .opened caller now => if feed.connects caller then feed.opened caller now else feed
    | .refused caller => if feed.connects caller then feed.returns caller false else feed
    | .resubscribed caller ok => if feed.resubscribes caller then feed.returns caller ok else feed
    | .paused => if feed.manager = .pausing then { feed with manager := .connecting } else feed
    | .asks sender change tokens raised =>
        if feed.sends sender then feed.asks sender change tokens raised else feed
    | .passDone => if feed.manager = .passing then { feed with manager := .sleeping } else feed
    | .managerWakes => if feed.manager = .sleeping then { feed with manager := .passing } else feed
    | .feederStarts => if feed.reconnect = .created then feed.run else feed
    | .receiveEnds =>
        if feed.reconnect = .running then { feed.close with reconnect := .sleeping } else feed
    | .slept =>
        if feed.reconnect = .sleeping then { feed.disconnect with reconnect := .connecting }
        else feed
    | .watchdogStarts => if feed.watchdog = .starting then feed.look else feed
    | .watchdogWakes now => if feed.watchdog = .sleeping then feed.watch now else feed
    | .ticker now => { feed with lastTick := now }
    | .stop => { feed with stopped := true }

/-- When the manager begins to run. -/
def opening : Feed := ⟨false, .connecting, .absent, .absent, none, false, ∅, 0⟩

end OptionChain.DeltaFeed
