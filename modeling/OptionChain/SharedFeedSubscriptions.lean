import Mathlib.Data.Finset.Basic
import Mathlib.Data.Finset.Lattice.Lemmas
import OptionChain.Runs
import OptionChain.SharedFeedCodec

/-!
# What the shared feed delivers

The client keeps the tokens that are asked for, tells the server of every change, and
all of them again after a reconnect. The server keeps a set for each client, in which
nothing means everything, and compares a tick's instrument with it: an index by its
symbol, an option by its underlying. The commands of a connection arrive in order; when
the connection is gone they are lost, also those that are sent before the client
notices.

Other clients and the keepalives change nothing here and are left out.
-/

namespace OptionChain.SharedFeedSubscriptions

open Runs SharedFeedCodec

section Link

/-- A command on its way; the subscriptions after a reconnect are told apart. -/
inductive Command where
  | subscribe (instruments : Finset String)
  | unsubscribe (instruments : Finset String)
  | resend (instruments : Finset String)
deriving DecidableEq

/-- The client's tokens, whether it believes to be connected, what is on its way, and the
server's set for it while there is a connection. -/
structure Link where
  subscribed : Finset String
  connected : Bool
  inFlight : List Command
  subscriptions : Option (Finset String)
deriving DecidableEq

/-- `_handle_command`. -/
def handleCommand (subs : Finset String) : Command → Finset String
  | .subscribe instruments | .resend instruments => subs ∪ instruments
  | .unsubscribe instruments => subs \ instruments

/-- `_broadcast`, for one client. -/
def broadcasts (subs : Finset String) (instrument : String) : Prop :=
  subs = ∅ ∨ instrument ∈ subs

instance (subs : Finset String) (instrument : String) : Decidable (broadcasts subs instrument) :=
  inferInstanceAs (Decidable (_ ∨ _))

inductive Event where
  | subscribe (tokens : List String)
  | unsubscribe (tokens : List String)
  | handled
  | dropped
  | noticed
  | connects

/-- `_send_cmd`; without a connection the command is lost. -/
def send (link : Link) (command : Command) : Link :=
  if link.connected && link.subscriptions.isSome then
    { link with inFlight := link.inFlight ++ [command] }
  else link

/-- The server takes the next command. -/
def handle (link : Link) : Link :=
  match link.subscriptions, link.inFlight with
  | some subs, command :: rest =>
      { link with inFlight := rest, subscriptions := some (handleCommand subs command) }
  | _, _ => link

/-- `connect`, once the connection is open. -/
def connect (link : Link) : Link :=
  if link.connected then link
  else
    { link with
      connected := true
      inFlight := if link.subscribed = ∅ then [] else [.resend link.subscribed]
      subscriptions := some ∅ }

def step (link : Link) : Event → Link
  | .subscribe tokens =>
      send { link with subscribed := link.subscribed ∪ tokens.toFinset }
        (.subscribe tokens.toFinset)
  | .unsubscribe tokens =>
      send { link with subscribed := link.subscribed \ tokens.toFinset }
        (.unsubscribe tokens.toFinset)
  | .handled => handle link
  | .dropped => { link with inFlight := [], subscriptions := none }
  | .noticed => { link with connected := false, inFlight := [], subscriptions := none }
  | .connects => connect link

def opening : Link := ⟨∅, false, [], none⟩

end Link

section Delivery

/-- The name of a tick. -/
def symbolOf : BusTick → String
  | .index tick => tick.symbol
  | .option tick => tick.symbol

/-- What `_broadcast` is told of a tick. -/
def instrumentOf : BusTick → String
  | .index tick => tick.symbol
  | .option tick => tick.underlying

/-- The server would deliver a tick. -/
def Delivers (link : Link) (tick : BusTick) : Prop :=
  ∃ subs ∈ link.subscriptions, broadcasts subs (instrumentOf tick)

instance (link : Link) (tick : BusTick) : Decidable (Delivers link tick) :=
  inferInstanceAs (Decidable (∃ subs ∈ link.subscriptions, broadcasts subs (instrumentOf tick)))

/-- There is a connection, and the server knows of every change. -/
def Settled (link : Link) : Prop := link.subscriptions ≠ none ∧ link.inFlight = []

instance (link : Link) : Decidable (Settled link) := inferInstanceAs (Decidable (_ ∧ _))

/-- What one event must not do to a tick: a subscription that arrives does not stop it, it
is delivered while its symbol is among the client's tokens, and the end of a
subscription that arrives does not start it. -/
structure Monotone (tick : BusTick) (link : Link) (event : Event) : Prop where
  grows : event = .handled → ∀ tokens, link.inFlight.head? = some (.subscribe tokens) →
    Delivers link tick → Delivers (step link event) tick
  covers : Settled (step link event) → symbolOf tick ∈ (step link event).subscribed →
    Delivers (step link event) tick
  shrinks : event = .handled → ∀ tokens, link.inFlight.head? = some (.unsubscribe tokens) →
    Delivers (step link event) tick → Delivers link tick

/-- A subscription that arrives at an empty set names the tick's instrument or nothing, the
instrument is asked for whenever the symbol is, and what empties a set that was not
empty takes the instrument away. -/
structure Named (tick : BusTick) (link : Link) (event : Event) : Prop where
  grows : event = .handled → ∀ tokens, link.inFlight.head? = some (.subscribe tokens) →
    link.subscriptions = some ∅ → tokens = ∅ ∨ instrumentOf tick ∈ tokens
  covers : Settled (step link event) → symbolOf tick ∈ (step link event).subscribed →
    instrumentOf tick ∈ (step link event).subscribed
  shrinks : event = .handled → ∀ tokens, link.inFlight.head? = some (.unsubscribe tokens) →
    ∀ subs ∈ link.subscriptions, subs ≠ ∅ → subs ⊆ tokens → instrumentOf tick ∈ subs

/-- What is on its way makes the server's set the client's. -/
structure Synced (link : Link) : Prop where
  agree : ∀ subs ∈ link.subscriptions, link.inFlight.foldl handleCommand subs = link.subscribed
  idle : link.subscriptions = none → link.inFlight = []
  believed : link.subscriptions ≠ none → link.connected = true

end Delivery

section Exactness

variable {link : Link} {tick : BusTick}

theorem send_synced (synced : Synced link) (command : Command) (subscribed : Finset String)
    (follows : handleCommand link.subscribed command = subscribed) :
    Synced (send { link with subscribed := subscribed } command) := by
  unfold send
  cases connection : link.subscriptions with
  | none =>
    rw [Option.isSome_none, Bool.and_false, if_neg Bool.false_ne_true]
    exact ⟨by simp, fun _ => synced.idle connection, by simp⟩
  | some subs =>
    have believed := synced.believed (by simp [connection])
    rw [believed, Option.isSome_some, Bool.and_true, if_pos rfl]
    refine ⟨?_, by simp, fun _ => rfl⟩
    rintro other ⟨⟩
    rw [List.foldl_append, synced.agree subs connection]
    exact follows

theorem step_synced (synced : Synced link) (event : Event) : Synced (step link event) := by
  cases event with
  | subscribe tokens => exact send_synced synced _ _ rfl
  | unsubscribe tokens => exact send_synced synced _ _ rfl
  | handled =>
    change Synced (handle link)
    unfold handle
    cases connection : link.subscriptions with
    | none => exact synced
    | some subs =>
      cases waiting : link.inFlight with
      | nil => exact synced
      | cons command rest =>
        refine ⟨?_, by simp, fun _ => synced.believed (by simp [connection])⟩
        rintro other ⟨⟩
        have agree := synced.agree subs connection
        rw [waiting] at agree
        exact agree
  | dropped => exact ⟨nofun, fun _ => rfl, fun some => absurd rfl some⟩
  | noticed => exact ⟨nofun, fun _ => rfl, fun some => absurd rfl some⟩
  | connects =>
    change Synced (connect link)
    unfold connect
    split
    · exact synced
    · refine ⟨?_, nofun, fun _ => rfl⟩
      rintro subs ⟨⟩
      by_cases nothing : link.subscribed = ∅
      · simp [nothing]
      · simp [nothing, handleCommand]

/-- A settled server has the client's set. -/
theorem settled_subscriptions (synced : Synced link) (settled : Settled link) :
    link.subscriptions = some link.subscribed := by
  obtain ⟨subs, connection⟩ := Option.ne_none_iff_exists'.mp settled.1
  have agree := synced.agree subs connection
  rw [settled.2, List.foldl_nil] at agree
  rw [connection, agree]

theorem delivers_of {subs : Finset String} (connection : link.subscriptions = some subs) :
    Delivers link tick ↔ broadcasts subs (instrumentOf tick) := by
  simp [Delivers, connection]

/-- More instruments stop a tick only if there were none and it is not among them. -/
theorem broadcasts_union_iff (subs tokens : Finset String) (instrument : String) :
    (broadcasts subs instrument → broadcasts (subs ∪ tokens) instrument) ↔
      (subs = ∅ → tokens = ∅ ∨ instrument ∈ tokens) := by
  unfold broadcasts
  constructor
  · rintro kept rfl
    rw [Finset.empty_union] at kept
    exact kept (Or.inl rfl)
  · rintro named (rfl | member)
    · rw [Finset.empty_union]
      exact named rfl
    · exact Or.inr (Finset.mem_union_left tokens member)

/-- Fewer instruments start a tick only if none is left and it was not among them. -/
theorem broadcasts_sdiff_iff (subs tokens : Finset String) (instrument : String) :
    (broadcasts (subs \ tokens) instrument → broadcasts subs instrument) ↔
      (subs ≠ ∅ → subs ⊆ tokens → instrument ∈ subs) := by
  unfold broadcasts
  rw [Finset.sdiff_eq_empty_iff_subset]
  constructor
  · intro kept some emptied
    exact (kept (Or.inl emptied)).resolve_left some
  · rintro named (emptied | member)
    · exact or_iff_not_imp_left.mpr fun some => named some emptied
    · exact Or.inr (Finset.mem_sdiff.mp member).1

/-- One event is monotone for a tick exactly if the tick's instrument is named. -/
theorem monotone_iff (synced : Synced link) (event : Event) :
    Monotone tick link event ↔ Named tick link event := by
  have covered : (Settled (step link event) → symbolOf tick ∈ (step link event).subscribed →
      Delivers (step link event) tick) ↔ (Settled (step link event) →
      symbolOf tick ∈ (step link event).subscribed →
      instrumentOf tick ∈ (step link event).subscribed) := by
    refine forall_congr' fun settled => forall_congr' fun member => ?_
    rw [delivers_of (settled_subscriptions (step_synced synced event) settled)]
    exact or_iff_right (Finset.ne_empty_of_mem member)
  -- a command that arrives meets the server's set
  have arrives {command : Command} (waiting : link.inFlight.head? = some command) :
      ∃ subs, link.subscriptions = some subs ∧
        (step link .handled).subscriptions = some (handleCommand subs command) := by
    cases connection : link.subscriptions with
    | none =>
      rw [synced.idle connection] at waiting
      cases waiting
    | some subs =>
      obtain ⟨rest, queue⟩ := List.head?_eq_some_iff.mp waiting
      exact ⟨subs, rfl, by simp only [step, handle, connection, queue]⟩
  constructor
  · rintro ⟨grows, covers, shrinks⟩
    refine ⟨?_, covered.mp covers, ?_⟩
    · rintro rfl tokens waiting empty
      obtain ⟨subs, before, after⟩ := arrives waiting
      have kept := grows rfl tokens waiting
      rw [delivers_of before, delivers_of after] at kept
      obtain rfl := Option.some.inj (before.symm.trans empty)
      exact (broadcasts_union_iff ∅ tokens _).mp kept rfl
    · rintro rfl tokens waiting subs connection
      obtain ⟨_, before, after⟩ := arrives waiting
      obtain rfl := Option.some.inj (before.symm.trans connection)
      have kept := shrinks rfl tokens waiting
      rw [delivers_of before, delivers_of after] at kept
      exact (broadcasts_sdiff_iff _ tokens _).mp kept
  · rintro ⟨grows, covers, shrinks⟩
    refine ⟨?_, covered.mpr covers, ?_⟩
    · rintro rfl tokens waiting
      obtain ⟨subs, before, after⟩ := arrives waiting
      rw [delivers_of before, delivers_of after]
      apply (broadcasts_union_iff subs tokens _).mpr
      rintro rfl
      exact grows rfl tokens waiting before
    · rintro rfl tokens waiting
      obtain ⟨subs, before, after⟩ := arrives waiting
      rw [delivers_of before, delivers_of after]
      exact (broadcasts_sdiff_iff subs tokens _).mpr (shrinks rfl tokens waiting subs before)

/-- Every event of a run is monotone for a tick if and only if each finds the tick's
instrument named where it has to be. -/
theorem subscriptions_monotone_iff (tick : BusTick) (events : List Event) :
    Along step (Monotone tick) opening events ↔ Along step (Named tick) opening events := by
  have preserved (link : Link) (event : Event) (synced : Synced link) : Synced (step link event) :=
    step_synced synced event
  have agree (link : Link) (event : Event) (synced : Synced link) :
      Monotone tick link event ↔ Named tick link event := monotone_iff synced event
  exact along_congr step preserved agree opening events ⟨nofun, fun _ => rfl, nofun⟩

/-- A subscription to an Upstox key stops the ticks of the index, does not bring those of
the option, and its end starts both again. -/
theorem broker_token_silences :
    let index : BusTick := .index ⟨"NIFTY", 24500, 24500, 24500, 24500, 24500, 0, 33301000000⟩
    let option : BusTick := .option pricedCall
    let before := run step opening [.connects, .subscribe ["NSE_FO|40001"]]
    let after := run step before [.handled, .unsubscribe ["NSE_FO|40001"]]
    Delivers before index ∧ ¬ Delivers (step before .handled) index ∧
      symbolOf option ∈ (step before .handled).subscribed ∧
      Settled (step before .handled) ∧ ¬ Delivers (step before .handled) option ∧
      ¬ Delivers after index ∧ Delivers (step after .handled) index ∧
      ¬ Along step (Monotone index) opening [.connects, .subscribe ["NSE_FO|40001"], .handled] := by
  refine ⟨by decide, by decide, by decide, by decide,
    by decide, by decide, by decide, ?_⟩
  rintro ⟨-, -, last, -⟩
  have silenced := last.grows rfl {"NSE_FO|40001"} (by decide)
  revert silenced
  decide

end Exactness

end OptionChain.SharedFeedSubscriptions
