import Mathlib.Algebra.BigOperators.Group.Finset.Piecewise
import Mathlib.Algebra.Ring.Nat
import Mathlib.Data.List.Nodup
import OptionChain.Mailboxes

/-!
# The event bus

Every component subscribes to a topic of the `EventBus` and drains a queue of its own.
`publish` puts an event on each queue of its topic and never waits: a queue that is full
misses the event, and the topic counts it.

`subscriber_lossless_iff` says what a subscriber may rely on. It receives the events
published on its topic while it is subscribed, in order and once each, exactly if its own
backlog never reaches the size of its queue; how the other subscribers keep up does not
enter. `drop_counts_exact` says that the counters account for every event that is missed.
-/

namespace OptionChain.PubSub

open Runs

variable {τ ε : Type} [DecidableEq τ]

/-- `EventBus`: every queue made so far by its number, `_subs` in the order of
subscription, and `_drop_counts`. A queue is listed once, under one topic. The size of the
queues never changes and is a parameter of what follows. -/
structure EventBus (τ ε : Type) where
  queues : List (List ε)
  subs : List (τ × Nat)
  dropCounts : τ → Nat
  distinct : (subs.map Prod.snd).Nodup
  made : ∀ sub ∈ subs, sub.2 < queues.length

namespace EventBus

/-- `__init__`. -/
def init : EventBus τ ε where
  queues := []
  subs := []
  dropCounts := fun _ => 0
  distinct := List.nodup_nil
  made := nofun

/-- The queue of a number. -/
def queue (bus : EventBus τ ε) (number : Nat) : List ε := (bus.queues[number]?).getD []

/-- `_subs.get(topic, [])`. -/
def listeners (bus : EventBus τ ε) (topic : τ) : List Nat :=
  (bus.subs.filter fun sub => decide (sub.1 = topic)).map Prod.snd

/-- `subscribe`: the queue that it returns has the next number. -/
def subscribe (bus : EventBus τ ε) (topic : τ) : EventBus τ ε :=
  { bus with
    queues := bus.queues ++ [[]]
    subs := bus.subs ++ [(topic, bus.queues.length)]
    distinct := by
      rw [List.map_append, List.nodup_append]
      refine ⟨bus.distinct, List.nodup_singleton _, ?_⟩
      rintro number listed fresh new rfl
      obtain ⟨sub, member, rfl⟩ := List.mem_map.mp listed
      have below := bus.made sub member
      rw [List.mem_singleton.mp new] at below
      exact Nat.lt_irrefl _ below
    made := by
      intro sub member
      rw [List.length_append, List.length_singleton]
      rcases List.mem_append.mp member with old | new
      · exact Nat.lt_succ_of_lt (bus.made sub old)
      · rw [List.mem_singleton.mp new]
        exact Nat.lt_succ_self _ }

/-- `unsubscribe`. A queue that is not listed is no error. -/
def unsubscribe (bus : EventBus τ ε) (topic : τ) (number : Nat) : EventBus τ ε :=
  { bus with
    subs := bus.subs.erase (topic, number)
    distinct := bus.distinct.sublist (List.erase_sublist.map Prod.snd)
    made := fun sub member => bus.made sub (List.mem_of_mem_erase member) }

/-- The body of the loop of `publish`: `put_nowait`, or one more event dropped. -/
def deliver (queueSize : Nat) (topic : τ) (event : ε) (bus : EventBus τ ε) (number : Nat) :
    EventBus τ ε :=
  if Mailboxes.full queueSize (bus.queue number) then
    { bus with
      dropCounts := Function.update bus.dropCounts topic (bus.dropCounts topic + 1) }
  else
    { bus with
      queues := bus.queues.modify number (· ++ [event])
      made := by
        intro sub member
        rw [List.length_modify]
        exact bus.made sub member }

/-- `publish`. -/
def publish (queueSize : Nat) (bus : EventBus τ ε) (topic : τ) (event : ε) : EventBus τ ε :=
  (bus.listeners topic).foldl (deliver queueSize topic event) bus

/-- A consumer takes the oldest event of its queue, if there is one. -/
def get (bus : EventBus τ ε) (number : Nat) : EventBus τ ε :=
  { bus with
    queues := bus.queues.modify number List.tail
    made := by
      intro sub member
      rw [List.length_modify]
      exact bus.made sub member }

end EventBus

inductive Event (τ ε : Type) where
  | subscribe (topic : τ)
  | unsubscribe (topic : τ) (number : Nat)
  | publish (topic : τ) (event : ε)
  | get (number : Nat)
deriving DecidableEq

/-- What the owner of a queue takes out of it. -/
def delivered (number : Nat) (bus : EventBus τ ε) : Event τ ε → List ε
  | .get other => if other = number then (bus.queue number).head?.toList else []
  | _ => []

/-- What happens at one queue. -/
def traffic (number : Nat) (bus : EventBus τ ε) : Event τ ε → List (Mailboxes.Event ε)
  | .publish topic event => if number ∈ bus.listeners topic then [.put event] else []
  | .get other => if other = number then [.get] else []
  | _ => []

/-- The events published on a topic until its subscriber unsubscribes. -/
def heard (topic : τ) (number : Nat) : List (Event τ ε) → List ε
  | [] => []
  | .publish other event :: rest =>
      if other = topic then event :: heard topic number rest else heard topic number rest
  | .unsubscribe other left :: rest =>
      if other = topic ∧ left = number then [] else heard topic number rest
  | _ :: rest => heard topic number rest

section Steps

variable (queueSize : Nat)

def step (bus : EventBus τ ε) : Event τ ε → EventBus τ ε
  | .subscribe topic => bus.subscribe topic
  | .unsubscribe topic number => bus.unsubscribe topic number
  | .publish topic event => bus.publish queueSize topic event
  | .get number => bus.get number

/-- A publication finds room in the queue of a subscriber. -/
def KeepsUp (number : Nat) (bus : EventBus τ ε) : Event τ ε → Prop
  | .publish topic _ => number ∈ bus.listeners topic →
      Mailboxes.full queueSize (bus.queue number) = false
  | _ => True

instance keepsUpDecidable (number : Nat) (bus : EventBus τ ε) :
    ∀ event, Decidable (KeepsUp queueSize number bus event)
  | .publish topic _ => inferInstanceAs (Decidable (number ∈ bus.listeners topic →
      Mailboxes.full queueSize (bus.queue number) = false))
  | .subscribe _ => .isTrue trivial
  | .unsubscribe _ _ => .isTrue trivial
  | .get _ => .isTrue trivial

/-- A publication on a topic that the queue of a subscriber misses. -/
def missed (topic : τ) (number : Nat) (bus : EventBus τ ε) : Event τ ε → List ε
  | .publish other event =>
      if other = topic ∧ number ∈ bus.listeners topic ∧
        Mailboxes.full queueSize (bus.queue number) = true then [event] else []
  | _ => []

end Steps

section Delivery

variable {queueSize : Nat} {bus : EventBus τ ε} {topic other : τ} {number seen : Nat} {event : ε}

theorem mem_listeners : number ∈ bus.listeners topic ↔ (topic, number) ∈ bus.subs := by
  simp [EventBus.listeners]

theorem listeners_nodup (bus : EventBus τ ε) (topic : τ) : (bus.listeners topic).Nodup :=
  bus.distinct.sublist (List.filter_sublist.map Prod.snd)

/-- A queue is listed under one topic. -/
theorem same_topic (listed : number ∈ bus.listeners topic)
    (again : number ∈ bus.listeners other) : topic = other := by
  have first := mem_listeners.mp listed
  have second := mem_listeners.mp again
  exact congrArg Prod.fst (List.inj_on_of_nodup_map bus.distinct first second rfl)

theorem listener_made (listed : number ∈ bus.listeners topic) : number < bus.queues.length :=
  bus.made _ (mem_listeners.mp listed)

/-- What a loop of deliveries leaves as it is. -/
theorem deliver_keeps (queueSize : Nat) (topic : τ) (event : ε) (bus : EventBus τ ε)
    (number : Nat) :
    (bus.deliver queueSize topic event number).subs = bus.subs ∧
      (bus.deliver queueSize topic event number).queues.length = bus.queues.length := by
  rw [EventBus.deliver]
  split
  · exact ⟨rfl, rfl⟩
  · exact ⟨rfl, List.length_modify _ _ _⟩

theorem deliver_queue (made : number < bus.queues.length) (topic : τ) (event : ε) (seen : Nat) :
    (bus.deliver queueSize topic event number).queue seen =
      if seen = number then Mailboxes.step queueSize (bus.queue seen) (.put event)
      else bus.queue seen := by
  by_cases same : seen = number
  · subst same
    rw [if_pos rfl, EventBus.deliver, Mailboxes.step]
    split
    · rfl
    · rw [EventBus.queue, EventBus.queue, List.getElem?_modify_eq]
      simp [List.getElem?_eq_getElem made]
  · rw [if_neg same, EventBus.deliver]
    split
    · rfl
    · rw [EventBus.queue, EventBus.queue, List.getElem?_modify_ne _ _ (Ne.symm same)]

theorem deliver_dropCounts (queueSize : Nat) (topic : τ) (event : ε) (bus : EventBus τ ε)
    (number : Nat) (counted : τ) :
    (bus.deliver queueSize topic event number).dropCounts counted = bus.dropCounts counted +
      if counted = topic ∧ Mailboxes.full queueSize (bus.queue number) = true
        then 1 else 0 := by
  rw [EventBus.deliver]
  by_cases full : Mailboxes.full queueSize (bus.queue number) = true
  · rw [if_pos full]
    by_cases same : counted = topic
    · subst same
      simp [full]
    · simp [same]
  · simp [full]

/-- The loop of `publish` over different queues: each gets the event once, and the topic
counts those that were full. -/
theorem deliver_loop (queueSize : Nat) (topic : τ) (event : ε) (numbers : List Nat)
    (distinct : numbers.Nodup) (bus : EventBus τ ε)
    (made : ∀ number ∈ numbers, number < bus.queues.length) :
    let after := numbers.foldl (EventBus.deliver queueSize topic event) bus
    (after.subs = bus.subs ∧ after.queues.length = bus.queues.length) ∧
      (∀ seen, after.queue seen =
        if seen ∈ numbers then Mailboxes.step queueSize (bus.queue seen) (.put event)
        else bus.queue seen) ∧
      ∀ counted, after.dropCounts counted = bus.dropCounts counted +
        if counted = topic then
          numbers.countP fun number => Mailboxes.full queueSize (bus.queue number)
        else 0 := by
  induction numbers generalizing bus with
  | nil => simp
  | cons number rest inductionHypothesis =>
    obtain ⟨fresh, others⟩ := List.nodup_cons.mp distinct
    obtain ⟨subs, length⟩ := deliver_keeps queueSize topic event bus number
    obtain ⟨kept, queues, counts⟩ := inductionHypothesis others
      (bus.deliver queueSize topic event number)
      (fun later member => length ▸ made later (List.mem_cons_of_mem _ member))
    have own := @deliver_queue _ _ _ queueSize bus number (made number List.mem_cons_self)
      topic event
    refine ⟨⟨kept.1.trans subs, kept.2.trans length⟩, ?_, ?_⟩
    · intro seen
      rw [List.foldl_cons, queues, own]
      by_cases same : seen = number
      · subst same
        simp [fresh]
      · simp [same]
    · intro counted
      have untouched : rest.countP (fun later => Mailboxes.full queueSize
            ((bus.deliver queueSize topic event number).queue later)) =
          rest.countP fun later => Mailboxes.full queueSize (bus.queue later) := by
        apply List.countP_congr
        intro later member
        have different : later ≠ number := fun same => fresh (same ▸ member)
        rw [own, if_neg different]
      rw [List.foldl_cons, counts, untouched, deliver_dropCounts, List.countP_cons]
      by_cases same : counted = topic
      · simp only [same, true_and, if_true]
        omega
      · simp [same]

/-- One event of the bus is a run of its own at each queue. -/
theorem queue_step (number : Nat) (bus : EventBus τ ε) (event : Event τ ε) :
    (step queueSize bus event).queue number =
      run (Mailboxes.step queueSize) (bus.queue number) (traffic number bus event) := by
  cases event with
  | subscribe topic =>
    simp only [step, EventBus.subscribe, EventBus.queue, traffic, run_nil]
    rcases Nat.lt_or_ge number bus.queues.length with old | new
    · rw [List.getElem?_append_left old]
    · rw [List.getElem?_append_right new, List.getElem?_eq_none new]
      cases number - bus.queues.length <;> rfl
  | unsubscribe topic other => rfl
  | publish topic event =>
    have loop := (deliver_loop queueSize topic event (bus.listeners topic)
      (listeners_nodup bus topic) bus fun other => listener_made).2.1 number
    rw [step, EventBus.publish, loop, traffic]
    split <;> rfl
  | get other =>
    simp only [step, EventBus.get, EventBus.queue, traffic]
    by_cases same : other = number
    · subst same
      rw [if_pos rfl, List.getElem?_modify_eq]
      cases bus.queues[other]? <;> rfl
    · rw [if_neg same, List.getElem?_modify_ne _ _ same]
      rfl

theorem delivered_step (number : Nat) (bus : EventBus τ ε) (event : Event τ ε) :
    delivered number bus event =
      sent (Mailboxes.step queueSize) Mailboxes.got (bus.queue number)
        (traffic number bus event) := by
  cases event with
  | subscribe topic => rfl
  | unsubscribe topic other => rfl
  | publish topic event =>
    simp only [delivered, traffic]
    split <;> rfl
  | get other =>
    simp only [delivered, traffic]
    split <;> simp [sent, Mailboxes.got]

/-- What an event of the bus does to the list of subscriptions. -/
theorem subs_step (bus : EventBus τ ε) (event : Event τ ε) :
    (step queueSize bus event).subs =
        (match event with
          | .subscribe topic => bus.subs ++ [(topic, bus.queues.length)]
          | .unsubscribe topic number => bus.subs.erase (topic, number)
          | _ => bus.subs) ∧
      (step queueSize bus event).queues.length =
        (match event with
          | .subscribe _ => bus.queues.length + 1
          | _ => bus.queues.length) := by
  cases event with
  | subscribe topic => exact ⟨rfl, List.length_append⟩
  | unsubscribe topic number => exact ⟨rfl, rfl⟩
  | publish topic event =>
    exact (deliver_loop queueSize topic event (bus.listeners topic) (listeners_nodup bus topic)
      bus fun other => listener_made).1
  | get number => exact ⟨rfl, List.length_modify _ _ _⟩

end Delivery

section Subscribers

variable {queueSize : Nat} {bus : EventBus τ ε} {topic : τ} {number : Nat}

/-- A queue that is no longer listed hears nothing more. -/
theorem unlisted_silent (made : number < bus.queues.length)
    (unlisted : number ∉ bus.subs.map Prod.snd) (events : List (Event τ ε)) :
    (sent (step queueSize) (traffic number) bus events).flatMap Mailboxes.offered = [] := by
  induction events generalizing bus with
  | nil => rfl
  | cons event rest inductionHypothesis =>
    have outside (topic : τ) : number ∉ bus.listeners topic := fun listed =>
      unlisted (List.mem_map_of_mem (mem_listeners.mp listed))
    obtain ⟨subs, length⟩ := @subs_step _ _ _ queueSize bus event
    have later := @inductionHypothesis (step queueSize bus event)
      (by rw [length]; cases event <;> simp only <;> omega)
      (by
        rw [subs]
        cases event with
        | subscribe topic =>
          simp only [List.map_append, List.mem_append, List.map_cons, List.map_nil,
            List.mem_singleton, not_or]
          exact ⟨unlisted, Nat.ne_of_lt made⟩
        | unsubscribe topic other =>
          exact fun listed => unlisted ((List.erase_sublist.map Prod.snd).subset listed)
        | publish topic event => exact unlisted
        | get other => exact unlisted)
    rw [sent, List.flatMap_append, later, List.append_nil]
    cases event with
    | publish topic event => simp [traffic, outside]
    | get other =>
      rw [traffic]
      split <;> rfl
    | subscribe topic => rfl
    | unsubscribe topic left => rfl

/-- What a listed queue is offered are the events published on its topic until it is
unsubscribed. -/
theorem listed_hears (listed : number ∈ bus.listeners topic) (events : List (Event τ ε)) :
    (sent (step queueSize) (traffic number) bus events).flatMap Mailboxes.offered =
      heard topic number events := by
  induction events generalizing bus with
  | nil => rfl
  | cons event rest inductionHypothesis =>
    obtain ⟨subs, length⟩ := @subs_step _ _ _ queueSize bus event
    rw [sent, List.flatMap_append]
    cases event with
    | subscribe other =>
      have still : number ∈ (step queueSize bus (.subscribe other)).listeners topic := by
        rw [mem_listeners, subs]
        exact List.mem_append_left _ (mem_listeners.mp listed)
      rw [inductionHypothesis still]
      rfl
    | unsubscribe other left =>
      rw [heard]
      split
      case isTrue own =>
        obtain ⟨rfl, rfl⟩ := own
        have gone : left ∉ ((step queueSize bus (.unsubscribe other left)).subs).map Prod.snd := by
          rw [subs]
          intro member
          obtain ⟨sub, kept, same⟩ := List.mem_map.mp member
          have one : sub = (other, left) := List.inj_on_of_nodup_map bus.distinct
            (List.mem_of_mem_erase kept) (mem_listeners.mp listed) same
          have nodup : bus.subs.Nodup := bus.distinct.of_map
          exact (nodup.mem_erase_iff.mp kept).1 one
        have made : left < (step queueSize bus (.unsubscribe other left)).queues.length := by
          rw [length]
          exact listener_made listed
        rw [unlisted_silent made gone rest]
        rfl
      case isFalse different =>
        have still : number ∈ (step queueSize bus (.unsubscribe other left)).listeners topic := by
          rw [mem_listeners, subs]
          refine (List.mem_erase_of_ne ?_).mpr (mem_listeners.mp listed)
          rintro same
          cases same
          exact different ⟨rfl, rfl⟩
        rw [inductionHypothesis still]
        rfl
    | publish other event =>
      have still : number ∈ (step queueSize bus (.publish other event)).listeners topic := by
        rw [mem_listeners, subs]
        exact mem_listeners.mp listed
      rw [inductionHypothesis still, heard, traffic]
      by_cases same : other = topic
      · subst same
        simp [listed, Mailboxes.offered]
      · have unlisted : number ∉ bus.listeners other := fun again =>
          same (same_topic again listed)
        simp [same, unlisted]
    | get other =>
      have still : number ∈ (step queueSize bus (.get other)).listeners topic := by
        rw [mem_listeners, subs]
        exact mem_listeners.mp listed
      rw [inductionHypothesis still]
      simp only [heard, traffic]
      split <;> rfl

/-- A queue made for one topic is listed under no other. -/
def Own (topic : τ) (number : Nat) (bus : EventBus τ ε) : Prop :=
  number < bus.queues.length ∧ ∀ other, number ∈ bus.listeners other → other = topic

theorem own_step (own : Own topic number bus) (event : Event τ ε) :
    Own topic number (step queueSize bus event) := by
  obtain ⟨made, only⟩ := own
  obtain ⟨subs, length⟩ := @subs_step _ _ _ queueSize bus event
  constructor
  · rw [length]
    cases event <;> simp only <;> omega
  · intro other listed
    rw [mem_listeners, subs] at listed
    cases event with
    | subscribe new =>
      rcases List.mem_append.mp listed with old | fresh
      · exact only other (mem_listeners.mpr old)
      · have same := congrArg Prod.snd (List.mem_singleton.mp fresh)
        exact absurd same (Nat.ne_of_lt made)
    | unsubscribe new left => exact only other (mem_listeners.mpr (List.mem_of_mem_erase listed))
    | publish new event => exact only other (mem_listeners.mpr listed)
    | get new => exact only other (mem_listeners.mpr listed)

theorem missed_step (own : Own topic number bus) (event : Event τ ε) :
    missed queueSize topic number bus event =
        sent (Mailboxes.step queueSize) (Mailboxes.lost queueSize) (bus.queue number)
          (traffic number bus event) ∧
      ∀ other ≠ topic, missed queueSize other number bus event = [] := by
  cases event with
  | publish other event =>
    simp only [missed, traffic]
    by_cases listed : number ∈ bus.listeners other
    · have same := own.2 other listed
      subst same
      constructor
      · simp [listed, sent, Mailboxes.lost]
      · intro another different
        simp [different.symm]
    · constructor
      · simp only [listed, if_false, sent]
        rw [if_neg]
        rintro ⟨rfl, again, -⟩
        exact listed again
      · intro another different
        rw [if_neg]
        rintro ⟨rfl, again, -⟩
        exact listed again
  | get other =>
    refine ⟨?_, fun _ _ => rfl⟩
    simp only [missed, traffic]
    split <;> rfl
  | subscribe other => exact ⟨rfl, fun _ _ => rfl⟩
  | unsubscribe other left => exact ⟨rfl, fun _ _ => rfl⟩

/-- What the queue of a topic misses of it is what its mailbox loses, and it misses
nothing of any other topic. -/
theorem missed_run (own : Own topic number bus) (events : List (Event τ ε)) :
    sent (step queueSize) (missed queueSize topic number) bus events =
        sent (Mailboxes.step queueSize) (Mailboxes.lost queueSize) (bus.queue number)
          (sent (step queueSize) (traffic number) bus events) ∧
      ∀ other ≠ topic, sent (step queueSize) (missed queueSize other number) bus events = [] := by
  induction events generalizing bus with
  | nil => exact ⟨rfl, fun _ _ => rfl⟩
  | cons event rest inductionHypothesis =>
    obtain ⟨here, elsewhere⟩ := @missed_step _ _ _ queueSize bus topic number own event
    obtain ⟨later, nowhere⟩ := inductionHypothesis (own_step own event)
    constructor
    · rw [sent, sent, sent_append, here, later, queue_step]
    · intro other different
      rw [sent, elsewhere other different, nowhere other different]
      rfl

/-- A queue that is not made yet has no history. -/
theorem unmade_silent (topic : τ) (number : Nat) (events : List (Event τ ε))
    (unmade : (run (step queueSize) bus events).queues.length ≤ number) :
    sent (step queueSize) (delivered number) bus events = [] ∧
      sent (step queueSize) (missed queueSize topic number) bus events = [] := by
  induction events generalizing bus with
  | nil => exact ⟨rfl, rfl⟩
  | cons event rest inductionHypothesis =>
    obtain ⟨none, unheard⟩ := inductionHypothesis unmade
    have grows (state : EventBus τ ε) (more : List (Event τ ε)) :
        state.queues.length ≤ (run (step queueSize) state more).queues.length := by
      induction more generalizing state with
      | nil => exact Nat.le_refl _
      | cons event more longer =>
        refine Nat.le_trans ?_ (longer (step queueSize state event))
        rw [(subs_step state event).2]
        cases event <;> simp
    have beyond : bus.queues.length ≤ number := Nat.le_trans (grows bus (event :: rest)) unmade
    have empty : bus.queue number = [] := by
      rw [EventBus.queue, List.getElem?_eq_none beyond]
      rfl
    rw [sent, sent, none, unheard]
    cases event with
    | publish other event =>
      have unlisted : number ∉ bus.listeners topic := fun listed =>
        Nat.not_lt_of_le beyond (listener_made listed)
      simp [delivered, missed, unlisted]
    | get other => simp [delivered, missed, empty]
    | subscribe other => exact ⟨rfl, rfl⟩
    | unsubscribe other left => exact ⟨rfl, rfl⟩

/-- The events of a subscriber that it has taken and those that wait for it. -/
def kept (queueSize : Nat) (number : Nat) (bus : EventBus τ ε) (events : List (Event τ ε)) :
    List ε :=
  sent (step queueSize) (delivered number) bus events ++
    (run (step queueSize) bus events).queue number

theorem kept_eq (number : Nat) (bus : EventBus τ ε) (events : List (Event τ ε)) :
    kept queueSize number bus events =
      sent (Mailboxes.step queueSize) Mailboxes.got (bus.queue number)
          (sent (step queueSize) (traffic number) bus events) ++
        run (Mailboxes.step queueSize) (bus.queue number)
          (sent (step queueSize) (traffic number) bus events) := by
  have waits := run_within (step queueSize) (fun state => state.queue number) (traffic number)
    (queue_step number) bus events
  have comes := sent_within (step queueSize) (fun state => state.queue number) (traffic number)
    (queue_step number) (delivered number) Mailboxes.got (delivered_step number) bus events
  rw [kept, waits, comes]

end Subscribers

section Claims

variable (queueSize : Nat)

/-- The bus after a subscription, and the number of the queue that it returned. -/
theorem subscribed_own (bus : EventBus τ ε) (topic : τ) :
    bus.queues.length ∈ (step queueSize bus (.subscribe topic)).listeners topic ∧
      Own topic bus.queues.length (step queueSize bus (.subscribe topic)) ∧
      (step queueSize bus (.subscribe topic)).queue bus.queues.length = [] := by
  have listed : bus.queues.length ∈ (step queueSize bus (.subscribe topic)).listeners topic :=
    mem_listeners.mpr (List.mem_append_right _ (List.mem_singleton_self _))
  refine ⟨listed, ⟨listener_made listed, fun other again => same_topic again listed⟩, ?_⟩
  simp [step, EventBus.subscribe, EventBus.queue]

/-- In every run of the bus a subscriber gets events of its topic in the order of their
publication, each at most once, and its queue holds no more than its size. It gets all that
are published until it unsubscribes exactly if every publication finds room in its own
queue. -/
theorem subscriber_lossless_iff (before after : List (Event τ ε)) (topic : τ) :
    let start := run (step queueSize) EventBus.init before
    let number := start.queues.length
    let bus := step queueSize start (.subscribe topic)
    (kept queueSize number bus after).Sublist (heard topic number after) ∧
      (0 < queueSize → ((run (step queueSize) bus after).queue number).length ≤ queueSize) ∧
      (kept queueSize number bus after = heard topic number after ↔
        Along (step queueSize) (KeepsUp queueSize number) bus after) := by
  intro start number bus
  obtain ⟨listed, -, empty⟩ := subscribed_own queueSize start topic
  have hears := @listed_hears _ _ _ queueSize bus topic number listed after
  have none : bus.queue number = [] := empty
  have follows := run_within (step queueSize) (fun state => state.queue number) (traffic number)
    (queue_step number) bus after
  refine ⟨?_, ?_, ?_⟩
  · rw [kept_eq, ← hears]
    have sublist := @Mailboxes.kept_sublist _ queueSize (bus.queue number)
      (sent (step queueSize) (traffic number) bus after)
    rwa [none, List.nil_append, ← none] at sublist
  · intro bounded
    rw [follows]
    apply Mailboxes.run_bounded bounded
    rw [none]
    exact Nat.zero_le _
  · have lossless := @Mailboxes.lossless_iff _ queueSize (bus.queue number)
      (sent (step queueSize) (traffic number) bus after)
    rw [hears] at lossless
    rw [kept_eq, ← List.nil_append (heard topic number after), ← none, lossless,
      along_within (step queueSize) (fun state => state.queue number) (traffic number)
        (queue_step number)]
    have same (state : EventBus τ ε) (event : Event τ ε) :
        Along (Mailboxes.step queueSize) (Mailboxes.Roomy queueSize) (state.queue number)
          (traffic number state event) ↔ KeepsUp queueSize number state event := by
      cases event with
      | publish other event =>
        simp only [traffic, KeepsUp]
        split
        case isTrue here => simp [Along, Mailboxes.Roomy, here]
        case isFalse absent => simp [Along, absent]
      | get other =>
        simp only [traffic, KeepsUp]
        split <;> simp [Along, Mailboxes.Roomy]
      | subscribe other => simp [traffic, KeepsUp, Along]
      | unsubscribe other left => simp [traffic, KeepsUp, Along]
    simp only [same]

/-- Every subscription of a run, with its topic, the number of its queue and what follows. -/
def subscriptions : Nat → List (Event τ ε) → List (τ × Nat × List (Event τ ε))
  | _, [] => []
  | number, .subscribe topic :: rest => (topic, number, rest) :: subscriptions (number + 1) rest
  | number, _ :: rest => subscriptions number rest

variable {queueSize : Nat} {bus : EventBus τ ε}

theorem mem_subscriptions {events : List (Event τ ε)} {sub : τ × Nat × List (Event τ ε)}
    (member : sub ∈ subscriptions bus.queues.length events) :
    ∃ before, events = before ++ .subscribe sub.1 :: sub.2.2 ∧
      sub.2.1 = (run (step queueSize) bus before).queues.length := by
  induction events generalizing bus with
  | nil => cases member
  | cons event rest inductionHypothesis =>
    have length := (@subs_step _ _ _ queueSize bus event).2
    cases event with
    | subscribe topic =>
      rcases List.mem_cons.mp member with rfl | later
      · exact ⟨[], rfl, rfl⟩
      · rw [← show _ = bus.queues.length + 1 from length] at later
        obtain ⟨before, rfl, same⟩ := inductionHypothesis later
        exact ⟨.subscribe topic :: before, rfl, same⟩
    | unsubscribe topic left =>
      rw [← show _ = bus.queues.length from length] at member
      obtain ⟨before, rfl, same⟩ := inductionHypothesis member
      exact ⟨.unsubscribe topic left :: before, rfl, same⟩
    | publish topic event =>
      rw [← show _ = bus.queues.length from length] at member
      obtain ⟨before, rfl, same⟩ := inductionHypothesis member
      exact ⟨.publish topic event :: before, rfl, same⟩
    | get number =>
      rw [← show _ = bus.queues.length from length] at member
      obtain ⟨before, rfl, same⟩ := inductionHypothesis member
      exact ⟨.get number :: before, rfl, same⟩

/-- The queues of a run are numbered as their subscriptions come. -/
theorem numbers_subscriptions (bus : EventBus τ ε) (events : List (Event τ ε)) :
    List.range bus.queues.length ++
        (subscriptions bus.queues.length events).map (fun sub => sub.2.1) =
      List.range (run (step queueSize) bus events).queues.length := by
  induction events generalizing bus with
  | nil => simp [subscriptions]
  | cons event rest inductionHypothesis =>
    have length := (@subs_step _ _ _ queueSize bus event).2
    have later := inductionHypothesis (step queueSize bus event)
    rw [run_cons, ← later, length]
    cases event with
    | subscribe topic => simp [subscriptions, List.range_succ]
    | unsubscribe topic left => rfl
    | publish topic event => rfl
    | get number => rfl

/-- A publication adds the queues that miss it to the count of its topic. -/
theorem dropCounts_step (bus : EventBus τ ε) (event : Event τ ε) (topic : τ) {bound : Nat}
    (within : bus.queues.length ≤ bound) :
    (step queueSize bus event).dropCounts topic = bus.dropCounts topic +
      ∑ number ∈ Finset.range bound, (missed queueSize topic number bus event).length := by
  cases event with
  | subscribe other => simp [step, EventBus.subscribe, missed]
  | unsubscribe other left => simp [step, EventBus.unsubscribe, missed]
  | get number => simp [step, EventBus.get, missed]
  | publish other event =>
    have loop := (deliver_loop queueSize other event (bus.listeners other)
      (listeners_nodup bus other) bus fun number => listener_made).2.2 topic
    rw [step, EventBus.publish, loop]
    congr 1
    by_cases same : topic = other
    · subst same
      have full : ∀ number, (missed queueSize topic number bus (.publish topic event)).length =
          if number ∈ bus.listeners topic ∧
            Mailboxes.full queueSize (bus.queue number) = true then 1 else 0 := by
        intro number
        simp only [missed, true_and]
        split <;> rfl
      have listed : (Finset.range bound).filter (fun number => number ∈ bus.listeners topic ∧
            Mailboxes.full queueSize (bus.queue number) = true) =
          ((bus.listeners topic).filter fun number =>
            Mailboxes.full queueSize (bus.queue number)).toFinset := by
        ext number
        simp only [Finset.mem_filter, Finset.mem_range, List.mem_toFinset, List.mem_filter]
        constructor
        · exact fun found => found.2
        · exact fun found => ⟨Nat.lt_of_lt_of_le (listener_made found.1) within, found⟩
      rw [if_pos rfl, Finset.sum_congr rfl fun number _ => full number, ← Finset.card_filter,
        listed,
        List.toFinset_card_of_nodup ((listeners_nodup bus topic).filter _),
        List.countP_eq_length_filter]
    · rw [if_neg same]
      symm
      apply Finset.sum_eq_zero
      intro number _
      simp [missed, Ne.symm same]

theorem dropCounts_run (bus : EventBus τ ε) (events : List (Event τ ε)) (topic : τ) {bound : Nat}
    (within : (run (step queueSize) bus events).queues.length ≤ bound) :
    (run (step queueSize) bus events).dropCounts topic = bus.dropCounts topic +
      ∑ number ∈ Finset.range bound,
        (sent (step queueSize) (missed queueSize topic number) bus events).length := by
  induction events generalizing bus with
  | nil => simp [sent]
  | cons event rest inductionHypothesis =>
    have here : bus.queues.length ≤ bound := by
      refine Nat.le_trans ?_ within
      have numbers := congrArg List.length (@numbers_subscriptions _ _ _ queueSize bus
        (event :: rest))
      rw [List.length_append, List.length_range, List.length_range] at numbers
      omega
    rw [run_cons, inductionHypothesis _ within, dropCounts_step bus event topic here,
      Nat.add_assoc, ← Finset.sum_add_distrib]
    simp only [sent, List.length_append]

/-- What a subscriber gets and what it misses are what is published for it. -/
theorem kept_missed (before after : List (Event τ ε)) (topic : τ) :
    let number := (run (step queueSize) EventBus.init before).queues.length
    let events := before ++ Event.subscribe topic :: after
    (kept queueSize number EventBus.init events).length +
          (sent (step queueSize) (missed queueSize topic number) EventBus.init events).length =
        (heard topic number after).length ∧
      ∀ other ≠ topic,
        sent (step queueSize) (missed queueSize other number) EventBus.init events = [] := by
  intro number events
  obtain ⟨listed, own, empty⟩ :=
    subscribed_own queueSize (run (step queueSize) EventBus.init before) topic
  obtain ⟨lost, others⟩ := @missed_run _ _ _ queueSize _ topic number own after
  have silent (other : τ) := @unmade_silent _ _ _ queueSize EventBus.init other number before
    (Nat.le_refl _)
  constructor
  · have later : kept queueSize number EventBus.init events =
        kept queueSize number (step queueSize (run (step queueSize) EventBus.init before)
          (.subscribe topic)) after := by
      rw [kept, kept, sent_append, (silent topic).1, run_append]
      rfl
    obtain ⟨-, count⟩ := @Mailboxes.accepted_sublist _ queueSize
      ((step queueSize (run (step queueSize) EventBus.init before) (.subscribe topic)).queue
        number) (sent (step queueSize) (traffic number) _ after)
    rw [listed_hears listed] at count
    rw [later, kept_eq, Mailboxes.run_conserves, sent_append, (silent topic).2, List.nil_append,
      sent, ← count, ← lost]
    simp [empty, missed, number]
  · intro other different
    rw [sent_append, (silent other).2, sent, others other different]
    rfl

/-- The counter of a topic is exact in every run of the bus: what it counts and what the
subscribers of the topic get add up to what is published for each of them. -/
theorem drop_counts_exact (queueSize : Nat) (events : List (Event τ ε)) (topic : τ) :
    let subscribers := (subscriptions 0 events).filter fun sub => decide (sub.1 = topic)
    (run (step queueSize) EventBus.init events).dropCounts topic +
        (subscribers.map fun sub => (kept queueSize sub.2.1 EventBus.init events).length).sum =
      (subscribers.map fun sub => (heard topic sub.2.1 sub.2.2).length).sum := by
  intro subscribers
  let lost (number : Nat) : Nat :=
    (sent (step queueSize) (missed queueSize topic number) EventBus.init events).length
  have counted : (run (step queueSize) EventBus.init events).dropCounts topic =
      ((subscriptions 0 events).map fun sub => lost sub.2.1).sum := by
    have numbers := @numbers_subscriptions _ _ _ queueSize EventBus.init events
    have total := @dropCounts_run _ _ _ queueSize EventBus.init events topic _ (Nat.le_refl _)
    have summed : ∑ number ∈ Finset.range (run (step queueSize) EventBus.init events).queues.length,
        lost number = ((List.range (run (step queueSize) EventBus.init events).queues.length).map
          lost).sum := rfl
    rw [total, summed, ← numbers]
    simp [EventBus.init, Function.comp_def]
  have each : ∀ sub ∈ subscriptions 0 events,
      (sub.1 = topic → (kept queueSize sub.2.1 EventBus.init events).length + lost sub.2.1 =
        (heard topic sub.2.1 sub.2.2).length) ∧ (sub.1 ≠ topic → lost sub.2.1 = 0) := by
    intro sub member
    obtain ⟨before, split, number⟩ := @mem_subscriptions _ _ _ queueSize EventBus.init events sub
      member
    obtain ⟨own, others⟩ := @kept_missed _ _ _ queueSize before sub.2.2 sub.1
    rw [← number, ← split] at own others
    constructor
    · rintro rfl
      exact own
    · intro different
      have none := others topic (Ne.symm different)
      exact congrArg List.length none
  rw [counted]
  have whole : ∀ subs : List (τ × Nat × List (Event τ ε)), (∀ sub ∈ subs,
      (sub.1 = topic → (kept queueSize sub.2.1 EventBus.init events).length + lost sub.2.1 =
        (heard topic sub.2.1 sub.2.2).length) ∧ (sub.1 ≠ topic → lost sub.2.1 = 0)) →
      (subs.map fun sub => lost sub.2.1).sum +
          ((subs.filter fun sub => decide (sub.1 = topic)).map fun sub =>
            (kept queueSize sub.2.1 EventBus.init events).length).sum =
        ((subs.filter fun sub => decide (sub.1 = topic)).map fun sub =>
          (heard topic sub.2.1 sub.2.2).length).sum := by
    intro subs
    induction subs with
    | nil => simp
    | cons sub rest inductionHypothesis =>
      intro all
      obtain ⟨own, other⟩ := all sub List.mem_cons_self
      have later := inductionHypothesis fun next member => all next (List.mem_cons_of_mem _ member)
      by_cases same : sub.1 = topic
      · have here := own same
        rw [List.filter_cons_of_pos (by simpa using same)]
        simp only [List.map_cons, List.sum_cons]
        omega
      · have none := other same
        rw [List.filter_cons_of_neg (by simpa using same)]
        simp only [List.map_cons, List.sum_cons]
        omega
  exact whole _ each

end Claims

end OptionChain.PubSub
