import OptionChain.StrikeRebalancer

/-!
# Pins during a rebalance

A rebalance chooses what to drop before it waits for the feeder, and takes the new
active set from the old one after the waits. A strike that is pinned in between has
joined the active set, but it may be among those chosen: then the feeder has
dropped it, the active set loses it, and the assertion fails. A rebalance keeps the
pins exactly when no call made during its waits leaves such a strike pinned.
-/

namespace OptionChain.PinnedRebalance

open Runs StrikeRebalancer

/-- Whether a strike is pinned after some calls. -/
def pinnedAfter (strike : Rat) (pinned : Bool) (calls : List Call) : Bool :=
  calls.foldl (fun pinned call =>
    match call with
    | .pinStrike other => pinned || decide (other = strike)
    | .unpinStrike other => pinned && decide (other ≠ strike)
    | .enableChain => pinned) pinned

/-- The calls made while a feeder call for some strikes is awaited. -/
def waited (resolvable : Bool) (strikes : Finset Rat) (others : List Call) : List Call :=
  if strikes = ∅ ∨ resolvable = false then [] else others

/-- The calls made during the waits of one rebalance. -/
def waitCalls (cfg : Config) (rebalancer : Rebalancer) (newAtm : Rat) (resolvable : Bool)
    (first second : List Call) : List Call :=
  waited resolvable (rebalancer.toUnsub cfg newAtm) first ++
    waited resolvable (rebalancer.toSub cfg newAtm) second

/-- The pins are active, and the tick loop is alive. -/
structure Sound (rebalancer : Rebalancer) : Prop where
  pinned : rebalancer.state.pinnedStrikes ⊆ rebalancer.state.activeStrikes
  alive : rebalancer.failed = false

/-- After an event the rebalancer is sound, and no strike that is pinned then was
unsubscribed by it. -/
def KeepsPins (cfg : Config) (rebalancer : Rebalancer) (event : Event) : Prop :=
  Sound (step cfg rebalancer event) ∧
    ∀ strikes, FeederCall.unsubscribe strikes ∈
        (step cfg rebalancer event).calls.drop rebalancer.calls.length →
      Disjoint strikes (step cfg rebalancer event).state.pinnedStrikes

/-- No call made during the waits of a rebalance leaves a strike pinned that the
rebalance drops. -/
def NoLatePin (cfg : Config) (rebalancer : Rebalancer) : Event → Prop
  | .call _ => True
  | .tick tick resolvable first second =>
      match Rebalancer.plan cfg (rebalancer.markClose cfg tick).state tick with
      | .rebalance atm => ∀ strike ∈ rebalancer.toUnsub cfg atm,
          pinnedAfter strike false
            (waitCalls cfg rebalancer atm resolvable first second) = false
      | _ => True

section Calls

variable (state : UnderlyingState)

theorem mem_pinned_call (call : Call) (strike : Rat) :
    strike ∈ (state.call call).pinnedStrikes ↔
      pinnedAfter strike (decide (strike ∈ state.pinnedStrikes)) [call] = true := by
  cases call with
  | enableChain => simp [UnderlyingState.call, UnderlyingState.enableChain, pinnedAfter]
  | pinStrike other =>
    by_cases same : other = strike
    · simp [UnderlyingState.call, UnderlyingState.pinStrike, pinnedAfter, same]
    · simp [UnderlyingState.call, UnderlyingState.pinStrike, pinnedAfter, same, Ne.symm same]
  | unpinStrike other =>
    by_cases same : other = strike
    · simp [UnderlyingState.call, UnderlyingState.unpinStrike, pinnedAfter, same]
    · simp [UnderlyingState.call, UnderlyingState.unpinStrike, pinnedAfter, same, Ne.symm same]

/-- The pinned set after some calls is decided strike by strike. -/
theorem mem_pinned_calls (calls : List Call) (strike : Rat) :
    strike ∈ (calls.foldl UnderlyingState.call state).pinnedStrikes ↔
      pinnedAfter strike (decide (strike ∈ state.pinnedStrikes)) calls = true := by
  induction calls generalizing state with
  | nil => simp [pinnedAfter]
  | cons call rest inductionHypothesis =>
    have first := mem_pinned_call state call strike
    rw [List.foldl_cons, inductionHypothesis]
    have here : decide (strike ∈ (state.call call).pinnedStrikes) =
        pinnedAfter strike (decide (strike ∈ state.pinnedStrikes)) [call] := by
      rw [Bool.eq_iff_iff, decide_eq_true_iff, first]
    rw [here]
    rfl

/-- Pinned strikes stay active, whatever other tasks call. -/
theorem call_pinned (call : Call) (sound : state.pinnedStrikes ⊆ state.activeStrikes) :
    (state.call call).pinnedStrikes ⊆ (state.call call).activeStrikes := by
  cases call with
  | enableChain => exact sound
  | pinStrike strike => exact Finset.insert_subset_insert strike sound
  | unpinStrike strike => exact (Finset.erase_subset _ _).trans sound

theorem calls_pinned (calls : List Call) (sound : state.pinnedStrikes ⊆ state.activeStrikes) :
    (calls.foldl UnderlyingState.call state).pinnedStrikes ⊆
      (calls.foldl UnderlyingState.call state).activeStrikes := by
  induction calls generalizing state with
  | nil => exact sound
  | cons call rest inductionHypothesis =>
    exact inductionHypothesis (state.call call) (call_pinned state call sound)

end Calls

section Waits

variable (rebalancer : Rebalancer) (resolvable : Bool) (make : Finset Rat → FeederCall)
  (strikes : Finset Rat) (others : List Call)

theorem awaitFeeder_state : (rebalancer.awaitFeeder resolvable make strikes others).state =
    (waited resolvable strikes others).foldl UnderlyingState.call rebalancer.state := by
  unfold Rebalancer.awaitFeeder waited
  split <;> rfl

theorem awaitFeeder_failed :
    (rebalancer.awaitFeeder resolvable make strikes others).failed = rebalancer.failed := by
  unfold Rebalancer.awaitFeeder
  split <;> rfl

/-- A wait makes its one feeder call, or none for no tokens. -/
theorem awaitFeeder_calls : (rebalancer.awaitFeeder resolvable make strikes others).calls =
    rebalancer.calls ++ if strikes = ∅ ∨ resolvable = false then [] else [make strikes] := by
  unfold Rebalancer.awaitFeeder
  split <;> simp [Rebalancer.during]

end Waits

section Rebalance

variable (cfg : Config) (rebalancer : Rebalancer) (newAtm : Rat) (resolvable : Bool)
  (first second : List Call)

/-- The state in which the last wait of a rebalance ends. -/
def waitedState : UnderlyingState :=
  (waitCalls cfg rebalancer newAtm resolvable first second).foldl UnderlyingState.call
    rebalancer.state

theorem unsub_sub_disjoint :
    Disjoint (rebalancer.toUnsub cfg newAtm) (rebalancer.toSub cfg newAtm) := by
  rw [Finset.disjoint_left]
  intro strike dropped added
  simp only [Rebalancer.toUnsub, Rebalancer.toSub, Finset.mem_sdiff] at dropped added
  exact added.2 dropped.1.1

theorem finishRebalance_pinned (unsub sub : Finset Rat) :
    (rebalancer.finishRebalance newAtm unsub sub).state.pinnedStrikes =
      rebalancer.state.pinnedStrikes := by
  unfold Rebalancer.finishRebalance
  dsimp only
  split <;> rfl

theorem finishRebalance_calls (unsub sub : Finset Rat) :
    (rebalancer.finishRebalance newAtm unsub sub).calls = rebalancer.calls := by
  unfold Rebalancer.finishRebalance
  dsimp only
  split <;> rfl

/-- The end of a rebalance is sound exactly when no pin is among the dropped. -/
theorem finishRebalance_sound_iff (unsub sub : Finset Rat) (apart : Disjoint unsub sub)
    (sound : Sound rebalancer) :
    Sound (rebalancer.finishRebalance newAtm unsub sub) ↔
      Disjoint unsub rebalancer.state.pinnedStrikes := by
  have kept : rebalancer.state.pinnedStrikes ⊆
      (rebalancer.state.activeStrikes \ unsub) ∪ sub ↔
      Disjoint unsub rebalancer.state.pinnedStrikes := by
    rw [Finset.disjoint_left]
    constructor
    · intro inside strike dropped pinned
      rcases Finset.mem_union.mp (inside pinned) with stays | added
      · exact (Finset.mem_sdiff.mp stays).2 dropped
      · exact Finset.disjoint_left.mp apart dropped added
    · intro apart strike pinned
      apply Finset.mem_union_left
      exact Finset.mem_sdiff.mpr ⟨sound.pinned pinned, fun dropped => apart dropped pinned⟩
  unfold Rebalancer.finishRebalance
  dsimp only
  split
  · rename_i inside
    exact ⟨fun _ => kept.mp inside, fun _ => ⟨inside, sound.alive⟩⟩
  · rename_i escaped
    refine ⟨fun after => ?_, fun apart => absurd (kept.mpr apart) escaped⟩
    have alive := after.alive
    simp at alive

theorem rebalance_waited :
    ((rebalancer.awaitFeeder resolvable .unsubscribe (rebalancer.toUnsub cfg newAtm)
        first).awaitFeeder resolvable .subscribe (rebalancer.toSub cfg newAtm) second).state =
      waitedState cfg rebalancer newAtm resolvable first second := by
  rw [awaitFeeder_state, awaitFeeder_state, waitedState, waitCalls, List.foldl_append]

/-- A strike that a rebalance drops is pinned at the end exactly when the calls made
during the waits leave it pinned. -/
theorem dropped_pinned_iff (strike : Rat) (dropped : strike ∈ rebalancer.toUnsub cfg newAtm) :
    strike ∈ (waitedState cfg rebalancer newAtm resolvable first second).pinnedStrikes ↔
      pinnedAfter strike false
        (waitCalls cfg rebalancer newAtm resolvable first second) = true := by
  have free : strike ∉ rebalancer.state.pinnedStrikes := (Finset.mem_sdiff.mp dropped).2
  rw [waitedState, mem_pinned_calls]
  simp [free]

theorem rebalance_pinned :
    (rebalancer.rebalance cfg newAtm resolvable first second).state.pinnedStrikes =
      (waitedState cfg rebalancer newAtm resolvable first second).pinnedStrikes := by
  rw [Rebalancer.rebalance, finishRebalance_pinned, rebalance_waited]

/-- A rebalance unsubscribes nothing but the strikes it drops. -/
theorem rebalance_unsubscribes (strikes : Finset Rat)
    (called : FeederCall.unsubscribe strikes ∈
      (rebalancer.rebalance cfg newAtm resolvable first second).calls.drop
        rebalancer.calls.length) : strikes = rebalancer.toUnsub cfg newAtm := by
  rw [Rebalancer.rebalance, finishRebalance_calls, awaitFeeder_calls, awaitFeeder_calls,
    List.append_assoc, List.drop_left, List.mem_append] at called
  rcases called with unsubscribed | subscribed
  · split at unsubscribed
    · exact absurd unsubscribed List.not_mem_nil
    · simpa using unsubscribed
  · split at subscribed
    · exact absurd subscribed List.not_mem_nil
    · simp at subscribed

theorem rebalance_sound_iff (sound : Sound rebalancer) :
    Sound (rebalancer.rebalance cfg newAtm resolvable first second) ↔
      Disjoint (rebalancer.toUnsub cfg newAtm)
        (waitedState cfg rebalancer newAtm resolvable first second).pinnedStrikes := by
  have waitedSound : Sound ((rebalancer.awaitFeeder resolvable .unsubscribe
      (rebalancer.toUnsub cfg newAtm) first).awaitFeeder resolvable .subscribe
        (rebalancer.toSub cfg newAtm) second) := by
    refine ⟨?_, ?_⟩
    · rw [rebalance_waited, waitedState]
      exact calls_pinned rebalancer.state _ sound.pinned
    · rw [awaitFeeder_failed, awaitFeeder_failed]
      exact sound.alive
  rw [Rebalancer.rebalance, finishRebalance_sound_iff _ newAtm _ _
    (unsub_sub_disjoint cfg rebalancer newAtm) waitedSound, rebalance_waited]

/-- A rebalance keeps the pins exactly when no call made during its waits leaves a
dropped strike pinned. -/
theorem rebalance_keeps_iff (sound : Sound rebalancer) :
    (Sound (rebalancer.rebalance cfg newAtm resolvable first second) ∧
      ∀ strikes, FeederCall.unsubscribe strikes ∈
          (rebalancer.rebalance cfg newAtm resolvable first second).calls.drop
            rebalancer.calls.length →
        Disjoint strikes
          (rebalancer.rebalance cfg newAtm resolvable first second).state.pinnedStrikes) ↔
      ∀ strike ∈ rebalancer.toUnsub cfg newAtm, pinnedAfter strike false
        (waitCalls cfg rebalancer newAtm resolvable first second) = false := by
  have apart : Disjoint (rebalancer.toUnsub cfg newAtm)
      (waitedState cfg rebalancer newAtm resolvable first second).pinnedStrikes ↔
      ∀ strike ∈ rebalancer.toUnsub cfg newAtm, pinnedAfter strike false
        (waitCalls cfg rebalancer newAtm resolvable first second) = false := by
    rw [Finset.disjoint_left]
    apply forall₂_congr
    intro strike dropped
    rw [dropped_pinned_iff cfg rebalancer newAtm resolvable first second strike dropped,
      Bool.not_eq_true]
  rw [rebalance_sound_iff cfg rebalancer newAtm resolvable first second sound, rebalance_pinned,
    ← apart]
  constructor
  · exact And.left
  · intro disjoint
    refine ⟨disjoint, fun strikes called => ?_⟩
    rw [rebalance_unsubscribes cfg rebalancer newAtm resolvable first second strikes called]
    exact disjoint

end Rebalance

section Step

variable (cfg : Config) (rebalancer : Rebalancer)

theorem markClose_sound (tick : IndexTick) (sound : Sound rebalancer) :
    Sound (rebalancer.markClose cfg tick) := by
  unfold Rebalancer.markClose
  split
  · exact ⟨sound.pinned, sound.alive⟩
  · exact sound

theorem markClose_calls (tick : IndexTick) :
    (rebalancer.markClose cfg tick).calls = rebalancer.calls := by
  unfold Rebalancer.markClose
  split <;> rfl

theorem markClose_toUnsub (tick : IndexTick) (newAtm : Rat) :
    (rebalancer.markClose cfg tick).toUnsub cfg newAtm = rebalancer.toUnsub cfg newAtm := by
  unfold Rebalancer.markClose
  split <;> rfl

theorem markClose_waitCalls (tick : IndexTick) (newAtm : Rat) (resolvable : Bool)
    (first second : List Call) :
    waitCalls cfg (rebalancer.markClose cfg tick) newAtm resolvable first second =
      waitCalls cfg rebalancer newAtm resolvable first second := by
  unfold Rebalancer.markClose
  split <;> rfl

/-- The first subscription keeps every pin, also those made while it waits. -/
theorem initialSubscribe_sound (atm : Rat) (resolvable : Bool) (others : List Call)
    (alive : rebalancer.failed = false) :
    Sound (rebalancer.initialSubscribe cfg atm resolvable others) := by
  unfold Rebalancer.initialSubscribe
  refine ⟨?_, ?_⟩
  · rw [awaitFeeder_state]
    exact calls_pinned _ _ Finset.subset_union_right
  · rw [awaitFeeder_failed]
    exact alive

theorem initialSubscribe_unsubscribes (atm : Rat) (resolvable : Bool) (others : List Call)
    (strikes : Finset Rat) : FeederCall.unsubscribe strikes ∉
      (rebalancer.initialSubscribe cfg atm resolvable others).calls.drop
        rebalancer.calls.length := by
  rw [Rebalancer.initialSubscribe, awaitFeeder_calls, List.drop_left]
  split <;> simp

/-- One event keeps the pins exactly when it is no rebalance that drops a late pin. -/
theorem keepsPins_iff (event : Event) (sound : Sound rebalancer) :
    KeepsPins cfg rebalancer event ↔ NoLatePin cfg rebalancer event := by
  cases event with
  | call call =>
    have after : Sound (rebalancer.during [call]) :=
      ⟨call_pinned rebalancer.state call sound.pinned, sound.alive⟩
    refine iff_of_true ⟨after, fun strikes called => ?_⟩ trivial
    simp [step, Rebalancer.during] at called
  | tick tick resolvable first second =>
    have marked := markClose_sound cfg rebalancer tick sound
    have stepped : step cfg rebalancer (.tick tick resolvable first second) =
        rebalancer.onTick cfg tick resolvable first second := by
      simp [step, sound.alive]
    rw [KeepsPins, NoLatePin, stepped, onTick_eq, ← markClose_calls cfg rebalancer tick]
    cases Rebalancer.plan cfg (rebalancer.markClose cfg tick).state tick with
    | idle =>
      refine iff_of_true ⟨marked, fun strikes called => ?_⟩ trivial
      simp at called
    | initial atm =>
      refine iff_of_true ⟨initialSubscribe_sound cfg _ atm resolvable first marked.alive,
        fun strikes called => ?_⟩ trivial
      exact absurd called (initialSubscribe_unsubscribes cfg
        { rebalancer.markClose cfg tick with
          state := { (rebalancer.markClose cfg tick).state with
            openAtm := some atm
            currentAtm := some atm } } atm resolvable first strikes)
    | rebalance atm =>
      have kept := rebalance_keeps_iff cfg _ atm resolvable first second marked
      rw [markClose_toUnsub, markClose_waitCalls] at kept
      exact kept

end Step

/-- In every run, the pins are kept at every step exactly when no rebalance drops a
strike that a call made during its waits leaves pinned. -/
theorem pins_kept_iff (cfg : Config) (events : List Event) :
    Along (step cfg) (KeepsPins cfg) {} events ↔ Along (step cfg) (NoLatePin cfg) {} events := by
  have sound : Sound {} := ⟨Finset.empty_subset _, rfl⟩
  constructor
  · exact along_under (step cfg) (fun _ _ _ kept => kept.1)
      (fun rebalancer event sound => (keepsPins_iff cfg rebalancer event sound).mp) {} events sound
  · exact along_under (step cfg)
      (fun rebalancer event sound free => ((keepsPins_iff cfg rebalancer event sound).mpr free).1)
      (fun rebalancer event sound => (keepsPins_iff cfg rebalancer event sound).mpr) {} events sound

/-- NIFTY with one strike on either side. -/
def nifty : Config := ⟨true, 50, 1⟩

/-- The morning subscribes three strikes, and the market moves by four. While the
feeder drops the old window, a fill pins a strike of it. -/
def latePin : List Event :=
  [.call .enableChain, .tick ⟨24000, 36000⟩ true [] [],
    .tick ⟨24200, 36060⟩ true [.pinStrike 24000] []]

/-- The rebalance unsubscribes the strike, and its assertion fails. -/
theorem late_pin_escapes :
    ¬ Along (step nifty) (KeepsPins nifty) {} latePin ∧
      (run (step nifty) {} latePin).failed = true := by
  constructor
  · rintro ⟨-, -, kept, -⟩
    have alive := kept.1.alive
    revert alive
    decide +kernel
  · decide +kernel

end OptionChain.PinnedRebalance
