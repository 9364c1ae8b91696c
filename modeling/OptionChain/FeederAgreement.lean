import OptionChain.PinnedRebalance

/-!
# The feeder and the active set

Operations follow each other here: nothing is called while a tick waits. The feeder
then never holds a strike outside the active set, and every pin is active. The two
sets differ by the pins: a pin makes a strike active without subscribing it, and
taking the pin back unsubscribes nothing. An active strike that is missing at the
feeder came in by such a pin and has stayed active since, and before the first
rebalance of a disabled chain the feeder holds what was pinned when the day was
opened.
-/

namespace OptionChain.FeederAgreement

open Runs StrikeRebalancer PinnedRebalance

/-- An operation that nothing interrupts, with a resolvable expiry. -/
inductive Op where
  | call (call : Call)
  | tick (tick : IndexTick)

def Op.event : Op → Event
  | .call made => .call made
  | .tick index => .tick index true [] []

def stepOp (cfg : Config) (rebalancer : Rebalancer) (op : Op) : Rebalancer :=
  step cfg rebalancer op.event

/-- The rebalancer after some operations. -/
def after (cfg : Config) (ops : List Op) : Rebalancer := run (stepOp cfg) {} ops

/-- The strikes at the feeder. -/
def fed (rebalancer : Rebalancer) : Finset Rat := subscribed rebalancer.calls

/-- The feeder holds the active set, every pin among it, and nothing else while the
chain is disabled. -/
def Agrees (rebalancer : Rebalancer) : Prop :=
  fed rebalancer = rebalancer.state.activeStrikes ∧
    rebalancer.state.pinnedStrikes ⊆ fed rebalancer ∧
    (rebalancer.state.chainEnabled = false → fed rebalancer = rebalancer.state.pinnedStrikes)

instance (rebalancer : Rebalancer) : Decidable (Agrees rebalancer) :=
  inferInstanceAs (Decidable (_ ∧ _ ∧ _))

/-- The operation opens the day: it makes the first subscription. -/
def opens (cfg : Config) (rebalancer : Rebalancer) : Op → Prop
  | .call _ => False
  | .tick tick => ∃ atm,
      Rebalancer.plan cfg (rebalancer.markClose cfg tick).state tick = .initial atm

/-- The strike came in by a pin while it was not active. Since then it has stayed
active, and the day was not opened. -/
def PinnedUnfed (cfg : Config) (ops : List Op) (strike : Rat) : Prop :=
  ∃ earlier later, ops = earlier ++ .call (.pinStrike strike) :: later ∧
    strike ∉ (after cfg earlier).state.activeStrikes ∧
    Along (stepOp cfg)
      (fun rebalancer op =>
        strike ∈ (stepOp cfg rebalancer op).state.activeStrikes ∧ ¬ opens cfg rebalancer op)
      (after cfg (earlier ++ [.call (.pinStrike strike)])) later

section Feeder

theorem subscribed_snoc (calls : List FeederCall) (call : FeederCall) :
    subscribed (calls ++ [call]) =
      match call with
      | .subscribe more => subscribed calls ∪ more
      | .unsubscribe fewer => subscribed calls \ fewer := by
  rw [subscribed, List.foldl_append]
  cases call <;> rfl

/-- An uninterrupted subscription adds its strikes, also when there are none. -/
theorem fed_subscribe (rebalancer : Rebalancer) (strikes : Finset Rat) :
    fed (rebalancer.awaitFeeder true .subscribe strikes []) = fed rebalancer ∪ strikes := by
  rw [fed, awaitFeeder_calls]
  by_cases none : strikes = ∅
  · simp [none, fed]
  · simp [none, fed, subscribed_snoc]

theorem fed_unsubscribe (rebalancer : Rebalancer) (strikes : Finset Rat) :
    fed (rebalancer.awaitFeeder true .unsubscribe strikes []) = fed rebalancer \ strikes := by
  rw [fed, awaitFeeder_calls]
  by_cases none : strikes = ∅
  · simp [none, fed]
  · simp [none, fed, subscribed_snoc]

theorem awaitFeeder_alone (rebalancer : Rebalancer) (make : Finset Rat → FeederCall)
    (strikes : Finset Rat) :
    (rebalancer.awaitFeeder true make strikes []).state = rebalancer.state := by
  rw [awaitFeeder_state, waited]
  split <;> rfl

end Feeder

/-- What an operation does to the sets, the anchors and the count. -/
inductive Moves (cfg : Config) (before next : Rebalancer) : Op → Prop where
  | call (call : Call) (state : next.state = before.state.call call)
      (calls : next.calls = before.calls) : Moves cfg before next (.call call)
  | idle (tick : IndexTick) (quiet : ¬ opens cfg before (.tick tick))
      (active : next.state.activeStrikes = before.state.activeStrikes)
      (pinned : next.state.pinnedStrikes = before.state.pinnedStrikes)
      (enabled : next.state.chainEnabled = before.state.chainEnabled)
      (openAtm : next.state.openAtm = before.state.openAtm)
      (currentAtm : next.state.currentAtm = before.state.currentAtm)
      (count : next.state.rebalanceCount = before.state.rebalanceCount)
      (calls : next.calls = before.calls) : Moves cfg before next (.tick tick)
  | opened (tick : IndexTick) (window : Finset Rat) (opening : opens cfg before (.tick tick))
      (closed : before.state.openAtm = none) (anchored : next.state.openAtm ≠ none)
      (disabled : before.state.chainEnabled = false → window = ∅)
      (active : next.state.activeStrikes = window ∪ before.state.pinnedStrikes)
      (pinned : next.state.pinnedStrikes = before.state.pinnedStrikes)
      (enabled : next.state.chainEnabled = before.state.chainEnabled)
      (count : next.state.rebalanceCount = before.state.rebalanceCount)
      (fed : fed next = fed before ∪ (window ∪ before.state.pinnedStrikes)) :
      Moves cfg before next (.tick tick)
  | rebalanced (tick : IndexTick) (window : Finset Rat)
      (quiet : ¬ opens cfg before (.tick tick)) (anchored : before.state.currentAtm ≠ none)
      (openAtm : next.state.openAtm = before.state.openAtm)
      (active : next.state.activeStrikes =
        (before.state.activeStrikes \
          ((before.state.activeStrikes \ window) \ before.state.pinnedStrikes)) ∪
          (window \ before.state.activeStrikes))
      (pinned : next.state.pinnedStrikes = before.state.pinnedStrikes)
      (count : next.state.rebalanceCount ≠ 0)
      (fed : fed next =
        (fed before \ ((before.state.activeStrikes \ window) \ before.state.pinnedStrikes)) ∪
          (window \ before.state.activeStrikes)) :
      Moves cfg before next (.tick tick)

section Parts

variable (cfg : Config) (rebalancer : Rebalancer)

/-- Marking the end of the day shows only in the mark. -/
theorem markClose_reads {α : Type} (tick : IndexTick) (read : UnderlyingState → α)
    (blind : ∀ state closed, read { state with eodUnsubscribed := closed } = read state) :
    read (rebalancer.markClose cfg tick).state = read rebalancer.state := by
  unfold Rebalancer.markClose
  split
  · exact blind _ _
  · rfl

theorem plan_initial {state : UnderlyingState} {tick : IndexTick} {atm : Rat}
    (planned : Rebalancer.plan cfg state tick = .initial atm) : state.openAtm = none := by
  unfold Rebalancer.plan at planned
  by_contra anchored
  rw [if_neg (fun early => anchored early.1)] at planned
  cases here : state.currentAtm with
  | none => simp [here] at planned
  | some current =>
    rw [here] at planned
    dsimp only at planned
    split at planned <;> cases planned

theorem plan_rebalance {state : UnderlyingState} {tick : IndexTick} {atm : Rat}
    (planned : Rebalancer.plan cfg state tick = .rebalance atm) : state.currentAtm ≠ none := by
  intro unanchored
  unfold Rebalancer.plan at planned
  dsimp only at planned
  split at planned
  · split at planned <;> cases planned
  · simp [unanchored] at planned

theorem initialSubscribe_alone (atm : Rat) :
    (rebalancer.initialSubscribe cfg atm true []).state =
      { rebalancer.state with
        activeStrikes := (if rebalancer.state.chainEnabled then
          strikeWindow atm cfg.step cfg.depth else ∅) ∪ rebalancer.state.pinnedStrikes } := by
  rw [Rebalancer.initialSubscribe, awaitFeeder_alone]

theorem fed_initialSubscribe (atm : Rat) :
    fed (rebalancer.initialSubscribe cfg atm true []) =
      fed rebalancer ∪ ((if rebalancer.state.chainEnabled then
        strikeWindow atm cfg.step cfg.depth else ∅) ∪ rebalancer.state.pinnedStrikes) := by
  rw [Rebalancer.initialSubscribe, fed_subscribe]
  rfl

theorem rebalance_alone_sound (atm : Rat) (sound : Sound rebalancer) :
    Sound (rebalancer.rebalance cfg atm true [] []) := by
  rw [rebalance_sound_iff cfg rebalancer atm true [] [] sound]
  have quiet : waitedState cfg rebalancer atm true [] [] = rebalancer.state := by
    simp [waitedState, waitCalls, waited]
  rw [quiet]
  exact disjoint_sdiff_self_left

/-- An uninterrupted rebalance passes its assertion and moves the anchor. -/
theorem rebalance_alone (atm : Rat) (sound : Sound rebalancer) :
    (rebalancer.rebalance cfg atm true [] []).state =
      { rebalancer.state with
        activeStrikes := (rebalancer.state.activeStrikes \ rebalancer.toUnsub cfg atm) ∪
          rebalancer.toSub cfg atm
        currentAtm := some atm
        rebalanceCount := rebalancer.state.rebalanceCount + 1 } := by
  have passes := rebalance_alone_sound cfg rebalancer atm sound
  unfold Rebalancer.rebalance Rebalancer.finishRebalance at passes ⊢
  dsimp only at passes ⊢
  simp only [awaitFeeder_alone] at passes ⊢
  split
  · rfl
  · rename_i escaped
    exact absurd passes.pinned (by simp [escaped])

theorem fed_rebalance (atm : Rat) :
    fed (rebalancer.rebalance cfg atm true [] []) =
      (fed rebalancer \ rebalancer.toUnsub cfg atm) ∪ rebalancer.toSub cfg atm := by
  rw [fed, Rebalancer.rebalance, finishRebalance_calls]
  exact (fed_subscribe _ _).trans (congrArg (· ∪ _) (fed_unsubscribe rebalancer _))

end Parts

section Ticks

variable {cfg : Config} {rebalancer : Rebalancer} {tick : IndexTick} {atm : Rat}

/-- The operations let a tick finish before anything else happens. -/
theorem stepOp_tick (sound : Sound rebalancer) :
    stepOp cfg rebalancer (.tick tick) = rebalancer.onTick cfg tick true [] [] := by
  simp [stepOp, Op.event, step, sound.alive]

theorem idle_moves (sound : Sound rebalancer)
    (planned : Rebalancer.plan cfg (rebalancer.markClose cfg tick).state tick = .idle) :
    Sound (stepOp cfg rebalancer (.tick tick)) ∧
      Moves cfg rebalancer (stepOp cfg rebalancer (.tick tick)) (.tick tick) := by
  rw [stepOp_tick sound, onTick_eq, planned]
  have quiet : ¬ opens cfg rebalancer (.tick tick) := by
    rintro ⟨atm, opening⟩
    simp [planned] at opening
  refine ⟨markClose_sound cfg rebalancer tick sound, ?_⟩
  exact .idle tick quiet
    (markClose_reads cfg rebalancer tick (·.activeStrikes) (fun _ _ => rfl))
    (markClose_reads cfg rebalancer tick (·.pinnedStrikes) (fun _ _ => rfl))
    (markClose_reads cfg rebalancer tick (·.chainEnabled) (fun _ _ => rfl))
    (markClose_reads cfg rebalancer tick (·.openAtm) (fun _ _ => rfl))
    (markClose_reads cfg rebalancer tick (·.currentAtm) (fun _ _ => rfl))
    (markClose_reads cfg rebalancer tick (·.rebalanceCount) (fun _ _ => rfl))
    (markClose_calls cfg rebalancer tick)

theorem initial_moves (sound : Sound rebalancer)
    (planned : Rebalancer.plan cfg (rebalancer.markClose cfg tick).state tick = .initial atm) :
    Sound (stepOp cfg rebalancer (.tick tick)) ∧
      Moves cfg rebalancer (stepOp cfg rebalancer (.tick tick)) (.tick tick) := by
  have pinned := markClose_reads cfg rebalancer tick (·.pinnedStrikes) (fun _ _ => rfl)
  have enabled := markClose_reads cfg rebalancer tick (·.chainEnabled) (fun _ _ => rfl)
  have openAtm := markClose_reads cfg rebalancer tick (·.openAtm) (fun _ _ => rfl)
  have count := markClose_reads cfg rebalancer tick (·.rebalanceCount) (fun _ _ => rfl)
  have calls := markClose_calls cfg rebalancer tick
  have marked := markClose_sound cfg rebalancer tick sound
  have opening : opens cfg rebalancer (.tick tick) := ⟨atm, planned⟩
  rw [stepOp_tick sound, onTick_eq, planned]
  refine ⟨initialSubscribe_sound cfg _ atm true [] marked.alive, ?_⟩
  refine .opened tick (if rebalancer.state.chainEnabled then
    strikeWindow atm cfg.step cfg.depth else ∅) opening ?_ ?_ ?_ ?_ ?_ ?_ ?_ ?_
  · rw [← openAtm]
    exact plan_initial cfg planned
  · simp [initialSubscribe_alone]
  · intro disabled
    simp [disabled]
  · simp [initialSubscribe_alone, enabled, pinned]
  · simp [initialSubscribe_alone, pinned]
  · simp [initialSubscribe_alone, enabled]
  · simp [initialSubscribe_alone, count]
  · rw [fed_initialSubscribe]
    simp [fed, calls, enabled, pinned]

theorem rebalance_moves (sound : Sound rebalancer)
    (planned : Rebalancer.plan cfg (rebalancer.markClose cfg tick).state tick = .rebalance atm) :
    Sound (stepOp cfg rebalancer (.tick tick)) ∧
      Moves cfg rebalancer (stepOp cfg rebalancer (.tick tick)) (.tick tick) := by
  have active := markClose_reads cfg rebalancer tick (·.activeStrikes) (fun _ _ => rfl)
  have pinned := markClose_reads cfg rebalancer tick (·.pinnedStrikes) (fun _ _ => rfl)
  have openAtm := markClose_reads cfg rebalancer tick (·.openAtm) (fun _ _ => rfl)
  have currentAtm := markClose_reads cfg rebalancer tick (·.currentAtm) (fun _ _ => rfl)
  have calls := markClose_calls cfg rebalancer tick
  have marked := markClose_sound cfg rebalancer tick sound
  have quiet : ¬ opens cfg rebalancer (.tick tick) := by
    rintro ⟨atm, opening⟩
    simp [planned] at opening
  rw [stepOp_tick sound, onTick_eq, planned]
  refine ⟨rebalance_alone_sound cfg _ atm marked, ?_⟩
  refine .rebalanced tick (strikeWindow atm cfg.step cfg.depth) quiet ?_ ?_ ?_ ?_ ?_ ?_
  · rw [← currentAtm]
    exact plan_rebalance cfg planned
  · rw [rebalance_alone cfg _ atm marked]
    exact openAtm
  · rw [rebalance_alone cfg _ atm marked, markClose_toUnsub]
    simp [Rebalancer.toUnsub, Rebalancer.toSub, active]
  · rw [rebalance_alone cfg _ atm marked]
    exact pinned
  · rw [rebalance_alone cfg _ atm marked]
    exact Nat.succ_ne_zero _
  · rw [fed_rebalance, markClose_toUnsub, fed, calls]
    simp [Rebalancer.toUnsub, Rebalancer.toSub, active, fed]

end Ticks

/-- Every operation on a sound rebalancer is one of these, and leaves it sound. -/
theorem stepOp_moves (cfg : Config) (rebalancer : Rebalancer) (op : Op)
    (sound : Sound rebalancer) :
    Sound (stepOp cfg rebalancer op) ∧ Moves cfg rebalancer (stepOp cfg rebalancer op) op := by
  cases op with
  | call call =>
    refine ⟨⟨call_pinned rebalancer.state call sound.pinned, sound.alive⟩, ?_⟩
    exact .call call rfl rfl
  | tick tick =>
    cases planned : Rebalancer.plan cfg (rebalancer.markClose cfg tick).state tick with
    | idle => exact idle_moves sound planned
    | initial atm => exact initial_moves sound planned
    | rebalance atm => exact rebalance_moves sound planned

/-- What holds of the sets after every run of operations. -/
structure Tracks (rebalancer : Rebalancer) : Prop where
  sound : Sound rebalancer
  fedActive : fed rebalancer ⊆ rebalancer.state.activeStrikes
  unopened : rebalancer.state.openAtm = none →
    fed rebalancer = ∅ ∧ rebalancer.state.currentAtm = none

/-- One operation keeps the feeder inside the active set. -/
theorem stepOp_tracks (cfg : Config) (rebalancer : Rebalancer) (op : Op)
    (tracks : Tracks rebalancer) : Tracks (stepOp cfg rebalancer op) := by
  obtain ⟨sound, moves⟩ := stepOp_moves cfg rebalancer op tracks.sound
  refine ⟨sound, ?_, ?_⟩
  · cases moves with
    | call call state calls =>
      rw [fed, calls, state]
      refine tracks.fedActive.trans ?_
      cases call with
      | enableChain => exact Finset.Subset.refl _
      | pinStrike strike => exact Finset.subset_insert _ _
      | unpinStrike strike => exact Finset.Subset.refl _
    | idle tick quiet active pinned enabled openAtm currentAtm count calls =>
      rw [fed, calls, active]
      exact tracks.fedActive
    | opened tick window opening closed anchored disabled active pinned enabled count fed =>
      rw [fed, active, (tracks.unopened closed).1, Finset.empty_union]
    | rebalanced tick window quiet anchored openAtm active pinned count fed =>
      rw [fed, active]
      exact Finset.union_subset_union_left (Finset.sdiff_subset_sdiff tracks.fedActive
        (Finset.Subset.refl _))
  · intro none
    cases moves with
    | call call state calls =>
      have anchors : (stepOp cfg rebalancer (.call call)).state.openAtm =
          rebalancer.state.openAtm ∧
          (stepOp cfg rebalancer (.call call)).state.currentAtm = rebalancer.state.currentAtm := by
        rw [state]
        cases call <;> exact ⟨rfl, rfl⟩
      rw [fed, calls, anchors.2]
      exact tracks.unopened (anchors.1 ▸ none)
    | idle tick quiet active pinned enabled openAtm currentAtm count calls =>
      rw [fed, calls, currentAtm]
      exact tracks.unopened (openAtm ▸ none)
    | opened tick window opening closed anchored disabled active pinned enabled count fed =>
      exact absurd none anchored
    | rebalanced tick window quiet anchored openAtm active pinned count fed =>
      exact absurd (tracks.unopened (openAtm ▸ none)).2 anchored

theorem after_snoc (cfg : Config) (ops : List Op) (op : Op) :
    after cfg (ops ++ [op]) = stepOp cfg (after cfg ops) op := by
  simp [after]

theorem after_tracks (cfg : Config) (ops : List Op) : Tracks (after cfg ops) := by
  induction ops using List.reverseRecOn with
  | nil =>
    refine ⟨⟨Finset.empty_subset _, rfl⟩, Finset.empty_subset _, fun _ => ⟨rfl, rfl⟩⟩
  | append_singleton ops op inductionHypothesis =>
    rw [after_snoc]
    exact stepOp_tracks cfg (after cfg ops) op inductionHypothesis

section History

variable (cfg : Config) (ops : List Op) (op : Op) (strike : Rat)

/-- A longer history either ends with such a pin, or continues one. -/
theorem pinnedUnfed_snoc : PinnedUnfed cfg (ops ++ [op]) strike ↔
    (op = .call (.pinStrike strike) ∧ strike ∉ (after cfg ops).state.activeStrikes) ∨
      (PinnedUnfed cfg ops strike ∧
        strike ∈ (stepOp cfg (after cfg ops) op).state.activeStrikes ∧
        ¬ opens cfg (after cfg ops) op) := by
  constructor
  · rintro ⟨earlier, later, split, absent, since⟩
    rcases List.eq_nil_or_concat' later with none | ⟨most, last, longer⟩
    · subst none
      obtain ⟨same, pin⟩ := List.append_inj' split rfl
      subst same
      exact .inl ⟨by simpa using pin, absent⟩
    · subst longer
      have parts : ops = earlier ++ .call (.pinStrike strike) :: most ∧ op = last := by
        rw [← List.cons_append, ← List.append_assoc] at split
        obtain ⟨same, pin⟩ := List.append_inj' split rfl
        exact ⟨same, by simpa using pin⟩
      obtain ⟨rfl, rfl⟩ := parts
      rw [along_append] at since
      refine .inr ⟨⟨earlier, most, rfl, absent, since.1⟩, ?_⟩
      have here : run (stepOp cfg) (after cfg (earlier ++ [.call (.pinStrike strike)])) most =
          after cfg (earlier ++ .call (.pinStrike strike) :: most) := by
        simp [after]
      rw [here] at since
      exact since.2.1
  · rintro (⟨rfl, absent⟩ | ⟨⟨earlier, later, rfl, absent, since⟩, stays⟩)
    · exact ⟨ops, [], rfl, absent, trivial⟩
    · refine ⟨earlier, later ++ [op], by simp, absent, ?_⟩
      rw [along_append]
      have here : run (stepOp cfg) (after cfg (earlier ++ [.call (.pinStrike strike)])) later =
          after cfg (earlier ++ .call (.pinStrike strike) :: later) := by
        simp [after]
      rw [here]
      exact ⟨since, stays, trivial⟩

/-- A pin that has stayed active is active. -/
theorem pinnedUnfed_active (unfed : PinnedUnfed cfg ops strike) :
    strike ∈ (after cfg ops).state.activeStrikes := by
  obtain ⟨earlier, later, rfl, absent, since⟩ := unfed
  rcases List.eq_nil_or_concat' later with rfl | ⟨most, last, rfl⟩
  · rw [after_snoc]
    exact Finset.mem_insert_self _ _
  · rw [along_append] at since
    simpa [after] using since.2.1.1

end History

/-- One operation changes what the feeder lacks as it changes such pins. -/
theorem stepOp_unfed (cfg : Config) (rebalancer : Rebalancer) (op : Op)
    (tracks : Tracks rebalancer) (strike : Rat)
    (active : strike ∈ (stepOp cfg rebalancer op).state.activeStrikes) :
    strike ∉ fed (stepOp cfg rebalancer op) ↔
      (op = .call (.pinStrike strike) ∧ strike ∉ rebalancer.state.activeStrikes) ∨
        ((strike ∈ rebalancer.state.activeStrikes ∧ strike ∉ fed rebalancer) ∧
          ¬ opens cfg rebalancer op) := by
  obtain ⟨-, moves⟩ := stepOp_moves cfg rebalancer op tracks.sound
  have outside : strike ∉ rebalancer.state.activeStrikes → strike ∉ fed rebalancer :=
    fun absent inside => absent (tracks.fedActive inside)
  cases moves with
  | call call state calls =>
    rw [fed, calls]
    rw [state] at active
    cases call with
    | enableChain =>
      have inside : strike ∈ rebalancer.state.activeStrikes := active
      simp [inside, fed, opens]
    | pinStrike other =>
      have inside : strike = other ∨ strike ∈ rebalancer.state.activeStrikes :=
        Finset.mem_insert.mp active
      by_cases already : strike ∈ rebalancer.state.activeStrikes
      · simp [already, fed, opens]
      · have same : other = strike := (inside.resolve_right already).symm
        simpa [already, same, fed] using outside already
    | unpinStrike other =>
      have inside : strike ∈ rebalancer.state.activeStrikes := active
      simp [inside, fed, opens]
  | idle tick quiet same pinned enabled openAtm currentAtm count calls =>
    rw [same] at active
    rw [fed, calls]
    simp [active, quiet, fed]
  | opened tick window opening closed anchored disabled same pinned enabled count holds =>
    rw [same] at active
    rw [holds]
    simp [opening, Finset.mem_union_right _ active]
  | rebalanced tick window quiet anchored openAtm same pinned count holds =>
    rw [same] at active
    rw [holds]
    rcases Finset.mem_union.mp active with stays | added
    · obtain ⟨inside, kept⟩ := Finset.mem_sdiff.mp stays
      simp [inside, quiet, kept]
    · have absent := (Finset.mem_sdiff.mp added).2
      simp [added, absent]

/-- The feeder lacks exactly the active strikes of such pins. -/
theorem after_unfed (cfg : Config) (ops : List Op) (strike : Rat)
    (active : strike ∈ (after cfg ops).state.activeStrikes) :
    strike ∉ fed (after cfg ops) ↔ PinnedUnfed cfg ops strike := by
  induction ops using List.reverseRecOn with
  | nil => simp [after] at active
  | append_singleton ops op inductionHypothesis =>
    rw [after_snoc] at active ⊢
    rw [stepOp_unfed cfg (after cfg ops) op (after_tracks cfg ops) strike active, pinnedUnfed_snoc]
    apply or_congr Iff.rfl
    constructor
    · rintro ⟨⟨inside, missing⟩, quiet⟩
      exact ⟨(inductionHypothesis inside).mp missing, active, quiet⟩
    · rintro ⟨unfed, -, quiet⟩
      have inside := pinnedUnfed_active cfg ops strike unfed
      exact ⟨⟨inside, (inductionHypothesis inside).mpr unfed⟩, quiet⟩

/-- Until a rebalance, a disabled chain is fed what was pinned at some earlier point:
when the day was opened, or before anything was pinned. -/
theorem after_disabled (cfg : Config) (ops : List Op)
    (disabled : (after cfg ops).state.chainEnabled = false)
    (unbalanced : (after cfg ops).state.rebalanceCount = 0) :
    ∃ earlier, earlier <+: ops ∧
      fed (after cfg ops) = (after cfg earlier).state.pinnedStrikes := by
  induction ops using List.reverseRecOn with
  | nil => exact ⟨[], List.prefix_refl _, rfl⟩
  | append_singleton ops op inductionHypothesis =>
    rw [after_snoc] at disabled unbalanced ⊢
    have tracks := after_tracks cfg ops
    obtain ⟨-, moves⟩ := stepOp_moves cfg (after cfg ops) op tracks.sound
    have longer : ∀ earlier, earlier <+: ops → earlier <+: ops ++ [op] :=
      fun earlier inside => inside.trans (List.prefix_append _ _)
    cases moves with
    | call call state calls =>
      rw [state] at disabled unbalanced
      have before : (after cfg ops).state.chainEnabled = false ∧
          (after cfg ops).state.rebalanceCount = 0 := by
        cases call with
        | enableChain => simp [UnderlyingState.call, UnderlyingState.enableChain] at disabled
        | pinStrike strike => exact ⟨disabled, unbalanced⟩
        | unpinStrike strike => exact ⟨disabled, unbalanced⟩
      obtain ⟨earlier, inside, same⟩ := inductionHypothesis before.1 before.2
      refine ⟨earlier, longer earlier inside, ?_⟩
      rw [← same, fed, calls, fed]
    | idle tick quiet active pinned enabled openAtm currentAtm count calls =>
      rw [enabled] at disabled
      rw [count] at unbalanced
      obtain ⟨earlier, inside, same⟩ := inductionHypothesis disabled unbalanced
      refine ⟨earlier, longer earlier inside, ?_⟩
      rw [← same, fed, calls, fed]
    | opened tick window opening closed anchored nothing active pinned enabled count holds =>
      rw [enabled] at disabled
      refine ⟨ops, List.prefix_append _ _, ?_⟩
      rw [holds, (tracks.unopened closed).1, nothing disabled]
      simp
    | rebalanced tick window quiet anchored openAtm active pinned count holds =>
      exact absurd unbalanced count

/-- After every run of operations the pins are active and the feeder stays inside the
active set. What it lacks there was made active by a pin, which subscribes nothing,
and before the first rebalance a disabled chain is fed pins alone. -/
theorem feeder_agreement (cfg : Config) (ops : List Op) :
    (after cfg ops).state.pinnedStrikes ⊆ (after cfg ops).state.activeStrikes ∧
      fed (after cfg ops) ⊆ (after cfg ops).state.activeStrikes ∧
      (∀ strike ∈ (after cfg ops).state.activeStrikes,
        strike ∉ fed (after cfg ops) → PinnedUnfed cfg ops strike) ∧
      ((after cfg ops).state.chainEnabled = false → (after cfg ops).state.rebalanceCount = 0 →
        ∃ earlier, earlier <+: ops ∧
          fed (after cfg ops) = (after cfg earlier).state.pinnedStrikes) := by
  have tracks := after_tracks cfg ops
  refine ⟨tracks.sound.pinned, tracks.fedActive, ?_, ?_⟩
  · intro strike active
    exact (after_unfed cfg ops strike active).mp
  · intro disabled unbalanced
    exact after_disabled cfg ops disabled unbalanced

/-- A strike pinned during the day is not subscribed, and one unpinned is not
unsubscribed. -/
theorem feeder_and_pins_differ :
    ¬ Agrees (after nifty [.tick ⟨24000, 36000⟩, .call (.pinStrike 24500)]) ∧
      ¬ Agrees (after nifty
        [.call (.pinStrike 24000), .tick ⟨24000, 36000⟩, .call (.unpinStrike 24000)]) := by
  decide

end OptionChain.FeederAgreement
