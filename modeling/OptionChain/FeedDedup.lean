import Mathlib.Data.List.Pairwise
import Mathlib.Data.Rat.Floor
import Mathlib.Tactic.Linarith
import Mathlib.Tactic.NormNum
import OptionChain.Runs

/-!
# Two feeds for one price

Both providers offer every tick to one buffer. The primary drives the prices; the other is
let in only after the primary has been silent for `stale_sec`, counted from the moment the
primary was set. What is let in is published unless the same symbol was published less than
a tenth of a second ago at nearly the same price. The two rules keep times of their own,
one for all symbols and one for each.
-/

namespace OptionChain.FeedDedup

open Runs

/-- The state of a `DedupBuffer`. -/
structure DedupBuffer where
  last : String → Option (Rat × Rat) := fun _ => none
  primary : Option String := none
  staleSec : Rat := 3
  lastPrimaryTs : Rat := 0

/-- A call of `accept` and the clock it reads. -/
structure Call where
  symbol : String
  ltp : Rat
  provider : Option String
  now : Rat

/-- `(provider or "").lower() or None`. -/
def primaryOf (provider : Option String) : Option String :=
  let name := (provider.getD "").toLower
  if name = "" then none else some name

/-- `set_primary`. -/
def DedupBuffer.setPrimary (buffer : DedupBuffer) (provider : Option String)
    (staleSec now : Rat) : DedupBuffer :=
  { buffer with primary := primaryOf provider, staleSec := staleSec, lastPrimaryTs := now }

/-- The active-passive gate: the buffer behind it, and whether the call passes. -/
def DedupBuffer.gate (buffer : DedupBuffer) (call : Call) : DedupBuffer × Bool :=
  match buffer.primary with
  | none => (buffer, true)
  | some primary =>
      match call.provider with
      | none => (buffer, true)
      | some provider =>
          if provider.toLower = primary then ({ buffer with lastPrimaryTs := call.now }, true)
          else if call.now - buffer.lastPrimaryTs < buffer.staleSec then (buffer, false)
          else (buffer, true)

/-- `self._last[symbol] = (now, ltp)`. -/
def DedupBuffer.keep (buffer : DedupBuffer) (call : Call) : DedupBuffer :=
  { buffer with
    last := fun symbol =>
      if symbol = call.symbol then some (call.now, call.ltp) else buffer.last symbol }

/-- The rule of the symbol, behind the gate. -/
def DedupBuffer.publish (buffer : DedupBuffer) (call : Call) : DedupBuffer × Bool :=
  match buffer.last call.symbol with
  | none => (buffer.keep call, true)
  | some (prevTs, prevLtp) =>
      if 1 / 10 ≤ call.now - prevTs ∨ 1 / 10 ^ 4 < |call.ltp - prevLtp| then
        (buffer.keep call, true)
      else (buffer, false)

/-- `accept`. -/
def DedupBuffer.accept (buffer : DedupBuffer) (call : Call) : DedupBuffer × Bool :=
  match buffer.gate call with
  | (gated, false) => (gated, false)
  | (gated, true) => gated.publish call

def step (buffer : DedupBuffer) (call : Call) : DedupBuffer := (buffer.accept call).1

/-- A call in the name of the primary. -/
def isPrimary (primary : Option String) (call : Call) : Bool :=
  primary.isSome && decide (call.provider.map String.toLower = primary)

/-- A call in another name, while there is a primary. -/
def isSecondary (primary : Option String) (call : Call) : Bool :=
  primary.isSome && call.provider.isSome && !decide (call.provider.map String.toLower = primary)

section Gate

variable (buffer : DedupBuffer) (call : Call)

/-- The gate notes the time of a primary call and nothing else. -/
theorem gate_buffer : (buffer.gate call).1 =
    { buffer with lastPrimaryTs :=
        if isPrimary buffer.primary call = true then call.now else buffer.lastPrimaryTs } := by
  obtain ⟨last, primary, staleSec, lastPrimaryTs⟩ := buffer
  unfold DedupBuffer.gate isPrimary
  cases primary with
  | none => rfl
  | some primary =>
    cases call.provider with
    | none => rfl
    | some provider =>
      by_cases same : provider.toLower = primary
      · simp [same]
      · by_cases recent : call.now - lastPrimaryTs < staleSec <;> simp [same, recent]

/-- It turns away the secondary while the primary was heard recently. -/
theorem gate_passes_iff : (buffer.gate call).2 = true ↔
    (isSecondary buffer.primary call = true →
      buffer.staleSec ≤ call.now - buffer.lastPrimaryTs) := by
  unfold DedupBuffer.gate isSecondary
  cases buffer.primary with
  | none => simp
  | some primary =>
    cases call.provider with
    | none => simp
    | some provider =>
      by_cases same : provider.toLower = primary
      · simp [same]
      · by_cases recent : call.now - buffer.lastPrimaryTs < buffer.staleSec
        · simp [same, recent]
        · simpa [same, recent] using not_lt.mp recent

/-- Behind the gate a call is published unless it repeats its symbol's last price. -/
theorem publish_iff : (buffer.publish call).2 = true ↔
    ¬ ∃ before ∈ buffer.last call.symbol,
      call.now - before.1 < 1 / 10 ∧ |call.ltp - before.2| ≤ 1 / 10 ^ 4 := by
  unfold DedupBuffer.publish
  cases buffer.last call.symbol with
  | none => simp
  | some before =>
    obtain ⟨prevTs, prevLtp⟩ := before
    by_cases moved : 1 / 10 ≤ call.now - prevTs ∨ 1 / 10 ^ 4 < |call.ltp - prevLtp|
    · simp only [if_pos moved, Option.mem_def, Option.some.injEq, exists_eq_left', true_iff]
      rintro ⟨recent, near⟩
      rcases moved with late | far
      · exact absurd recent (not_lt.mpr late)
      · exact absurd near (not_le.mpr far)
    · simp only [if_neg moved, Option.mem_def, Option.some.injEq, exists_eq_left']
      push Not at moved
      simp only [Bool.false_eq_true, false_iff, not_not]
      exact moved

theorem publish_buffer : (buffer.publish call).1 =
    if (buffer.publish call).2 = true then buffer.keep call else buffer := by
  unfold DedupBuffer.publish
  cases buffer.last call.symbol with
  | none => rfl
  | some before =>
    dsimp only
    split <;> rfl

/-- What a call leaves behind: the time of the primary, and its own price if accepted. -/
theorem accept_spec : (buffer.accept call).2 = ((buffer.gate call).2 &&
      ((buffer.gate call).1.publish call).2) ∧
    (buffer.accept call).1 = if (buffer.accept call).2 = true then (buffer.gate call).1.keep call
      else (buffer.gate call).1 := by
  unfold DedupBuffer.accept
  cases gated : buffer.gate call with
  | mk behind passes =>
    cases passes with
    | false => simp
    | true => exact ⟨by simp, publish_buffer behind call⟩

@[simp] theorem step_primary : (step buffer call).primary = buffer.primary := by
  unfold step
  rw [(accept_spec buffer call).2, gate_buffer]
  split <;> rfl

@[simp] theorem step_staleSec : (step buffer call).staleSec = buffer.staleSec := by
  unfold step
  rw [(accept_spec buffer call).2, gate_buffer]
  split <;> rfl

@[simp] theorem step_lastPrimaryTs : (step buffer call).lastPrimaryTs =
    if isPrimary buffer.primary call = true then call.now else buffer.lastPrimaryTs := by
  unfold step
  rw [(accept_spec buffer call).2, gate_buffer]
  split <;> rfl

theorem step_last (symbol : String) : (step buffer call).last symbol =
    if (buffer.accept call).2 = true ∧ call.symbol = symbol then some (call.now, call.ltp)
    else buffer.last symbol := by
  unfold step
  rw [(accept_spec buffer call).2, gate_buffer]
  by_cases accepted : (buffer.accept call).2 = true
  · rw [if_pos accepted]
    by_cases same : call.symbol = symbol
    · simp [DedupBuffer.keep, accepted, same]
    · simp [DedupBuffer.keep, same, Ne.symm same]
  · simp [accepted]

end Gate

section Runs

variable (buffer : DedupBuffer) (calls : List Call)

@[simp] theorem run_primary : (run step buffer calls).primary = buffer.primary := by
  induction calls generalizing buffer with
  | nil => rfl
  | cons call rest inductionHypothesis => rw [run_cons, inductionHypothesis, step_primary]

@[simp] theorem run_staleSec : (run step buffer calls).staleSec = buffer.staleSec := by
  induction calls generalizing buffer with
  | nil => rfl
  | cons call rest inductionHypothesis => rw [run_cons, inductionHypothesis, step_staleSec]

/-- The times at which the primary was heard. -/
def heard (primary : Option String) (calls : List Call) : List Rat :=
  (calls.filter (isPrimary primary)).map Call.now

/-- The buffer knows the last time at which the primary was heard. -/
theorem run_lastPrimaryTs : (run step buffer calls).lastPrimaryTs =
    (heard buffer.primary calls).getLastD buffer.lastPrimaryTs := by
  induction calls generalizing buffer with
  | nil => rfl
  | cons call rest inductionHypothesis =>
    rw [run_cons, inductionHypothesis, step_primary, step_lastPrimaryTs]
    by_cases primary : isPrimary buffer.primary call = true
    · rw [if_pos primary]
      unfold heard
      rw [List.filter_cons_of_pos primary, List.map_cons, List.getLastD_cons]
    · rw [if_neg primary]
      unfold heard
      rw [List.filter_cons_of_neg primary]

/-- The calls that were accepted, in order. -/
def accepted : List Call :=
  sent step (fun state call => if (state.accept call).2 = true then [call] else []) buffer calls

/-- The time and price of the last accepted call of a symbol; before any, what the buffer
held at the start. -/
def lastAccepted (symbol : String) : Option (Rat × Rat) :=
  match ((accepted buffer calls).filter (fun call => call.symbol = symbol)).getLast? with
  | some call => some (call.now, call.ltp)
  | none => buffer.last symbol

/-- The buffer knows the last accepted call of every symbol. -/
theorem run_last (symbol : String) :
    (run step buffer calls).last symbol = lastAccepted buffer calls symbol := by
  induction calls generalizing buffer with
  | nil => rfl
  | cons call rest inductionHypothesis =>
    rw [run_cons, inductionHypothesis]
    have here := step_last buffer call symbol
    unfold lastAccepted accepted
    rw [sent, List.filter_append]
    by_cases mine : (buffer.accept call).2 = true ∧ call.symbol = symbol
    · rw [if_pos mine] at here
      rw [if_pos mine.1, List.filter_cons_of_pos (by simpa using mine.2), List.filter_nil,
        List.singleton_append, List.getLast?_cons]
      cases later : ((sent step (fun state call => if (state.accept call).2 = true then [call]
          else []) (step buffer call) rest).filter (fun call => call.symbol = symbol)).getLast? with
      | none => simpa using here
      | some last => rfl
    · rw [if_neg mine] at here
      have nothing : (if (buffer.accept call).2 = true then [call] else []).filter
          (fun call => call.symbol = symbol) = [] := by
        by_cases passed : (buffer.accept call).2 = true
        · have other : ¬ call.symbol = symbol := fun same => mine ⟨passed, same⟩
          simp [other]
        · simp [passed]
      rw [nothing, List.nil_append, here]

/-- The clock never runs backwards: the primary was last heard no earlier than at any call
of it, and at one of these or at the start. -/
theorem silence_iff {start staleSec now : Rat} {times : List Rat}
    (clock : (start :: times).Pairwise (· ≤ ·)) :
    staleSec ≤ now - times.getLastD start ↔ ∀ time ∈ start :: times, staleSec ≤ now - time := by
  constructor
  · intro silent time found
    have latest := clock.rel_getLast found
    rw [List.getLast_eq_getLastD] at latest
    linarith
  · intro silent
    exact silent _ List.getLastD_mem_cons

end Runs

/-- What `accept` promises of a call after others, since the primary was set. -/
structure Deduplicates (opened : DedupBuffer) (start : Rat) (before : List Call) (call : Call) :
    Prop where
  standby : isSecondary opened.primary call = true →
    ((run step opened before).accept call).2 = true →
    ∀ earlier ∈ before, isPrimary opened.primary earlier = true →
      opened.staleSec ≤ call.now - earlier.now
  passes : ((run step opened before).gate call).2 = true ↔
    (isSecondary opened.primary call = true →
      ∀ time ∈ start :: heard opened.primary before, opened.staleSec ≤ call.now - time)
  published : ((run step opened before).gate call).2 = true →
    (((run step opened before).accept call).2 = true ↔
      ¬ ∃ last ∈ lastAccepted opened before call.symbol,
        call.now - last.1 < 1 / 10 ∧ |call.ltp - last.2| ≤ 1 / 10 ^ 4)
  near : ((run step opened before).gate call).2 = true →
    ∃ last ∈ lastAccepted opened (before ++ [call]) call.symbol,
      |call.ltp - last.2| ≤ 1 / 10 ^ 4

/-- Behind the gate the buffer decides by the last accepted price of the symbol. -/
theorem accept_iff {buffer : DedupBuffer} {call : Call} (passes : (buffer.gate call).2 = true) :
    (buffer.accept call).2 = true ↔ ¬ ∃ last ∈ buffer.last call.symbol,
      call.now - last.1 < 1 / 10 ∧ |call.ltp - last.2| ≤ 1 / 10 ^ 4 := by
  rw [(accept_spec buffer call).1, passes, Bool.true_and, publish_iff, gate_buffer]

/-- After a call behind the gate the symbol's last accepted price is near its own. -/
theorem step_near {buffer : DedupBuffer} {call : Call} (passes : (buffer.gate call).2 = true) :
    ∃ last ∈ (step buffer call).last call.symbol, |call.ltp - last.2| ≤ 1 / 10 ^ 4 := by
  rw [step_last]
  by_cases taken : (buffer.accept call).2 = true
  · rw [if_pos ⟨taken, rfl⟩]
    exact ⟨_, rfl, by simp⟩
  · rw [if_neg (fun both => taken both.1)]
    rw [accept_iff passes, not_not] at taken
    obtain ⟨last, found, _, near⟩ := taken
    exact ⟨last, found, near⟩

/-- Every call after `set_primary` is decided so, under a clock that never runs back. -/
theorem accept_deduplicates (buffer : DedupBuffer) (provider : Option String)
    (staleSec start : Rat) {calls before after : List Call} {call : Call}
    (clock : (start :: calls.map Call.now).Pairwise (· ≤ ·))
    (split : calls = before ++ call :: after) :
    Deduplicates (buffer.setPrimary provider staleSec start) start before call := by
  have opened : (buffer.setPrimary provider staleSec start).lastPrimaryTs = start := rfl
  generalize buffer.setPrimary provider staleSec start = state at opened ⊢
  have earlier : List.Sublist (heard state.primary before) (calls.map Call.now) := by
    unfold heard
    rw [split, List.map_append]
    exact (List.filter_sublist.map Call.now).trans (List.sublist_append_left _ _)
  have times : (start :: heard state.primary before).Pairwise (· ≤ ·) :=
    List.Pairwise.sublist (earlier.cons_cons start) clock
  have passes : ((run step state before).gate call).2 = true ↔
      (isSecondary state.primary call = true →
        ∀ time ∈ start :: heard state.primary before, state.staleSec ≤ call.now - time) := by
    rw [gate_passes_iff, run_primary, run_staleSec, run_lastPrimaryTs, opened, silence_iff times]
  constructor
  · intro secondary taken earlier placed primary
    have gated : ((run step state before).gate call).2 = true := by
      rw [(accept_spec _ call).1, Bool.and_eq_true] at taken
      exact taken.1
    apply passes.mp gated secondary
    apply List.mem_cons_of_mem
    exact List.mem_map_of_mem (List.mem_filter.mpr ⟨placed, primary⟩)
  · exact passes
  · intro gated
    rw [accept_iff gated, run_last]
  · intro gated
    have near := step_near gated
    rw [← run_last, run_append]
    exact near

/-- A tick of the secondary four seconds after one of the primary. -/
theorem accept_deduplicates_after_silence :
    Deduplicates (DedupBuffer.setPrimary {} (some "Fyers") 3 0) 0
      [⟨"NIFTY", 24000, some "fyers", 1⟩] ⟨"NIFTY", 24000, some "upstox", 5⟩ :=
  @accept_deduplicates {} (some "Fyers") 3 0
    [⟨"NIFTY", 24000, some "fyers", 1⟩, ⟨"NIFTY", 24000, some "upstox", 5⟩]
    [⟨"NIFTY", 24000, some "fyers", 1⟩] [] ⟨"NIFTY", 24000, some "upstox", 5⟩ (by norm_num) rfl

end OptionChain.FeedDedup
