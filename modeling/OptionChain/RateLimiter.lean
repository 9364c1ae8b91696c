import OptionChain.Meters
import OptionChain.Tasks

/-!
# The token bucket of the rate limiter

`TokenBucket.acquire` refills from the elapsed time, takes a token if there is one,
and sleeps for the deficit otherwise. Any number of acquirers share one bucket: each
of them starts, and each sleeper wakes and tries again, at any reading of the clock
that does not run backwards. Between two sleeps an acquirer runs undisturbed.

The bucket is a meter, so its acquisitions are bounded in every window of time.
-/

namespace OptionChain.RateLimiter

open Meters

/-- The settings of a bucket. The constructor refuses a rate that is not positive. -/
structure Settings where
  rate : Rat
  burst : Nat
  positive : 0 < rate

/-- `TokenBucket`. A last refill of zero has not been initialised. The times of the
acquisitions are kept beside the counters. -/
structure TokenBucket where
  tokens : Rat
  lastRefill : Rat := 0
  totalWaits : Nat := 0
  totalAcquired : Nat := 0
  acquired : List Rat := []
deriving DecidableEq

variable (cfg : Settings)

/-- A new bucket is full. -/
def initial : TokenBucket where
  tokens := cfg.burst

/-- One round of the loop in `acquire`, with the wait that it asks for. -/
def attempt (bucket : TokenBucket) (tokens : Nat) (now : Rat) : TokenBucket × Option Rat :=
  let elapsed := now - bucket.lastRefill
  let available := min (cfg.burst : Rat) (bucket.tokens + elapsed * cfg.rate)
  let bucket := { bucket with tokens := available, lastRefill := now }
  if (tokens : Rat) ≤ available then
    ({ bucket with
      tokens := available - tokens
      totalAcquired := bucket.totalAcquired + 1
      acquired := bucket.acquired ++ [now] }, none)
  else
    ({ bucket with totalWaits := bucket.totalWaits + 1 },
      some ((tokens - available) / cfg.rate))

/-- The first lines of `acquire` read the clock once more, for the first caller. -/
def acquire (bucket : TokenBucket) (tokens : Nat) (early now : Rat) :
    TokenBucket × Option Rat :=
  if tokens = 0 then (bucket, none)
  else
    attempt cfg
      (if bucket.lastRefill = 0 then { bucket with lastRefill := early } else bucket) tokens now

/-- Acquirers of one token each. A sleeper waits for its seconds. -/
def acquirers : Tasks.Program TokenBucket (Rat × Rat) Rat Rat where
  start bucket clock := acquire cfg bucket 1 clock.1 clock.2
  resume bucket _ now := attempt cfg bucket 1 now

abbrev Event := Tasks.Event (Rat × Rat) Rat

/-- The readings of the clock behind an event. -/
def readings : Event → List Rat
  | .start clock => [clock.1, clock.2]
  | .resume _ now => [now]

/-- A positive clock that never runs backwards. -/
def Clock (events : List Event) : Prop :=
  (events.flatMap readings).Pairwise (· ≤ ·) ∧ ∀ time ∈ events.flatMap readings, 0 < time

/-- The bucket after some events, from a new one that nobody waits for. -/
def bucketAfter (events : List Event) : TokenBucket :=
  (Runs.run (Tasks.step (acquirers cfg)) ⟨initial cfg, []⟩ events).shared

/-- The meter behind a bucket. -/
def meter (bucket : TokenBucket) : Meter Rat := ⟨bucket.tokens, bucket.lastRefill, bucket.acquired⟩

/-- A metered bucket, which is as new before its first refill. -/
structure Filled (bucket : TokenBucket) : Prop where
  metered : Meter.Metered cfg.rate cfg.burst (meter bucket)
  fresh : bucket.lastRefill = 0 → bucket.tokens = cfg.burst ∧ bucket.acquired = []

variable {cfg}

/-- A round fills the meter and takes a unit if there is one. -/
theorem attempt_meter (bucket : TokenBucket) (now : Rat) :
    meter (attempt cfg bucket 1 now).1 =
      if 1 ≤ ((meter bucket).advance cfg.rate cfg.burst now).level then
        ((meter bucket).advance cfg.rate cfg.burst now).take
      else (meter bucket).advance cfg.rate cfg.burst now := by
  unfold attempt
  by_cases enough : (1 : Rat) ≤ ((meter bucket).advance cfg.rate cfg.burst now).level
  · have available : ((1 : Nat) : Rat) ≤
        min (cfg.burst : Rat) (bucket.tokens + (now - bucket.lastRefill) * cfg.rate) := by
      simpa [Meter.advance, meter] using enough
    rw [if_pos enough]
    simp only [if_pos available]
    simp [meter, Meter.advance, Meter.take]
  · have short : ¬ ((1 : Nat) : Rat) ≤
        min (cfg.burst : Rat) (bucket.tokens + (now - bucket.lastRefill) * cfg.rate) := by
      simpa [Meter.advance, meter] using enough
    rw [if_neg enough]
    simp only [if_neg short]
    rfl

theorem attempt_lastRefill (bucket : TokenBucket) (now : Rat) :
    (attempt cfg bucket 1 now).1.lastRefill = now := by
  unfold attempt
  dsimp only
  split <;> rfl

/-- A round at a later time keeps the bucket metered. -/
theorem attempt_filled (bucket : TokenBucket) (now : Rat)
    (metered : Meter.Metered cfg.rate cfg.burst (meter bucket)) (later : bucket.lastRefill ≤ now)
    (positive : 0 < now) : Filled cfg (attempt cfg bucket 1 now).1 := by
  have advanced := Meter.advance_metered cfg.positive.le metered now later
  refine ⟨?_, ?_⟩
  · rw [attempt_meter]
    split
    · rename_i enough
      exact Meter.take_metered cfg.positive.le advanced enough
    · exact advanced
  · intro zero
    rw [attempt_lastRefill] at zero
    exact absurd zero positive.ne'

theorem acquire_filled (bucket : TokenBucket) (early now : Rat) (filled : Filled cfg bucket)
    (first : bucket.lastRefill ≤ early) (ordered : early ≤ now) (positive : 0 < now) :
    Filled cfg (acquire cfg bucket 1 early now).1 := by
  rw [acquire, if_neg one_ne_zero]
  split
  · rename_i unset
    obtain ⟨full, unused⟩ := filled.fresh unset
    apply attempt_filled _ now _ ordered positive
    simp only [meter, full, unused]
    exact Meter.metered_fresh cfg.positive.le (Nat.cast_nonneg _) early
  · exact attempt_filled bucket now filled.metered (first.trans ordered) positive

theorem acquire_lastRefill (bucket : TokenBucket) (early now : Rat) :
    (acquire cfg bucket 1 early now).1.lastRefill = now := by
  rw [acquire, if_neg one_ne_zero, attempt_lastRefill]

/-- Along an ordered clock every state of the bucket is metered. -/
theorem run_filled (events : List Event) (system : Tasks.System TokenBucket Rat)
    (filled : Filled cfg system.shared) (clock : Clock events)
    (later : ∀ time ∈ events.flatMap readings, system.shared.lastRefill ≤ time) :
    Filled cfg (Runs.run (Tasks.step (acquirers cfg)) system events).shared := by
  induction events generalizing system with
  | nil => exact filled
  | cons event rest inductionHypothesis =>
    obtain ⟨sorted, positive⟩ := clock
    rw [List.flatMap_cons] at sorted positive later
    obtain ⟨here, after, across⟩ := List.pairwise_append.mp sorted
    have clockRest : Clock rest :=
      ⟨after, fun time inside => positive time (List.mem_append_right _ inside)⟩
    rw [Runs.run_cons]
    cases event with
    | start clock =>
      obtain ⟨early, now⟩ := clock
      have ordered : early ≤ now := by simpa [readings] using here
      apply inductionHypothesis _ _ clockRest
      · intro time inside
        change (acquire cfg system.shared 1 early now).1.lastRefill ≤ time
        rw [acquire_lastRefill]
        exact across now (by simp [readings]) time inside
      · exact acquire_filled system.shared early now filled (later early (by simp [readings]))
          ordered (positive now (by simp [readings]))
    | resume index now =>
      cases found : system.tasks[index]? with
      | none =>
        have idle : Tasks.step (acquirers cfg) system (.resume index now) = system := by
          simp [Tasks.step, found]
        rw [idle]
        exact inductionHypothesis system filled clockRest
          (fun time inside => later time (List.mem_append_right _ inside))
      | some wait =>
        have woken : (Tasks.step (acquirers cfg) system (.resume index now)).shared =
            (attempt cfg system.shared 1 now).1 := by
          simp [Tasks.step, found, acquirers]
        apply inductionHypothesis _ _ clockRest
        · intro time inside
          rw [woken, attempt_lastRefill]
          exact across now (by simp [readings]) time inside
        · rw [woken]
          exact attempt_filled system.shared now filled.metered
            (later now (by simp [readings])) (positive now (by simp [readings]))

/-- In every window of time at most the burst and the refill of the window are
acquired, and the tokens stay between zero and the burst. -/
theorem acquisitions_bounded (cfg : Settings) (events : List Event) (clock : Clock events) :
    (0 ≤ (bucketAfter cfg events).tokens ∧ (bucketAfter cfg events).tokens ≤ cfg.burst) ∧
      ∀ start length, 0 ≤ length →
        (given (bucketAfter cfg events).acquired start (start + length) : Rat) ≤
          cfg.burst + cfg.rate * length := by
  have new : Filled cfg (initial cfg) :=
    ⟨Meter.metered_fresh cfg.positive.le (Nat.cast_nonneg _) 0, fun _ => ⟨rfl, rfl⟩⟩
  have filled : Filled cfg (bucketAfter cfg events) :=
    run_filled events ⟨initial cfg, []⟩ new clock (fun time inside => (clock.2 time inside).le)
  refine ⟨⟨filled.metered.nonneg, filled.metered.bounded⟩, ?_⟩
  intro start length long
  have window := filled.metered.window start (start + length) (by linarith)
  simpa [meter] using window

/-- Two acquirers of a bucket of one token: the second sleeps and wakes later. -/
def twoAcquirers : List Event := [.start (1, 1), .start (1, 1), .resume 0 (3 / 2)]

theorem two_acquirers_bounded :
    ((bucketAfter ⟨2, 1, by decide⟩ twoAcquirers).acquired = [1, 3 / 2]) ∧
      0 ≤ (bucketAfter ⟨2, 1, by decide⟩ twoAcquirers).tokens := by
  have clock : Clock twoAcquirers := by
    unfold Clock
    decide +kernel
  exact ⟨by decide +kernel, (acquisitions_bounded ⟨2, 1, by decide⟩ twoAcquirers clock).1.1⟩

end OptionChain.RateLimiter
