import Mathlib.Algebra.Order.Ring.Rat
import Mathlib.Data.List.Induction
import Mathlib.Tactic.Linarith
import OptionChain.Runs

/-!
# Answers that are read at most so often

A reader asks a database that changes under it, and keeps the answer for a while: a question
that comes within the time to live of the last read is given the same answer again.

`answer_read` says that every answer is what the database said at a read that is younger than
the time to live, or what the reader started with. `reads_spaced` says that no two reads are
closer than that.
-/

namespace OptionChain.TimedCaches

open Runs

variable {δ β : Type}

/-- The time of the last read, and what it said. -/
structure Cache (β : Type) where
  checkedAt : Rat
  cached : β

inductive Event (δ : Type) where
  | change (now : Rat) (db : δ)
  | query (now : Rat)

def Event.time : Event δ → Rat
  | .change now _ => now
  | .query now => now

structure World (δ β : Type) where
  db : δ
  cache : Cache β

section Steps

variable (ttl : Rat) (view : δ → β)

/-- The last read is young enough. -/
def young (world : World δ β) (now : Rat) : Bool := now - world.cache.checkedAt < ttl

def answer (world : World δ β) (now : Rat) : β :=
  if young ttl world now then world.cache.cached else view world.db

def step (world : World δ β) : Event δ → World δ β
  | .change _ db => { world with db := db }
  | .query now =>
      if young ttl world now then world else { world with cache := ⟨now, view world.db⟩ }

/-- The answers of a run, with their times. -/
def answers (world : World δ β) : Event δ → List (Rat × β)
  | .change _ _ => []
  | .query now => [(now, answer ttl view world now)]

/-- The reads of a run. -/
def reads (world : World δ β) : Event δ → List Rat
  | .change _ _ => []
  | .query now => if young ttl world now then [] else [now]

end Steps

variable {ttl : Rat} {view : δ → β} {start : World δ β} {events : List (Event δ)}

/-- What the cache holds was read by an earlier query, or there from the start. -/
theorem cache_read (start : World δ β) (events : List (Event δ)) :
    (run (step ttl view) start events).cache = start.cache ∨
      ∃ before moment later, events = before ++ .query moment :: later ∧
        (run (step ttl view) start events).cache =
          ⟨moment, view (run (step ttl view) start before).db⟩ := by
  induction events using List.reverseRecOn with
  | nil => exact .inl rfl
  | append_singleton events event inductionHypothesis =>
    rw [run_append, run_cons, run_nil]
    have same : (step ttl view (run (step ttl view) start events) event).cache =
        (run (step ttl view) start events).cache →
        (step ttl view (run (step ttl view) start events) event).cache = start.cache ∨
          ∃ before moment later, events ++ [event] = before ++ .query moment :: later ∧
            (step ttl view (run (step ttl view) start events) event).cache =
              ⟨moment, view (run (step ttl view) start before).db⟩ := by
      intro kept
      rw [kept]
      rcases inductionHypothesis with first | ⟨before, moment, later, split, held⟩
      · exact .inl first
      · exact .inr ⟨before, moment, later ++ [event], by rw [split]; simp, held⟩
    cases event with
    | change now db => exact same rfl
    | query now =>
      cases still : young ttl (run (step ttl view) start events) now with
      | true => exact same (by rw [step, if_pos still])
      | false =>
        refine .inr ⟨events, now, [], rfl, ?_⟩
        rw [step, if_neg (by simp [still])]

/-- With a clock that does not go back, an answer is what the database said at a read that is
younger than the time to live. -/
theorem answer_read (lives : 0 < ttl) (clock : (events.map Event.time).Pairwise (· ≤ ·))
    {now : Rat} {out : β}
    (given : (now, out) ∈ sent (step ttl view) (answers ttl view) start events) :
    (out = start.cache.cached ∧ now - start.cache.checkedAt < ttl) ∨
      ∃ before moment later, events = before ++ .query moment :: later ∧ moment ≤ now ∧
        now - moment < ttl ∧ out = view (run (step ttl view) start before).db := by
  obtain ⟨before, event, later, split, here⟩ := (mem_sent (step ttl view) _ start events).mp given
  cases event with
  | change => cases here
  | query asked =>
    obtain ⟨rfl, rfl⟩ := Prod.mk.inj (List.mem_singleton.mp here)
    cases still : young ttl (run (step ttl view) start before) now with
    | false =>
      refine .inr ⟨before, now, later, split, le_rfl, by linarith, ?_⟩
      rw [answer, if_neg (by simp [still])]
    | true =>
      have age := of_decide_eq_true still
      rw [answer, if_pos still]
      rcases @cache_read _ _ ttl view start before with first | held
      · rw [first] at age ⊢
        exact .inl ⟨rfl, age⟩
      · obtain ⟨early, moment, between, parts, same⟩ := held
        rw [same] at age ⊢
        refine .inr ⟨early, moment, between ++ .query now :: later, ?_, ?_, age, rfl⟩
        · rw [split, parts, List.append_assoc, List.cons_append]
        · rw [split, parts, List.map_append, List.map_append, List.append_assoc,
            List.pairwise_append] at clock
          have ordered := clock.2.1
          simp only [List.map_cons, List.cons_append, List.pairwise_cons, List.mem_append,
            List.mem_cons] at ordered
          exact ordered.1 now (.inr (.inl rfl))

/-- Two reads are never closer than the time to live. -/
theorem reads_spaced (lives : 0 < ttl) (start : World δ β) (events : List (Event δ)) :
    (start.cache.checkedAt :: sent (step ttl view) (reads ttl) start events).Pairwise
      fun one other => ttl ≤ other - one := by
  induction events generalizing start with
  | nil => exact List.pairwise_singleton _ _
  | cons event rest inductionHypothesis =>
    have later := inductionHypothesis (step ttl view start event)
    rw [sent]
    cases event with
    | change now db => exact later
    | query now =>
      cases still : young ttl start now with
      | true =>
        rw [step, if_pos still] at later
        rw [step, reads, if_pos still, if_pos still]
        exact later
      | false =>
        have apart : ttl ≤ now - start.cache.checkedAt := not_lt.mp (of_decide_eq_false still)
        rw [step, if_neg (by simp [still])] at later
        rw [step, reads, if_neg (by simp [still]), if_neg (by simp [still]), List.singleton_append,
          List.pairwise_cons]
        refine ⟨?_, later⟩
        intro moment member
        rcases List.mem_cons.mp member with rfl | further
        · exact apart
        · have beyond := (List.pairwise_cons.mp later).1 moment further
          dsimp only at beyond
          linarith

end OptionChain.TimedCaches
