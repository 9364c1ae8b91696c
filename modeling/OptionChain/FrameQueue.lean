import Mathlib.Data.List.Perm.Basic
import OptionChain.Mailboxes

/-!
# From the socket to the parser

The callback of a websocket only puts raw frames on a queue. A worker takes them from there and
parses them, one after the other, as long as the feeder runs. When the receive loop is over
`run` drains the queue itself, next to the worker, and cancels the worker in the end.

`frames_accounted` says what this makes of any order of steps: the frames that the queue let in
are begun in the order of their arrival, each once, and what is begun is parsed, logged as
failed, cut off with the worker, or under way. `drain_lossless_iff` says when nothing is lost at
the end of a run: no frame fails in the drain with others behind, the worker is not cut off, and
no frame comes once the feeder is idle.
-/

namespace OptionChain.FrameQueue

open Runs

universe u
variable {φ : Type u}

/-- Where the parse worker is. -/
inductive Worker (φ : Type u) where
  | loop
  | waiting
  | parsing (raw : φ)
  | done

/-- Where `run` is. While it drains it may be parsing a frame. -/
inductive Phase (φ : Type u) where
  | idle
  | streaming
  | draining (parsing : Option φ)

structure Feeder (φ : Type u) where
  phase : Phase φ
  running : Bool
  rawQueue : List φ
  rawDropCount : Nat
  worker : Worker φ

def fresh : Feeder φ := ⟨.idle, false, [], 0, .done⟩

inductive Event (φ : Type u) where
  | start
  | stop
  | frame (raw : φ)
  | workerLoops
  | workerTakes
  | workerTimesOut
  | workerParsed (ok : Bool)
  | closed
  | drainTakes
  | drainParsed (ok : Bool)
  | drainEnds

/-- The end of `run`: the worker is cancelled, wherever it is. -/
def Feeder.finish (feeder : Feeder φ) : Feeder φ := { feeder with phase := .idle, worker := .done }

section Steps

variable (size : Nat)

/-- `_enqueue_raw`. -/
def Feeder.enqueueRaw (feeder : Feeder φ) (raw : φ) : Feeder φ :=
  if Mailboxes.full size feeder.rawQueue then
    { feeder with rawDropCount := feeder.rawDropCount + 1 }
  else { feeder with rawQueue := feeder.rawQueue ++ [raw] }

def step (feeder : Feeder φ) : Event φ → Feeder φ
  | .start =>
      match feeder.phase with
      | .idle => { feeder with phase := .streaming, running := true, worker := .loop }
      | _ => feeder
  | .stop => { feeder with running := false }
  | .frame raw => feeder.enqueueRaw size raw
  | .workerLoops =>
      match feeder.worker with
      | .loop => { feeder with worker := if feeder.running then .waiting else .done }
      | _ => feeder
  | .workerTakes =>
      match feeder.worker, feeder.rawQueue with
      | .waiting, raw :: rest => { feeder with worker := .parsing raw, rawQueue := rest }
      | _, _ => feeder
  | .workerTimesOut =>
      match feeder.worker with
      | .waiting => { feeder with worker := .loop }
      | _ => feeder
  | .workerParsed _ =>
      match feeder.worker with
      | .parsing _ => { feeder with worker := .loop }
      | _ => feeder
  | .closed =>
      match feeder.phase with
      | .streaming => { feeder with phase := .draining none }
      | _ => feeder
  | .drainTakes =>
      match feeder.phase, feeder.rawQueue with
      | .draining none, raw :: rest =>
          { feeder with phase := .draining (some raw), rawQueue := rest }
      | _, _ => feeder
  | .drainParsed ok =>
      match feeder.phase with
      | .draining (some _) =>
          if ok then { feeder with phase := .draining none } else feeder.finish
      | _ => feeder
  | .drainEnds =>
      match feeder.phase, feeder.rawQueue with
      | .draining none, [] => feeder.finish
      | _, _ => feeder

end Steps

/-! ## What becomes of a frame -/

/-- The frames that a step begins to parse. -/
def begun (feeder : Feeder φ) : Event φ → List φ
  | .workerTakes =>
      match feeder.worker with
      | .waiting => feeder.rawQueue.head?.toList
      | _ => []
  | .drainTakes =>
      match feeder.phase with
      | .draining none => feeder.rawQueue.head?.toList
      | _ => []
  | _ => []

/-- Parsed, logged as failed, or cut off. -/
inductive Fate where
  | parsed
  | failed
  | cut
deriving DecidableEq

def fateOf (ok : Bool) : Fate := if ok then .parsed else .failed

/-- The frame that the worker parses. -/
def Worker.current : Worker φ → List φ
  | .parsing raw => [raw]
  | _ => []

def Phase.current : Phase φ → List φ
  | .draining parsing => parsing.toList
  | _ => []

/-- The frames that are under way. -/
def Feeder.current (feeder : Feeder φ) : List φ := feeder.worker.current ++ feeder.phase.current

/-- The frames that a step is done with. -/
def fates (feeder : Feeder φ) : Event φ → List (Fate × φ)
  | .workerParsed ok => feeder.worker.current.map fun raw => (fateOf ok, raw)
  | .drainParsed ok =>
      match feeder.phase with
      | .draining (some raw) =>
          (fateOf ok, raw) ::
            if ok then [] else feeder.worker.current.map fun raw => (.cut, raw)
      | _ => []
  | .drainEnds =>
      match feeder.phase, feeder.rawQueue with
      | .draining none, [] => feeder.worker.current.map fun raw => (.cut, raw)
      | _, _ => []
  | _ => []

/-- The frames that the websocket hands over. -/
def handed : Event φ → List φ
  | .frame raw => [raw]
  | _ => []

/-- The frames that the queue lets in. -/
def arrived (size : Nat) (feeder : Feeder φ) : Event φ → List φ
  | .frame raw => if Mailboxes.full size feeder.rawQueue then [] else [raw]
  | _ => []

/-- The steps that lose no frame that the queue has let in. -/
def Clean (feeder : Feeder φ) : Event φ → Prop
  | .frame _ => feeder.phase ≠ .idle
  | .drainParsed ok =>
      match feeder.phase with
      | .draining (some _) => ok = true ∨ feeder.rawQueue = [] ∧ feeder.worker.current = []
      | _ => True
  | .drainEnds =>
      match feeder.phase, feeder.rawQueue with
      | .draining none, [] => feeder.worker.current = []
      | _, _ => True
  | _ => True

section Accounting

variable {size : Nat} {feeder : Feeder φ} {events : List (Event φ)}

/-- What a step does to the queue. -/
def traffic (feeder : Feeder φ) : Event φ → List (Mailboxes.Event φ)
  | .frame raw => [.put raw]
  | .workerTakes =>
      match feeder.worker with
      | .waiting => [.get]
      | _ => []
  | .drainTakes =>
      match feeder.phase with
      | .draining none => [.get]
      | _ => []
  | _ => []

theorem queue_step (feeder : Feeder φ) (event : Event φ) :
    (step size feeder event).rawQueue =
      run (Mailboxes.step size) feeder.rawQueue (traffic feeder event) := by
  obtain ⟨phase, running, queue, drops, worker⟩ := feeder
  cases event with
  | frame raw =>
    simp only [step, Feeder.enqueueRaw, traffic, run_cons, run_nil, Mailboxes.step]
    split <;> rfl
  | start => cases phase <;> rfl
  | workerLoops => cases worker <;> rfl
  | workerTakes => cases worker <;> cases queue <;> rfl
  | workerTimesOut => cases worker <;> rfl
  | workerParsed ok => cases worker <;> rfl
  | closed => cases phase <;> rfl
  | drainTakes =>
    cases phase with
    | draining parsing => cases parsing <;> cases queue <;> rfl
    | idle => rfl
    | streaming => rfl
  | drainParsed ok =>
    cases phase with
    | draining parsing => cases parsing <;> cases ok <;> rfl
    | idle => rfl
    | streaming => rfl
  | drainEnds =>
    cases phase with
    | draining parsing => cases parsing <;> cases queue <;> rfl
    | idle => rfl
    | streaming => rfl
  | stop => rfl

theorem begun_got (feeder : Feeder φ) (event : Event φ) :
    begun feeder event =
      sent (Mailboxes.step size) Mailboxes.got feeder.rawQueue (traffic feeder event) := by
  obtain ⟨phase, running, queue, drops, worker⟩ := feeder
  cases event with
  | workerTakes => cases worker <;> simp [begun, traffic, sent, Mailboxes.got]
  | drainTakes =>
    cases phase with
    | draining parsing => cases parsing <;> simp [begun, traffic, sent, Mailboxes.got]
    | idle => rfl
    | streaming => rfl
  | _ => rfl

theorem drops_step (feeder : Feeder φ) (event : Event φ) :
    (step size feeder event).rawDropCount = feeder.rawDropCount +
      (sent (Mailboxes.step size) (Mailboxes.lost size) feeder.rawQueue
        (traffic feeder event)).length := by
  obtain ⟨phase, running, queue, drops, worker⟩ := feeder
  cases event with
  | frame raw =>
    simp only [step, Feeder.enqueueRaw, traffic, sent, Mailboxes.lost]
    split <;> rfl
  | start => cases phase <;> rfl
  | workerLoops => cases worker <;> rfl
  | workerTakes => cases worker <;> cases queue <;> rfl
  | workerTimesOut => cases worker <;> rfl
  | workerParsed ok => cases worker <;> rfl
  | closed => cases phase <;> rfl
  | drainTakes =>
    cases phase with
    | draining parsing => cases parsing <;> cases queue <;> rfl
    | idle => rfl
    | streaming => rfl
  | drainParsed ok =>
    cases phase with
    | draining parsing => cases parsing <;> cases ok <;> rfl
    | idle => rfl
    | streaming => rfl
  | drainEnds =>
    cases phase with
    | draining parsing => cases parsing <;> cases queue <;> rfl
    | idle => rfl
    | streaming => rfl
  | stop => rfl

/-- Between two runs there is no worker. -/
def Settled (feeder : Feeder φ) : Prop :=
  match feeder.phase with
  | .idle => feeder.worker = .done
  | _ => True

theorem settled_fresh : Settled (fresh : Feeder φ) := rfl

theorem settled_step (settled : Settled feeder) (event : Event φ) :
    Settled (step size feeder event) := by
  obtain ⟨phase, running, queue, drops, worker⟩ := feeder
  cases phase with
  | idle =>
    obtain rfl : worker = .done := settled
    cases event with
    | frame raw =>
      simp only [step, Feeder.enqueueRaw]
      split <;> rfl
    | start => trivial
    | _ => rfl
  | streaming =>
    cases event with
    | frame raw =>
      simp only [step, Feeder.enqueueRaw]
      split <;> trivial
    | workerTakes => cases worker <;> cases queue <;> trivial
    | workerLoops => cases worker <;> trivial
    | workerTimesOut => cases worker <;> trivial
    | workerParsed ok => cases worker <;> trivial
    | _ => trivial
  | draining parsing =>
    cases event with
    | frame raw =>
      simp only [step, Feeder.enqueueRaw]
      split <;> trivial
    | workerTakes => cases worker <;> cases queue <;> trivial
    | workerLoops => cases worker <;> trivial
    | workerTimesOut => cases worker <;> trivial
    | workerParsed ok => cases worker <;> trivial
    | drainTakes => cases parsing <;> cases queue <;> trivial
    | drainParsed ok => cases parsing <;> cases ok <;> first | rfl | trivial
    | drainEnds => cases parsing <;> cases queue <;> first | rfl | trivial
    | _ => trivial

/-- A step is done with a frame, or keeps it under way. -/
theorem balance_step (settled : Settled feeder) (event : Event φ) :
    (feeder.current ++ begun feeder event).Perm
      ((fates feeder event).map Prod.snd ++ (step size feeder event).current) := by
  obtain ⟨phase, running, queue, drops, worker⟩ := feeder
  have worked : ∀ fate : Fate, (worker.current.map fun raw => (fate, raw)).map Prod.snd =
      worker.current := fun fate => by
    rw [List.map_map]
    exact List.map_id _
  have kept : ∀ other : Feeder φ, other.current = worker.current ++ phase.current →
      ((worker.current ++ phase.current) ++ []).Perm ([] ++ other.current) := fun other same => by
    rw [List.append_nil, List.nil_append, same]
  cases event with
  | stop => exact kept _ rfl
  | frame raw =>
    refine kept _ ?_
    simp only [step, Feeder.enqueueRaw]
    split <;> rfl
  | start =>
    cases phase with
    | idle =>
      obtain rfl : worker = .done := settled
      exact .refl _
    | _ => exact kept _ rfl
  | closed => cases phase <;> exact kept _ rfl
  | workerLoops =>
    cases worker with
    | loop => cases running <;> exact kept _ rfl
    | _ => exact kept _ rfl
  | workerTimesOut => cases worker <;> exact kept _ rfl
  | workerTakes =>
    cases worker with
    | waiting =>
      cases queue with
      | nil => exact kept _ rfl
      | cons raw rest => exact List.perm_append_comm
    | _ => exact kept _ rfl
  | workerParsed ok =>
    cases worker with
    | parsing raw =>
      simp only [Feeder.current, begun, fates, step, Worker.current, List.map_cons, List.map_nil,
        List.append_nil, List.nil_append]
      exact .refl _
    | _ => exact kept _ rfl
  | drainTakes =>
    cases phase with
    | draining parsing =>
      cases parsing with
      | none =>
        cases queue with
        | nil => exact kept _ rfl
        | cons raw rest =>
          simp only [Feeder.current, begun, fates, step, Phase.current, Option.toList,
            List.append_nil, List.map_nil, List.nil_append, List.head?_cons]
          exact .refl _
      | some raw => exact kept _ rfl
    | _ => exact kept _ rfl
  | drainParsed ok =>
    cases phase with
    | draining parsing =>
      cases parsing with
      | none => exact kept _ rfl
      | some raw =>
        cases ok with
        | true =>
          simp only [Feeder.current, begun, fates, step, Phase.current, Option.toList,
            List.append_nil, List.map_cons, List.map_nil, if_true]
          exact List.perm_append_comm
        | false =>
          have balanced : ((worker.current ++ [raw]) ++ []).Perm
              ((raw ::
                (worker.current.map fun other => (Fate.cut, other)).map Prod.snd) ++ []) := by
            rw [worked, List.append_nil, List.append_nil]
            exact List.perm_append_comm
          exact balanced
    | _ => exact kept _ rfl
  | drainEnds =>
    cases phase with
    | draining parsing =>
      cases parsing with
      | none =>
        cases queue with
        | nil =>
          have balanced : ((worker.current ++ []) ++ []).Perm
              ((worker.current.map fun other => (Fate.cut, other)).map Prod.snd ++ []) := by
            rw [worked, List.append_nil, List.append_nil]
          exact balanced
        | cons raw rest => exact kept _ rfl
      | some raw => exact kept _ rfl
    | _ => exact kept _ rfl

theorem arrived_accepted (feeder : Feeder φ) (event : Event φ) :
    arrived size feeder event =
      sent (Mailboxes.step size) (Mailboxes.accepted size) feeder.rawQueue
        (traffic feeder event) := by
  obtain ⟨phase, running, queue, drops, worker⟩ := feeder
  cases event with
  | frame raw => simp [arrived, traffic, sent, Mailboxes.accepted]
  | workerTakes => cases worker <;> rfl
  | drainTakes =>
    cases phase with
    | draining parsing => cases parsing <;> rfl
    | idle => rfl
    | streaming => rfl
  | _ => rfl

theorem handed_offered (feeder : Feeder φ) (event : Event φ) :
    handed event = (traffic feeder event).flatMap Mailboxes.offered := by
  obtain ⟨phase, running, queue, drops, worker⟩ := feeder
  cases event with
  | workerTakes => cases worker <;> rfl
  | drainTakes =>
    cases phase with
    | draining parsing => cases parsing <;> rfl
    | idle => rfl
    | streaming => rfl
  | _ => rfl

theorem handed_run (feeder : Feeder φ) (events : List (Event φ)) :
    events.flatMap handed =
      (sent (step size) traffic feeder events).flatMap Mailboxes.offered := by
  induction events generalizing feeder with
  | nil => rfl
  | cons event rest inductionHypothesis =>
    rw [sent, List.flatMap_cons, List.flatMap_append, ← handed_offered,
      inductionHypothesis (step size feeder event)]

theorem drops_run (feeder : Feeder φ) (events : List (Event φ)) :
    (run (step size) feeder events).rawDropCount = feeder.rawDropCount +
      (sent (Mailboxes.step size) (Mailboxes.lost size) feeder.rawQueue
        (sent (step size) traffic feeder events)).length := by
  induction events generalizing feeder with
  | nil => rfl
  | cons event rest inductionHypothesis =>
    rw [run_cons, sent, sent_append, List.length_append, inductionHypothesis, drops_step,
      ← queue_step, Nat.add_assoc]

theorem balance_run (settled : Settled feeder) (events : List (Event φ)) :
    (feeder.current ++ sent (step size) begun feeder events).Perm
      ((sent (step size) fates feeder events).map Prod.snd ++
        (run (step size) feeder events).current) := by
  induction events generalizing feeder with
  | nil =>
    rw [sent, sent, List.append_nil]
    exact .refl _
  | cons event rest inductionHypothesis =>
    have here := @balance_step φ size feeder settled event
    have later := inductionHypothesis (@settled_step φ size feeder settled event)
    rw [sent, sent, run_cons, List.map_append, List.append_assoc, ← List.append_assoc]
    have after := (here.append_right (sent (step size) begun (step size feeder event) rest)).trans
      (.of_eq (List.append_assoc _ _ _))
    exact after.trans (later.append_left _)

variable (size)

/-- What is begun and what waits are what was let in, in order. -/
theorem begun_in_order (events : List (Event φ)) :
    sent (step size) begun fresh events ++ (run (step size) fresh events).rawQueue =
      sent (step size) (arrived size) fresh events := by
  have begunIs := sent_within (step size) Feeder.rawQueue traffic (@queue_step φ size) begun
    Mailboxes.got (@begun_got φ size) fresh events
  have arrivedIs := sent_within (step size) Feeder.rawQueue traffic (@queue_step φ size)
    (arrived size) (Mailboxes.accepted size) (@arrived_accepted φ size) fresh events
  have queueIs := run_within (step size) Feeder.rawQueue traffic (@queue_step φ size) fresh events
  rw [begunIs, arrivedIs, queueIs]
  exact Mailboxes.run_conserves _ _

/-- What is not let in is counted. -/
theorem arrived_counted (events : List (Event φ)) :
    (sent (step size) (arrived size) fresh events).Sublist (events.flatMap handed) ∧
      (sent (step size) (arrived size) fresh events).length +
          (run (step size) fresh events).rawDropCount = (events.flatMap handed).length := by
  have arrivedIs := sent_within (step size) Feeder.rawQueue traffic (@queue_step φ size)
    (arrived size) (Mailboxes.accepted size) (@arrived_accepted φ size) fresh events
  obtain ⟨sublist, count⟩ := @Mailboxes.accepted_sublist φ size (fresh : Feeder φ).rawQueue
    (sent (step size) traffic fresh events)
  rw [arrivedIs, handed_run fresh events, drops_run]
  exact ⟨sublist, by simpa [fresh] using count⟩

/-- The frames that the queue lets in are begun in the order of their arrival, and each of
them once. What is begun is parsed, logged as failed, cut off, or under way; what is not let in
is counted. -/
theorem frames_accounted (events : List (Event φ)) :
    sent (step size) begun fresh events ++ (run (step size) fresh events).rawQueue =
        sent (step size) (arrived size) fresh events ∧
      (sent (step size) begun fresh events).Perm
        ((sent (step size) fates fresh events).map Prod.snd ++
          (run (step size) fresh events).current) ∧
      (sent (step size) (arrived size) fresh events).Sublist (events.flatMap handed) ∧
      (sent (step size) (arrived size) fresh events).length +
          (run (step size) fresh events).rawDropCount = (events.flatMap handed).length :=
  ⟨begun_in_order size events, balance_run settled_fresh events, arrived_counted size events⟩

/-! ## When the drain loses nothing -/

/-- A step cuts no frame off, and where it ends a run it leaves nothing behind. -/
def Lossless (feeder : Feeder φ) (event : Event φ) : Prop :=
  (∀ raw, (Fate.cut, raw) ∉ fates feeder event) ∧
    ((step size feeder event).phase = .idle → (step size feeder event).rawQueue = [])

variable {size}

theorem fateOf_ne (ok : Bool) : fateOf ok ≠ .cut := by cases ok <;> decide

/-- Only the end of a run cuts the worker off. -/
theorem cut_ends {raw : φ} {event : Event φ} (cut : (Fate.cut, raw) ∈ fates feeder event) :
    (step size feeder event).phase = .idle := by
  obtain ⟨phase, running, queue, drops, worker⟩ := feeder
  cases event with
  | workerParsed ok =>
    obtain ⟨other, -, same⟩ := List.mem_map.mp cut
    exact absurd (congrArg Prod.fst same) (fateOf_ne ok)
  | drainParsed ok =>
    cases phase with
    | draining parsing =>
      cases parsing with
      | none => exact absurd cut List.not_mem_nil
      | some other =>
        cases ok with
        | false => rfl
        | true => simp [fates, fateOf] at cut
    | _ => exact absurd cut List.not_mem_nil
  | drainEnds =>
    cases phase with
    | draining parsing =>
      cases parsing with
      | none =>
        cases queue with
        | nil => rfl
        | cons other rest => exact absurd cut List.not_mem_nil
      | some other => exact absurd cut List.not_mem_nil
    | _ => exact absurd cut List.not_mem_nil
  | _ => exact absurd cut List.not_mem_nil

theorem uncut_iff (frames : List φ) :
    (∀ raw, (Fate.cut, raw) ∉ frames.map fun other => (Fate.cut, other)) ↔ frames = [] := by
  cases frames with
  | nil => simp
  | cons first rest => simpa using ⟨first, fun other => absurd rfl other⟩

theorem lossless_step (emptied : feeder.phase = .idle → feeder.rawQueue = [])
    (event : Event φ) : Lossless size feeder event ↔ Clean feeder event := by
  obtain ⟨phase, running, queue, drops, worker⟩ := feeder
  simp only at emptied
  cases event with
  | frame raw =>
    cases phase with
    | idle =>
      obtain rfl := emptied rfl
      have room : Mailboxes.full size ([] : List φ) = false := by
        cases size <;> simp [Mailboxes.full]
      simp [Lossless, Clean, fates, step, Feeder.enqueueRaw, room]
    | _ =>
      simp only [Lossless, Clean, fates, step, Feeder.enqueueRaw]
      split <;> simp
  | start => cases phase <;> simp [Lossless, Clean, fates, step]
  | stop => simpa [Lossless, Clean, fates, step] using emptied
  | workerLoops => cases worker <;> simpa [Lossless, Clean, fates, step] using emptied
  | workerTakes =>
    cases worker with
    | waiting =>
      cases queue with
      | nil => simp [Lossless, Clean, fates, step]
      | cons raw rest =>
        have busy : phase ≠ .idle := fun idle => by simpa using emptied idle
        simp [Lossless, Clean, fates, step, busy]
    | _ => simpa [Lossless, Clean, fates, step] using emptied
  | workerTimesOut => cases worker <;> simpa [Lossless, Clean, fates, step] using emptied
  | workerParsed ok =>
    cases worker with
    | parsing raw =>
      simpa [Lossless, Clean, fates, step, Worker.current, (fateOf_ne ok).symm] using emptied
    | _ => simpa [Lossless, Clean, fates, step, Worker.current] using emptied
  | closed =>
    cases phase with
    | idle => simpa [Lossless, Clean, fates, step] using emptied
    | _ => simp [Lossless, Clean, fates, step]
  | drainTakes =>
    cases phase with
    | draining parsing => cases parsing <;> cases queue <;> simp [Lossless, Clean, fates, step]
    | idle => simpa [Lossless, Clean, fates, step] using emptied
    | streaming => simp [Lossless, Clean, fates, step]
  | drainParsed ok =>
    cases phase with
    | draining parsing =>
      cases parsing with
      | none => simp [Lossless, Clean, fates, step]
      | some raw =>
        cases ok with
        | true => simp [Lossless, Clean, fates, step, fateOf]
        | false =>
          have cuts := uncut_iff worker.current
          simp only [Lossless, Clean, fates, step, Feeder.finish, fateOf, Bool.false_eq_true,
            if_false, false_or, forall_const, List.mem_cons, Prod.mk.injEq, reduceCtorEq,
            false_and]
          rw [cuts, and_comm]
    | idle => simpa [Lossless, Clean, fates, step] using emptied
    | streaming => simp [Lossless, Clean, fates, step]
  | drainEnds =>
    cases phase with
    | draining parsing =>
      cases parsing with
      | none =>
        cases queue with
        | nil =>
          have cuts := uncut_iff worker.current
          simpa [Lossless, Clean, fates, step, Feeder.finish] using cuts
        | cons raw rest => simp [Lossless, Clean, fates, step]
      | some raw => simp [Lossless, Clean, fates, step]
    | idle => simpa [Lossless, Clean, fates, step] using emptied
    | streaming => simp [Lossless, Clean, fates, step]

theorem lossless_run (events : List (Event φ)) :
    Along (step size) (Lossless size) fresh events ↔ Along (step size) Clean fresh events := by
  let emptied : Feeder φ → Prop := fun feeder => feeder.phase = .idle → feeder.rawQueue = []
  have initially : emptied fresh := fun _ => rfl
  exact along_agree (step size) (fun _ _ _ lossless => lossless.2)
    (fun _ event empty => lossless_step empty event) fresh events initially

/-- The frames that are parsed to their end, well or not. -/
def finished (size : Nat) (events : List (Event φ)) : List φ :=
  ((sent (step size) fates fresh events).filter fun fate => fate.1 ≠ .cut).map Prod.snd

theorem settled_run (settled : Settled feeder) (events : List (Event φ)) :
    Settled (run (step size) feeder events) := by
  induction events generalizing feeder with
  | nil => exact settled
  | cons event rest inductionHypothesis => exact inductionHypothesis (settled_step settled event)

theorem idle_current (settled : Settled feeder) (idle : feeder.phase = .idle) :
    feeder.current = [] := by
  obtain ⟨phase, running, queue, drops, worker⟩ := feeder
  obtain rfl : phase = .idle := idle
  obtain rfl : worker = .done := settled
  rfl

/-- Between two runs all that was let in is parsed to its end exactly if the queue is empty and
nothing was cut off. -/
theorem finished_iff (events : List (Event φ))
    (idle : (run (step size) fresh events).phase = .idle) :
    (finished size events).Perm (sent (step size) (arrived size) fresh events) ↔
      (run (step size) fresh events).rawQueue = [] ∧
        ∀ raw, (Fate.cut, raw) ∉ sent (step size) fates fresh events := by
  have begunIs := begun_in_order size events
  have balance : (sent (step size) begun fresh events).Perm _ :=
    @balance_run φ size fresh settled_fresh events
  rw [idle_current (settled_run settled_fresh events) idle, List.append_nil] at balance
  constructor
  · intro all
    have arrivedLength := congrArg List.length begunIs
    have begunLength := balance.length_eq
    have allLength := all.length_eq
    have atMost := List.length_filter_le (fun fate : Fate × φ => decide (fate.1 ≠ .cut))
      (sent (step size) fates fresh events)
    simp only [finished, List.length_map] at allLength
    simp only [List.length_map, List.length_append] at arrivedLength begunLength
    have whole : ((sent (step size) fates fresh events).filter fun fate =>
        decide (fate.1 ≠ .cut)).length = (sent (step size) fates fresh events).length := by
      omega
    refine ⟨List.length_eq_zero_iff.mp (by omega), fun raw cut => ?_⟩
    have kept := List.length_filter_eq_length_iff.mp whole _ cut
    exact of_decide_eq_true kept rfl
  · rintro ⟨empty, uncut⟩
    have whole : (sent (step size) fates fresh events).filter (fun fate => fate.1 ≠ .cut) =
        sent (step size) fates fresh events := by
      rw [List.filter_eq_self]
      intro fate member
      refine decide_eq_true fun cut => uncut fate.2 ?_
      rwa [← cut]
    rw [← begunIs, empty, List.append_nil, finished, whole]
    exact balance.symm

/-- Whenever a run has ended, every frame that the queue let in was parsed to its end. This is
so exactly in the runs whose steps are all clean: no frame comes while the feeder is idle, no
frame fails in the drain with another one behind it or in the worker's hands, and the drain does
not end while the worker parses. -/
theorem drain_lossless_iff (size : Nat) (events : List (Event φ)) :
    (∀ before after, events = before ++ after →
        (run (step size) fresh before).phase = .idle →
        (finished size before).Perm (sent (step size) (arrived size) fresh before)) ↔
      Along (step size) Clean fresh events := by
  rw [← lossless_run]
  constructor
  · intro complete
    rw [along_split]
    rintro before event after rfl
    have ends : (step size (run (step size) fresh before) event).phase = .idle →
        (run (step size) fresh (before ++ [event])).rawQueue = [] ∧
          ∀ raw, (Fate.cut, raw) ∉ sent (step size) fates fresh (before ++ [event]) :=
      fun idle => by
        have idleAfter : (run (step size) fresh (before ++ [event])).phase = .idle := by
          rwa [run_append, run_cons, run_nil]
        exact (finished_iff _ idleAfter).mp (complete _ after (by simp) idleAfter)
    constructor
    · intro raw cut
      refine (ends (cut_ends cut)).2 raw ?_
      rw [sent_append, List.mem_append]
      exact Or.inr (by simpa [sent] using cut)
    · intro idle
      have empty := (ends idle).1
      rwa [run_append, run_cons, run_nil] at empty
  · rintro lossless before after rfl idle
    have upTo := ((along_append (step size) (Lossless size) fresh before after).mp lossless).1
    refine (finished_iff before idle).mpr ⟨?_, ?_⟩
    · have emptied := along_invariant (step size)
        (fun _ _ _ here => here.2 : ∀ feeder event,
          (feeder.phase = .idle → feeder.rawQueue = []) → Lossless size feeder event →
            (step size feeder event).phase = .idle → (step size feeder event).rawQueue = [])
        fresh before (fun _ => rfl) upTo
      exact emptied idle
    · intro raw cut
      obtain ⟨first, event, later, rfl, here⟩ := (mem_sent (step size) fates _ _).mp cut
      exact ((along_split (step size) _ _ _).mp upTo first event later rfl).1 raw here

end Accounting

end OptionChain.FrameQueue
