import OptionChain.StraddleRouting
import OptionChain.TimedCaches

/-!
# The gates of the books

A book enters only where its gate says so: `_can_trade` of the trap engine asks for the terminal
and the trade toggle of its binding, `_any_active_terminal` of the straddle for the terminal and
the run toggle of its deployment. Both read the database at most every five seconds and give
the same answer in between.

`gate_exact` is what a toggle can rely on, and `gate_shuts` what follows for switching off.
-/

namespace OptionChain.TradeGates

open Runs TimedCaches
open StraddleRouting (DeploymentRow)

/-- The columns of a binding that the gates read. -/
structure GateRow where
  clientId : String
  bindingId : String
  terminalConnected : Bool
  engineActive : Bool
  isTradeEnabled : Bool
deriving DecidableEq

/-- The rows in the order of their creation. A table that cannot be read has none. -/
structure Db where
  clients : List String
  bindings : List GateRow
  deployments : List DeploymentRow

section Readers

variable (db : Db)

/-- `{b.get("binding_id"): b for b in …}` of a client, looked up. -/
def bindingOf (clientId bindingId : String) : Option GateRow :=
  (db.bindings.filter fun row =>
    decide (row.clientId = clientId) && decide (row.bindingId = bindingId)).getLast?

def deploymentsOf (clientId : String) : List DeploymentRow :=
  db.deployments.filter fun row => decide (row.clientId = clientId) && row.isActive

/-- A deployment of the straddle on an underlying. -/
def sells (underlying : String) (row : DeploymentRow) : Bool :=
  decide (row.strategyName.toLower = "sell_straddle") &&
    decide (row.underlying.toUpper = underlying.toUpper)

/-- What `_can_trade` reads. -/
def canTrade (clientId bindingId : String) : Bool :=
  if clientId ≠ "" ∧ bindingId ≠ "" then
    match bindingOf db clientId bindingId with
    | none => false
    | some row => row.terminalConnected && row.isTradeEnabled
  else false

/-- What `_any_active_terminal` reads for a book without a binding. -/
def anyTerminal (underlying : String) : Bool :=
  db.clients.any fun clientId =>
    decide (clientId ≠ "") && (deploymentsOf db clientId).any fun row =>
      sells underlying row &&
        match bindingOf db clientId row.bindingId with
        | none => false
        | some binding => binding.engineActive && binding.terminalConnected

/-- What `_any_active_terminal` reads. -/
def anyActiveTerminal (underlying clientId bindingId : String) : Bool :=
  if clientId ≠ "" ∧ bindingId ≠ "" then
    ((deploymentsOf db clientId).any fun row =>
      sells underlying row && decide (row.bindingId = bindingId) &&
        decide (row.isRunning = some 1)) &&
      match bindingOf db clientId bindingId with
      | none => false
      | some row => row.terminalConnected
  else anyTerminal db underlying

end Readers

/-- A book with its gate. -/
inductive Book where
  | trap (clientId bindingId : String)
  | straddle (underlying clientId bindingId : String)

def Book.allows : Book → Db → Bool
  | .trap clientId bindingId, db => canTrade db clientId bindingId
  | .straddle underlying clientId bindingId, db =>
      anyActiveTerminal db underlying clientId bindingId

/-- Five seconds. -/
def termTtl : Rat := 5

/-- Before its first read a gate is shut, and counts as read when the clock was zero. -/
def boot (db : Db) : World Db Bool := ⟨db, ⟨0, false⟩⟩

/-- The answers of a gate in a run, with their times. -/
def gateAnswers (book : Book) (db : Db) (events : List (Event Db)) : List (Rat × Bool) :=
  sent (step termTtl book.allows) (answers termTtl book.allows) (boot db) events

/-- The times at which a gate reads the database. -/
def gateReads (book : Book) (db : Db) (events : List (Event Db)) : List Rat :=
  sent (step termTtl book.allows) (reads termTtl) (boot db) events

/-- Each answer is what the toggles said at a read less than five seconds ago. Only within five
seconds of the zero of its clock a gate refuses unread. -/
def Fresh (book : Book) (db : Db) (events : List (Event Db)) : Prop :=
  ∀ entry ∈ gateAnswers book db events, (entry.2 = false ∧ entry.1 < 5) ∨
    ∃ early moment later, events = early ++ .query moment :: later ∧ moment ≤ entry.1 ∧
      entry.1 - moment < 5 ∧
        entry.2 = book.allows (run (step termTtl book.allows) (boot db) early).db

/-- From a time on every answer is a refusal. -/
def ShutFrom (moment : Rat) (given : List (Rat × Bool)) : Prop :=
  ∀ entry ∈ given, moment ≤ entry.1 → entry.2 = false

variable (book : Book) {db off : Db} {events before after : List (Event Db)}

theorem answers_fresh (clock : (events.map Event.time).Pairwise (· ≤ ·)) :
    Fresh book db events := by
  have lives : 0 < termTtl := by norm_num [termTtl]
  rintro ⟨now, out⟩ given
  rcases answer_read lives clock given with ⟨unread, age⟩ | read
  · refine .inl ⟨unread, ?_⟩
    have elapsed : now - 0 < 5 := age
    dsimp only
    linarith
  · exact .inr read

/-- As long as the clock does not go back every answer of a gate is fresh, and yet the database
is read no more than once in five seconds. -/
theorem gate_exact (clock : (events.map Event.time).Pairwise (· ≤ ·)) :
    Fresh book db events ∧
      (gateReads book db events).Pairwise fun one other => 5 ≤ other - one := by
  have lives : 0 < termTtl := by norm_num [termTtl]
  exact ⟨answers_fresh book clock,
    (List.pairwise_cons.mp (reads_spaced lives (boot db) events)).2⟩

/-- The database after changes that the gate does not see. -/
theorem allows_stays {world : World Db Bool} {value : Bool} (here : book.allows world.db = value)
    (stays : ∀ moment state, Event.change moment state ∈ after → book.allows state = value) :
    book.allows (run (step termTtl book.allows) world after).db = value := by
  induction after generalizing world with
  | nil => exact here
  | cons event rest inductionHypothesis =>
    refine inductionHypothesis ?_ fun moment state member =>
      stays moment state (List.mem_cons_of_mem _ member)
    cases event with
    | change moment state => exact stays moment state List.mem_cons_self
    | query moment =>
      rw [step]
      split <;> exact here

/-- Five seconds after a book has been switched off its gate is shut, and it stays shut until
the book is switched on again. -/
theorem gate_shuts {switched : Rat}
    (clock : ((before ++ .change switched off :: after).map Event.time).Pairwise (· ≤ ·))
    (shut : book.allows off = false)
    (stays : ∀ moment state, Event.change moment state ∈ after → book.allows state = false) :
    ShutFrom (switched + 5) (gateAnswers book db (before ++ .change switched off :: after)) := by
  rintro ⟨now, out⟩ given settled
  rcases answers_fresh book clock _ given with
    ⟨unread, _⟩ | ⟨early, moment, later, split, _, age, read⟩
  · exact unread
  · have late : switched < moment := by
      dsimp only at settled age
      linarith
    rw [List.map_append, List.map_cons, List.pairwise_append] at clock
    obtain ⟨-, -, ordered⟩ := clock
    rcases List.append_eq_append_iff.mp split with ⟨between, parts, rest⟩ | ⟨between, parts, rest⟩
    · cases between with
      | nil => cases rest
      | cons event tail =>
        obtain ⟨rfl, tail_eq⟩ := List.cons.inj rest
        dsimp only at read ⊢
        rw [read, parts, run_append, run_cons]
        refine allows_stays book shut fun time state member => stays time state ?_
        rw [tail_eq]
        exact List.mem_append_left _ member
    · cases between with
      | nil => cases rest
      | cons event tail =>
        obtain ⟨rfl, _⟩ := List.cons.inj rest
        have member : moment ∈ before.map Event.time := by
          rw [parts]
          simp [Event.time]
        exact absurd (ordered moment member switched List.mem_cons_self) (not_le.mpr late)

/-! ## A book that is switched off -/

/-- A binding with its terminal and its trade toggle, and nothing deployed. -/
def toggled (terminal trade : Bool) : Db :=
  ⟨["C001"], [⟨"C001", "main", terminal, true, trade⟩], []⟩

def trapBook : Book := .trap "C001" "main"

/-- The gate is read at ten seconds, and the trade toggle goes off two seconds later. -/
def switchedOff : List (Event Db) :=
  [.query 10, .change 12 (toggled true false), .query 14, .query 18]

theorem gate_exact_trap : Fresh trapBook (toggled true true) switchedOff ∧
    (gateReads trapBook (toggled true true) switchedOff).Pairwise fun one other =>
      5 ≤ other - one :=
  gate_exact trapBook (by decide +kernel)

theorem gate_shuts_trap :
    ShutFrom (12 + 5) (gateAnswers trapBook (toggled true true) switchedOff) :=
  @gate_shuts trapBook (toggled true true) (toggled true false) [.query 10] [.query 14, .query 18]
    12 (by decide +kernel) (by decide +kernel) (by simp)

/-- Two seconds after the toggle the gate still lets an entry through. -/
example : gateAnswers trapBook (toggled true true) switchedOff =
    [(10, true), (14, true), (18, false)] := by
  decide +kernel

end OptionChain.TradeGates
