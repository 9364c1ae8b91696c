import Mathlib.Data.Fintype.Defs
import Mathlib.Data.List.MinMax
import Mathlib.Data.List.Sort
import OptionChain.ContractSymbols
import OptionChain.Rounding
import OptionChain.Runs
import OptionChain.SharedSets

/-!
# The crypto chain manager

The manager keeps one feeder subscribed to the strikes around the spot price of each
underlying. A pass goes through the underlyings; for each it may fetch the list of
products, computes the window of symbols, subscribes what is missing and unsubscribes
what is too much. It waits for the fetch and for each send, and there other tasks run:
the other pass, the spot prices, the clock. One task makes a pass every few seconds,
the first of them with a fetch; another makes one with a fetch after each rollover, for
which it forgets what it has subscribed.

A pass is a task of its own here. It is ready at its next underlying until it is run up to
its next suspension, and nothing else runs meanwhile.
-/

namespace OptionChain.DeltaChain

open Broker CivilDates ContractSymbols Rounding Runs

section Symbols

inductive Coin where
  | btc
  | eth
deriving DecidableEq

def Coin.name : Coin → String
  | .btc => "BTC"
  | .eth => "ETH"

/-- The coin that a symbol names. -/
def coinOf (symbol : String) : Option Coin :=
  match symbol.toList with
  | _ :: '-' :: 'B' :: _ => some .btc
  | _ :: '-' :: 'E' :: _ => some .eth
  | _ => none

/-- A row of `/v2/products`; a strike that cannot be read is absent. -/
structure Product where
  contractType : String
  underlyingAsset : String
  symbol : String
  strikePrice : Option Rat

/-- An option of the coin that expires on a day, as its symbol tells. -/
def Product.expires (row : Product) (coin : Coin) (expiry : Date) : Bool :=
  decide (row.contractType ∈ ["call_options", "put_options"]) &&
    decide (row.underlyingAsset = coin.name) &&
    (twoDigits expiry.day ++ twoDigits expiry.month ++ twoDigits expiry.year).toList.isSuffixOf
      row.symbol.toList

/-- `_fetch_chain_sync`, with the rows and the quote that it is answered. -/
def fetchChain (coin : Coin) (expiry : Date) (rows : Option (List Product)) (quote : Rat) :
    List Int × Rat :=
  let found := (rows.getD []).filter fun row => row.expires coin expiry
  (((found.filterMap Product.strikePrice).map towardZero).dedup.insertionSort (· ≤ ·),
    if found = [] then 0 else quote)

/-- The strikes of the window around the one nearest to the spot price. -/
def windowStrikes (window : Nat) (strikes : List Int) (spot : Rat) : List Int :=
  if spot ≤ 0 then []
  else
    match strikes.argmin fun strike : Int => |(strike : Rat) - spot| with
    | some atm =>
        let i := strikes.idxOf atm
        (strikes.drop (i - window)).take (i + window + 1 - (i - window))
    | none => []

/-- The call and the put of each strike. -/
def symbolsOf (coin : Coin) (expiry : Date) (strikes : List Int) : Finset String :=
  (strikes.flatMap fun strike => [OptType.ce, OptType.pe].map fun optType =>
    InternalSymbol.toDeltaSymbol ⟨coin.name, strike, optType, expiry⟩).toFinset

end Symbols

section Manager

/-- The underlyings and the strikes on either side of the window. -/
structure Config where
  unds : List Coin
  window : Nat

/-- The task that makes a pass. -/
inductive Who where
  | manager
  | rollover
deriving DecidableEq

instance : Fintype Who := ⟨{.manager, .rollover}, by intro who; cases who <;> simp⟩

/-- Where a pass is with an underlying. -/
inductive Phase where
  | ready
  | fetching
  | subscribing (want rem : Finset String)
  | unsubscribing (want : Finset String)
deriving DecidableEq

/-- A pass: the underlyings it is through with, the one it is at, and the others. -/
structure Pass where
  force : Bool
  done : List Coin
  und : Coin
  rest : List Coin
  phase : Phase
deriving DecidableEq

/-- The clock, the symbols listed at the exchange, the manager's dictionaries, the feeder's
set and the passes under way. -/
structure Manager where
  now : Moment
  listing : Finset String
  spot : Coin → Rat
  chain : Coin → Option (List Int)
  subbed : Coin → Finset String
  subs : Finset String
  passes : Who → Option Pass

inductive Event where
  | spotTick (und : Coin) (price : Rat)
  | clock (now : Moment)
  | lists (symbols : Finset String)
  | reconnect
  | begin (who : Who) (force : Bool)
  | go (who : Who)
  | fetched (who : Who) (expiry : Date) (rows : Option (List Product)) (quote : Rat)
  | sent (who : Who)

namespace Manager

variable (cfg : Config) (state : Manager)

/-- `_window_symbols`. -/
def windowSymbols (und : Coin) : Finset String :=
  symbolsOf und (activeDailyExpiry state.now)
    (windowStrikes cfg.window ((state.chain und).getD []) (state.spot und))

/-- The pass is elsewhere, or over. -/
def set (who : Who) (pass : Option Pass) : Manager :=
  { state with passes := Function.update state.passes who pass }

def ready (who : Who) : Bool := (state.passes who).any fun pass => decide (pass.phase = .ready)

/-- Some pass is in the middle of its segment. -/
def busy : Bool := state.ready .manager || state.ready .rollover

/-- The pass goes on to its next underlying. -/
def next (who : Who) (pass : Pass) : Manager :=
  state.set who (match pass.rest with
    | [] => none
    | und :: rest => some ⟨pass.force, pass.done ++ [pass.und], und, rest, .ready⟩)

/-- The window is subscribed. -/
def record (who : Who) (pass : Pass) (want : Finset String) : Manager :=
  { state with subbed := Function.update state.subbed pass.und want }.next who pass

/-- The symbols that are too much are unsubscribed, if there are any. -/
def remove (who : Who) (pass : Pass) (want rem : Finset String) : Manager :=
  if rem = ∅ then state.record who pass want
  else
    { state with subs := state.subs \ rem }.set who
      (some { pass with phase := .unsubscribing want })

/-- `_reconcile` from the computation of the window on. -/
def plan (who : Who) (pass : Pass) : Manager :=
  let want := state.windowSymbols cfg pass.und
  let cur := state.subbed pass.und
  if want = ∅ then state.next who pass
  else if want \ cur = ∅ then
    if cur \ want = ∅ then state.next who pass else state.remove who pass want (cur \ want)
  else
    { state with subs := state.subs ∪ (want \ cur) }.set who
      (some { pass with phase := .subscribing want (cur \ want) })

/-- After a rollover the manager forgets what it has subscribed. -/
def forget (who : Who) (pass : Pass) : Manager :=
  if who = .rollover then
    { state with subbed := Function.update state.subbed pass.und ∅ }
  else state

/-- The pass fetches the products, or has no need to. -/
def enter (who : Who) (pass : Pass) : Manager :=
  if pass.force || (state.chain pass.und).isNone then
    (state.forget who pass).set who (some { pass with phase := .fetching })
  else (state.forget who pass).plan cfg who pass

/-- The dictionaries after a fetch. -/
def learn (und : Coin) (strikes : List Int) (spot : Rat) : Manager :=
  { state with
    chain := if strikes = [] then state.chain else Function.update state.chain und (some strikes)
    spot :=
      if 0 < spot ∧ state.spot und ≤ 0 then Function.update state.spot und spot else state.spot }

end Manager

/-- One event; while a pass is in the middle of its segment there is no other. -/
def step (cfg : Config) (state : Manager) (event : Event) : Manager :=
  match event with
  | .go who =>
      match state.passes who with
      | some pass => if pass.phase = .ready then state.enter cfg who pass else state
      | none => state
  | .spotTick und price =>
      if state.busy then state else { state with spot := Function.update state.spot und price }
  | .clock now => if state.busy then state else { state with now := now }
  | .lists symbols => if state.busy then state else { state with listing := symbols }
  | .reconnect => state
  | .begin who force =>
      if state.busy || (state.passes who).isSome then state
      else
        match cfg.unds with
        | [] => state
        | und :: rest =>
            state.set who (some ⟨force || decide (who = .rollover), [], und, rest, .ready⟩)
  | .fetched who expiry rows quote =>
      match state.passes who with
      | some pass =>
          if !state.busy && decide (pass.phase = .fetching) then
            (state.learn pass.und (fetchChain pass.und expiry rows quote).1
              (fetchChain pass.und expiry rows quote).2).plan cfg who pass
          else state
      | none => state
  | .sent who =>
      match state.passes who with
      | some pass =>
          if state.busy then state
          else
            match pass.phase with
            | .subscribing want rem => state.remove who pass want rem
            | .unsubscribing want => state.record who pass want
            | .ready | .fetching => state
      | none => state

/-- The manager before its first pass. -/
def opening (now : Moment) (listing : Finset String) : Manager :=
  ⟨now, listing, fun _ => 0, fun _ => none, fun _ => ∅, ∅, fun _ => none⟩

end Manager

end OptionChain.DeltaChain
