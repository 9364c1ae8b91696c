import Mathlib.Data.List.Sort
import Mathlib.Data.Rat.Defs
import OptionChain.Broker
import OptionChain.Buckets

/-!
# The pool indicator engine

A rolling one-minute series per strike and side, from which the combined
indicators of any call and put are computed on demand, at one minute or resampled
to candles of several minutes. The three deques of a key (closes, ATPs, minutes)
are always appended together and are one list of bars here.

Left out are the wall-clock freshness stamps, which only the one-minute
indicators with a positive age limit read. The seeding of past closes has its own
module.
-/

namespace OptionChain.PoolIndicators

open Broker Buckets

/-- A strike and a side. -/
abbrev Key := Int × OptType

structure Quote where
  ltp : Rat
  atp : Rat
deriving DecidableEq

/-- One committed minute of a key. -/
structure Bar where
  minute : Int
  close : Rat
  atp : Rat
deriving DecidableEq

/-- No entry is an indicator that the result leaves out. -/
structure Indicators where
  close : Rat
  vwap : Rat
  staleAtp : Option Rat := none
  slope : Option Rat := none
  vwapPrev : Option Rat := none
  rsi : Option Rat := none
  roc : Option Rat := none
deriving DecidableEq

structure Engine where
  rsiLen : Nat := 14
  rocLen : Nat := 10
  maxlen : Nat := 240
  latest : AList (fun _ : Key => Quote)
  series : Key → List Bar

def Engine.fresh : Engine where
  latest := ∅
  series := fun _ => []

/-- `update_tick`: a price that is not positive keeps the last good one. -/
def updateTick (engine : Engine) (key : Key) (ltp atp : Rat) : Engine :=
  let previous := (engine.latest.lookup key).getD (⟨0, 0⟩ : Quote)
  { engine with
    latest := engine.latest.insert key
      { ltp := if 0 < ltp then ltp else previous.ltp
        atp := if 0 < atp then atp else previous.atp } }

/-- The minute of a new bar: the given one, or the one after the last bar. -/
def nextMinute (minute : Option Int) (bars : List Bar) : Int :=
  minute.getD ((bars.getLast?.map (fun bar => bar.minute + 1)).getD 0)

/-- `commit_bar`: one bar for every key that ever ticked. -/
def commitBar (engine : Engine) (minute : Option Int) : Engine :=
  { engine with
    series := fun key =>
      match engine.latest.lookup key with
      | none => engine.series key
      | some quote =>
          let bar : Bar := ⟨nextMinute minute (engine.series key), quote.ltp, quote.atp⟩
          (engine.series key ++ [bar]).rtake engine.maxlen }

/-- `rsi`: over the last fourteen differences. -/
def rsi (closes : List Rat) : Rat :=
  if closes.length < 15 then 50
  else
    let recent := closes.rtake 15
    let deltas := List.zipWith (fun earlier later => later - earlier) recent recent.tail
    let avgGain := (deltas.map (fun delta => max delta 0)).sum / 14
    let avgLoss := (deltas.map (fun delta => max (-delta) 0)).sum / 14
    if avgLoss = 0 then 100 else 100 - 100 / (1 + avgGain / avgLoss)

section Combined

variable (engine : Engine)

/-- The RSI of enough combined closes. -/
def rsiOf (closes : List Rat) : Option Rat :=
  if engine.rsiLen + 1 ≤ closes.length then some (rsi closes) else none

/-- The rate of change of enough combined closes, unless its reference is zero. -/
def rocOf (closes : List Rat) : Option Rat :=
  match closes.getLast?, closes[closes.length - engine.rocLen - 1]? with
  | some last, some ref =>
      if engine.rocLen + 1 ≤ closes.length ∧ ref ≠ 0 then some ((last - ref) / ref * 100)
      else none
  | _, _ => none

/-- `pair_indicators` without an age limit. -/
def pairIndicators (ceStrike peStrike : Int) : Option Indicators :=
  match engine.latest.lookup (ceStrike, .ce), engine.latest.lookup (peStrike, .pe) with
  | some ce, some pe =>
      if min (min ce.ltp pe.ltp) (min ce.atp pe.atp) ≤ 0 then none
      else
        let ceBars := engine.series (ceStrike, .ce)
        let peBars := engine.series (peStrike, .pe)
        let ceLive := ceBars.filter (fun bar => 0 ≤ bar.minute)
        let peLive := peBars.filter (fun bar => 0 ≤ bar.minute)
        let prev : Option Rat := do
          let c ← ceLive.dropLast.getLast?
          let p ← peLive.dropLast.getLast?
          return c.atp + p.atp
        let curr : Option Rat := do
          let c ← ceLive.getLast?
          let p ← peLive.getLast?
          return c.atp + p.atp
        let n := min ceBars.length peBars.length
        let combined := List.zipWith (fun c p : Bar => c.close + p.close)
          (ceBars.rtake n) (peBars.rtake n)
        some
          { close := ce.ltp + pe.ltp
            vwap := ce.atp + pe.atp
            staleAtp := some 0
            slope := prev.bind (fun old => curr.map (fun new => new - old))
            vwapPrev := prev
            rsi := rsiOf engine combined
            roc := rocOf engine combined }
  | _, _ => none

/-- The clock-aligned group of a bar. -/
def clockGroup (tf : Int) (bar : Bar) : Int := bar.minute / tf

/-- The greatest minute index of a series. -/
def latestMinute (bars : List Bar) : Int := (bars.map Bar.minute).max?.getD 0

/-- `_tf_groups`: the last bar of every group whose final minute has been
committed. -/
def tfGroups (bars : List Bar) (tf : Int) : AList (fun _ : Int => Bar) :=
  keep (fun g => decide ((g + 1) * tf - 1 ≤ latestMinute bars)) (groups (clockGroup tf) bars)

/-- `sorted(set(cg) & set(pg))`. -/
def commonGroups (ceBars peBars : List Bar) (tf : Int) : List Int :=
  ((tfGroups ceBars tf).keys.filter (· ∈ tfGroups peBars tf)).insertionSort (· ≤ ·)

/-- The two legs of a common group, added up. -/
def pairAt (ceBars peBars : List Bar) (tf g : Int) : Option Quote := do
  let c ← (tfGroups ceBars tf).lookup g
  let p ← (tfGroups peBars tf).lookup g
  return ⟨c.close + p.close, c.atp + p.atp⟩

/-- `pair_indicators_tf`. -/
def pairIndicatorsTf (ceStrike peStrike tf : Int) : Option Indicators :=
  if tf ≤ 1 then pairIndicators engine ceStrike peStrike
  else
    let ceBars := engine.series (ceStrike, .ce)
    let peBars := engine.series (peStrike, .pe)
    let common := commonGroups ceBars peBars tf
    let closes := common.filterMap (fun g => (pairAt ceBars peBars tf g).map Quote.ltp)
    let live := common.filter (fun g => 0 ≤ g)
    match live.getLast?.bind (pairAt ceBars peBars tf) with
    | none => none
    | some last =>
        if last.ltp ≤ 0 ∨ last.atp ≤ 0 then none
        else
          let prev := (live.dropLast.getLast?.bind (pairAt ceBars peBars tf)).map Quote.atp
          some
            { close := last.ltp
              vwap := last.atp
              slope := prev.map (fun old => last.atp - old)
              vwapPrev := prev
              rsi := rsiOf engine closes
              roc := rocOf engine closes }

end Combined

end OptionChain.PoolIndicators
