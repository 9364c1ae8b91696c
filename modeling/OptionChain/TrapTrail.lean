import OptionChain.Timestamps
import OptionChain.TrapPosition
import OptionChain.TrapScanner

/-!
# The trailing stop of a trap position

Before T1 `_update_futures_tsl` moves the stop on candle closes of the future,
after T1 `_update_trail_sl` moves it on ticks. The latter compares timestamps of
five sources: the tick, the five-minute bar it last worked on, the stored bars,
the candles that pandas makes of them, and the entry of the position.

Stored bars hold the reading of their ISO text. Pandas is a parameter: it makes
one-minute or five-minute frames of stored bars, or raises.
-/

namespace OptionChain.TrapTrail

open Broker Rounding Timestamps TrapScanner TrapPosition

/-- A one-minute bar as it is stored. -/
structure StoredBar where
  datetime : Stamp
  high : Rat
  low : Rat
  close : Rat
deriving DecidableEq

inductive PyError where
  | mixedZones
  | frame
deriving DecidableEq

/-- Frames of stored bars, with the wall-clock reading of each row. -/
structure Frames where
  minute : List StoredBar → Except PyError (List Bar)
  fiveMinutes : List StoredBar → Except PyError (List Bar)

inductive TrapState where
  | watching
  | squeezed
  | pulledBack
  | confirmed
deriving DecidableEq

/-- An entry of `trail_traps`. The key text "%H%M" is the minute of the day. -/
structure TrailTrap where
  key : Int
  zoneTrigger : Rat
  zoneHigh : Rat
  state : TrapState
deriving DecidableEq

/-- `last_5m_ts`: unset by an entry, a timestamp once a tick was worked on, and its
text where the position comes back from its file. -/
inductive LastMark where
  | unset
  | stamp (at5m : Stamp)
  | text
deriving DecidableEq

/-- The fields of the position that only the trailing stop reads. -/
structure TrailMarks where
  entryTs : Stamp
  last5m : LastMark := .unset
  trailTraps : List TrailTrap := []
deriving DecidableEq

/-- What the trailing stop reads from the settings of the book. -/
structure TrailSetup where
  htfSource : HtfSource
  slBuf : Rat
deriving DecidableEq

/-- What a call leaves, also where it ends with an error. -/
structure Trailed where
  marks : TrailMarks
  trailSl : Rat
  error : Option PyError := none
deriving DecidableEq

/-- Five minutes in microseconds. -/
def fiveMinutes : Int := 300000000

/-- `strftime("%H%M")`. -/
def minuteKey (wall : Int) : Int := wall / 60000000 % 1440

/-- `bar_5m <= last`, where there is a last one. -/
def seen (last : LastMark) (bar5m : Stamp) : Except PyError Bool :=
  match last with
  | .unset => .ok false
  | .text => .error .mixedZones
  | .stamp at5m =>
      match bar5m.le at5m with
      | .ok answer => .ok answer
      | .error _ => .error .mixedZones

/-- `trap.get("trapped_on") or trap.get("ref_ts")`, without its zone. -/
def trapStamp (trap : Entry LtfTag) : Stamp := ⟨trap.trappedOn.getD trap.refTs, none⟩

/-- The loop that registers new traps. The keys that it knows are those from before
the loop; an error keeps what was registered. -/
def registerTraps (entryTs : Stamp) (entryPrice : Rat) (known : List Int) :
    List (Entry LtfTag) → List TrailTrap → List TrailTrap × Option PyError
  | [], traps => (traps, none)
  | trap :: rest, traps =>
      if trap.status ≠ .trapped then registerTraps entryTs entryPrice known rest traps
      else
        match (trapStamp trap).le entryTs with
        | .error _ => (traps, some .mixedZones)
        | .ok true => registerTraps entryTs entryPrice known rest traps
        | .ok false =>
            let zt := trap.tag.zoneTrigger
            let zh := trap.zoneHigh
            let key := minuteKey (trapStamp trap).wall
            if zt ≤ entryPrice ∨ zh ≤ zt ∨ key ∈ known then
              registerTraps entryTs entryPrice known rest traps
            else registerTraps entryTs entryPrice known rest
              (traps ++ [⟨key, zt, zh, .watching⟩])

/-- `prev_start <= bar < bar_5m`. -/
def inBucket (bar5m : Stamp) (bar : StoredBar) : Except PyError Bool :=
  match (bar5m.add (-fiveMinutes)).le bar.datetime with
  | .error _ => .error .mixedZones
  | .ok false => .ok false
  | .ok true =>
      match bar.datetime.lt bar5m with
      | .error _ => .error .mixedZones
      | .ok answer => .ok answer

/-- The bars of the five minutes before, in order. -/
def bucketOf (bar5m : Stamp) : List StoredBar → Except PyError (List StoredBar)
  | [] => .ok []
  | bar :: rest =>
      match inBucket bar5m bar with
      | .error error => .error error
      | .ok inside =>
          match bucketOf bar5m rest with
          | .error error => .error error
          | .ok others => .ok (if inside then bar :: others else others)

def highest (highs : List Rat) : Rat := highs.max?.getD 0

def lowest (lows : List Rat) : Rat := lows.min?.getD 0

section Trail

variable (setup : TrailSetup) (optType : OptType)

/-- A futures-mode put is stopped from above. -/
def stopsAbove : Prop := setup.htfSource = .futures ∧ optType = .pe

instance : Decidable (stopsAbove setup optType) := inferInstanceAs (Decidable (_ ∧ _))

/-- The stop of a confirmed trap. -/
def confirmedSl (zoneTrigger : Rat) : Rat :=
  if stopsAbove setup optType then roundTo 2 (zoneTrigger + setup.slBuf)
  else roundTo 2 (zoneTrigger - setup.slBuf)

/-- The new stop is nearer to the price. -/
def better (newSl trailSl : Rat) : Prop :=
  if stopsAbove setup optType then newSl < trailSl else trailSl < newSl

instance (newSl trailSl : Rat) : Decidable (better setup optType newSl trailSl) :=
  inferInstanceAs (Decidable (if stopsAbove setup optType then newSl < trailSl
    else trailSl < newSl))

/-- One trap of the state machine: its new state, and the stop. -/
def advanceTrap (barHi barLo : Rat) (trap : TrailTrap) (trailSl : Rat) : TrailTrap × Rat :=
  match trap.state with
  | .confirmed => (trap, trailSl)
  | .watching =>
      (if trap.zoneHigh ≤ barHi then { trap with state := .squeezed } else trap, trailSl)
  | .squeezed =>
      (if barLo ≤ trap.zoneTrigger then { trap with state := .pulledBack } else trap, trailSl)
  | .pulledBack =>
      if trap.zoneHigh ≤ barHi then
        let newSl := confirmedSl setup optType trap.zoneTrigger
        ({ trap with state := .confirmed },
          if better setup optType newSl trailSl then newSl else trailSl)
      else (trap, trailSl)

/-- The loop over the traps. -/
def advanceTraps (barHi barLo : Rat) : List TrailTrap → Rat → List TrailTrap × Rat
  | [], trailSl => ([], trailSl)
  | trap :: rest, trailSl =>
      let advanced := advanceTrap setup optType barHi barLo trap trailSl
      let others := advanceTraps barHi barLo rest advanced.2
      (advanced.1 :: others.1, others.2)

end Trail

/-- The zone of the scan: the whole frame. -/
def wholeFrame (df5 : List Bar) : TrapScanner.HtfZone where
  htfZoneHigh := highest (df5.map (fun bar => bar.high))
  htfZoneLow := lowest (df5.map (fun bar => bar.low))
  htfRefBar := ""
  htfTrapBar := ""
  htfTarget := 0

/-- The traps that the scan of a frame returns. -/
def frameTraps (df5 : List Bar) : List (Entry LtfTag) := (scanLtf (wholeFrame df5) df5).2

section Update

variable (frames : Frames) (setup : TrailSetup)

/-- The second half of `_update_trail_sl`: the bars of the last five minutes and
the state machine. -/
def advanceStop (pos : Position) (bars : List StoredBar) (marks : TrailMarks)
    (bar5m : Stamp) : Trailed :=
  match bucketOf bar5m (bars.drop (bars.length - 15)) with
  | .error error => ⟨marks, pos.trailSl, some error⟩
  | .ok bucket =>
      if bucket = [] then ⟨marks, pos.trailSl, none⟩
      else
        let advanced := advanceTraps setup pos.optType
          (highest (bucket.map (fun bar => bar.high)))
          (lowest (bucket.map (fun bar => bar.low))) marks.trailTraps pos.trailSl
        ⟨{ marks with trailTraps := advanced.1 }, advanced.2, none⟩

/-- `_update_trail_sl`. -/
def updateTrailSl (pos : Position) (bars : List StoredBar) (marks : TrailMarks)
    (ts : Stamp) : Trailed :=
  let bar5m := ts.floor fiveMinutes
  match seen marks.last5m bar5m with
  | .error error => ⟨marks, pos.trailSl, some error⟩
  | .ok true => ⟨marks, pos.trailSl, none⟩
  | .ok false =>
      let marked := { marks with last5m := .stamp bar5m }
      if bars = [] then ⟨marked, pos.trailSl, none⟩
      else
        match frames.fiveMinutes bars with
        | .error error => ⟨marked, pos.trailSl, some error⟩
        | .ok df5 =>
            if df5.length < 3 then ⟨marked, pos.trailSl, none⟩
            else
              let registered := registerTraps marks.entryTs pos.entryPrice
                (marks.trailTraps.map TrailTrap.key) (frameTraps df5) marks.trailTraps
              let watched := { marked with trailTraps := registered.1 }
              match registered.2 with
              | some error => ⟨watched, pos.trailSl, some error⟩
              | none => advanceStop setup pos bars watched bar5m

/-- The first entry with the greatest value, for `max` and, negated, for `min`. -/
def bestBy (value : Entry Trigger → Rat) (first : Entry Trigger) (rest : List (Entry Trigger)) :
    Entry Trigger :=
  rest.foldl (fun best entry => if value best < value entry then entry else best) first

/-- The bars of a day. -/
def barsOf (day : Int) (bars : List StoredBar) : List StoredBar :=
  bars.filter (fun bar => decide (bar.datetime.wall / 86400000000 = day))

/-- The stop that the trapped zones of the future call for. -/
def futuresStop (pos : Position) (trapped : List (Entry Trigger)) : Rat :=
  match pos.optType with
  | .ce =>
      match trapped.filter (fun e => decide (pos.spotAtEntry < e.zoneHigh)) with
      | [] => pos.trailSl
      | first :: rest =>
          let best := bestBy (fun e => e.zoneLow) first rest
          let zoneSl := roundTo 2 (best.zoneLow - setup.slBuf)
          let newSl := if pos.trailSl < pos.spotAtEntry then max zoneSl pos.spotAtEntry
            else zoneSl
          if pos.trailSl < newSl then newSl else pos.trailSl
  | .pe =>
      match trapped.filter (fun e => decide (e.zoneLow < pos.spotAtEntry)) with
      | [] => pos.trailSl
      | first :: rest =>
          let best := bestBy (fun e => -e.zoneHigh) first rest
          let zoneSl := roundTo 2 (best.zoneHigh + setup.slBuf)
          let newSl := if pos.spotAtEntry < pos.trailSl then min zoneSl pos.spotAtEntry
            else zoneSl
          if newSl < pos.trailSl then newSl else pos.trailSl

/-- `_update_futures_tsl` on a position before T1: its new stop. An error keeps the
old one. -/
def updateFuturesTsl (pos : Position) (bars : List StoredBar) (today : Int) : Rat :=
  let todayBars := barsOf today bars
  if todayBars.length < 3 then pos.trailSl
  else
    match frames.minute (todayBars.drop (todayBars.length - 100)) with
    | .error _ => pos.trailSl
    | .ok df =>
        futuresStop setup pos ((scanHtf df).2.filter (fun e => decide (e.status = .trapped)))

end Update

end OptionChain.TrapTrail
