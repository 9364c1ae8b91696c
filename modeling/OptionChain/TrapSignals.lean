import Mathlib.Data.List.MinMax
import Mathlib.Data.String.Basic
import OptionChain.TrapTrail

/-!
# The entry signals of a futures book

In futures mode two scans raise entry signals. `_ltf_scan_normal` takes the trapped
zones of the future as a bias and looks for cleared traps in the premiums of the
near option; `_cascade_scan` looks for closed traps in the bars of the future. Both
go through `_run_ltf_on`, which hands the zone it found to the entry.

Pandas is a parameter: it makes a table of stored bars, or raises, resamples a table
into candles, and prints a timestamp. Status texts and log lines are left out, and
so are the callers that scan options or the spot for zones.
-/

namespace OptionChain.TrapSignals

open Broker Timestamps TrapScanner TrapPosition
open TrapTrail (StoredBar PyError barsOf)

/-- What the scans use of pandas. -/
structure ScanFrames where
  table : List StoredBar → Except PyError (List Bar)
  candles : Nat → List Bar → List Bar
  text : Int → String

/-- What the scans read of their book. A leg without a price has price zero. -/
structure Book where
  barsFut : List StoredBar
  barsCe1 : List StoredBar
  barsPe1 : List StoredBar
  futZones : List (Entry SpotTag)
  spotCache : Rat
  ltpCache : Leg → Rat
  notifiedUids : List ZoneUid
  today : Int
  cascadeMin : Nat
  cascadePositive : 0 < cascadeMin

/-- The arguments of `_on_entry_signal`. -/
structure Raised where
  leg : Leg
  optType : OptType
  entry : Zone LtfTag
  htfZone : TrapPosition.HtfZone
deriving DecidableEq

def kindText : Kind → String
  | .bear => "BEAR"
  | .bull => "BULL"

/-- What an entry keeps of a zone of the future. -/
def htfZoneOf (zone : Entry SpotTag) : TrapPosition.HtfZone where
  refTs := zone.refTs
  zoneHigh := zone.zoneHigh
  zoneLow := zone.zoneLow
  sl := zone.sl
  kind := kindText zone.tag.kind

def isTrapped {τ : Type} (zone : Entry τ) : Bool := decide (zone.status = .trapped)

def isClosed {τ : Type} (zone : Entry τ) : Bool := decide (zone.status = .closed)

/-- `select_best_ltf_entry`: the closed entry with the lowest low. -/
def selectBestLtfEntry (ltfEntries : List (Entry LtfTag)) : Option (Entry LtfTag) :=
  (ltfEntries.filter isClosed).argmin (fun e => e.zoneLow)

section Scans

variable (frames : ScanFrames)

/-- `str(e.get("closed_on", ""))`. -/
def closedText {τ : Type} (zone : Entry τ) : String :=
  match zone.closedOn with
  | none => "None"
  | some closedOn => frames.text closedOn

/-- `str(zone.get("trapped_on", ..))`. -/
def trappedText {τ : Type} (zone : Entry τ) : String :=
  match zone.trappedOn with
  | none => "None"
  | some trappedOn => frames.text trappedOn

/-- The zone closed last, by the text of its closing bar. -/
def latestClosed {τ : Type} (closed : List (Entry τ)) : Option (Entry τ) :=
  closed.argmax (closedText frames)

/-- `_find_closed_15m_zone`. -/
def findClosed15mZone (todayBars : List StoredBar) (htfZone : Option (Entry SpotTag)) :
    Except PyError (Option (Entry Trigger)) :=
  if todayBars.length < 2 then .ok none
  else
    match frames.table todayBars with
    | .error error => .error error
    | .ok df =>
        let mtf := frames.candles 15 df
        if mtf.length < 2 then .ok none
        else
          let closed := (scanHtf mtf).2.filter isClosed
          let inside := match htfZone with
            | none => closed
            | some zone => closed.filter (fun e =>
                decide (zone.zoneLow ≤ e.zoneHigh ∧ e.zoneHigh ≤ zone.zoneHigh))
          .ok (latestClosed frames inside)

/-- The whole day, with no band. -/
def unbounded : TrapScanner.HtfZone where
  htfZoneHigh := 9999999
  htfZoneLow := 0
  htfRefBar := ""
  htfTrapBar := ""
  htfTarget := 0

/-- The zone of an all-cleared entry: no trap of the day is open, and this one closed
last. -/
def clearedZone (df : List Bar) : Option (Entry LtfTag) :=
  let ltfEntries := (scanLtf unbounded df).2
  if ltfEntries.any isTrapped then none else latestClosed frames (ltfEntries.filter isClosed)

/-- The band of a closed 15-minute zone, under the zone of the loop. -/
def bandOf (zone : Entry SpotTag) (mtf : Entry Trigger) : TrapScanner.HtfZone where
  htfZoneHigh := mtf.zoneHigh
  htfZoneLow := mtf.zoneLow
  htfRefBar := frames.text zone.refTs
  htfTrapBar := trappedText frames zone
  htfTarget := zone.sl

/-- The price has not come back to the level of the sellers, to half a percent. -/
def waitsRetest (price : Rat) (best : Entry LtfTag) : Bool :=
  decide (best.zoneHigh + best.zoneHigh * (5 / 1000) < price)

/-- A zone the loop of `_run_ltf_on` passes over: it was entered before, or the price
is known and outside. -/
def passedOver (notifiedUids : List ZoneUid) (price : Rat) (zone : Entry SpotTag) : Bool :=
  decide (zoneUid (htfZoneOf zone) ∈ notifiedUids) ||
    decide (0 < price ∧ (price < zone.zoneLow ∨ zone.zoneHigh < price))

/-- `for zone in htf_zones`. -/
def scanZones (notifiedUids : List ZoneUid) (legKey : Leg) (optType : OptType)
    (requireClosed : Bool) (todayBars : List StoredBar) (df : List Bar) (price : Rat) :
    List (Entry SpotTag) → Except PyError (Option Raised)
  | [] => .ok none
  | zone :: rest =>
      if passedOver notifiedUids price zone then
        scanZones notifiedUids legKey optType requireClosed todayBars df price rest
      else
        match findClosed15mZone frames todayBars (if requireClosed then some zone else none) with
        | .error error => .error error
        | .ok none => scanZones notifiedUids legKey optType requireClosed todayBars df price rest
        | .ok (some mtf) =>
            match selectBestLtfEntry (scanLtf (bandOf frames zone mtf) df).2 with
            | none => scanZones notifiedUids legKey optType requireClosed todayBars df price rest
            | some best =>
                if waitsRetest price best then
                  scanZones notifiedUids legKey optType requireClosed todayBars df price rest
                else .ok (some ⟨legKey, optType, best.toZone, htfZoneOf zone⟩)

variable (book : Book)

/-- The all-cleared branch, for the first zone. -/
def clearedSignal (legKey : Leg) (optType : OptType) (df : List Bar) (zone : Entry SpotTag) :
    Option Raised :=
  if zoneUid (htfZoneOf zone) ∈ book.notifiedUids then none
  else (clearedZone frames df).map (fun best =>
    ⟨legKey, optType, best.toZone, htfZoneOf zone⟩)

/-- `price_override if price_override > 0 else ltp_cache.get(leg_key)`. -/
def priceOf (legKey : Leg) (priceOverride : Rat) : Rat :=
  if 0 < priceOverride then priceOverride else book.ltpCache legKey

/-- `_run_ltf_on`. -/
def runLtfOn (legKey : Leg) (bars : List StoredBar) (htfZones : List (Entry SpotTag))
    (optType : OptType) (requireClosed : Bool) (priceOverride : Rat) (allClearedEntry : Bool) :
    Except PyError (Option Raised) :=
  let todayBars := barsOf book.today bars
  match htfZones with
  | [] => .ok none
  | first :: _ =>
      if bars.length < 3 ∨ todayBars.length < 3 then .ok none
      else
        match frames.table (todayBars.drop (todayBars.length - 200)) with
        | .error error => .error error
        | .ok df =>
            if allClearedEntry then .ok (clearedSignal frames book legKey optType df first)
            else scanZones frames book.notifiedUids legKey optType requireClosed todayBars df
              (priceOf book legKey priceOverride) htfZones

/-- Trapped bear zones around the price. -/
def futBear : List (Entry SpotTag) :=
  book.futZones.filter (fun e => isTrapped e && decide (e.tag.kind = .bear) &&
    decide (e.zoneLow ≤ book.spotCache ∧ book.spotCache ≤ e.zoneHigh))

/-- Trapped bull zones that the price is not below. -/
def futBull : List (Entry SpotTag) :=
  book.futZones.filter (fun e => isTrapped e && decide (e.tag.kind = .bull) &&
    decide (e.zoneLow ≤ book.spotCache))

/-- `_ltf_scan_normal` in futures mode: the candle of the future scans nothing. -/
def ltfScanNormal (leg : Leg) : Except PyError (Option Raised) :=
  match leg with
  | .ce1 => runLtfOn frames book .ce1 book.barsCe1 (futBear book) .ce true book.spotCache true
  | .pe1 => runLtfOn frames book .pe1 book.barsPe1 (futBull book) .pe true book.spotCache true
  | .ce2 | .pe2 | .fut => .ok none

/-- The start of the cascade interval of a time, counted within its hour. -/
def cascadeStart (ts : Stamp) : Stamp :=
  let hour := ts.wall / 3600000000 * 3600000000
  let minute := ts.wall / 60000000 % 60
  { ts with wall := hour + minute / book.cascadeMin * book.cascadeMin * 60000000 }

/-- `_complete_today`: bars of the day before the running interval. -/
def completeToday (today : Int) (start : Stamp) :
    List StoredBar → Except PyError (List StoredBar)
  | [] => .ok []
  | bar :: rest =>
      if bar.datetime.wall / 86400000000 = today then
        match bar.datetime.lt start, completeToday today start rest with
        | .error _, _ => .error .mixedZones
        | _, .error error => .error error
        | .ok earlier, .ok others => .ok (if earlier then bar :: others else others)
      else completeToday today start rest

/-- `_run_htf_scan` in futures mode: the zones it leaves. -/
def runHtfScan (bars : List StoredBar) (minutes : Nat) : Except PyError (List (Entry SpotTag)) :=
  match frames.table bars with
  | .error error => .error error
  | .ok df =>
      if df.length < 2 ∨ (frames.candles minutes df).length < 2 then .ok book.futZones
      else .ok (scanHtfSpot (frames.candles minutes df)).2

/-- `_cascade_scan` in futures mode. -/
def cascadeScan (ts : Stamp) : Except PyError (Option Raised) :=
  match completeToday book.today (cascadeStart book ts) book.barsFut with
  | .error error => .error error
  | .ok todayBars =>
      if todayBars.length < 4 then .ok none
      else
        match runHtfScan frames book todayBars book.cascadeMin with
        | .error error => .error error
        | .ok zones =>
            runLtfOn frames book .fut book.barsFut (zones.filter isTrapped) .ce false 0 false

/-- The two scans. -/
inductive Scan where
  | normal (leg : Leg)
  | cascade (ts : Stamp)
deriving DecidableEq

/-- The signal that a scan raises. An error ends it without one. -/
def Scan.raises : Scan → Option Raised
  | .normal leg => (ltfScanNormal frames book leg).toOption.join
  | .cascade ts => (cascadeScan frames book ts).toOption.join

end Scans

end OptionChain.TrapSignals
