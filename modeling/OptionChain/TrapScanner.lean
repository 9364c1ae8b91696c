import OptionChain.Rounding

/-!
# The trap scanners

Every scan walks over consecutive bars once. At each bar it first revisits the
zones opened so far, in order, with two order-dependent tests (the trap, then the
return), and then opens a new zone if the bar makes a setup. Trapped zones also
own a row of the event table, found again through `event_idx`.

The bear and bull loops of the source repeat one loop with other comparisons.
`TrapRule` holds what differs: the setup, the zone it makes, the trap and return
tests, the event columns, and whether the return test excludes the bar that
fired the trap. The scans below are that loop at their own values.

A data frame is the list of its bars; timestamps are integers and prices exact
rationals. Columns that no scan reads are left out.
-/

namespace OptionChain.TrapScanner

open Rounding

/-- One row of the frame a scan reads. -/
structure Bar where
  datetime : Int
  high : Rat
  low : Rat
  close : Rat
deriving DecidableEq, Inhabited

inductive Status where
  | active
  | trapped
  | closed
deriving DecidableEq

/-- What a setup fixes once and for all. -/
structure Setup (τ : Type) where
  refTs : Int
  entry : Rat
  sl : Rat
  zoneHigh : Rat
  zoneLow : Rat
  tag : τ
deriving DecidableEq

/-- A setup and its life so far. -/
structure Zone (τ : Type) extends Setup τ where
  status : Status
  trappedOn : Option Int
  closedOn : Option Int
deriving DecidableEq

/-- An entry dictionary: a zone and the row it owns in the event table. -/
structure Entry (τ : Type) extends Zone τ where
  eventIdx : Option Nat
deriving DecidableEq

inductive RowStatus where
  | «open»
  | closed
deriving DecidableEq

/-- A row of the event table. No close bar is the source's `pd.NaT`. -/
structure EventRow (ρ : Type) where
  trapBar : Int
  refBar : Int
  entry : Rat
  slLevel : Rat
  zoneHigh : Rat
  zoneLow : Rat
  columns : ρ
  status : RowStatus
  closeBar : Option Int
deriving DecidableEq

/-- The parts of the loop in which the scans differ. `setup` and `make` see the
previous and the current bar. -/
structure TrapRule (τ ρ : Type) where
  setup : Bar → Bar → Bool
  make : Bar → Bar → Setup τ
  traps : Bar → Setup τ → Bool
  returns : Bar → Setup τ → Bool
  excludesTrapBar : Bool
  columns : Setup τ → ρ

section Loop

variable {τ ρ : Type} (rule : TrapRule τ ρ)

/-- A fresh zone is ACTIVE and owns no row. -/
def fresh (setup : Setup τ) : Zone τ :=
  { setup with status := .active, trappedOn := none, closedOn := none }

/-- The first test of the loop body: an ACTIVE zone whose stop is broken. -/
def fires (curr : Bar) (zone : Zone τ) : Bool :=
  zone.status = .active && rule.traps curr zone.toSetup

/-- The second test, on the zone as the first one leaves it. -/
def ends (curr : Bar) (zone : Zone τ) : Bool :=
  zone.status = .trapped && rule.returns curr zone.toSetup &&
    !(rule.excludesTrapBar && zone.trappedOn = some curr.datetime)

def trap (curr : Bar) (zone : Zone τ) : Zone τ :=
  if fires rule curr zone then
    { zone with status := .trapped, trappedOn := some curr.datetime }
  else zone

def finish (curr : Bar) (zone : Zone τ) : Zone τ :=
  if ends rule curr zone then
    { zone with status := .closed, closedOn := some curr.datetime }
  else zone

/-- The loop body on the zone alone. A CLOSED zone passes neither test. -/
def advance (curr : Bar) (zone : Zone τ) : Zone τ := finish rule curr (trap rule curr zone)

/-- The row appended when a trap fires; its prices are rounded to paise. -/
def openRow (curr : Bar) (setup : Setup τ) : EventRow ρ where
  trapBar := curr.datetime
  refBar := setup.refTs
  entry := roundTo 2 setup.entry
  slLevel := roundTo 2 setup.sl
  zoneHigh := roundTo 2 setup.zoneHigh
  zoneLow := roundTo 2 setup.zoneLow
  columns := rule.columns setup
  status := .open
  closeBar := none

/-- `events[event_idx]["Status"] = "CLOSED"` with its close bar. -/
def closeRow (curr : Bar) (eventIdx : Option Nat) (events : List (EventRow ρ)) :
    List (EventRow ρ) :=
  match eventIdx with
  | none => events
  | some row => events.modify row
      (fun r => { r with status := .closed, closeBar := some curr.datetime })

/-- The loop body for one entry: the trap appends a row and remembers its index,
the return closes that row. -/
def visit (curr : Bar) (entry : Entry τ) (events : List (EventRow ρ)) :
    Entry τ × List (EventRow ρ) :=
  let fired := fires rule curr entry.toZone
  let trapped : Entry τ :=
    { trap rule curr entry.toZone with
      eventIdx := if fired then some events.length else entry.eventIdx }
  let table := if fired then events ++ [openRow rule curr entry.toSetup] else events
  let final : Entry τ := { finish rule curr trapped.toZone with eventIdx := trapped.eventIdx }
  (final, if ends rule curr trapped.toZone then closeRow curr trapped.eventIdx table else table)

/-- `for e in entries`. -/
def visitAll (curr : Bar) : List (Entry τ) → List (EventRow ρ) →
    List (Entry τ) × List (EventRow ρ)
  | [], events => ([], events)
  | entry :: rest, events =>
      let visited := visit rule curr entry events
      let others := visitAll curr rest visited.2
      (visited.1 :: others.1, others.2)

/-- The entry a bar opens, if it makes a setup. -/
def opens (prev curr : Bar) : List (Entry τ) :=
  if rule.setup prev curr then [{ fresh (rule.make prev curr) with eventIdx := none }] else []

end Loop

/-- The accumulators of a scan with one family of zones. -/
structure Scan (τ ρ : Type) where
  entries : List (Entry τ)
  events : List (EventRow ρ)
deriving DecidableEq

/-- `for i in range(1, len(df))`, whose body sees the previous and the current
bar. A frame with fewer than two rows has no iteration. -/
def overPairs {σ : Type} (body : Bar → Bar → σ → σ) (state : σ) : List Bar → σ
  | prev :: curr :: rest => overPairs body (body prev curr state) (curr :: rest)
  | _ => state

section Scans

variable {τ ρ : Type} (rule : TrapRule τ ρ)

/-- The body of the outer loop: revisit every entry, then open a new one. -/
def scanBar (prev curr : Bar) (scan : Scan τ ρ) : Scan τ ρ :=
  let visited := visitAll rule curr scan.entries scan.events
  ⟨visited.1 ++ opens rule prev curr, visited.2⟩

/-- A whole pass. -/
def scanBars (df : List Bar) : Scan τ ρ := overPairs (scanBar rule) ⟨[], []⟩ df

end Scans

/-- `zone_trigger`, the tag of an HTF zone and its column "Your Entry". -/
structure Trigger where
  zoneTrigger : Rat
deriving DecidableEq

/-- The bearish loop of `scan_htf`. -/
def htfRule : TrapRule Trigger Rat where
  setup prev curr := curr.low < prev.low
  make prev curr :=
    { refTs := prev.datetime, entry := prev.low, sl := prev.high,
      zoneHigh := prev.low, zoneLow := curr.low,
      tag := ⟨curr.low + (prev.low - curr.low) / 3⟩ }
  traps curr setup := curr.high > setup.sl
  returns curr setup := curr.low ≤ setup.entry
  excludesTrapBar := true
  columns setup := roundTo 2 setup.tag.zoneTrigger

/-- `scan_htf`: the event table and the entries. -/
def scanHtf (df : List Bar) : List (EventRow Rat) × List (Entry Trigger) :=
  let scan := scanBars htfRule df
  (scan.events, scan.entries)

inductive Kind where
  | bear
  | bull
deriving DecidableEq

inductive Direction where
  | bullish
  | bearish
deriving DecidableEq

/-- The kind and trade direction of a spot zone, which its event row repeats. -/
structure SpotTag where
  kind : Kind
  direction : Direction
deriving DecidableEq

/-- The first inner loop of `scan_htf_spot`, with `make_bear`. -/
def bearRule : TrapRule SpotTag SpotTag where
  setup prev curr := curr.low < prev.low
  make prev curr :=
    { refTs := prev.datetime, entry := prev.low, sl := prev.high,
      zoneHigh := prev.low, zoneLow := curr.low, tag := ⟨.bear, .bullish⟩ }
  traps curr setup := curr.high > setup.sl
  returns curr setup := curr.low ≤ setup.entry
  excludesTrapBar := true
  columns setup := setup.tag

/-- The second inner loop of `scan_htf_spot`, with `make_bull`. -/
def bullRule : TrapRule SpotTag SpotTag where
  setup prev curr := curr.high > prev.high
  make prev curr :=
    { refTs := prev.datetime, entry := prev.high, sl := prev.low,
      zoneHigh := curr.high, zoneLow := prev.high, tag := ⟨.bull, .bearish⟩ }
  traps curr setup := curr.low < setup.sl
  returns curr setup := curr.high ≥ setup.entry
  excludesTrapBar := true
  columns setup := setup.tag

/-- Both families share one event table. -/
structure SpotScan where
  bearEntries : List (Entry SpotTag)
  bullEntries : List (Entry SpotTag)
  events : List (EventRow SpotTag)
deriving DecidableEq

/-- The loop body of `scan_htf_spot`: bears, then bulls, then the new zones. -/
def spotBar (prev curr : Bar) (scan : SpotScan) : SpotScan :=
  let bears := visitAll bearRule curr scan.bearEntries scan.events
  let bulls := visitAll bullRule curr scan.bullEntries bears.2
  ⟨bears.1 ++ opens bearRule prev curr, bulls.1 ++ opens bullRule prev curr, bulls.2⟩

def spotBars (df : List Bar) : SpotScan := overPairs spotBar ⟨[], [], []⟩ df

/-- `scan_htf_spot`: the event table and the bear entries followed by the bulls. -/
def scanHtfSpot (df : List Bar) : List (EventRow SpotTag) × List (Entry SpotTag) :=
  let scan := spotBars df
  (scan.events, scan.bearEntries ++ scan.bullEntries)

/-- The parent HTF zone handed to an LTF scan. -/
structure HtfZone where
  htfZoneHigh : Rat
  htfZoneLow : Rat
  htfRefBar : String
  htfTrapBar : String
  htfTarget : Rat
deriving DecidableEq

/-- An LTF zone carries its trigger and its parent. -/
structure LtfTag extends Trigger where
  parent : HtfZone
deriving DecidableEq

/-- The bars of `scan_ltf` that touch the HTF band. -/
def ltfZoneBars (zone : HtfZone) (df : List Bar) : List Bar :=
  df.filter (fun bar => bar.low ≤ zone.htfZoneHigh &&
    bar.close ≥ zone.htfZoneLow * (95 / 100))

/-- `scan_ltf`: `scan_htf` on the bars inside the zone, each entry tagged. -/
def scanLtf (zone : HtfZone) (df : List Bar) : List (EventRow Rat) × List (Entry LtfTag) :=
  let zoneDf := ltfZoneBars zone df
  if zoneDf.length < 2 then ([], [])
  else
    let scanned := scanHtf zoneDf
    (scanned.1, scanned.2.map (fun e => { e with tag := ⟨e.tag, zone⟩ }))

/-- The loop of `scan_ltf_bull`. Its return test is the only one without the
clause that excludes the bar of the trap. -/
def ltfBullRule (zone : HtfZone) : TrapRule LtfTag Rat where
  setup prev curr := curr.high > prev.high
  make prev curr :=
    { refTs := prev.datetime, entry := prev.high, sl := prev.low,
      zoneHigh := curr.high, zoneLow := prev.high,
      tag := ⟨⟨curr.high - (curr.high - prev.high) / 3⟩, zone⟩ }
  traps curr setup := curr.low < setup.sl
  returns curr setup := curr.high ≥ setup.entry
  excludesTrapBar := false
  columns setup := roundTo 2 setup.tag.zoneTrigger

/-- The bars of `scan_ltf_bull` that touch the HTF band. -/
def ltfBullZoneBars (zone : HtfZone) (df : List Bar) : List Bar :=
  df.filter (fun bar => bar.high ≥ zone.htfZoneLow &&
    bar.close ≤ zone.htfZoneHigh * (105 / 100))

/-- `scan_ltf_bull`. -/
def scanLtfBull (zone : HtfZone) (df : List Bar) : List (EventRow Rat) × List (Entry LtfTag) :=
  let zoneDf := ltfBullZoneBars zone df
  if zoneDf.length < 2 then ([], [])
  else
    let scan := scanBars (ltfBullRule zone) zoneDf
    (scan.events, scan.entries)

end OptionChain.TrapScanner
