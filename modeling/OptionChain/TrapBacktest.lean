import OptionChain.GreedyIntervals
import OptionChain.SortedLists
import OptionChain.TrapScanner

/-!
# The trap backtest

`backtest` trades the returned zones of a scan one after the other. A trade starts at the
return of its zone and ends on the first later bar of that day that reaches its stop or its
target, or else with the day's last bar; a zone that returns before the running trade has
ended, or as it ends, is passed by.

The columns of the parent zone and the formatted times of the result are left out, and the
limit on the entry time comes as its hour and minute.
-/

namespace OptionChain.TrapBacktest

open Rounding SortedLists GreedyIntervals TrapScanner

/-- What the backtest reads of an entry beyond its zone: the target of the parent zone, and
the key of the bars of its contract. -/
structure Origin where
  htfTarget : Option Rat := none
  dfKey : String := ""
deriving DecidableEq

structure Options where
  buffer : Rat := 2
  qty : Int := 1
  lotSize : Int := 65
  maxEntryTime : Option (Int × Int) := none
  minRr : Rat := 0
  minZoneWidth : Rat := 0

inductive Reason where
  | sl
  | target
  | squareoff
deriving DecidableEq

/-- A row of the result, with its times in full. -/
structure Trade where
  entryTs : Int
  exitTs : Int
  entryPrice : Rat
  target : Rat
  slPrice : Rat
  exitPrice : Rat
  reason : Reason
  pnl : Rat
deriving DecidableEq

def day (time : Int) : Int := time / 86400

def hour (time : Int) : Int := time % 86400 / 3600

def minute (time : Int) : Int := time % 3600 / 60

section Prices

variable (options : Options) (entry : Entry Origin)

def entryPrice : Rat := roundTo 2 entry.entry

/-- `e.get("htf_target") or e["sl"]`. -/
def target : Rat :=
  roundTo 2
    (match entry.tag.htfTarget with
    | some level => if level ≠ 0 then level else entry.sl
    | none => entry.sl)

def slPrice : Rat := roundTo 2 (entry.zoneLow - options.buffer)

/-- The three filters on an entry at its time. -/
def passes (entryTs : Int) : Bool :=
  !(match options.maxEntryTime with
    | some (ch, cm) =>
        decide (ch < hour entryTs) || (decide (ch = hour entryTs) && decide (cm ≤ minute entryTs))
    | none => false) &&
  !(decide (0 < options.minZoneWidth) &&
    decide (entry.zoneHigh - entry.zoneLow < options.minZoneWidth)) &&
  !(decide (0 < options.minRr) &&
    decide ((target entry - entryPrice entry) / max (entryPrice entry - slPrice options entry)
      (1 / 100) < options.minRr))

/-- The bars of the entry's day after the entry. -/
def future (entryDf : List Bar) (entryTs : Int) : List Bar :=
  entryDf.filter fun bar =>
    decide (entryTs < bar.datetime) && decide (day bar.datetime = day entryTs)

/-- A bar that ends the trade. -/
def touches (bar : Bar) : Bool :=
  decide (bar.low ≤ slPrice options entry) || decide (target entry ≤ bar.high)

def closed (entryTs exitTs : Int) (exitPrice : Rat) (reason : Reason) : Trade where
  entryTs := entryTs
  exitTs := exitTs
  entryPrice := entryPrice entry
  target := target entry
  slPrice := slPrice options entry
  exitPrice := exitPrice
  reason := reason
  pnl := roundTo 2 ((exitPrice - entryPrice entry) * (options.qty * options.lotSize))

/-- `SQUAREOFF` at the close of a bar. -/
def squareoff (entryTs : Int) (ref : Bar) : Trade :=
  closed options entry entryTs ref.datetime (roundTo 2 ref.close) .squareoff

/-- The walk over the later bars, and its two fallbacks. -/
def simulate (entryDf : List Bar) (entryTs : Int) : Option Trade :=
  match (future entryDf entryTs).find? (touches options entry) with
  | some bar =>
      if bar.low ≤ slPrice options entry then
        some (closed options entry entryTs bar.datetime (slPrice options entry) .sl)
      else some (closed options entry entryTs bar.datetime (target entry) .target)
  | none =>
      match (future entryDf entryTs).getLast? with
      | some ref => some (squareoff options entry entryTs ref)
      | none =>
          (entryDf.find? fun bar => decide (bar.datetime = entryTs)).map
            (squareoff options entry entryTs)

end Prices

/-- The locals of the loop. -/
structure Book where
  openUntil : Option Int
  trades : List (Entry Origin × Trade)

/-- Entries that returned, with the time of their return. -/
def eligible (allEntries : List (Entry Origin)) : List (Entry Origin × Int) :=
  sortedBy Prod.snd (allEntries.filterMap fun entry =>
    if entry.status = .trapped ∨ entry.status = .closed then entry.closedOn.map (entry, ·)
    else none)

section Loop

variable (options : Options) (df : List Bar) (dfMap : String → Option (List Bar))

/-- `df_map.get(e.get("_df_key", ""), df) if df_map else df`. -/
def entryDf (entry : Entry Origin) : List Bar := (dfMap entry.tag.dfKey).getD df

/-- The body of the loop. -/
def visit (book : Book) (candidate : Entry Origin × Int) : Book :=
  let (entry, entryTs) := candidate
  if entry.trappedOn = none then book
  else if ∃ ended ∈ book.openUntil, entryTs ≤ ended then book
  else if passes options entry entryTs = false then book
  else
    match simulate options entry (entryDf df dfMap entry) entryTs with
    | none => book
    | some trade => ⟨some trade.exitTs, book.trades ++ [(entry, trade)]⟩

/-- `backtest`: each trade with the entry it is of. -/
def backtest (allEntries : List (Entry Origin)) : List (Entry Origin × Trade) :=
  ((eligible allEntries).foldl (visit options df dfMap) ⟨none, []⟩).trades

/-- The trade of a candidate that the filters pass. -/
def attempt (candidate : Entry Origin × Int) : Option Trade :=
  if candidate.1.trappedOn.isSome ∧ passes options candidate.1 candidate.2 = true then
    simulate options candidate.1 (entryDf df dfMap candidate.1) candidate.2
  else none

end Loop

/-! ## One trade -/

/-- A bar of the entry's day after the entry. -/
def Later (entryTs : Int) (bar : Bar) : Prop :=
  entryTs < bar.datetime ∧ day bar.datetime = day entryTs

/-- There is a bar of the entry's day to trade on. -/
def HasBars (table : List Bar) (entryTs : Int) : Prop :=
  ∃ bar ∈ table, day bar.datetime = day entryTs ∧ entryTs ≤ bar.datetime

section Trades

variable (options : Options) (entry : Entry Origin) (table : List Bar) (trade : Trade) (bar : Bar)

/-- The trade ended on the first later bar that reaches its stop or its target, at the stop
if that bar reaches it. -/
structure Touched : Prop where
  listed : bar ∈ table
  later : Later trade.entryTs bar
  touched : bar.low ≤ trade.slPrice ∨ trade.target ≤ bar.high
  first : ∀ other ∈ table, Later trade.entryTs other →
    (other.low ≤ trade.slPrice ∨ trade.target ≤ other.high) → bar.datetime ≤ other.datetime
  exit : trade.exitTs = bar.datetime
  stopped : bar.low ≤ trade.slPrice → trade.reason = .sl ∧ trade.exitPrice = trade.slPrice
  reached : trade.slPrice < bar.low → trade.reason = .target ∧ trade.exitPrice = trade.target

/-- No later bar reached either, and the trade ended with the last bar of its day. -/
structure SquaredOff : Prop where
  listed : bar ∈ table
  sameDay : day bar.datetime = day trade.entryTs
  onward : trade.entryTs ≤ bar.datetime
  last : ∀ other ∈ table, day other.datetime = day trade.entryTs → other.datetime ≤ bar.datetime
  untouched : ∀ other ∈ table, Later trade.entryTs other →
    ¬(other.low ≤ trade.slPrice ∨ trade.target ≤ other.high)
  exit : trade.exitTs = bar.datetime
  atClose : trade.reason = .squareoff ∧ trade.exitPrice = roundTo 2 bar.close

/-- A trade at the prices of its entry that ends as it should. -/
structure Proper (entryTs : Int) : Prop where
  priced : trade = closed options entry entryTs trade.exitTs trade.exitPrice trade.reason
  ended : ∃ bar, Touched table trade bar ∨ SquaredOff table trade bar

variable {options} {entry} {table} {trade}

theorem Proper.entryTs {entryTs : Int} (proper : Proper options entry table trade entryTs) :
    trade.entryTs = entryTs := by
  rw [proper.priced]
  rfl

/-- A trade does not end before it starts. -/
theorem Proper.lasting {entryTs : Int} (proper : Proper options entry table trade entryTs) :
    entryTs ≤ trade.exitTs := by
  obtain ⟨bar, touched | squared⟩ := proper.ended
  · rw [touched.exit, ← proper.entryTs]
    exact touched.later.1.le
  · rw [squared.exit, ← proper.entryTs]
    exact squared.onward

theorem mem_future {entryTs : Int} {bar : Bar} :
    bar ∈ future table entryTs ↔ bar ∈ table ∧ Later entryTs bar := by
  simp [future, Later]

theorem touches_iff {bar : Bar} : touches options entry bar = true ↔
    bar.low ≤ slPrice options entry ∨ target entry ≤ bar.high := by
  simp [touches]

variable (sorted : table.Pairwise (fun a b => a.datetime < b.datetime)) {entryTs : Int}

include sorted

/-- The first bar that the walk stops at is the first in time. -/
theorem first_touch {bar : Bar}
    (found : (future table entryTs).find? (touches options entry) = some bar) :
    touches options entry bar = true ∧ bar ∈ future table entryTs ∧
      ∀ other ∈ future table entryTs, touches options entry other = true →
        bar.datetime ≤ other.datetime := by
  obtain ⟨touched, before, after, split, untouched⟩ := List.find?_eq_some_iff_append.mp found
  have ordered : (future table entryTs).Pairwise (fun a b => a.datetime < b.datetime) :=
    sorted.filter _
  refine ⟨touched, List.mem_of_find?_eq_some found, ?_⟩
  intro other member otherTouched
  rw [split] at member ordered
  rcases List.mem_append.mp member with early | late
  · have missed := untouched other early
    rw [otherTouched] at missed
    cases missed
  · rcases List.mem_cons.mp late with rfl | later
    · exact Int.le_refl _
    · have behind := (List.pairwise_append.mp ordered).2.1
      exact ((List.pairwise_cons.mp behind).1 other later).le

/-- The last bar of the walk is the last in time. -/
theorem last_future {bar : Bar} (found : (future table entryTs).getLast? = some bar) :
    bar ∈ future table entryTs ∧
      ∀ other ∈ future table entryTs, other.datetime ≤ bar.datetime := by
  obtain ⟨before, split⟩ := List.getLast?_eq_some_iff.mp found
  have ordered : (future table entryTs).Pairwise (fun a b => a.datetime < b.datetime) :=
    sorted.filter _
  refine ⟨List.mem_of_getLast? found, ?_⟩
  intro other member
  rw [split] at member ordered
  rcases List.mem_append.mp member with early | last
  · exact ((List.pairwise_append.mp ordered).2.2 other early bar (List.mem_singleton_self bar)).le
  · rw [List.mem_singleton.mp last]

/-- A trade closed on a bar that touches. -/
theorem proper_touched {bar : Bar}
    (found : (future table entryTs).find? (touches options entry) = some bar)
    (trade : Trade) (priced : trade = closed options entry entryTs bar.datetime trade.exitPrice
      trade.reason)
    (stopped : bar.low ≤ slPrice options entry →
      trade.reason = .sl ∧ trade.exitPrice = slPrice options entry)
    (reached : slPrice options entry < bar.low →
      trade.reason = .target ∧ trade.exitPrice = target entry) :
    Proper options entry table trade entryTs := by
  obtain ⟨touched, member, first⟩ := first_touch sorted found
  obtain ⟨listed, later⟩ := mem_future.mp member
  have exit : trade.exitTs = bar.datetime := by rw [priced]; rfl
  have start : trade.entryTs = entryTs := by rw [priced]; rfl
  have stop : trade.slPrice = slPrice options entry := by rw [priced]; rfl
  have goal : trade.target = target entry := by rw [priced]; rfl
  refine ⟨by rw [exit]; exact priced, bar, .inl ?_⟩
  constructor
  · exact listed
  · rw [start]
    exact later
  · rw [stop, goal]
    exact touches_iff.mp touched
  · intro other otherListed otherLater otherTouched
    rw [start] at otherLater
    rw [stop, goal] at otherTouched
    exact first other (mem_future.mpr ⟨otherListed, otherLater⟩) (touches_iff.mpr otherTouched)
  · exact exit
  · rw [stop]
    exact stopped
  · rw [stop, goal]
    exact reached

omit sorted in
/-- A trade squared off with the last bar of a day whose later bars do not touch. -/
theorem proper_squareoff {ref : Bar}
    (missed : (future table entryTs).find? (touches options entry) = none)
    (listed : ref ∈ table) (sameDay : day ref.datetime = day entryTs)
    (onward : entryTs ≤ ref.datetime)
    (last : ∀ other ∈ future table entryTs, other.datetime ≤ ref.datetime) :
    Proper options entry table (squareoff options entry entryTs ref) entryTs := by
  refine ⟨rfl, ref, .inr ?_⟩
  constructor
  · exact listed
  · exact sameDay
  · exact onward
  · intro other otherListed otherDay
    by_cases later : entryTs < other.datetime
    · exact last other (mem_future.mpr ⟨otherListed, later, otherDay⟩)
    · exact (not_lt.mp later).trans onward
  · intro other otherListed otherLater otherTouched
    have untouched := List.find?_eq_none.mp missed other (mem_future.mpr ⟨otherListed, otherLater⟩)
    exact untouched (touches_iff.mpr otherTouched)
  · rfl
  · exact ⟨rfl, rfl⟩

/-- The walk and its fallbacks make a proper trade. -/
theorem simulate_proper {trade : Trade} (done : simulate options entry table entryTs = some trade) :
    Proper options entry table trade entryTs := by
  unfold simulate at done
  cases found : (future table entryTs).find? (touches options entry) with
  | some bar =>
    simp only [found] at done
    split at done
    next low =>
      cases done
      exact proper_touched sorted found _ rfl (fun _ => ⟨rfl, rfl⟩)
        (fun high => absurd low (not_le.mpr high))
    next high =>
      cases done
      exact proper_touched sorted found _ rfl (fun low => absurd low high) (fun _ => ⟨rfl, rfl⟩)
  | none =>
    simp only [found] at done
    cases ends : (future table entryTs).getLast? with
    | some ref =>
      simp only [ends] at done
      cases done
      obtain ⟨member, last⟩ := last_future sorted ends
      obtain ⟨listed, later⟩ := mem_future.mp member
      exact proper_squareoff found listed later.2 later.1.le last
    | none =>
      simp only [ends] at done
      obtain ⟨ref, here, rfl⟩ := Option.map_eq_some_iff.mp done
      have same : ref.datetime = entryTs := by simpa using List.find?_some here
      have empty : future table entryTs = [] := List.getLast?_eq_none_iff.mp ends
      refine proper_squareoff found (List.mem_of_find?_eq_some here) (by rw [same])
        (Int.le_of_eq same.symm) ?_
      rw [empty]
      intro other impossible
      cases impossible

omit sorted in
/-- It makes one exactly where there is a bar to trade on. -/
theorem simulate_isSome : (simulate options entry table entryTs).isSome = true ↔
    HasBars table entryTs := by
  unfold simulate
  cases found : (future table entryTs).find? (touches options entry) with
  | some bar =>
    obtain ⟨listed, later⟩ := mem_future.mp (List.mem_of_find?_eq_some found)
    have bars : HasBars table entryTs := ⟨bar, listed, later.2, later.1.le⟩
    simp only [bars, iff_true]
    split <;> rfl
  | none =>
    cases ends : (future table entryTs).getLast? with
    | some ref =>
      obtain ⟨listed, later⟩ := mem_future.mp (List.mem_of_getLast? ends)
      have bars : HasBars table entryTs := ⟨ref, listed, later.2, later.1.le⟩
      simp [bars]
    | none =>
      have empty : future table entryTs = [] := List.getLast?_eq_none_iff.mp ends
      dsimp only
      rw [Option.isSome_map, List.find?_isSome]
      constructor
      · rintro ⟨bar, listed, here⟩
        have same : bar.datetime = entryTs := of_decide_eq_true here
        exact ⟨bar, listed, by rw [same], Int.le_of_eq same.symm⟩
      · rintro ⟨bar, listed, sameDay, onward⟩
        refine ⟨bar, listed, decide_eq_true ?_⟩
        by_contra different
        have later : bar ∈ future table entryTs :=
          mem_future.mpr ⟨listed, by omega, sameDay⟩
        rw [empty] at later
        cases later

end Trades

/-! ## All trades -/

section Backtest

variable (options : Options) (df : List Bar) (dfMap : String → Option (List Bar))

/-- An entry that the backtest considers, and the time of its return. -/
structure Candidate (allEntries : List (Entry Origin)) (entry : Entry Origin) (entryTs : Int) :
    Prop where
  listed : entry ∈ allEntries
  state : entry.status = .trapped ∨ entry.status = .closed
  returned : entry.closedOn = some entryTs
  trapped : entry.trappedOn.isSome = true

/-- The locals that stand for what was taken. -/
def asBook (taken : Taken (Entry Origin × Int) Trade Int) : Book :=
  ⟨taken.busyUntil, taken.results.map fun result => (result.1.1, result.2)⟩

/-- The body of the loop takes intervals. -/
theorem visit_asBook (taken : Taken (Entry Origin × Int) Trade Int)
    (candidate : Entry Origin × Int) :
    visit options df dfMap (asBook taken) candidate =
      asBook (consider Prod.snd Trade.exitTs (attempt options df dfMap) taken candidate) := by
  obtain ⟨entry, entryTs⟩ := candidate
  unfold visit consider
  dsimp only
  by_cases blocked : Blocked Prod.snd taken (entry, entryTs)
  · have skipped : ∃ ended ∈ (asBook taken).openUntil, entryTs ≤ ended := blocked
    rw [if_pos blocked, if_pos skipped]
    split <;> rfl
  · have free : ¬∃ ended ∈ (asBook taken).openUntil, entryTs ≤ ended := blocked
    rw [if_neg blocked, if_neg free]
    by_cases trapped : entry.trappedOn = none
    · have nothing : attempt options df dfMap (entry, entryTs) = none :=
        if_neg (by simp [trapped])
      rw [if_pos trapped, nothing]
    · have isTrapped : entry.trappedOn.isSome = true := Option.isSome_iff_ne_none.mpr trapped
      rw [if_neg trapped]
      by_cases fits : passes options entry entryTs = false
      · have nothing : attempt options df dfMap (entry, entryTs) = none :=
          if_neg (by simp [fits])
        rw [if_pos fits, nothing]
      · have passing : passes options entry entryTs = true := Bool.eq_true_of_not_eq_false fits
        have tried : attempt options df dfMap (entry, entryTs) =
            simulate options entry (entryDf df dfMap entry) entryTs :=
          if_pos ⟨isTrapped, passing⟩
        rw [if_neg fits, tried]
        cases simulate options entry (entryDf df dfMap entry) entryTs with
        | none => rfl
        | some trade => simp [asBook]

theorem backtest_eq (allEntries : List (Entry Origin)) :
    backtest options df dfMap allEntries =
      (takeAll Prod.snd Trade.exitTs (attempt options df dfMap) (eligible allEntries)).results.map
        (fun result => (result.1.1, result.2)) := by
  have loop (candidates : List (Entry Origin × Int))
      (taken : Taken (Entry Origin × Int) Trade Int) :
      candidates.foldl (visit options df dfMap) (asBook taken) =
        asBook (candidates.foldl
          (consider Prod.snd Trade.exitTs (attempt options df dfMap)) taken) := by
    induction candidates generalizing taken with
    | nil => rfl
    | cons candidate rest inductionHypothesis =>
      rw [List.foldl_cons, List.foldl_cons, visit_asBook, inductionHypothesis]
  unfold backtest takeAll
  have whole := loop (eligible allEntries) ⟨none, []⟩
  rw [show asBook ⟨none, []⟩ = ⟨none, []⟩ from rfl] at whole
  rw [whole]
  rfl

theorem mem_eligible {allEntries : List (Entry Origin)} {entry : Entry Origin} {entryTs : Int} :
    (entry, entryTs) ∈ eligible allEntries ↔ entry ∈ allEntries ∧
      (entry.status = .trapped ∨ entry.status = .closed) ∧ entry.closedOn = some entryTs := by
  unfold eligible
  rw [mem_sortedBy, List.mem_filterMap]
  constructor
  · rintro ⟨listed, member, found⟩
    split at found
    next state =>
      obtain ⟨closedOn, returned, same⟩ := Option.map_eq_some_iff.mp found
      cases same
      exact ⟨member, state, returned⟩
    next => cases found
  · rintro ⟨member, state, returned⟩
    refine ⟨entry, member, ?_⟩
    rw [if_pos state, returned]
    rfl

/-- What the backtest promises of its trades, each with the entry it is of. -/
structure GreedyTrades (allEntries : List (Entry Origin)) (trades : List (Entry Origin × Trade)) :
    Prop where
  apart : trades.Pairwise (fun earlier later => earlier.2.exitTs < later.2.entryTs)
  lasting : ∀ traded ∈ trades, traded.2.entryTs ≤ traded.2.exitTs
  sound : ∀ traded ∈ trades, Candidate allEntries traded.1 traded.2.entryTs ∧
    passes options traded.1 traded.2.entryTs = true ∧
    Proper options traded.1 (entryDf df dfMap traded.1) traded.2 traded.2.entryTs
  complete : ∀ entry entryTs, Candidate allEntries entry entryTs →
    passes options entry entryTs = true → HasBars (entryDf df dfMap entry) entryTs →
    (∃ traded ∈ trades, traded.1 = entry ∧ traded.2.entryTs = entryTs) ∨
      ∃ traded ∈ trades, traded.2.entryTs ≤ entryTs ∧ entryTs ≤ traded.2.exitTs

variable {options} {df} {dfMap}

/-- What is attempted is a candidate that passes, and what succeeds is proper. -/
theorem attempt_proper
    (sorted : ∀ entry, (entryDf df dfMap entry).Pairwise (fun a b => a.datetime < b.datetime))
    {candidate : Entry Origin × Int} {trade : Trade}
    (done : attempt options df dfMap candidate = some trade) :
    candidate.1.trappedOn.isSome = true ∧ passes options candidate.1 candidate.2 = true ∧
      Proper options candidate.1 (entryDf df dfMap candidate.1) trade candidate.2 := by
  unfold attempt at done
  split at done
  next allowed => exact ⟨allowed.1, allowed.2, simulate_proper (sorted candidate.1) done⟩
  next => cases done

/-- With bars in time order, whatever the entries and the options, the trades are such. -/
theorem backtest_greedy
    (sorted : ∀ entry, (entryDf df dfMap entry).Pairwise (fun a b => a.datetime < b.datetime))
    (allEntries : List (Entry Origin)) :
    GreedyTrades options df dfMap allEntries (backtest options df dfMap allEntries) := by
  have greedy : Greedy Prod.snd Trade.exitTs (attempt options df dfMap) (eligible allEntries)
      (takeAll Prod.snd Trade.exitTs (attempt options df dfMap) (eligible allEntries)) :=
    takeAll_greedy Prod.snd Trade.exitTs (attempt options df dfMap) (sortedBy_sorted Prod.snd _)
      (fun candidate trade done => (attempt_proper sorted done).2.2.lasting)
  rw [backtest_eq]
  generalize takeAll Prod.snd Trade.exitTs (attempt options df dfMap) (eligible allEntries) =
    taken at greedy ⊢
  have made : ∀ result ∈ taken.results, result.1 ∈ eligible allEntries ∧
      result.1.1.trappedOn.isSome = true ∧ passes options result.1.1 result.1.2 = true ∧
      Proper options result.1.1 (entryDf df dfMap result.1.1) result.2 result.1.2 := by
    intro result found
    obtain ⟨member, done⟩ := greedy.attempted result found
    exact ⟨member, attempt_proper sorted done⟩
  constructor
  · rw [List.pairwise_map]
    refine greedy.apart.imp_of_mem ?_
    intro earlier later _ found before
    rw [(made later found).2.2.2.entryTs]
    exact before
  · intro traded found
    obtain ⟨result, placed, rfl⟩ := List.mem_map.mp found
    obtain ⟨_, _, _, proper⟩ := made result placed
    rw [proper.entryTs]
    exact proper.lasting
  · intro traded found
    obtain ⟨result, placed, rfl⟩ := List.mem_map.mp found
    obtain ⟨member, trapped, passing, proper⟩ := made result placed
    obtain ⟨listed, state, returned⟩ := mem_eligible.mp member
    rw [proper.entryTs]
    exact ⟨⟨listed, state, returned, trapped⟩, passing, proper⟩
  · intro entry entryTs candidate passing bars
    have member : (entry, entryTs) ∈ eligible allEntries :=
      mem_eligible.mpr ⟨candidate.listed, candidate.state, candidate.returned⟩
    have can : (attempt options df dfMap (entry, entryTs)).isSome = true := by
      unfold attempt
      rw [if_pos ⟨candidate.trapped, passing⟩]
      exact simulate_isSome.mpr bars
    rcases greedy.complete (entry, entryTs) member can with
      ⟨result, placed, same⟩ | ⟨result, placed, begun, running⟩
    · refine .inl ⟨_, List.mem_map_of_mem placed, ?_, ?_⟩
      · rw [same]
      · rw [(made result placed).2.2.2.entryTs, same]
    · refine .inr ⟨_, List.mem_map_of_mem placed, ?_, running⟩
      rw [(made result placed).2.2.2.entryTs]
      exact begun

end Backtest

/-- A call zone from 100 to 110 that returned at a time. -/
def returnedAt (trappedOn closedOn : Int) : Entry Origin where
  refTs := 0
  entry := 110
  sl := 130
  zoneHigh := 110
  zoneLow := 100
  tag := {}
  status := .closed
  trappedOn := some trappedOn
  closedOn := some closedOn
  eventIdx := none

/-- Three minutes, of which the second reaches the target. -/
def threeMinutes : List Bar :=
  [⟨120, 112, 108, 110⟩, ⟨180, 131, 109, 112⟩, ⟨240, 113, 109, 111⟩]

theorem threeMinutes_sorted (entry : Entry Origin) :
    (entryDf threeMinutes (fun _ => none) entry).Pairwise
      (fun a b => a.datetime < b.datetime) := by
  rw [entryDf, Option.getD_none, threeMinutes]
  simp

/-- The two zones, and a third that returns while the first is traded. -/
theorem backtest_greedy_on_three_minutes :
    GreedyTrades {} threeMinutes (fun _ => none) [returnedAt 60 120, returnedAt 90 180]
      (backtest {} threeMinutes (fun _ => none) [returnedAt 60 120, returnedAt 90 180]) :=
  backtest_greedy threeMinutes_sorted [returnedAt 60 120, returnedAt 90 180]

/-- The prices of such a trade: entry 110, stop 98 and target 130. -/
theorem returnedAt_prices (trappedOn closedOn : Int) :
    slPrice {} (returnedAt trappedOn closedOn) = 98 ∧
      target (returnedAt trappedOn closedOn) = 130 := by
  constructor
  · exact ((roundTo_eq_iff 2 _).mpr ⟨9800, by norm_num [returnedAt]⟩).trans
      (by norm_num [returnedAt])
  · exact (roundTo_eq_iff 2 _).mpr ⟨13000, by norm_num [returnedAt]⟩

theorem returnedAt_passes (trappedOn closedOn entryTs : Int) :
    passes {} (returnedAt trappedOn closedOn) entryTs = true := by
  simp [passes]

/-- The second zone returns as the trade of the first one ends, and is passed by. -/
theorem backtest_passes_by_the_entry_at_an_exit :
    (backtest {} threeMinutes (fun _ => none) [returnedAt 60 120, returnedAt 90 180]).map
        (fun traded => (traded.2.entryTs, traded.2.exitTs)) = [(120, 180)] ∧
      Candidate [returnedAt 60 120, returnedAt 90 180] (returnedAt 90 180) 180 ∧
      passes {} (returnedAt 90 180) 180 = true ∧
      HasBars (entryDf threeMinutes (fun _ => none) (returnedAt 90 180)) 180 := by
  have order : eligible [returnedAt 60 120, returnedAt 90 180] =
      [(returnedAt 60 120, 120), (returnedAt 90 180, 180)] := by
    unfold eligible
    exact sortedBy_of_sorted _ (by simp [returnedAt])
  refine ⟨?_, ⟨?_, ?_, ?_, ?_⟩, ?_, ?_⟩
  · obtain ⟨stop, goal⟩ := returnedAt_prices 60 120
    have later : future threeMinutes 120 =
        [⟨180, 131, 109, 112⟩, ⟨240, 113, 109, 111⟩] := rfl
    have hit : touches {} (returnedAt 60 120) ⟨180, 131, 109, 112⟩ = true := by
      rw [touches_iff, stop, goal]
      norm_num
    have above : ¬(109 : Rat) ≤ slPrice {} (returnedAt 60 120) := by
      rw [stop]
      norm_num
    have first : simulate {} (returnedAt 60 120) threeMinutes 120 =
        some (closed {} (returnedAt 60 120) 120 180 (target (returnedAt 60 120)) .target) := by
      unfold simulate
      rw [later, List.find?_cons_of_pos hit]
      exact if_neg above
    have opened : visit {} threeMinutes (fun _ => none) ⟨none, []⟩ (returnedAt 60 120, 120) =
        ⟨some 180, [(returnedAt 60 120,
          closed {} (returnedAt 60 120) 120 180 (target (returnedAt 60 120)) .target)]⟩ := by
      have table : entryDf threeMinutes (fun _ => none) (returnedAt 60 120) = threeMinutes := rfl
      have trapped : (returnedAt 60 120).trappedOn ≠ none := Option.some_ne_none 60
      unfold visit
      dsimp only
      rw [if_neg trapped, if_neg (by simp), returnedAt_passes, if_neg Bool.false_ne_true.symm,
        table, first]
      rfl
    unfold backtest
    rw [order, List.foldl_cons, opened]
    rfl
  · simp
  · exact .inr rfl
  · rfl
  · rfl
  · exact returnedAt_passes 90 180 180
  · exact ⟨⟨240, 113, 109, 111⟩, by simp [entryDf, threeMinutes], by decide, by decide⟩

end OptionChain.TrapBacktest
