import Mathlib.Algebra.Order.Ring.Rat
import OptionChain.TrapGrowth

/-!
# The zones of the backtest

`scan_zones_consecutive` of the backtest searches a frame for traps, as `scan_htf_spot` of
the live engine does, and stands apart in two ways. It looks for the trap and the return of
each zone in a loop of its own, and a zone ends at the body of its reference candle instead
of at the wick.

`backtest_agrees` says how the two go together: they find the same zones, with the same
stops and the same traps, and the backtest sees a return no later than the live engine does.
`scan_extends` says that the backtest does not repaint, no more than the live scans do: what
it has seen in a frame stays as it is when more bars come.
-/

namespace OptionChain.BacktestZones

open FirstCrossing TrapGrowth TrapLife TrapScanner TrapZones

/-- A row of the frame, with the opening price that the live scans do not read. -/
structure OpenBar extends Bar where
  opening : Rat
deriving DecidableEq, Inhabited

def OpenBar.bodyTop (bar : OpenBar) : Rat := max bar.opening bar.close

def OpenBar.bodyBottom (bar : OpenBar) : Rat := min bar.opening bar.close

/-- SELLERS_IN or BUYERS_IN, TRAPPED and ENTRY_READY. -/
inductive ZoneStatus where
  | entered
  | trapped
  | entryReady
deriving DecidableEq

structure TrapZone where
  kind : Kind
  zoneHigh : Rat
  zoneLow : Rat
  t1 : Rat
  refDt : Int
  sellersInDt : Int
  trappedDt : Option Int
  entryReadyDt : Option Int
  status : ZoneStatus
deriving DecidableEq

/-- What differs between the two branches of the loop: the setup and the zone, from the
reference candle and the one after it, and the two tests of a later bar. -/
structure ZoneRule where
  kind : Kind
  setup : OpenBar → OpenBar → Bool
  zoneHigh : OpenBar → OpenBar → Rat
  zoneLow : OpenBar → OpenBar → Rat
  t1 : OpenBar → Rat
  traps : OpenBar → Bar → Bool
  enters : OpenBar → Bar → Bool

/-- Sellers that are trapped. -/
def bearZones : ZoneRule where
  kind := .bear
  setup prev curr := curr.low < prev.low
  zoneHigh prev _ := prev.bodyBottom
  zoneLow _ curr := curr.low
  t1 prev := prev.high
  traps prev bar := bar.high > prev.high
  enters prev bar := bar.low ≤ prev.bodyBottom

/-- Buyers that are trapped. -/
def bullZones : ZoneRule where
  kind := .bull
  setup prev curr := curr.high > prev.high
  zoneHigh _ curr := curr.high
  zoneLow prev _ := prev.bodyTop
  t1 prev := prev.low
  traps prev bar := bar.low < prev.low
  enters prev bar := bar.high ≥ prev.bodyTop

/-- The inner loop: the timestamps of the trap and of the return. -/
def watchZone (traps enters : Bar → Bool) : Option Int → List Bar → Option Int × Option Int
  | none, bar :: rest =>
      if traps bar then watchZone traps enters (some bar.datetime) rest
      else watchZone traps enters none rest
  | some trapped, bar :: rest =>
      if enters bar then (some trapped, some bar.datetime)
      else watchZone traps enters (some trapped) rest
  | trapped, [] => (trapped, none)

section Scan

variable (rule : ZoneRule)

def barOf (bars : List OpenBar) (index : Nat) : OpenBar := bars.getD index default

/-- The zone of a reference candle and the one after it, with the bars that follow. -/
def makeZone (prev curr : OpenBar) (later : List OpenBar) : TrapZone :=
  let seen := watchZone (rule.traps prev) (rule.enters prev) none (later.map OpenBar.toBar)
  { kind := rule.kind
    zoneHigh := rule.zoneHigh prev curr
    zoneLow := rule.zoneLow prev curr
    t1 := rule.t1 prev
    refDt := prev.datetime
    sellersInDt := curr.datetime
    trappedDt := seen.1
    entryReadyDt := seen.2
    status := if seen.2.isSome then .entryReady else if seen.1.isSome then .trapped else .entered }

/-- One branch of the loop at an index. -/
def zoneOf (bars : List OpenBar) (index : Nat) : List TrapZone :=
  let prev := barOf bars (index - 1)
  let curr := barOf bars index
  if rule.setup prev curr then [makeZone rule prev curr (bars.drop (index + 1))] else []

/-- `for i in range(1, len(bars))`. -/
def scanIndices (bars : List OpenBar) : List TrapZone :=
  (List.range bars.length).flatMap fun index =>
    if 0 < index then zoneOf bearZones bars index ++ zoneOf bullZones bars index else []

def scanZonesConsecutive (bars : List OpenBar) : List TrapZone :=
  if bars.length < 3 then [] else scanIndices bars

end Scan

/-! ## The inner loop as a watch -/

section Watch

/-- The timestamps that a stage holds. -/
def times : Stage Bar → Option Int × Option Int
  | .waiting => (none, none)
  | .crossed first => (some first.datetime, none)
  | .returned first second => (some first.datetime, some second.datetime)

theorem watchZone_eq (traps enters : Bar → Bool) (later : List Bar) :
    watchZone traps enters none later =
      times (later.foldl (next false traps enters) .waiting) := by
  have settled : ∀ (first second : Bar) (rest : List Bar),
      rest.foldl (next false traps enters) (.returned first second) =
        .returned first second := by
    intro first second rest
    induction rest with
    | nil => rfl
    | cons bar rest inductionHypothesis => exact inductionHypothesis
  have behind : ∀ (rest : List Bar) (first : Bar),
      watchZone traps enters (some first.datetime) rest =
        times (rest.foldl (next false traps enters) (.crossed first)) := by
    intro rest
    induction rest with
    | nil => exact fun _ => rfl
    | cons bar rest inductionHypothesis =>
      intro first
      rw [watchZone, List.foldl_cons, next]
      split
      · rw [settled, times]
      · exact inductionHypothesis first
  induction later with
  | nil => rfl
  | cons bar rest inductionHypothesis =>
    rw [watchZone, List.foldl_cons, next]
    split
    · exact behind rest bar
    · exact inductionHypothesis

end Watch

/-! ## No repainting -/

/-- A zone with what further bars have added to it. -/
structure Extends (old new : TrapZone) : Prop where
  same : new.kind = old.kind ∧ new.zoneHigh = old.zoneHigh ∧ new.zoneLow = old.zoneLow ∧
    new.t1 = old.t1 ∧ new.refDt = old.refDt ∧ new.sellersInDt = old.sellersInDt
  trapped : ∀ moment, old.trappedDt = some moment → new.trappedDt = some moment
  ready : ∀ moment, old.entryReadyDt = some moment → new.entryReadyDt = some moment

section Repaint

theorem times_progress {early late : Stage Bar} (progress : Progress early late) (moment : Int) :
    ((times early).1 = some moment → (times late).1 = some moment) ∧
      ((times early).2 = some moment → (times late).2 = some moment) := by
  cases progress <;> simp [times]

theorem makeZone_extends (rule : ZoneRule) (prev curr : OpenBar) (later more : List OpenBar) :
    Extends (makeZone rule prev curr later) (makeZone rule prev curr (later ++ more)) := by
  have progress := @progress_fold _ false (rule.traps prev) (rule.enters prev)
    ((later.map OpenBar.toBar).foldl (next false (rule.traps prev) (rule.enters prev)) .waiting)
    (more.map OpenBar.toBar)
  rw [← List.foldl_append, ← List.map_append] at progress
  refine ⟨⟨rfl, rfl, rfl, rfl, rfl, rfl⟩, ?_, ?_⟩
  · intro moment
    simp only [makeZone, watchZone_eq]
    exact (times_progress progress moment).1
  · intro moment
    simp only [makeZone, watchZone_eq]
    exact (times_progress progress moment).2

theorem forall₂_flatMap {ι α β : Type} {related : α → β → Prop} {indices : List ι}
    {first : ι → List α} {second : ι → List β}
    (each : ∀ index ∈ indices, List.Forall₂ related (first index) (second index)) :
    List.Forall₂ related (indices.flatMap first) (indices.flatMap second) := by
  induction indices with
  | nil => exact .nil
  | cons index rest inductionHypothesis =>
    rw [List.flatMap_cons, List.flatMap_cons]
    exact List.rel_append (each index List.mem_cons_self)
      (inductionHypothesis fun other member => each other (List.mem_cons_of_mem _ member))

theorem barOf_append {bars : List OpenBar} (more : List OpenBar) {index : Nat}
    (inside : index < bars.length) : barOf (bars ++ more) index = barOf bars index :=
  List.getD_append _ _ _ _ inside

theorem zoneOf_extends (rule : ZoneRule) {bars : List OpenBar} (more : List OpenBar) {index : Nat}
    (inside : index < bars.length) :
    List.Forall₂ Extends (zoneOf rule bars index) (zoneOf rule (bars ++ more) index) := by
  simp only [zoneOf]
  rw [barOf_append more inside, barOf_append more (Nat.lt_of_le_of_lt (Nat.sub_le _ _) inside),
    List.drop_append_of_le_length inside]
  split
  · exact .cons (makeZone_extends rule _ _ _ more) .nil
  · exact .nil

/-- The zones of a frame are the first zones of every longer one, and all that has been seen
of them stays. -/
theorem scan_extends (bars more : List OpenBar) : ∃ extended further,
    scanZonesConsecutive (bars ++ more) = extended ++ further ∧
      List.Forall₂ Extends (scanZonesConsecutive bars) extended := by
  by_cases short : bars.length < 3
  · refine ⟨[], _, rfl, ?_⟩
    rw [scanZonesConsecutive, if_pos short]
    exact .nil
  · have long : ¬ (bars ++ more).length < 3 := by
      rw [List.length_append]
      omega
    rw [scanZonesConsecutive, scanZonesConsecutive, if_neg short, if_neg long, scanIndices,
      scanIndices, List.length_append, List.range_add, List.flatMap_append]
    refine ⟨_, _, rfl, forall₂_flatMap ?_⟩
    intro index member
    have inside := List.mem_range.mp member
    split
    · exact List.rel_append (zoneOf_extends bearZones more inside)
        (zoneOf_extends bullZones more inside)
    · exact .nil

end Repaint

/-! ## The backtest and the live engine -/

section Agreement

/-- A live spot zone and the zone of the backtest: the same trap in a zone that is no
smaller, and a return that the backtest sees no later. -/
structure Agrees (live : Zone SpotTag) (zone : TrapZone) : Prop where
  kind : zone.kind = live.tag.kind
  refDt : zone.refDt = live.refTs
  t1 : zone.t1 = live.sl
  covers : zone.zoneLow ≤ live.zoneLow ∧ live.zoneHigh ≤ zone.zoneHigh
  trapped : zone.trappedDt = live.trappedOn
  returned : ∀ closed, live.closedOn = some closed →
    ∃ ready, zone.entryReadyDt = some ready ∧ ready ≤ closed

/-- A candle whose body lies between its wicks. -/
structure SoundBar (bar : OpenBar) : Prop where
  opening_mem : bar.low ≤ bar.opening ∧ bar.opening ≤ bar.high
  close_mem : bar.low ≤ bar.close ∧ bar.close ≤ bar.high

/-- A live rule and a branch of the backtest that make the same traps of sound candles. -/
structure Matches (live : TrapRule SpotTag SpotTag) (rule : ZoneRule) : Prop where
  excludes : live.excludesTrapBar = true
  setup : ∀ prev curr, live.setup prev.toBar curr.toBar = rule.setup prev curr
  make : ∀ prev curr : OpenBar, (live.make prev.toBar curr.toBar).refTs = prev.datetime ∧
    (live.make prev.toBar curr.toBar).sl = rule.t1 prev ∧
    (live.make prev.toBar curr.toBar).tag.kind = rule.kind
  covers : ∀ prev curr : OpenBar, SoundBar prev →
    rule.zoneLow prev curr ≤ (live.make prev.toBar curr.toBar).zoneLow ∧
      (live.make prev.toBar curr.toBar).zoneHigh ≤ rule.zoneHigh prev curr
  traps : ∀ (prev curr : OpenBar) (bar : Bar),
    live.traps bar (live.make prev.toBar curr.toBar) = rule.traps prev bar
  returns : ∀ (prev curr : OpenBar) (bar : Bar), SoundBar prev →
    live.returns bar (live.make prev.toBar curr.toBar) = true → rule.enters prev bar = true

theorem bear_matches : Matches bearRule bearZones where
  excludes := rfl
  setup _ _ := rfl
  make _ _ := ⟨rfl, rfl, rfl⟩
  covers prev _ sound := ⟨le_rfl, le_min sound.opening_mem.1 sound.close_mem.1⟩
  traps _ _ _ := rfl
  returns prev _ bar sound returned := by
    simp only [bearRule, bearZones, decide_eq_true_eq] at returned ⊢
    exact returned.trans (le_min sound.opening_mem.1 sound.close_mem.1)

theorem bull_matches : Matches bullRule bullZones where
  excludes := rfl
  setup _ _ := rfl
  make _ _ := ⟨rfl, rfl, rfl⟩
  covers prev _ sound := ⟨max_le sound.opening_mem.2 sound.close_mem.2, le_rfl⟩
  traps _ _ _ := rfl
  returns prev _ bar sound returned := by
    simp only [bullRule, bullZones, decide_eq_true_eq, ge_iff_le] at returned ⊢
    exact (max_le sound.opening_mem.2 sound.close_mem.2).trans returned

variable {live : TrapRule SpotTag SpotTag} {rule : ZoneRule} {bars : List OpenBar}

theorem barAt_map (bars : List OpenBar) (index : Nat) :
    barAt (bars.map OpenBar.toBar) index = (barOf bars index).toBar := by
  have blank : (default : Bar) = (default : OpenBar).toBar := rfl
  rw [barAt, barOf, blank, List.getD_map]

theorem times_zoneAt {τ : Type} (setup : Setup τ) (stage : Stage Bar) :
    (zoneAt setup stage).trappedOn = (times stage).1 ∧
      (zoneAt setup stage).closedOn = (times stage).2 ∧
        (zoneAt setup stage).toSetup = setup := by
  cases stage <;> exact ⟨rfl, rfl, rfl⟩

theorem times_sooner {early late : Stage Bar}
    (sooner : Sooner (fun one other : Bar => one.datetime < other.datetime) late early) :
    (times early).1 = (times late).1 ∧ ∀ closed, (times late).2 = some closed →
      ∃ ready, (times early).2 = some ready ∧ ready ≤ closed := by
  cases sooner with
  | waiting => exact ⟨rfl, nofun⟩
  | crossed first => exact ⟨rfl, nofun⟩
  | ahead first second => exact ⟨rfl, nofun⟩
  | together first second =>
    refine ⟨rfl, ?_⟩
    rintro closed ⟨⟩
    exact ⟨_, rfl, le_rfl⟩
  | apart first second early earlier =>
    refine ⟨rfl, ?_⟩
    rintro closed ⟨⟩
    exact ⟨_, rfl, earlier.le⟩

/-- The zones of one index. -/
theorem zone_agrees (matched : Matches live rule)
    (increasing : (bars.map OpenBar.toBar).Pairwise fun one other => one.datetime < other.datetime)
    {index : Nat} (sound : SoundBar (barOf bars (index - 1))) :
    Agrees (zoneFrom live (bars.map OpenBar.toBar) index)
      (makeZone rule (barOf bars (index - 1)) (barOf bars index) (bars.drop (index + 1))) := by
  have later : ((bars.drop (index + 1)).map OpenBar.toBar).Pairwise
      fun one other => one.datetime < other.datetime := by
    rw [List.map_drop]
    exact increasing.sublist (List.drop_sublist _ _)
  have distinct : (((bars.drop (index + 1)).map OpenBar.toBar).map Bar.datetime).Nodup := by
    rw [List.nodup_iff_pairwise_ne, List.pairwise_map]
    exact later.imp fun before => Int.ne_of_lt before
  have setup : setupAt live (bars.map OpenBar.toBar) index =
      live.make (barOf bars (index - 1)).toBar (barOf bars index).toBar := by
    rw [setupAt, barAt_map, barAt_map]
  have watched : watch live (live.make (barOf bars (index - 1)).toBar (barOf bars index).toBar) =
      next false (rule.traps (barOf bars (index - 1)))
        (fun bar => live.returns bar
          (live.make (barOf bars (index - 1)).toBar (barOf bars index).toBar)) := by
    rw [watch, matched.excludes]
    congr 1
    funext bar
    exact matched.traps _ _ bar
  have followed := follow_zoneAt live
    (live.make (barOf bars (index - 1)).toBar (barOf bars index).toBar) _ distinct
  have life : zoneFrom live (bars.map OpenBar.toBar) index =
      zoneAt (live.make (barOf bars (index - 1)).toBar (barOf bars index).toBar)
        (((bars.drop (index + 1)).map OpenBar.toBar).foldl
          (next false (rule.traps (barOf bars (index - 1)))
            (fun bar => live.returns bar
              (live.make (barOf bars (index - 1)).toBar (barOf bars index).toBar))) .waiting) := by
    rw [zoneFrom, setup, ← List.map_drop, followed, watched]
  have sooner := times_sooner (sooner_fold (p := rule.traps (barOf bars (index - 1)))
    (fun bar returned => matched.returns (barOf bars (index - 1)) (barOf bars index) bar sound
      returned) later)
  obtain ⟨trappedOn, closedOn, kept⟩ := times_zoneAt
    (live.make (barOf bars (index - 1)).toBar (barOf bars index).toBar)
    (((bars.drop (index + 1)).map OpenBar.toBar).foldl
      (next false (rule.traps (barOf bars (index - 1)))
        (fun bar => live.returns bar
          (live.make (barOf bars (index - 1)).toBar (barOf bars index).toBar))) .waiting)
  obtain ⟨refTs, sl, kind⟩ := matched.make (barOf bars (index - 1)) (barOf bars index)
  rw [life]
  constructor
  case kind => rw [kept]; exact kind.symm
  case refDt => rw [kept]; exact refTs.symm
  case t1 => rw [kept]; exact sl.symm
  case covers => rw [kept]; exact matched.covers _ _ sound
  case trapped =>
    rw [trappedOn, ← sooner.1]
    simp only [makeZone, watchZone_eq]
  case returned =>
    rw [closedOn]
    simp only [makeZone, watchZone_eq]
    exact sooner.2

def kindOf (kind : Kind) (zones : List TrapZone) : List TrapZone :=
  zones.filter fun zone => decide (zone.kind = kind)

theorem own_bear (bars : List OpenBar) (index : Nat) :
    kindOf .bear (if 0 < index then zoneOf bearZones bars index ++ zoneOf bullZones bars index
      else []) = if 0 < index then zoneOf bearZones bars index else [] := by
  split
  · rw [kindOf, List.filter_append, zoneOf, zoneOf]
    split <;> split <;> rfl
  · rfl

theorem own_bull (bars : List OpenBar) (index : Nat) :
    kindOf .bull (if 0 < index then zoneOf bearZones bars index ++ zoneOf bullZones bars index
      else []) = if 0 < index then zoneOf bullZones bars index else [] := by
  split
  · rw [kindOf, List.filter_append, zoneOf, zoneOf]
    split <;> split <;> rfl
  · rfl

/-- The zones of one branch, in order. -/
theorem branch_zones (rule : ZoneRule) (bars : List OpenBar)
    (own : ∀ index, kindOf rule.kind
      (if 0 < index then zoneOf bearZones bars index ++ zoneOf bullZones bars index else []) =
        if 0 < index then zoneOf rule bars index else [])
    (matched : Matches live rule) :
    kindOf rule.kind (scanIndices bars) =
      (setups live (bars.map OpenBar.toBar)).map fun index =>
        makeZone rule (barOf bars (index - 1)) (barOf bars index) (bars.drop (index + 1)) := by
  rw [kindOf, scanIndices, List.filter_flatMap, setups, List.length_map]
  induction List.range bars.length with
  | nil => rfl
  | cons index rest inductionHypothesis =>
    rw [List.flatMap_cons, inductionHypothesis, ← kindOf, own, List.filter_cons]
    by_cases positive : 0 < index
    · rw [if_pos positive, decide_eq_true positive, Bool.true_and, barAt_map, barAt_map,
        matched.setup, zoneOf]
      cases rule.setup (barOf bars (index - 1)) (barOf bars index) <;> rfl
    · rw [if_neg positive, decide_eq_false positive]
      rfl

theorem branch_agrees (matched : Matches live rule)
    (own : ∀ index, kindOf rule.kind
      (if 0 < index then zoneOf bearZones bars index ++ zoneOf bullZones bars index else []) =
        if 0 < index then zoneOf rule bars index else [])
    (increasing : (bars.map OpenBar.toBar).Pairwise fun one other => one.datetime < other.datetime)
    (sound : ∀ bar ∈ bars, SoundBar bar) :
    List.Forall₂ Agrees (zonesOf live (bars.map OpenBar.toBar))
      (kindOf rule.kind (scanIndices bars)) := by
  rw [branch_zones rule bars own matched, zonesOf, List.forall₂_map_left_iff,
    List.forall₂_map_right_iff, List.forall₂_same]
  intro index found
  obtain ⟨positive, inside, -⟩ := (mem_setups live).mp found
  rw [List.length_map] at inside
  refine zone_agrees matched increasing (sound _ ?_)
  rw [barOf, List.getD_eq_getElem _ _ (by omega)]
  exact List.getElem_mem _

/-- Candles whose zone the backtest enters at the body, one bar before the wick is reached. -/
def morning : List OpenBar :=
  [⟨⟨1, 110, 100, 102⟩, 108⟩, ⟨⟨2, 105, 95, 97⟩, 103⟩, ⟨⟨3, 112, 104, 111⟩, 105⟩,
    ⟨⟨4, 111, 101, 103⟩, 110⟩, ⟨⟨5, 104, 99, 100⟩, 103⟩]

theorem morning_sound (bar : OpenBar) (shown : bar ∈ morning) : SoundBar bar := by
  simp only [morning, List.mem_cons, List.not_mem_nil, or_false] at shown
  rcases shown with rfl | rfl | rfl | rfl | rfl <;>
    exact ⟨⟨by norm_num, by norm_num⟩, ⟨by norm_num, by norm_num⟩⟩

example : (kindOf .bear (scanZonesConsecutive morning)).map TrapZone.entryReadyDt =
      [some 4, none, none] ∧
    (ofKind .bear (scanHtfSpot (morning.map OpenBar.toBar)).2).map (fun entry => entry.closedOn) =
      [some 5, none, none] := by
  decide +kernel

end Agreement

end OptionChain.BacktestZones
