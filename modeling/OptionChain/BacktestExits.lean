import OptionChain.BacktestZones
import OptionChain.HtfBoundaries

/-!
# The exits of the backtest

`_simulate_exit` replays the bars after an entry. It waits for the stop or the first target;
from the target on it holds a runner behind a stop that starts at the entry and moves to the
far edge of each zone that forms beyond the entry, once its trapped traders have been stopped
out again.

`exit_causal` says that an exit that has been decided by a bar stays as it is when later bars
come. `runner_protected` says what the stop is worth: while the runner is held, no bar closes
on the losing side of the entry.
-/

namespace OptionChain.BacktestExits

open BacktestZones Rounding TrapScanner
open HtfBoundaries (midnight)
open TickBuckets (minuteLength)

/-- The entry, and the levels that are fixed with it. -/
structure Trade where
  kind : Kind
  entryTs : Int
  entryP : Rat
  slP : Rat
  t1P : Rat
  t2P : Option Rat
  ltfMin : Nat

/-- The end of the interval that a time falls in, which is closed on the right. -/
def binEnd (minutes : Nat) (origin ts : Int) : Int :=
  origin - (origin - ts) / (minutes * minuteLength) * (minutes * minuteLength)

def aggregate (ending : Int) : List OpenBar → Option OpenBar
  | [] => none
  | first :: rest => some
      { datetime := ending
        opening := first.opening
        high := (rest.map fun bar => bar.high).foldl max first.high
        low := (rest.map fun bar => bar.low).foldl min first.low
        close := (rest.getLast?.map fun bar => bar.close).getD first.close }

/-- `resample` of bars in order. -/
def resample (minutes : Nat) : List OpenBar → List OpenBar
  | [] => []
  | first :: rest =>
      let ends := fun bar : OpenBar => binEnd minutes (midnight first.datetime) bar.datetime
      ((first :: rest).splitBy fun one other => decide (ends one = ends other)).filterMap
        fun group => (group.head?.map ends).bind fun ending => aggregate ending group

/-- The close of the last bar that a time has reached. -/
def closeAt (bars : List OpenBar) (ts : Int) (fallback : Rat) : Rat :=
  ((bars.filter fun bar => bar.datetime ≤ ts).getLast?.map fun bar => bar.close).getD fallback

/-- The bar trades through a level in favour of the trade. -/
def reaches (kind : Kind) (bar : OpenBar) (level : Rat) : Bool :=
  match kind with
  | .bear => bar.high ≥ level
  | .bull => bar.low ≤ level

/-- The bar trades through a level against the trade. -/
def breaks (kind : Kind) (bar : OpenBar) (level : Rat) : Bool :=
  match kind with
  | .bear => bar.low ≤ level
  | .bull => bar.high ≥ level

/-- A price is on the losing side of another. -/
def worse (kind : Kind) (price other : Rat) : Bool :=
  match kind with
  | .bear => price < other
  | .bull => price > other

inductive Verdict where
  | eod
  | sl
  | t1
deriving DecidableEq

inductive Reason where
  | eodEod
  | sl
  | t1Eod
  | t1T2
  | t1Tsl
deriving DecidableEq

structure Exit where
  reason : Reason
  exit1P : Rat
  exit1Ts : Int
  exit2P : Option Rat
  exit2Ts : Option Int
deriving DecidableEq

section Simulation

variable (trade : Trade) (sqTime : Int)

/-- The loop of the first stage. -/
def firstStage : List OpenBar → Option (Verdict × OpenBar)
  | [] => none
  | bar :: rest =>
      if sqTime ≤ bar.datetime then some (.eod, bar)
      else if breaks trade.kind bar trade.slP then some (.sl, bar)
      else if reaches trade.kind bar trade.t1P then some (.t1, bar)
      else firstStage rest

/-- The far edge of a zone. -/
def edge (kind : Kind) (zone : TrapZone) : Rat :=
  match kind with
  | .bear => zone.zoneLow
  | .bull => zone.zoneHigh

/-- The key of a zone, its bounds to one digit. -/
def uid (zone : TrapZone) : Rat × Rat := (roundTo 1 zone.zoneLow, roundTo 1 zone.zoneHigh)

/-- `acc_rows`, `_tsl_pending` and `tsl`. -/
structure Runner where
  accRows : List OpenBar
  pending : List TrapZone
  tsl : Rat

/-- A zone that is waited for: it is entered, and lies beyond the entry. -/
def registers (zone : TrapZone) : Bool :=
  decide (zone.kind = trade.kind) && decide (zone.status = .entryReady) &&
    worse trade.kind trade.entryP (edge trade.kind zone)

def register (pending : List TrapZone) (zone : TrapZone) : List TrapZone :=
  if registers trade zone && !(pending.any fun other => uid other = uid zone) then
    pending ++ [zone]
  else pending

/-- The zones that are waited for after a bar. They are looked for every `ltf_min` bars. -/
def rescan (accRows : List OpenBar) (pending : List TrapZone) : List TrapZone :=
  if 2 * trade.ltfMin ≤ accRows.length ∧ accRows.length % trade.ltfMin = 0 then
    (scanZonesConsecutive (resample trade.ltfMin accRows)).foldl (register trade) pending
  else pending

/-- The stop after a zone whose traders have been stopped out again. -/
def trail (tsl : Rat) (zone : TrapZone) : Rat :=
  if worse trade.kind tsl (edge trade.kind zone) then edge trade.kind zone else tsl

/-- The runner after a bar that it survives. -/
def Runner.next (runner : Runner) (bar : OpenBar) : Runner :=
  let accRows := runner.accRows ++ [bar]
  let pending := rescan trade accRows runner.pending
  let hit := fun zone : TrapZone => reaches trade.kind bar zone.t1
  { accRows := accRows
    pending := pending.filter fun zone => !hit zone
    tsl := (pending.filter hit).foldl (trail trade) runner.tsl }

/-- The bar reaches the second target, if there is one. -/
def takes (bar : OpenBar) : Bool :=
  match trade.t2P with
  | none => false
  | some level => reaches trade.kind bar level

/-- The loop of the second stage. -/
def secondStage (bars : List OpenBar) : Runner → List OpenBar → Option (Reason × Rat × Int)
  | _, [] => none
  | runner, bar :: rest =>
      if sqTime ≤ bar.datetime then some (.t1Eod, bar.close, bar.datetime)
      else if takes trade bar then
        some (.t1T2, closeAt bars bar.datetime (trade.t2P.getD 0), bar.datetime)
      else if worse trade.kind bar.close runner.tsl then some (.t1Tsl, bar.close, bar.datetime)
      else secondStage bars (runner.next trade bar) rest

/-- The runner at the first target. -/
def freshRunner : Runner := ⟨[], [], trade.entryP⟩

/-- The bars after a time. -/
def after (bars : List OpenBar) (ts : Int) : List OpenBar :=
  bars.filter fun bar => ts < bar.datetime

/-- `_simulate_exit`. -/
def simulateExit (bars : List OpenBar) : Exit :=
  match firstStage trade sqTime (after bars trade.entryTs) with
  | none =>
      let price := closeAt bars sqTime trade.entryP
      ⟨.eodEod, price, sqTime, some price, some sqTime⟩
  | some (.eod, bar) =>
      let price := closeAt bars bar.datetime trade.entryP
      ⟨.eodEod, price, bar.datetime, some price, some bar.datetime⟩
  | some (.sl, bar) => ⟨.sl, closeAt bars bar.datetime trade.entryP, bar.datetime, none, none⟩
  | some (.t1, bar) =>
      let price := closeAt bars bar.datetime trade.t1P
      match secondStage trade sqTime bars (freshRunner trade) (after bars bar.datetime) with
      | none => ⟨.t1Eod, price, bar.datetime, some (closeAt bars sqTime price), some sqTime⟩
      | some (reason, second, ts) => ⟨reason, price, bar.datetime, some second, some ts⟩

end Simulation

/-- What `_exit_result` says of the profit. -/
structure Profit where
  pnlPts : Rat
  pnlRs : Int
  half1Rs : Int
  half2Rs : Int
deriving DecidableEq

def points (kind : Kind) (entryP exitP : Rat) : Rat :=
  match kind with
  | .bear => exitP - entryP
  | .bull => entryP - exitP

/-- `_exit_result`, with the rounding of what it shows of the prices left out. -/
def exitResult (lotSize : Nat) (trade : Trade) (out : Exit) : Profit :=
  let half := lotSize / 2
  let rest := lotSize - half
  let pts1 := points trade.kind trade.entryP out.exit1P
  if out.reason = .sl then
    { pnlPts := roundTo 1 pts1
      pnlRs := roundHalfEven (pts1 * lotSize)
      half1Rs := roundHalfEven (pts1 * lotSize)
      half2Rs := 0 }
  else
    let pts2 := match out.exit2P with
      | none => 0
      | some price => if price = 0 then 0 else points trade.kind trade.entryP price
    { pnlPts := if lotSize = 0 then 0 else roundTo 1 ((pts1 * half + pts2 * rest) / lotSize)
      pnlRs := roundHalfEven (pts1 * half + pts2 * rest)
      half1Rs := roundHalfEven (pts1 * half)
      half2Rs := roundHalfEven (pts2 * rest) }

/-! ## An exit does not look ahead -/

section Causality

variable (trade : Trade) (sqTime : Int)

theorem closeAt_append {ts : Int} (bars : List OpenBar) {more : List OpenBar}
    (later : ∀ bar ∈ more, ts < bar.datetime) (fallback : Rat) :
    closeAt (bars ++ more) ts fallback = closeAt bars ts fallback := by
  have none : (more.filter fun bar => decide (bar.datetime ≤ ts)) = [] :=
    List.filter_eq_nil_iff.mpr fun bar member => by simpa using later bar member
  rw [closeAt, closeAt, List.filter_append, none, List.append_nil]

theorem firstStage_append (early late : List OpenBar) :
    firstStage trade sqTime (early ++ late) =
      (firstStage trade sqTime early).or (firstStage trade sqTime late) := by
  induction early with
  | nil => rfl
  | cons bar rest inductionHypothesis =>
    rw [List.cons_append, firstStage, firstStage]
    repeat' split
    · rfl
    · rfl
    · rfl
    · exact inductionHypothesis

theorem firstStage_mem {bars : List OpenBar} {verdict : Verdict} {bar : OpenBar}
    (found : firstStage trade sqTime bars = some (verdict, bar)) : bar ∈ bars := by
  induction bars with
  | nil => cases found
  | cons first rest inductionHypothesis =>
    rw [firstStage] at found
    repeat' split at found
    case isFalse.isFalse.isFalse => exact List.mem_cons_of_mem _ (inductionHypothesis found)
    all_goals
      obtain ⟨_, rfl⟩ := Prod.mk.inj (Option.some.inj found)
      exact List.mem_cons_self

/-- A runner that has ended is not held on by later bars. -/
theorem secondStage_append {bars longer : List OpenBar} {runner : Runner}
    {held further : List OpenBar} {out : Reason × Rat × Int}
    (agrees : ∀ bar ∈ held, ∀ fallback,
      closeAt longer bar.datetime fallback = closeAt bars bar.datetime fallback)
    (ended : secondStage trade sqTime bars runner held = some out) :
    secondStage trade sqTime longer runner (held ++ further) = some out := by
  induction held generalizing runner with
  | nil => cases ended
  | cons bar rest inductionHypothesis =>
    rw [secondStage] at ended
    rw [List.cons_append, secondStage, agrees bar List.mem_cons_self]
    repeat' split at ended
    case isFalse.isFalse.isFalse squared taken held =>
      rw [if_neg squared, if_neg taken, if_neg held]
      exact inductionHypothesis (fun other member => agrees other (List.mem_cons_of_mem _ member))
        ended
    case isTrue squared => rwa [if_pos squared]
    case isFalse.isTrue squared taken => rwa [if_neg squared, if_pos taken]
    case isFalse.isFalse.isTrue squared taken lost =>
      rwa [if_neg squared, if_neg taken, if_pos lost]

/-- The exit has been decided by a bar, not by the end of the frame. -/
def decided (bars : List OpenBar) : Bool :=
  match firstStage trade sqTime (after bars trade.entryTs) with
  | none => false
  | some (.t1, bar) =>
      (secondStage trade sqTime bars (freshRunner trade) (after bars bar.datetime)).isSome
  | some _ => true

theorem after_append (bars more : List OpenBar) (ts : Int) :
    after (bars ++ more) ts = after bars ts ++ after more ts := List.filter_append _ _

/-- An exit that a bar has decided stays, whatever bars come later. -/
theorem exit_causal {bars more : List OpenBar}
    (later : ∀ bar ∈ bars, ∀ other ∈ more, bar.datetime < other.datetime)
    (done : decided trade sqTime bars = true) :
    simulateExit trade sqTime (bars ++ more) = simulateExit trade sqTime bars := by
  have agrees : ∀ bar ∈ bars, ∀ fallback,
      closeAt (bars ++ more) bar.datetime fallback = closeAt bars bar.datetime fallback :=
    fun bar member => closeAt_append bars (later bar member)
  rw [simulateExit, simulateExit, after_append, firstStage_append]
  rw [decided] at done
  cases first : firstStage trade sqTime (after bars trade.entryTs) with
  | none =>
    rw [first] at done
    cases done
  | some found =>
    obtain ⟨verdict, bar⟩ := found
    have member : bar ∈ bars := (List.mem_filter.mp (firstStage_mem trade sqTime first)).1
    rw [first] at done
    rw [Option.some_or]
    cases verdict with
    | eod => simp only [agrees bar member]
    | sl => simp only [agrees bar member]
    | t1 =>
      obtain ⟨out, ended⟩ := Option.isSome_iff_exists.mp done
      have extended : secondStage trade sqTime (bars ++ more) (freshRunner trade)
          (after (bars ++ more) bar.datetime) = some out := by
        rw [after_append]
        exact secondStage_append trade sqTime
          (fun other found => agrees other (List.mem_filter.mp found).1) ended
      simp only [agrees bar member, ended, extended]

end Causality

/-! ## What the stop of the runner is worth -/

section Protection

variable (trade : Trade) (sqTime : Int)

/-- A stop that the bars since the first target account for: the entry, or the edge of a zone
beyond it that was found in some of them and whose traders were stopped out again. -/
def Backed (held : List OpenBar) (tsl : Rat) : Prop :=
  tsl = trade.entryP ∨ ∃ count zone,
    zone ∈ scanZonesConsecutive (resample trade.ltfMin (held.take count)) ∧
      registers trade zone = true ∧ edge trade.kind zone = tsl ∧
        ∃ bar ∈ held, reaches trade.kind bar zone.t1 = true

/-- A runner after the bars that it has survived. -/
structure Holds (held : List OpenBar) (runner : Runner) : Prop where
  accRows : runner.accRows = held
  waits : ∀ zone ∈ runner.pending, registers trade zone = true ∧
    ∃ count, zone ∈ scanZonesConsecutive (resample trade.ltfMin (held.take count))
  stands : worse trade.kind runner.tsl trade.entryP = false
  backed : Backed trade held runner.tsl

variable {trade}

theorem worse_asymm {kind : Kind} {price other : Rat} (lower : worse kind price other = true) :
    worse kind other price = false := by
  cases kind <;> simp only [worse, decide_eq_true_eq, decide_eq_false_iff_not] at lower ⊢ <;>
    exact not_lt_of_gt lower

/-- Losing to a stop that does not lose to the entry. -/
theorem not_worse_trans {kind : Kind} {price stop entry : Rat}
    (above : worse kind price stop = false) (stands : worse kind stop entry = false) :
    worse kind price entry = false := by
  cases kind <;> simp only [worse, decide_eq_false_iff_not, not_lt, gt_iff_lt] at above stands ⊢
  · exact stands.trans above
  · exact above.trans stands

theorem mem_register {zone other : TrapZone} {pending : List TrapZone}
    (member : zone ∈ register trade pending other) :
    zone ∈ pending ∨ zone = other ∧ registers trade other = true := by
  rw [register] at member
  split at member
  case isTrue both =>
    rcases List.mem_append.mp member with old | new
    · exact .inl old
    · exact .inr ⟨List.mem_singleton.mp new, (Bool.and_eq_true_iff.mp both).1⟩
  case isFalse => exact .inl member

theorem mem_registered {zone : TrapZone} {found pending : List TrapZone}
    (member : zone ∈ found.foldl (register trade) pending) :
    zone ∈ pending ∨ zone ∈ found ∧ registers trade zone = true := by
  induction found generalizing pending with
  | nil => exact .inl member
  | cons other rest inductionHypothesis =>
    rcases inductionHypothesis member with old | ⟨listed, fits⟩
    · rcases mem_register old with before | ⟨rfl, fits⟩
      · exact .inl before
      · exact .inr ⟨List.mem_cons_self, fits⟩
    · exact .inr ⟨List.mem_cons_of_mem _ listed, fits⟩

/-- The stop only moves in favour of the trade, to an edge that it is shown. -/
theorem trail_spec (zones : List TrapZone) (tsl : Rat) :
    worse trade.kind (zones.foldl (trail trade) tsl) tsl = false ∧
      (zones.foldl (trail trade) tsl = tsl ∨
        ∃ zone ∈ zones, edge trade.kind zone = zones.foldl (trail trade) tsl) := by
  induction zones generalizing tsl with
  | nil => exact ⟨by cases trade.kind <;> simp [worse], .inl rfl⟩
  | cons zone rest inductionHypothesis =>
    obtain ⟨better, stands⟩ := inductionHypothesis (trail trade tsl zone)
    have moved : worse trade.kind (trail trade tsl zone) tsl = false ∧
        (trail trade tsl zone = tsl ∨ edge trade.kind zone = trail trade tsl zone) := by
      rw [trail]
      split
      case isTrue beyond => exact ⟨worse_asymm beyond, .inr rfl⟩
      case isFalse => exact ⟨by cases trade.kind <;> simp [worse], .inl rfl⟩
    rw [List.foldl_cons]
    refine ⟨not_worse_trans better moved.1, ?_⟩
    rcases stands with same | ⟨other, member, there⟩
    · rcases moved.2 with kept | here
      · exact .inl (same.trans kept)
      · exact .inr ⟨zone, List.mem_cons_self, here.trans same.symm⟩
    · exact .inr ⟨other, List.mem_cons_of_mem _ member, there⟩

theorem take_snoc (held : List OpenBar) (bar : OpenBar) (count : Nat) :
    ∃ further, (held ++ [bar]).take further = held.take count := by
  refine ⟨min count held.length, ?_⟩
  rw [List.take_append_of_le_length (min_le_right _ _), ← List.take_eq_take_min]

theorem Backed.append {held : List OpenBar} {tsl : Rat} (backed : Backed trade held tsl)
    (bar : OpenBar) : Backed trade (held ++ [bar]) tsl := by
  rcases backed with entry | ⟨count, zone, found, fits, there, hit, member, stopped⟩
  · exact .inl entry
  · obtain ⟨further, same⟩ := take_snoc held bar count
    exact .inr ⟨further, zone, same ▸ found, fits, there, hit, List.mem_append_left _ member,
      stopped⟩

theorem holds_next {held : List OpenBar} {runner : Runner} (holds : Holds trade held runner)
    (bar : OpenBar) : Holds trade (held ++ [bar]) (runner.next trade bar) := by
  have rows : runner.accRows ++ [bar] = held ++ [bar] := by rw [holds.accRows]
  have waits : ∀ zone ∈ rescan trade (runner.accRows ++ [bar]) runner.pending,
      registers trade zone = true ∧ ∃ count,
        zone ∈ scanZonesConsecutive (resample trade.ltfMin ((held ++ [bar]).take count)) := by
    have old : ∀ zone ∈ runner.pending, registers trade zone = true ∧ ∃ count,
        zone ∈ scanZonesConsecutive (resample trade.ltfMin ((held ++ [bar]).take count)) := by
      intro zone member
      obtain ⟨fits, count, found⟩ := holds.waits zone member
      obtain ⟨further, same⟩ := take_snoc held bar count
      exact ⟨fits, further, same ▸ found⟩
    intro zone member
    rw [rescan] at member
    split at member
    · rcases mem_registered member with before | ⟨found, fits⟩
      · exact old zone before
      · refine ⟨fits, (held ++ [bar]).length, ?_⟩
        rwa [List.take_length, ← rows]
    · exact old zone member
  obtain ⟨better, shown⟩ := @trail_spec trade
    ((rescan trade (runner.accRows ++ [bar]) runner.pending).filter fun zone =>
      reaches trade.kind bar zone.t1) runner.tsl
  constructor
  case accRows => exact rows
  case waits => exact fun zone member => waits zone (List.mem_filter.mp member).1
  case stands => exact not_worse_trans better holds.stands
  case backed =>
    rcases shown with same | ⟨zone, member, there⟩
    · rw [Runner.next, same]
      exact holds.backed.append bar
    · obtain ⟨waiting, hit⟩ := List.mem_filter.mp member
      obtain ⟨fits, count, found⟩ := waits zone waiting
      exact .inr ⟨count, zone, found, fits, there, bar,
        List.mem_append_right _ (List.mem_singleton_self bar), hit⟩

/-- What a runner meets, from a bar on or from the end of the frame. -/
def Meets (trade : Trade) (held : List OpenBar) : Option (Reason × Rat × Int) → List OpenBar → Prop
  | none, [] => True
  | some (reason, price, ts), last :: _ =>
      ts = last.datetime ∧
        (reason = .t1Eod ∧ sqTime ≤ last.datetime ∧ price = last.close ∨
          reason = .t1T2 ∧ takes trade last = true ∨
            reason = .t1Tsl ∧ price = last.close ∧ ∃ tsl, Backed trade held tsl ∧
              worse trade.kind tsl trade.entryP = false ∧ worse trade.kind last.close tsl = true)
  | _, _ => False

/-- A bar that the runner survives. -/
structure Survives (trade : Trade) (bar : OpenBar) : Prop where
  early : bar.datetime < sqTime
  short : takes trade bar = false
  stands : worse trade.kind bar.close trade.entryP = false

theorem secondStage_spec (bars : List OpenBar) {held shown : List OpenBar} {runner : Runner}
    (holds : Holds trade held runner) : ∃ survived rest, shown = survived ++ rest ∧
      (∀ bar ∈ survived, Survives sqTime trade bar) ∧
        Meets sqTime trade (held ++ survived)
          (secondStage trade sqTime bars runner shown) rest := by
  induction shown generalizing held runner with
  | nil => exact ⟨[], [], rfl, fun _ member => absurd member List.not_mem_nil, trivial⟩
  | cons bar rest inductionHypothesis =>
    have here : ∀ bar ∈ ([] : List OpenBar), Survives sqTime trade bar :=
      fun _ member => absurd member List.not_mem_nil
    rw [secondStage]
    split
    case isTrue squared => exact ⟨[], bar :: rest, rfl, here, rfl, .inl ⟨rfl, squared, rfl⟩⟩
    case isFalse early =>
      split
      case isTrue taken => exact ⟨[], bar :: rest, rfl, here, rfl, .inr (.inl ⟨rfl, taken⟩)⟩
      case isFalse short =>
        split
        case isTrue lost =>
          refine ⟨[], bar :: rest, rfl, here, rfl, .inr (.inr ⟨rfl, rfl, runner.tsl, ?_,
            holds.stands, lost⟩)⟩
          rw [List.append_nil]
          exact holds.backed
        case isFalse kept =>
          obtain ⟨survived, further, split, stood, met⟩ :=
            inductionHypothesis (holds_next holds bar)
          refine ⟨bar :: survived, further, by rw [split, List.cons_append], ?_, ?_⟩
          · intro other member
            rcases List.mem_cons.mp member with rfl | later
            · exact ⟨not_le.mp early, Bool.eq_false_iff.mpr short,
                not_worse_trans (Bool.eq_false_iff.mpr kept) holds.stands⟩
            · exact stood other later
          · rwa [List.append_assoc, List.singleton_append] at met

/-- What the runner of a trade meets, and how it is booked. -/
def RunnerMeets (trade : Trade) (survived : List OpenBar) (out : Exit) : List OpenBar → Prop
  | [] => out.reason = .t1Eod ∧ out.exit2Ts = some sqTime
  | last :: rest => ∃ price, out.exit2P = some price ∧ out.exit2Ts = some last.datetime ∧
      Meets sqTime trade survived (some (out.reason, price, last.datetime)) (last :: rest)

/-- While a runner is held, no bar closes on the losing side of the entry. It ends at the close
of the session, at its second target, or at a bar that closes beyond a stop which is at least
the entry and which the bars before account for. -/
theorem runner_protected (bars : List OpenBar) {first : OpenBar}
    (hit : firstStage trade sqTime (after bars trade.entryTs) = some (.t1, first)) :
    ∃ survived rest, after bars first.datetime = survived ++ rest ∧
      (∀ bar ∈ survived, Survives sqTime trade bar) ∧
        RunnerMeets sqTime trade survived (simulateExit trade sqTime bars) rest := by
  have fresh : Holds trade [] (freshRunner trade) := by
    constructor
    case accRows => rfl
    case waits => exact fun _ member => absurd member List.not_mem_nil
    case stands => cases kind : trade.kind <;> simp [worse, freshRunner]
    case backed => exact .inl rfl
  obtain ⟨survived, rest, split, stood, met⟩ :=
    @secondStage_spec trade sqTime bars [] (after bars first.datetime) _ fresh
  refine ⟨survived, rest, split, stood, ?_⟩
  rw [List.nil_append] at met
  cases ended : secondStage trade sqTime bars (freshRunner trade) (after bars first.datetime) with
  | none =>
    rw [ended] at met
    cases rest with
    | nil =>
      simp only [simulateExit, hit, ended]
      exact ⟨rfl, rfl⟩
    | cons => exact met.elim
  | some out =>
    obtain ⟨reason, price, ts⟩ := out
    rw [ended] at met
    cases rest with
    | nil => exact met.elim
    | cons last later =>
      have same : ts = last.datetime := met.1
      subst same
      simp only [simulateExit, hit, ended]
      exact ⟨price, rfl, rfl, met⟩

end Protection

/-! ## A runner that is stopped above its entry -/

section Runner

def minuteBar (minute : Int) (opening high low close : Rat) : OpenBar :=
  ⟨⟨minute * minuteLength, high, low, close⟩, opening⟩

def longTrade : Trade := ⟨.bear, 0, 1000, 950, 1050, none, 1⟩

/-- The first target is hit, a zone forms above the entry, and the price falls through it. -/
def session : List OpenBar :=
  [minuteBar 0 1000 1010 990 1000, minuteBar 1 1000 1050 1000 1045,
    minuteBar 2 1055 1060 1040 1050, minuteBar 3 1050 1055 1030 1040,
    minuteBar 4 1055 1070 1055 1065, minuteBar 5 1060 1062 1045 1050,
    minuteBar 6 1045 1045 1020 1025]

def bell : Int := 100 * minuteLength

theorem exit_causal_session :
    simulateExit longTrade bell (session ++ [minuteBar 7 1025 1080 1025 1080]) =
      simulateExit longTrade bell session :=
  exit_causal longTrade bell (by decide +kernel) (by decide +kernel)

theorem runner_protected_session :
    ∃ survived rest, after session minuteLength = survived ++ rest ∧
      (∀ bar ∈ survived, Survives bell longTrade bar) ∧
        RunnerMeets bell longTrade survived (simulateExit longTrade bell session) rest :=
  @runner_protected longTrade bell session (minuteBar 1 1000 1050 1000 1045) (by decide +kernel)

/-- The stop has moved from the entry to the low of the zone. -/
example : simulateExit longTrade bell session =
    ⟨.t1Tsl, 1045, minuteLength, some 1025, some (6 * minuteLength)⟩ := by decide +kernel

end Runner

/-! ## What is booked -/

/-- The halves that are shown add up to the profit that is shown, but for one rupee. -/
theorem halves_add_up (lotSize : Nat) (trade : Trade) (out : Exit) :
    |(exitResult lotSize trade out).pnlRs -
      ((exitResult lotSize trade out).half1Rs + (exitResult lotSize trade out).half2Rs)| ≤ 1 := by
  have near : ∀ one other : Rat,
      |roundHalfEven (one + other) - (roundHalfEven one + roundHalfEven other)| ≤ 1 := by
    intro one other
    obtain ⟨least, most⟩ := roundHalfEven_near (one + other)
    obtain ⟨leastOne, mostOne⟩ := roundHalfEven_near one
    obtain ⟨leastOther, mostOther⟩ := roundHalfEven_near other
    have above : roundHalfEven (one + other) < roundHalfEven one + roundHalfEven other + 2 := by
      have : (roundHalfEven (one + other) : Rat) < roundHalfEven one + roundHalfEven other + 2 := by
        linarith
      exact_mod_cast this
    have below : roundHalfEven one + roundHalfEven other < roundHalfEven (one + other) + 2 := by
      have : (roundHalfEven one + roundHalfEven other : Rat) < roundHalfEven (one + other) + 2 := by
        linarith
      exact_mod_cast this
    rw [abs_le]
    constructor <;> omega
  rw [exitResult]
  split
  · simp
  · exact near _ _

end OptionChain.BacktestExits
