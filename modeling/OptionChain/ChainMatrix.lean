import Mathlib.Algebra.Order.Field.Rat
import Mathlib.Data.List.MinMax
import Mathlib.Tactic.Linarith
import Mathlib.Tactic.Ring
import OptionChain.BoundedDeques
import OptionChain.Buckets
import OptionChain.Rounding
import OptionChain.Runs
import OptionChain.Ticks

/-!
# The option chain matrix

`OptionMatrix` keeps the chain of one underlying: a row for each strike around the money,
written over by every tick of its strike, and aggregates that are computed again at every
tenth tick that hits a row. The engine publishes the chain then.

The chain refines the streams of ticks of its strikes: `rows_run` reads every row off the
ticks that hit it, and `published_exact` says that what is published is decided by these
ticks alone, in blocks of ten, whatever else happens in between. The rows are those that
`initialize` laid out. Nothing asks for the expiry of a tick.
-/

namespace OptionChain.ChainMatrix

open Broker Rounding Runs Ticks

/-- `call_*` or `put_*` of a `ChainRow`, with the history of its open interest. -/
structure Side where
  oi : Int := 0
  doi : Int := 0
  vol : Int := 0
  ltp : Rat := 0
  iv : Rat := 0
  hist : List Int := []
deriving DecidableEq

structure ChainRow where
  strike : Rat
  call : Side := {}
  put : Side := {}
deriving DecidableEq

/-- What `recompute` sets. -/
structure Aggregates where
  maxCallOiStrike : Rat := 0
  maxPutOiStrike : Rat := 0
  maxCallDoiStrike : Rat := 0
  maxPutDoiStrike : Rat := 0
  totalCallOi : Int := 0
  totalPutOi : Int := 0
  pcr : Rat := 1
  pcrHistory : List Rat := []
deriving DecidableEq

structure ChainSnapshot where
  underlying : String
  spot : Rat
  atmStrike : Rat
  expiry : CalendarDay
  timestamp : Int
  rows : List ChainRow
  aggregates : Aggregates := {}
deriving DecidableEq

/-- The length of `_call_oi_hist` and `_put_oi_hist`. -/
def oiHistory : Nat := 30

/-- The length of `pcr_history`. -/
def pcrHistoryMax : Nat := 100

/-- `_recompute_every`. -/
def recomputeEvery : Nat := 10

/-- `strike_steps.get(underlying, 50.0)` and `chain_depth`. -/
structure Config where
  step : Rat
  depth : Nat
  positive : 0 < step

structure OptionMatrix where
  snap : Option ChainSnapshot := none
  tickCount : Nat := 0
deriving DecidableEq

/-- The body of `on_option_tick` for one side: the old open interest goes into the history. -/
def Side.update (side : Side) (tick : OptionTick) : Side where
  oi := tick.oi
  doi := tick.changeOi
  vol := tick.volume
  ltp := tick.ltp
  iv := tick.iv
  hist := BoundedDeques.append oiHistory side.hist side.oi

/-- `call_doi_spike` and `put_doi_spike`: the change of the last tick against the mean change
over the history. -/
def Side.spike (side : Side) (multiplier : Rat) : Bool :=
  if side.hist.length < 5 then false
  else
    let changes : List Int := side.hist.zipWith (fun old new => new - old) side.hist.tail
    let mean : Rat := (changes.sum : Rat) / changes.length
    decide (|mean| * multiplier < |(side.doi : Rat)|)

def ChainRow.update (row : ChainRow) (tick : OptionTick) : ChainRow :=
  match tick.optionType with
  | .ce => { row with call := row.call.update tick }
  | .pe => { row with put := row.put.update tick }

/-- The half of a row that an option type names. -/
def ChainRow.side (row : ChainRow) : OptType → Side
  | .ce => row.call
  | .pe => row.put

/-- `max(rows, key=..)`: the first strike with the greatest value. -/
def maxStrike (key : ChainRow → Int) (rows : List ChainRow) : Rat :=
  ((rows.argmax fun row => (key row : Rat)).map ChainRow.strike).getD 0

/-- The ratio of `recompute`. -/
def putCallRatio (rows : List ChainRow) : Rat :=
  let calls := (rows.map (·.call.oi)).sum
  let puts := (rows.map (·.put.oi)).sum
  if 0 < calls then (puts : Rat) / calls else 1

/-- `recompute`. -/
def ChainSnapshot.recompute (snap : ChainSnapshot) : ChainSnapshot :=
  if snap.rows = [] then snap
  else
    { snap with
      aggregates :=
        { totalCallOi := (snap.rows.map (·.call.oi)).sum
          totalPutOi := (snap.rows.map (·.put.oi)).sum
          pcr := putCallRatio snap.rows
          pcrHistory :=
            BoundedDeques.append pcrHistoryMax snap.aggregates.pcrHistory (putCallRatio snap.rows)
          maxCallOiStrike := maxStrike (·.call.oi) snap.rows
          maxPutOiStrike := maxStrike (·.put.oi) snap.rows
          maxCallDoiStrike := maxStrike (·.call.doi) snap.rows
          maxPutDoiStrike := maxStrike (·.put.doi) snap.rows } }

namespace OptionMatrix

variable (cfg : Config)

/-- The strikes that `initialize` lays out around the spot. -/
def strikes (spot : Rat) : List Rat :=
  (List.range (2 * cfg.depth + 1)).map fun i =>
    (roundHalfEven (spot / cfg.step) : Rat) * cfg.step + ((i : Rat) - cfg.depth) * cfg.step

/-- `initialize`. The count of the ticks goes on. -/
def initializeChain (underlying : String) (matrix : OptionMatrix) (spot : Rat)
    (expiry : CalendarDay) (now : Int) : OptionMatrix :=
  { matrix with
    snap := some
      { underlying := underlying
        spot := spot
        atmStrike := (roundHalfEven (spot / cfg.step) : Rat) * cfg.step
        expiry := expiry
        timestamp := now
        rows := (strikes cfg spot).map fun strike => { strike := strike } } }

/-- `on_option_tick`: the matrix, and whether the aggregates are due. -/
def onOptionTick (matrix : OptionMatrix) (tick : OptionTick) : OptionMatrix × Bool :=
  match matrix.snap with
  | none => (matrix, false)
  | some snap =>
      if tick.strike ∈ snap.rows.map ChainRow.strike then
        ({ snap := some
            { snap with
              rows := snap.rows.map fun row =>
                if row.strike = tick.strike then row.update tick else row
              timestamp := tick.timestamp }
           tickCount := matrix.tickCount + 1 },
          decide ((matrix.tickCount + 1) % recomputeEvery = 0))
      else (matrix, false)

def onSpotTick (matrix : OptionMatrix) (spot : Rat) : OptionMatrix :=
  { matrix with snap := matrix.snap.map fun snap => { snap with spot := spot } }

def recompute (matrix : OptionMatrix) : OptionMatrix :=
  { matrix with snap := matrix.snap.map ChainSnapshot.recompute }

end OptionMatrix

/-- What `_consume_options` and `_consume_index` take from their queues. -/
inductive Event where
  | option (tick : OptionTick)
  | index (tick : IndexTick)
deriving DecidableEq

/-- The matrix that an event is for. -/
def Event.key : Event → String
  | .option tick => tick.underlying
  | .index tick => tick.symbol

namespace OptionMatrix

def step (matrix : OptionMatrix) : Event → OptionMatrix
  | .option tick =>
      let updated := matrix.onOptionTick tick
      if updated.2 then updated.1.recompute else updated.1
  | .index tick => matrix.onSpotTick tick.ltp

/-- What goes out on `MATRIX_SNAPSHOT`, as it is at that moment. -/
def publish (matrix : OptionMatrix) : Event → List ChainSnapshot
  | .option tick =>
      let updated := matrix.onOptionTick tick
      if updated.2 then updated.1.recompute.snap.toList else []
  | .index _ => []

end OptionMatrix

theorem OptionMatrix.step_underlying {matrix : OptionMatrix} {event : Event}
    {after : ChainSnapshot} (stepped : (matrix.step event).snap = some after) :
    ∃ before, matrix.snap = some before ∧ after.underlying = before.underlying := by
  have recomputed : ∀ snap : ChainSnapshot, snap.recompute.underlying = snap.underlying := by
    intro snap
    rw [ChainSnapshot.recompute]
    split <;> rfl
  cases held : matrix.snap with
  | none => cases event <;>
      simp [OptionMatrix.step, OptionMatrix.onOptionTick, OptionMatrix.onSpotTick, held] at stepped
  | some before =>
    refine ⟨before, rfl, ?_⟩
    cases event with
    | index tick =>
      simp only [OptionMatrix.step, OptionMatrix.onSpotTick, held, Option.map_some,
        Option.some.injEq] at stepped
      rw [← stepped]
    | option tick =>
      simp only [OptionMatrix.step, OptionMatrix.onOptionTick, held] at stepped
      split at stepped
      case isTrue =>
        split at stepped
        · simp only [OptionMatrix.recompute, Option.map_some, Option.some.injEq] at stepped
          rw [← stepped, recomputed]
        · simp only [Option.some.injEq] at stepped
          rw [← stepped]
      case isFalse =>
        simp only [held, Bool.false_eq_true, if_false, Option.some.injEq] at stepped
        rw [← stepped]

/-- `_matrices`: a matrix for each monitored index, whose chain is that of its key. -/
structure Engine where
  matrices : String → Option OptionMatrix
  named : ∀ key matrix snap, matrices key = some matrix → matrix.snap = some snap →
    snap.underlying = key

/-- One turn of `_consume_options` or `_consume_index`. -/
def step (engine : Engine) (event : Event) : Engine where
  matrices := Function.update engine.matrices event.key
    ((engine.matrices event.key).map (·.step event))
  named key matrix snap found held := by
    by_cases mine : key = event.key
    · subst mine
      rw [Function.update_self] at found
      obtain ⟨before, known, rfl⟩ := Option.map_eq_some_iff.mp found
      obtain ⟨old, was, same⟩ := OptionMatrix.step_underlying held
      rw [same]
      exact engine.named _ _ _ known was
    · rw [Function.update_of_ne mine] at found
      exact engine.named _ _ _ found held

def publish (engine : Engine) (event : Event) : List ChainSnapshot :=
  ((engine.matrices event.key).map (·.publish event)).getD []

/-! ## What the ticks of a chain make of it -/

section Meaning

/-- The ticks that hit one side of a strike. -/
def ticksOf (strike : Rat) (side : OptType) (hits : List OptionTick) : List OptionTick :=
  hits.filter fun tick => decide (tick.strike = strike) && decide (tick.optionType = side)

/-- The open interests before the last tick, the latest thirty. The first of all is the zero
that the row was laid out with. -/
def history (ticks : List OptionTick) : List Int :=
  ((0 :: ticks.map OptionTick.oi).dropLast).rtake oiHistory

/-- One side of a row, read off its ticks: the fields of the last one, and the open interests
before it. -/
def sideOf (ticks : List OptionTick) : Side where
  oi := (ticks.getLast?.map OptionTick.oi).getD 0
  doi := (ticks.getLast?.map OptionTick.changeOi).getD 0
  vol := (ticks.getLast?.map OptionTick.volume).getD 0
  ltp := (ticks.getLast?.map OptionTick.ltp).getD 0
  iv := (ticks.getLast?.map OptionTick.iv).getD 0
  hist := history ticks

def rowOf (hits : List OptionTick) (strike : Rat) : ChainRow where
  strike := strike
  call := sideOf (ticksOf strike .ce hits)
  put := sideOf (ticksOf strike .pe hits)

def rowsOf (strikes : List Rat) (hits : List OptionTick) : List ChainRow :=
  strikes.map (rowOf hits)

/-- The rows after a number of blocks of ten ticks. -/
def blockRows (strikes : List Rat) (hits : List OptionTick) (blocks : Nat) : List ChainRow :=
  rowsOf strikes (hits.take (recomputeEvery * blocks))

/-- The aggregates after a number of blocks. -/
def aggregatesOf (strikes : List Rat) (hits : List OptionTick) : Nat → Aggregates
  | 0 => {}
  | before + 1 =>
      let rows := blockRows strikes hits (before + 1)
      { totalCallOi := (rows.map (·.call.oi)).sum
        totalPutOi := (rows.map (·.put.oi)).sum
        pcr := putCallRatio rows
        pcrHistory := ((List.range (before + 1)).map fun block =>
          putCallRatio (blockRows strikes hits (block + 1))).rtake pcrHistoryMax
        maxCallOiStrike := maxStrike (·.call.oi) rows
        maxPutOiStrike := maxStrike (·.put.oi) rows
        maxCallDoiStrike := maxStrike (·.call.doi) rows
        maxPutDoiStrike := maxStrike (·.put.doi) rows }

/-- What is published at the end of a block, counted from zero. -/
def page (strikes : List Rat) (hits : List OptionTick) (block : Nat) :
    List ChainRow × Aggregates :=
  (blockRows strikes hits (block + 1), aggregatesOf strikes hits (block + 1))

/-- The option ticks of a run that hit a row of the chain. -/
def hits (underlying : String) (strikes : List Rat) (events : List Event) : List OptionTick :=
  events.filterMap fun event =>
    match event with
    | .option tick =>
        if tick.underlying = underlying ∧ tick.strike ∈ strikes then some tick else none
    | .index _ => none

end Meaning

/-- The changes of a sequence add up to the distance between its ends. -/
theorem changes_sum (first : Int) (rest : List Int) :
    ((first :: rest).zipWith (fun old new => new - old) rest).sum =
      (first :: rest).getLast (List.cons_ne_nil _ _) - first := by
  induction rest generalizing first with
  | nil => simp
  | cons second rest inductionHypothesis =>
    rw [List.zipWith_cons_cons, List.sum_cons, inductionHypothesis,
      List.getLast_cons (List.cons_ne_nil _ _)]
    omega

/-- The mean change is the drift between the ends of the history: a spike is a change that
beats the drift of one step, however far the open interest went up and down in between. -/
theorem spike_iff (side : Side) (multiplier : Rat) :
    side.spike multiplier = true ↔ 5 ≤ side.hist.length ∧ ∃ first last,
      side.hist.head? = some first ∧ side.hist.getLast? = some last ∧
        |(last - first : Rat)| * multiplier < |(side.doi : Rat)| * (side.hist.length - 1) := by
  rw [Side.spike]
  by_cases short : side.hist.length < 5
  · simp only [if_pos short, Bool.false_eq_true, false_iff, not_and]
    intro long
    omega
  · rw [if_neg short]
    cases history : side.hist with
    | nil => simp [history] at short
    | cons first rest =>
      have many : 4 ≤ rest.length := by
        rw [history, List.length_cons] at short
        omega
      have positive : (0 : Rat) < rest.length := by
        exact_mod_cast Nat.lt_of_lt_of_le (Nat.succ_pos 3) many
      have counted : ((first :: rest).zipWith (fun old new => new - old) rest).length =
          rest.length := by simp
      have steps : ((first :: rest).length : Rat) - 1 = rest.length := by
        rw [List.length_cons, Nat.cast_succ]
        ring
      simp only [List.tail_cons, changes_sum, counted, decide_eq_true_eq, steps, List.head?_cons,
        List.getLast?_eq_getLast_of_ne_nil (List.cons_ne_nil first rest), Option.some.injEq,
        Int.cast_sub]
      rw [abs_div, abs_of_pos positive, div_mul_eq_mul_div, div_lt_iff₀ positive]
      simp only [List.length_cons]
      constructor
      · intro drift
        exact ⟨by omega, first, _, rfl, rfl, drift⟩
      · rintro ⟨_, _, _, rfl, rfl, drift⟩
        exact drift

/-- The spike detector of a side, read off its ticks. -/
theorem spike_sideOf (ticks : List OptionTick) (multiplier : Rat) :
    (sideOf ticks).spike multiplier = true ↔
      5 ≤ (history ticks).length ∧ ∃ first last tick, (history ticks).head? = some first ∧
        (history ticks).getLast? = some last ∧ ticks.getLast? = some tick ∧
          |(last - first : Rat)| * multiplier <
            |(tick.changeOi : Rat)| * ((history ticks).length - 1) := by
  have side : (sideOf ticks).hist = history ticks := rfl
  rw [spike_iff, side]
  cases ticks using List.reverseRecOn with
  | nil => simp [history, List.rtake]
  | append_singleton ticks tick =>
    have doi : (sideOf (ticks ++ [tick])).doi = tick.changeOi := by simp [sideOf]
    simp only [doi, List.getLast?_concat, Option.some.injEq, exists_eq_left', exists_and_left]

section Rows

variable {strikes : List Rat} {hits : List OptionTick}

/-- One more tick of a side is one update. -/
theorem sideOf_snoc (ticks : List OptionTick) (tick : OptionTick) :
    sideOf (ticks ++ [tick]) = (sideOf ticks).update tick := by
  have behind : (0 :: ticks.map OptionTick.oi).dropLast ++ [(sideOf ticks).oi] =
      0 :: ticks.map OptionTick.oi := by
    have last : (0 :: ticks.map OptionTick.oi).getLast (List.cons_ne_nil _ _) =
        (sideOf ticks).oi := by
      cases ticks using List.reverseRecOn with
      | nil => rfl
      | append_singleton ticks last => simp [sideOf]
    rw [← last]
    exact List.dropLast_append_getLast _
  have history : (sideOf (ticks ++ [tick])).hist =
      BoundedDeques.append oiHistory (sideOf ticks).hist (sideOf ticks).oi := by
    have fresh : (0 :: (ticks ++ [tick]).map OptionTick.oi).dropLast =
        0 :: ticks.map OptionTick.oi := by
      rw [List.map_append, List.map_singleton, ← List.cons_append, List.dropLast_concat]
    rw [BoundedDeques.append, show (sideOf ticks).hist = history ticks from rfl, history,
      Buckets.rtake_snoc, behind, ← fresh]
    rfl
  rw [Side.update, ← history]
  simp [sideOf]

theorem ticksOf_snoc (strike : Rat) (side : OptType) (hits : List OptionTick)
    (tick : OptionTick) :
    ticksOf strike side (hits ++ [tick]) =
      if tick.strike = strike ∧ tick.optionType = side then ticksOf strike side hits ++ [tick]
      else ticksOf strike side hits := by
  rw [ticksOf, List.filter_append, List.filter_singleton, ← Bool.decide_and]
  by_cases mine : tick.strike = strike ∧ tick.optionType = side
  · rw [if_pos mine, decide_eq_true mine]
    rfl
  · rw [if_neg mine, decide_eq_false mine]
    exact List.append_nil _

/-- One more hit updates the row of its strike and no other. -/
theorem rowOf_snoc (strike : Rat) (hits : List OptionTick) (tick : OptionTick) :
    rowOf (hits ++ [tick]) strike =
      if strike = tick.strike then (rowOf hits strike).update tick else rowOf hits strike := by
  simp only [rowOf, ticksOf_snoc]
  by_cases same : strike = tick.strike
  · subst same
    cases kind : tick.optionType <;> simp [ChainRow.update, kind, sideOf_snoc]
  · simp [same, Ne.symm same]

theorem rowsOf_snoc (strikes : List Rat) (hits : List OptionTick) (tick : OptionTick) :
    rowsOf strikes (hits ++ [tick]) = (rowsOf strikes hits).map fun row =>
      if row.strike = tick.strike then row.update tick else row := by
  rw [rowsOf, rowsOf, List.map_map]
  apply List.map_congr_left
  intro strike _
  exact rowOf_snoc strike hits tick

theorem strikes_rowsOf (strikes : List Rat) (hits : List OptionTick) :
    (rowsOf strikes hits).map ChainRow.strike = strikes := by
  simp [rowsOf, rowOf, Function.comp_def]

/-- Before any tick the rows are those laid out. -/
theorem rowsOf_nil (strikes : List Rat) :
    rowsOf strikes [] = strikes.map fun strike => { strike := strike } := rfl

/-- Ticks that come later do not change a block. -/
theorem blockRows_append (strikes : List Rat) (hits more : List OptionTick) {blocks : Nat}
    (full : recomputeEvery * blocks ≤ hits.length) :
    blockRows strikes (hits ++ more) blocks = blockRows strikes hits blocks := by
  rw [blockRows, blockRows, List.take_append_of_le_length full]

theorem aggregatesOf_append (strikes : List Rat) (hits more : List OptionTick) {blocks : Nat}
    (full : recomputeEvery * blocks ≤ hits.length) :
    aggregatesOf strikes (hits ++ more) blocks = aggregatesOf strikes hits blocks := by
  cases blocks with
  | zero => rfl
  | succ before =>
    have earlier : (List.range (before + 1)).map (fun block =>
          putCallRatio (blockRows strikes (hits ++ more) (block + 1))) =
        (List.range (before + 1)).map fun block =>
          putCallRatio (blockRows strikes hits (block + 1)) := by
      apply List.map_congr_left
      intro block member
      have inside := List.mem_range.mp member
      rw [blockRows_append strikes hits more]
      exact Nat.le_trans (Nat.mul_le_mul_left _ inside) full
    simp only [aggregatesOf, blockRows_append strikes hits more full, earlier]

theorem page_append (strikes : List Rat) (hits more : List OptionTick) {block : Nat}
    (full : recomputeEvery * (block + 1) ≤ hits.length) :
    page strikes (hits ++ more) block = page strikes hits block := by
  rw [page, page, blockRows_append _ _ _ full, aggregatesOf_append _ _ _ full]

/-- A recomputation at the end of a block takes the aggregates to it. -/
theorem recompute_block {snap : ChainSnapshot} {blocks : Nat} (laid : strikes ≠ [])
    (rows : snap.rows = rowsOf strikes hits)
    (before : snap.aggregates = aggregatesOf strikes hits blocks)
    (whole : hits.length = recomputeEvery * (blocks + 1)) :
    snap.recompute =
      { snap with aggregates := aggregatesOf strikes hits (blocks + 1) } := by
  have here : blockRows strikes hits (blocks + 1) = snap.rows := by
    rw [blockRows, ← whole, List.take_length, rows]
  have some : snap.rows ≠ [] := by
    rw [rows, rowsOf]
    simpa using laid
  have history : snap.aggregates.pcrHistory =
      ((List.range blocks).map fun block =>
        putCallRatio (blockRows strikes hits (block + 1))).rtake pcrHistoryMax := by
    rw [before]
    cases blocks <;> rfl
  rw [ChainSnapshot.recompute, if_neg some]
  simp only [aggregatesOf, here, history, BoundedDeques.append, Buckets.rtake_snoc,
    List.range_succ, List.map_append, List.map_singleton]

end Rows

/-! ## One chain over a run -/

section Chain

variable {underlying : String} {strikes : List Rat} {ticks : List OptionTick}

/-- The chain of a matrix is what the ticks that hit it make of it. -/
structure Follows (underlying : String) (strikes : List Rat) (atm : Rat) (expiry : CalendarDay)
    (ticks : List OptionTick) (matrix : OptionMatrix) : Prop where
  count : matrix.tickCount = ticks.length
  laid : ∃ snap, matrix.snap = some snap ∧ snap.underlying = underlying ∧
    snap.atmStrike = atm ∧ snap.expiry = expiry ∧ snap.rows = rowsOf strikes ticks ∧
      snap.aggregates = aggregatesOf strikes ticks (ticks.length / recomputeEvery)

variable {atm : Rat} {expiry : CalendarDay} {matrix : OptionMatrix}

theorem follows_layout (cfg : Config) (underlying : String) (spot : Rat)
    (expiry : CalendarDay) (now : Int) :
    Follows underlying (OptionMatrix.strikes cfg spot)
      ((roundHalfEven (spot / cfg.step) : Rat) * cfg.step) expiry []
      (OptionMatrix.initializeChain cfg underlying {} spot expiry now) :=
  ⟨rfl, _, rfl, rfl, rfl, rfl, rfl, rfl⟩

/-- A tick that hits no row changes nothing that is computed and publishes nothing. -/
theorem follows_miss (follows : Follows underlying strikes atm expiry ticks matrix) {event : Event}
    (miss : ∀ tick, event = .option tick → tick.strike ∉ strikes) :
    Follows underlying strikes atm expiry ticks (matrix.step event) ∧
      matrix.publish event = [] := by
  obtain ⟨count, snap, held, named, money, expires, rows, aggregates⟩ := follows
  cases event with
  | index tick =>
    refine ⟨⟨count, { snap with spot := tick.ltp }, ?_, named, money, expires, rows, aggregates⟩,
      rfl⟩
    simp [OptionMatrix.step, OptionMatrix.onSpotTick, held]
  | option tick =>
    have absent : tick.strike ∉ snap.rows.map ChainRow.strike := by
      rw [rows, strikes_rowsOf]
      exact miss tick rfl
    have same : matrix.onOptionTick tick = (matrix, false) := by
      simp only [OptionMatrix.onOptionTick, held, if_neg absent]
    simp only [OptionMatrix.step, OptionMatrix.publish, same]
    exact ⟨⟨count, snap, held, named, money, expires, rows, aggregates⟩, rfl⟩

/-- A tick that hits a row: it publishes the block that it completes. -/
theorem follows_hit (follows : Follows underlying strikes atm expiry ticks matrix)
    {tick : OptionTick} (hit : tick.strike ∈ strikes) :
    Follows underlying strikes atm expiry (ticks ++ [tick]) (matrix.step (.option tick)) ∧
      (matrix.publish (.option tick)).map (fun snap => (snap.rows, snap.aggregates)) =
        if (ticks.length + 1) % recomputeEvery = 0 then
          [page strikes (ticks ++ [tick]) (ticks.length / recomputeEvery)]
        else [] := by
  obtain ⟨count, snap, held, named, money, expires, rows, aggregates⟩ := follows
  have present : tick.strike ∈ snap.rows.map ChainRow.strike := by
    rw [rows, strikes_rowsOf]
    exact hit
  have laid : strikes ≠ [] := List.ne_nil_of_mem hit
  have grown : (ticks ++ [tick]).length = ticks.length + 1 := List.length_append
  have updated : (snap.rows.map fun row =>
      if row.strike = tick.strike then row.update tick else row) =
        rowsOf strikes (ticks ++ [tick]) := by
    rw [rowsOf_snoc, rows]
  have earlier : aggregatesOf strikes ticks (ticks.length / recomputeEvery) =
      aggregatesOf strikes (ticks ++ [tick]) (ticks.length / recomputeEvery) :=
    (aggregatesOf_append strikes ticks [tick] (Nat.mul_div_le _ _)).symm
  simp only [OptionMatrix.step, OptionMatrix.publish, OptionMatrix.onOptionTick, held,
    if_pos present, updated, count, decide_eq_true_eq]
  by_cases due : (ticks.length + 1) % recomputeEvery = 0
  · -- the tick completes a block
    have blocks : (ticks.length + 1) / recomputeEvery = ticks.length / recomputeEvery + 1 := by
      simp only [recomputeEvery] at due ⊢
      omega
    have whole : (ticks ++ [tick]).length =
        recomputeEvery * (ticks.length / recomputeEvery + 1) := by
      rw [grown, ← blocks]
      exact (Nat.mul_div_cancel' (Nat.dvd_of_mod_eq_zero due)).symm
    have all : blockRows strikes (ticks ++ [tick]) (ticks.length / recomputeEvery + 1) =
        rowsOf strikes (ticks ++ [tick]) := by
      rw [blockRows, ← whole, List.take_length]
    have made := @recompute_block strikes (ticks ++ [tick])
      { snap with rows := rowsOf strikes (ticks ++ [tick]), timestamp := tick.timestamp }
      (ticks.length / recomputeEvery) laid rfl (aggregates.trans earlier) whole
    simp only [if_pos due, OptionMatrix.recompute, Option.map_some, made, Option.toList_some,
      List.map_singleton, page, all]
    refine ⟨⟨grown.symm, _, rfl, named, money, expires, rfl, ?_⟩, trivial⟩
    rw [grown, blocks]
  · have blocks : (ticks.length + 1) / recomputeEvery = ticks.length / recomputeEvery := by
      simp only [recomputeEvery] at due ⊢
      omega
    simp only [if_neg due, List.map_nil]
    refine ⟨⟨grown.symm, _, rfl, named, money, expires, rfl, ?_⟩, trivial⟩
    rw [grown, blocks]
    exact aggregates.trans earlier

/-- The blocks of a stream of ticks and one more. -/
theorem pages_snoc (strikes : List Rat) (ticks : List OptionTick) (tick : OptionTick) :
    (List.range ((ticks ++ [tick]).length / recomputeEvery)).map
        (page strikes (ticks ++ [tick])) =
      (List.range (ticks.length / recomputeEvery)).map (page strikes ticks) ++
        if (ticks.length + 1) % recomputeEvery = 0 then
          [page strikes (ticks ++ [tick]) (ticks.length / recomputeEvery)]
        else [] := by
  have kept : (List.range (ticks.length / recomputeEvery)).map (page strikes (ticks ++ [tick])) =
      (List.range (ticks.length / recomputeEvery)).map (page strikes ticks) := by
    apply List.map_congr_left
    intro block member
    apply page_append
    exact Nat.le_trans (Nat.mul_le_mul_left _ (List.mem_range.mp member)) (Nat.mul_div_le _ _)
  rw [List.length_append, List.length_singleton, ← kept]
  by_cases due : (ticks.length + 1) % recomputeEvery = 0
  · have blocks : (ticks.length + 1) / recomputeEvery = ticks.length / recomputeEvery + 1 := by
      simp only [recomputeEvery] at due ⊢
      omega
    rw [if_pos due, blocks, List.range_succ, List.map_append, List.map_singleton]
  · have blocks : (ticks.length + 1) / recomputeEvery = ticks.length / recomputeEvery := by
      simp only [recomputeEvery] at due ⊢
      omega
    rw [if_neg due, blocks, List.append_nil]

/-- A chain over a run of its own events. -/
theorem follows_run (start : Follows underlying strikes atm expiry [] matrix)
    {events : List Event} (mine : ∀ event ∈ events, event.key = underlying) :
    Follows underlying strikes atm expiry (hits underlying strikes events)
        (run OptionMatrix.step matrix events) ∧
      (sent OptionMatrix.step OptionMatrix.publish matrix events).map
          (fun snap => (snap.rows, snap.aggregates)) =
        (List.range ((hits underlying strikes events).length / recomputeEvery)).map
          (page strikes (hits underlying strikes events)) := by
  induction events using List.reverseRecOn with
  | nil => exact ⟨start, by simp [sent, hits, recomputeEvery]⟩
  | append_singleton events event inductionHypothesis =>
    obtain ⟨before, pages⟩ := inductionHypothesis fun earlier member =>
      mine earlier (List.mem_append_left _ member)
    have here : event.key = underlying := mine event (by simp)
    have split : hits underlying strikes (events ++ [event]) =
        hits underlying strikes events ++ hits underlying strikes [event] :=
      List.filterMap_append
    rw [run_append, sent_append, List.map_append, pages, sent, sent, List.append_nil, split]
    by_cases hit : ∃ tick, event = .option tick ∧ tick.strike ∈ strikes
    · obtain ⟨tick, rfl, hit⟩ := hit
      have added : hits underlying strikes [.option tick] = [tick] := by
        simp [hits, show tick.underlying = underlying from here, hit]
      obtain ⟨after, more⟩ := follows_hit before hit
      rw [added, more, pages_snoc]
      exact ⟨after, rfl⟩
    · have none : hits underlying strikes [event] = [] := by
        cases event with
        | index tick => rfl
        | option tick =>
          have outside : tick.strike ∉ strikes := fun inside => hit ⟨tick, rfl, inside⟩
          simp [hits, outside]
      obtain ⟨after, silent⟩ := follows_miss before
        (fun tick same inside => hit ⟨tick, same, inside⟩)
      rw [none, silent, List.append_nil, List.map_nil, List.append_nil]
      exact ⟨after, rfl⟩

end Chain

/-! ## The engine over a run -/

section Engine

variable {underlying : String}

theorem mem_publish {matrix : OptionMatrix} {event : Event} {snap : ChainSnapshot}
    (member : snap ∈ matrix.publish event) : (matrix.step event).snap = some snap := by
  cases event with
  | index tick => simp [OptionMatrix.publish] at member
  | option tick =>
    simp only [OptionMatrix.publish, OptionMatrix.step] at member ⊢
    split at member
    case isTrue due =>
      rw [if_pos due]
      exact Option.mem_toList.mp member
    case isFalse => simp at member

/-- What is published is the chain of the event's own index. -/
theorem publish_key {engine : Engine} {event : Event} {snap : ChainSnapshot}
    (member : snap ∈ publish engine event) : snap.underlying = event.key := by
  rw [publish] at member
  cases found : engine.matrices event.key with
  | none => simp [found] at member
  | some matrix =>
    rw [found] at member
    have after : (step engine event).matrices event.key = some (matrix.step event) := by
      simp [step, found]
    exact (step engine event).named _ _ _ after (mem_publish member)

/-- A matrix meets the events of its index and no others. -/
theorem engine_run {engine : Engine} {matrix : OptionMatrix}
    (found : engine.matrices underlying = some matrix) (events : List Event) :
    (run step engine events).matrices underlying = some (run OptionMatrix.step matrix
        (events.filter fun event => decide (event.key = underlying))) ∧
      (sent step publish engine events).filter (fun snap => decide (snap.underlying = underlying)) =
        sent OptionMatrix.step OptionMatrix.publish matrix
          (events.filter fun event => decide (event.key = underlying)) := by
  induction events generalizing engine matrix with
  | nil => exact ⟨found, rfl⟩
  | cons event rest inductionHypothesis =>
    rw [run_cons, sent, List.filter_append]
    by_cases mine : event.key = underlying
    · have after : (step engine event).matrices underlying = some (matrix.step event) := by
        subst mine
        simp [step, found]
      have all : (publish engine event).filter
          (fun snap => decide (snap.underlying = underlying)) = matrix.publish event := by
        rw [List.filter_eq_self.mpr fun snap member =>
          decide_eq_true ((publish_key member).trans mine), publish, mine, found]
        rfl
      obtain ⟨held, pages⟩ := inductionHypothesis after
      rw [List.filter_cons_of_pos (by simpa using mine), held, pages, all]
      exact ⟨rfl, rfl⟩
    · have after : (step engine event).matrices underlying = some matrix := by
        rw [← found]
        exact Function.update_of_ne (Ne.symm mine) _ _
      have none : (publish engine event).filter
          (fun snap => decide (snap.underlying = underlying)) = [] := by
        rw [List.filter_eq_nil_iff]
        intro snap member
        rw [publish_key member]
        simpa using mine
      obtain ⟨held, pages⟩ := inductionHypothesis after
      rw [List.filter_cons_of_neg (by simpa using mine), held, pages, none]
      exact ⟨rfl, rfl⟩

theorem hits_filter (underlying : String) (strikes : List Rat) (events : List Event) :
    hits underlying strikes (events.filter fun event => decide (event.key = underlying)) =
      hits underlying strikes events := by
  rw [hits, hits, List.filterMap_filter]
  congr 1
  funext event
  cases event with
  | index tick => simp
  | option tick => by_cases mine : tick.underlying = underlying <;> simp [Event.key, mine]

variable (cfg : Config) {engine : Engine} {spot : Rat} {expiry : CalendarDay} {now : Int}

/-- A chain that was laid out refines the ticks that hit it, over any run of the engine. -/
theorem chain_run (laid : engine.matrices underlying =
      some (OptionMatrix.initializeChain cfg underlying {} spot expiry now))
    (events : List Event) :
    ∃ matrix snap, (run step engine events).matrices underlying = some matrix ∧
      matrix.snap = some snap ∧
      snap.atmStrike = (roundHalfEven (spot / cfg.step) : Rat) * cfg.step ∧
      snap.expiry = expiry ∧
      snap.rows = rowsOf (OptionMatrix.strikes cfg spot)
        (hits underlying (OptionMatrix.strikes cfg spot) events) := by
  obtain ⟨held, _⟩ := engine_run laid events
  obtain ⟨⟨_, snap, here, _, money, expires, rows, _⟩, _⟩ :=
    follows_run (follows_layout cfg underlying spot expiry now)
      (fun event member => of_decide_eq_true (List.mem_filter.mp member).2)
  rw [hits_filter] at rows
  exact ⟨_, snap, held, here, money, expires, rows⟩

/-- A row of a chain after any run, and its spike detectors. -/
theorem spike_run (laid : engine.matrices underlying =
      some (OptionMatrix.initializeChain cfg underlying {} spot expiry now))
    (events : List Event) {strike : Rat} (known : strike ∈ OptionMatrix.strikes cfg spot)
    (side : OptType) (multiplier : Rat) :
    ∃ matrix snap row, (run step engine events).matrices underlying = some matrix ∧
      matrix.snap = some snap ∧ row ∈ snap.rows ∧ row.strike = strike ∧
      ((row.side side).spike multiplier = true ↔
        let ticks := ticksOf strike side
          (hits underlying (OptionMatrix.strikes cfg spot) events)
        5 ≤ (history ticks).length ∧ ∃ first last tick, (history ticks).head? = some first ∧
          (history ticks).getLast? = some last ∧ ticks.getLast? = some tick ∧
            |(last - first : Rat)| * multiplier <
              |(tick.changeOi : Rat)| * ((history ticks).length - 1)) := by
  obtain ⟨matrix, snap, held, here, _, _, rows⟩ := chain_run cfg laid events
  refine ⟨matrix, snap, rowOf (hits underlying (OptionMatrix.strikes cfg spot) events) strike,
    held, here, ?_, rfl, ?_⟩
  · rw [rows]
    exact List.mem_map_of_mem known
  · cases side
    · exact spike_sideOf _ multiplier
    · exact spike_sideOf _ multiplier

/-- What is published for an index is decided by the ticks that hit its chain: one page for
each ten of them, in order. -/
theorem published_exact (laid : engine.matrices underlying =
      some (OptionMatrix.initializeChain cfg underlying {} spot expiry now))
    (events : List Event) :
    ((sent step publish engine events).filter fun snap =>
        decide (snap.underlying = underlying)).map (fun snap => (snap.rows, snap.aggregates)) =
      (List.range ((hits underlying (OptionMatrix.strikes cfg spot) events).length /
          recomputeEvery)).map
        (page (OptionMatrix.strikes cfg spot)
          (hits underlying (OptionMatrix.strikes cfg spot) events)) := by
  obtain ⟨_, published⟩ := engine_run laid events
  obtain ⟨_, pages⟩ := follows_run (follows_layout cfg underlying spot expiry now)
    (fun event member => of_decide_eq_true (List.mem_filter.mp member).2)
  rw [published, pages, hits_filter]

/-- A chain of three strikes around 24500. -/
def nifty : Config := ⟨50, 1, Nat.cast_pos.mpr (Nat.succ_pos 49)⟩

theorem expiry_month : 1 ≤ 6 ∧ 6 ≤ 12 := by decide

theorem expiry_day : 1 ≤ 2 ∧ 2 ≤ CivilDates.daysInMonth 2026 6 := by decide

theorem expiry_year : 1 ≤ 2026 ∧ 2026 ≤ 9999 := by decide

def june : CalendarDay := ⟨⟨2026, 6, 2, expiry_month, expiry_day⟩, expiry_year⟩

/-- An engine that watches one index. -/
def niftyEngine : Engine where
  matrices := fun key =>
    if key = "NIFTY" then some (OptionMatrix.initializeChain nifty "NIFTY" {} 24510 june 0)
    else none
  named key matrix snap found held := by
    split at found
    case isTrue mine =>
      obtain rfl := Option.some.inj found
      obtain rfl := Option.some.inj held
      exact mine.symm
    case isFalse => cases found

/-- Ten ticks of one call. -/
def calls : List Event := List.replicate 10
  (.option ⟨"NSE_FO|40001", "NIFTY", 24500, .ce, june, 150, 149, 151, 1200, 40, 9000, 12, 0, 0,
    151⟩)

/-- They are one page. -/
theorem published_exact_nifty :
    ((sent step publish niftyEngine calls).filter
        fun snap => decide (snap.underlying = "NIFTY")).map
          (fun snap => (snap.rows, snap.aggregates)) =
      (List.range ((hits "NIFTY" (OptionMatrix.strikes nifty 24510)
          calls).length / recomputeEvery)).map
        (page (OptionMatrix.strikes nifty 24510)
          (hits "NIFTY" (OptionMatrix.strikes nifty 24510)
            calls)) :=
  @published_exact "NIFTY" nifty niftyEngine 24510 june 0 rfl calls

theorem nifty_strike : (24500 : Rat) ∈ OptionMatrix.strikes nifty 24510 := by decide +kernel

/-- The open interest of these calls stays, but their history begins with the zero of the
empty row. -/
theorem spike_run_nifty :
    ∃ matrix snap row, (run step niftyEngine calls).matrices "NIFTY" = some matrix ∧
      matrix.snap = some snap ∧ row ∈ snap.rows ∧ row.strike = 24500 ∧
      ((row.side .ce).spike 2 = true ↔
        let ticks := ticksOf 24500 .ce (hits "NIFTY" (OptionMatrix.strikes nifty 24510) calls)
        5 ≤ (history ticks).length ∧ ∃ first last tick, (history ticks).head? = some first ∧
          (history ticks).getLast? = some last ∧ ticks.getLast? = some tick ∧
            |(last - first : Rat)| * 2 <
              |(tick.changeOi : Rat)| * ((history ticks).length - 1)) :=
  @spike_run "NIFTY" nifty niftyEngine 24510 june 0 rfl calls 24500 nifty_strike .ce 2

end Engine

end OptionChain.ChainMatrix
