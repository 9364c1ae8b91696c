import Mathlib.Data.List.Induction
import Mathlib.Tactic.Linarith
import Mathlib.Tactic.FieldSimp
import Mathlib.Tactic.Ring
import OptionChain.Broker
import OptionChain.Runs

/-!
# The position record of the risk manager

One record per client and symbol follows the fills of that symbol: it averages
entries on the same side, realises profit against the average on the other side,
and opens the remainder of a reversing fill afresh. Marks move only the price.

Signed quantities turn the four branches of a fill into one balance. The cash
that went in and out is the realised profit less the open quantity at its
average, and no branch changes that by more than its own cash.
-/

namespace OptionChain.RiskLedger

open Broker Runs

/-- The fields of a fill that the risk manager reads. -/
structure OrderFill extends Broker.OrderFill where
  brokerSymbol : String
  side : OrderSide
  clientId : String := ""
  tag : String := ""
deriving DecidableEq

/-- `_PositionRecord`. The empty side is no side. -/
structure PositionRecord where
  qty : Int := 0
  avgEntry : Rat := 0
  side : Option OrderSide := none
  lastPrice : Rat := 0
  unrealisedPnl : Rat := 0
  realisedPnl : Rat := 0
deriving DecidableEq

namespace PositionRecord

/-- `_compute_unrealised`. -/
def computeUnrealised (record : PositionRecord) : Rat :=
  if record.qty = 0 then 0
  else if record.side = some .buy then (record.lastPrice - record.avgEntry) * record.qty
  else (record.avgEntry - record.lastPrice) * record.qty

/-- `update_mark`. -/
def updateMark (record : PositionRecord) (price : Rat) : PositionRecord :=
  { record with
    lastPrice := price
    unrealisedPnl := computeUnrealised { record with lastPrice := price } }

/-- Adding to the position: the average is recomputed from the total cost. -/
def add (record : PositionRecord) (qty : Int) (price : Rat) : PositionRecord :=
  let totalCost := record.avgEntry * record.qty + price * qty
  let total := record.qty + qty
  { record with
    qty := total
    avgEntry := if total = 0 then 0 else totalCost / total }

/-- Reducing or reversing: close against the average, then open what is left of
the fill on its own side. -/
def reduce (record : PositionRecord) (side : OrderSide) (qty : Int) (price : Rat) :
    PositionRecord :=
  let closeQty := min qty record.qty
  let realised := record.realisedPnl +
    (if record.side = some .buy then price - record.avgEntry else record.avgEntry - price) *
      closeQty
  let remaining := record.qty - closeQty
  let closed :=
    if remaining = 0 then
      { record with realisedPnl := realised, qty := remaining, avgEntry := 0, side := none }
    else { record with realisedPnl := realised, qty := remaining }
  if closeQty < qty then
    { closed with qty := qty - closeQty, avgEntry := price, side := some side }
  else closed

/-- `apply_fill`. -/
def applyFill (record : PositionRecord) (fill : OrderFill) : PositionRecord :=
  let booked :=
    if record.qty = 0 then
      { record with qty := fill.qty, avgEntry := fill.avgPrice, side := some fill.side }
    else if some fill.side = record.side then record.add fill.qty fill.avgPrice
    else record.reduce fill.side fill.qty fill.avgPrice
  booked.updateMark fill.avgPrice

end PositionRecord

/-- What a record sees: a fill of its symbol, or a mark from reconciliation. -/
inductive PriceEvent where
  | fill (fill : OrderFill)
  | mark (price : Rat)
deriving DecidableEq

def handle (record : PositionRecord) : PriceEvent → PositionRecord
  | .fill fill => record.applyFill fill
  | .mark price => record.updateMark price

/-- The record after a history, from the empty record. -/
def recordAfter (events : List PriceEvent) : PositionRecord := run handle {} events

section History

variable (side : OrderSide) (events : List PriceEvent)

/-- Price times quantity over the fills of one side. -/
def sideValue : Rat :=
  (events.map (fun
    | .fill fill => if fill.side = side then fill.avgPrice * fill.qty else 0
    | .mark _ => 0)).sum

/-- The quantity filled on one side. -/
def sideQty : Int :=
  (events.map (fun
    | .fill fill => if fill.side = side then fill.qty else 0
    | .mark _ => 0)).sum

/-- The signed open quantity: bought less sold. -/
def netQty : Int := sideQty .buy events - sideQty .sell events

/-- The price of the last fill or mark. -/
def lastPrice : Rat :=
  match events.getLast? with
  | none => 0
  | some (.fill fill) => fill.avgPrice
  | some (.mark price) => price

end History

/-- Every fill of the history has a positive quantity. -/
def PositiveFills (events : List PriceEvent) : Prop :=
  ∀ fill, PriceEvent.fill fill ∈ events → 0 < fill.qty

/-- The side that names the sign of a quantity. -/
def signSide (qty : Int) : Option OrderSide :=
  if 0 < qty then some .buy else if qty < 0 then some .sell else none

/-- The quantity that a fill adds to a signed position. -/
def signedFill (side : OrderSide) (qty : Int) : Int :=
  match side with
  | .buy => qty
  | .sell => -qty

namespace PositionRecord

/-- The open quantity with the sign of its side. -/
def signedQty (record : PositionRecord) : Int :=
  match record.side with
  | none => 0
  | some side => signedFill side record.qty

/-- The realised profit less the open quantity at its average. -/
def cash (record : PositionRecord) : Rat :=
  record.realisedPnl - record.signedQty * record.avgEntry

/-- A record is flat without a side, or open on one. -/
structure Sided (record : PositionRecord) : Prop where
  flat : record.side = none → record.qty = 0
  opened : record.side ≠ none → 0 < record.qty

end PositionRecord

open PositionRecord

/-- What a fill or a mark does to the balance of a record. -/
structure Booked (record after : PositionRecord) (qty : Int) (price : Rat) : Prop where
  sided : after.Sided
  signedQty : after.signedQty = record.signedQty + qty
  cash : after.cash = record.cash - qty * price

/-- A mark changes neither the position nor its cash. -/
theorem updateMark_booked {record after : PositionRecord} {qty : Int} {price : Rat}
    (booked : Booked record after qty price) (mark : Rat) :
    Booked record (after.updateMark mark) qty price :=
  ⟨⟨booked.sided.flat, booked.sided.opened⟩, booked.signedQty, booked.cash⟩

theorem add_booked (record : PositionRecord) (side : OrderSide) (here : record.side = some side)
    (sided : record.Sided) (qty : Int) (price : Rat) (positive : 0 < qty) :
    Booked record (record.add qty price) (signedFill side qty) price := by
  have held : 0 < record.qty := sided.opened (by simp [here])
  have total : record.qty + qty ≠ 0 := by omega
  have cost : ((record.qty : Rat) + qty) * ((record.avgEntry * record.qty + price * qty) /
      (record.qty + qty)) = record.avgEntry * record.qty + price * qty := by
    have nonzero : (record.qty : Rat) + qty ≠ 0 := by exact_mod_cast total
    field_simp
  refine ⟨⟨?_, ?_⟩, ?_, ?_⟩
  · intro none
    simp [add, here] at none
  · intro _
    simp only [add]
    omega
  · cases side with
    | buy => simp [signedQty, add, here, signedFill]
    | sell =>
      simp only [signedQty, add, here, signedFill]
      omega
  · cases side with
    | buy =>
      simp only [PositionRecord.cash, signedQty, add, here, signedFill, if_neg total, Int.cast_add]
      linarith
    | sell =>
      simp only [PositionRecord.cash, signedQty, add, here, signedFill, if_neg total, Int.cast_add,
        Int.cast_neg]
      linarith

section Reduce

variable (record : PositionRecord) (side : OrderSide) {qty : Int} (price : Rat)

/-- The profit per unit against the average. -/
def pointsAgainst (record : PositionRecord) (price : Rat) : Rat :=
  if record.side = some .buy then price - record.avgEntry else record.avgEntry - price

/-- A smaller fill leaves the side and the average. -/
theorem reduce_part (part : qty < record.qty) :
    record.reduce side qty price =
      { record with
        qty := record.qty - qty
        realisedPnl := record.realisedPnl + pointsAgainst record price * qty } := by
  have close : min qty record.qty = qty := by omega
  have remaining : record.qty - qty ≠ 0 := by omega
  simp [reduce, close, remaining, pointsAgainst]

/-- A fill of the whole quantity closes the position. -/
theorem reduce_whole (whole : qty = record.qty) :
    record.reduce side qty price =
      { record with
        qty := 0
        avgEntry := 0
        side := none
        realisedPnl := record.realisedPnl + pointsAgainst record price * record.qty } := by
  simp [reduce, whole, pointsAgainst]

/-- What is left of a larger fill opens the other side. -/
theorem reduce_reverse (reverse : record.qty < qty) :
    record.reduce side qty price =
      { record with
        qty := qty - record.qty
        avgEntry := price
        side := some side
        realisedPnl := record.realisedPnl + pointsAgainst record price * record.qty } := by
  have close : min qty record.qty = record.qty := by omega
  simp [reduce, close, reverse, pointsAgainst]

end Reduce

/-- A reducing fill closes against the average and opens its remainder at its own
price, so both parts take exactly their cash. -/
theorem reduce_booked (record : PositionRecord) (side : OrderSide)
    (opened : record.side ≠ none) (opposite : record.side ≠ some side) (qty : Int) (price : Rat) :
    Booked record (record.reduce side qty price) (signedFill side qty) price := by
  obtain ⟨own, here⟩ := Option.ne_none_iff_exists'.mp opened
  have differs : own ≠ side := fun same => opposite (same ▸ here)
  rcases Int.lt_trichotomy qty record.qty with part | whole | reverse
  · rw [reduce_part record side price part]
    refine ⟨⟨fun none => absurd none opened, fun _ => by simp only; omega⟩, ?_, ?_⟩
    · cases own <;> cases side <;> simp_all [signedQty, signedFill] <;> omega
    · cases own <;> cases side <;>
        simp_all [PositionRecord.cash, signedQty, signedFill, pointsAgainst] <;> ring
  · rw [reduce_whole record side price whole]
    refine ⟨⟨fun _ => rfl, fun sided => absurd rfl sided⟩, ?_, ?_⟩
    · cases own <;> cases side <;> simp_all [signedQty, signedFill]
    · cases own <;> cases side <;>
        simp_all [PositionRecord.cash, signedQty, signedFill, pointsAgainst] <;> ring
  · rw [reduce_reverse record side price reverse]
    refine ⟨⟨fun none => by simp at none, fun _ => by simp only; omega⟩, ?_, ?_⟩
    · cases own <;> cases side <;> simp_all [signedQty, signedFill] <;> omega
    · cases own <;> cases side <;>
        simp_all [PositionRecord.cash, signedQty, signedFill, pointsAgainst] <;> ring

/-- A fill of positive quantity books exactly its own quantity and cash. -/
theorem applyFill_booked (record : PositionRecord) (sided : record.Sided) (fill : OrderFill)
    (positive : 0 < fill.qty) :
    Booked record (record.applyFill fill) (signedFill fill.side fill.qty) fill.avgPrice := by
  unfold applyFill
  apply updateMark_booked
  by_cases flat : record.qty = 0
  · have sideless : record.side = none := by
      by_contra opened
      have := sided.opened opened
      omega
    rw [if_pos flat]
    refine ⟨⟨fun none => by simp at none, fun _ => positive⟩, ?_, ?_⟩
    · simp [signedQty, sideless]
    · simp [PositionRecord.cash, signedQty, sideless]
  · have opened : record.side ≠ none := fun none => flat (sided.flat none)
    rw [if_neg flat]
    by_cases same : some fill.side = record.side
    · rw [if_pos same]
      exact add_booked record fill.side same.symm sided fill.qty fill.avgPrice positive
    · rw [if_neg same]
      exact reduce_booked record fill.side opened (Ne.symm same) fill.qty fill.avgPrice

/-- The open profit is the signed quantity at its distance from the average. -/
theorem computeUnrealised_eq (record : PositionRecord) (sided : record.Sided) :
    record.computeUnrealised = record.signedQty * (record.lastPrice - record.avgEntry) := by
  unfold computeUnrealised signedQty
  by_cases flat : record.qty = 0
  · rw [if_pos flat]
    cases record.side with
    | none => simp
    | some side => cases side <;> simp [signedFill, flat]
  · rw [if_neg flat]
    cases here : record.side with
    | none => exact absurd (sided.flat here) flat
    | some side =>
      cases side with
      | buy =>
        simp only [signedFill, if_true]
        ring
      | sell =>
        simp [signedFill]
        ring

/-- The books of a record against its history. -/
structure Accounts (record : PositionRecord) (events : List PriceEvent) : Prop where
  sided : record.Sided
  net : record.signedQty = netQty events
  cash : record.cash = sideValue .sell events - sideValue .buy events
  marked : record.unrealisedPnl = record.computeUnrealised
  price : record.lastPrice = lastPrice events

section Snoc

variable (events : List PriceEvent) (fill : OrderFill)

theorem netQty_fill : netQty (events ++ [.fill fill]) =
    netQty events + signedFill fill.side fill.qty := by
  cases side : fill.side <;> simp [netQty, sideQty, side, signedFill] <;> omega

theorem value_fill :
    sideValue .sell (events ++ [.fill fill]) - sideValue .buy (events ++ [.fill fill]) =
      sideValue .sell events - sideValue .buy events -
        signedFill fill.side fill.qty * fill.avgPrice := by
  cases side : fill.side <;> simp [sideValue, side, signedFill] <;> ring

end Snoc

/-- One more event keeps the books. -/
theorem handle_accounts (record : PositionRecord) (events : List PriceEvent) (event : PriceEvent)
    (accounts : Accounts record events) (positive : ∀ fill, event = .fill fill → 0 < fill.qty) :
    Accounts (handle record event) (events ++ [event]) := by
  cases event with
  | fill fill =>
    have booked := applyFill_booked record accounts.sided fill (positive fill rfl)
    refine ⟨booked.sided, ?_, ?_, rfl, ?_⟩
    · rw [handle, booked.signedQty, accounts.net, netQty_fill]
    · rw [handle, booked.cash, accounts.cash, value_fill]
    · simp [handle, applyFill, updateMark, lastPrice]
  | mark price =>
    have kept : Booked record (record.updateMark price) 0 0 :=
      updateMark_booked ⟨accounts.sided, by simp, by simp⟩ price
    refine ⟨kept.sided, ?_, ?_, rfl, ?_⟩
    · simpa [handle, netQty, sideQty, kept.signedQty] using accounts.net
    · simpa [handle, sideValue, kept.cash] using accounts.cash
    · simp [handle, updateMark, lastPrice]

/-- The books agree with every history of positive fills. -/
theorem recordAfter_accounts (events : List PriceEvent) (positive : PositiveFills events) :
    Accounts (recordAfter events) events := by
  induction events using List.reverseRecOn with
  | nil =>
    refine ⟨⟨fun _ => rfl, fun opened => absurd rfl opened⟩, rfl, ?_, rfl, rfl⟩
    simp [recordAfter, PositionRecord.cash, signedQty, sideValue]
  | append_singleton events event inductionHypothesis =>
    have earlier : PositiveFills events := fun fill inside =>
      positive fill (List.mem_append_left _ inside)
    have last : ∀ fill, event = .fill fill → 0 < fill.qty := fun fill same =>
      positive fill (by simp [same])
    have step :=
      handle_accounts (recordAfter events) events event (inductionHypothesis earlier) last
    simpa [recordAfter] using step

/-- Quantity and side of a sided record are read off its signed quantity. -/
theorem side_of_signedQty (record : PositionRecord) (sided : record.Sided) :
    record.qty = |record.signedQty| ∧ record.side = signSide record.signedQty := by
  cases here : record.side with
  | none => simp [signedQty, here, signSide, sided.flat here]
  | some side =>
    have held : 0 < record.qty := sided.opened (by simp [here])
    cases side with
    | buy => simp [signedQty, here, signedFill, signSide, held, abs_of_pos held]
    | sell =>
      have short : ¬ record.qty < 0 := by omega
      simp [signedQty, here, signedFill, signSide, held, short, abs_of_pos held]

/-- The profit of a record is its cash and its open quantity at the last price. -/
theorem fill_accounting_identity (events : List PriceEvent) (positive : PositiveFills events) :
    (recordAfter events).realisedPnl + (recordAfter events).unrealisedPnl =
        sideValue .sell events - sideValue .buy events +
          netQty events * (recordAfter events).lastPrice ∧
      (recordAfter events).lastPrice = lastPrice events ∧
      (recordAfter events).qty = |netQty events| ∧
      (recordAfter events).side = signSide (netQty events) ∧
      ((recordAfter events).side = none ↔ (recordAfter events).qty = 0) := by
  have accounts := recordAfter_accounts events positive
  have shape := side_of_signedQty _ accounts.sided
  have cash := accounts.cash
  rw [accounts.net] at shape
  refine ⟨?_, accounts.price, shape.1, shape.2, accounts.sided.flat, ?_⟩
  · rw [accounts.marked, computeUnrealised_eq _ accounts.sided, accounts.net]
    rw [PositionRecord.cash, accounts.net] at cash
    linarith
  · intro flat
    by_contra opened
    have held := accounts.sided.opened opened
    omega

/-- A long of three closed and reversed by a sale of five. -/
def reversal : List PriceEvent :=
  [.fill ⟨⟨3, 100, .complete⟩, "X", .buy, "", ""⟩, .fill ⟨⟨5, 110, .complete⟩, "X", .sell, "", ""⟩,
    .mark 104]

theorem reversal_accounting :
    (recordAfter reversal).realisedPnl + (recordAfter reversal).unrealisedPnl =
        sideValue .sell reversal - sideValue .buy reversal +
          netQty reversal * (recordAfter reversal).lastPrice ∧
      netQty reversal = -2 :=
  ⟨(fill_accounting_identity reversal (by
    intro fill inside
    simp only [reversal, List.mem_cons, PriceEvent.fill.injEq, List.not_mem_nil, reduceCtorEq,
      or_false] at inside
    rcases inside with first | second
    · simp [first]
    · simp [second])).1, by decide⟩

end OptionChain.RiskLedger
