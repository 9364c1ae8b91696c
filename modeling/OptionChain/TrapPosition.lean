import OptionChain.Broker
import OptionChain.Rounding

/-!
# The recorded position of a trap book

One book trades one option position at a time: an entry records it, ticks and the
end of the day close it. The record keeps the split of its quantity as part of
its type, so no handler has to be trusted with it: half of the lots leave at T1,
and what remains is decided by whether T1 was hit.

Fields that no modelled function reads (keys, labels, time texts) are left out.
-/

namespace OptionChain.TrapPosition

open Broker Rounding

/-- The tracked instruments: near and far calls, near and far puts, the future. -/
inductive Leg where
  | ce1
  | ce2
  | pe1
  | pe2
  | fut
deriving DecidableEq

/-- `htf_source`: the bars in which zones are scanned. -/
inductive HtfSource where
  | option
  | spot
  | futures
deriving DecidableEq

/-- The fields of a zone dictionary that survive into a position. -/
structure HtfZone where
  refTs : Int
  zoneHigh : Rat
  zoneLow : Rat
  sl : Rat
  kind : String := "BEAR"
deriving DecidableEq

/-- The parts of the identifier text of a zone. -/
structure ZoneUid where
  refTs : Int
  zoneHigh : Rat
  kind : String
deriving DecidableEq

/-- `_zone_uid`; the upper bound is printed with two decimals. -/
def zoneUid (e : HtfZone) : ZoneUid := ⟨e.refTs, roundTo 2 e.zoneHigh, e.kind⟩

/-- The position dictionary. `side` and `opt_type` of the source are one field. -/
structure Position where
  leg : Leg
  optType : OptType
  strike : Int
  spotAtEntry : Rat
  entryPrice : Rat
  slPrice : Rat
  trailSl : Rat
  t1Price : Rat
  totalQty : Int
  t1Qty : Int
  remainingQty : Int
  t1Hit : Bool := false
  orderIdEntry : String
  orderIdT1 : Option String := none
  htfZone : HtfZone
  floorLocked : Bool := false
  t1RealisedPnl : Rat := 0
  counted : 0 ≤ totalQty
  halved : t1Qty = totalQty / 2
  balanced : remainingQty = if t1Hit then totalQty - t1Qty else totalQty
deriving DecidableEq

/-- The two quantities that can be left: everything, or the larger half. -/
theorem Position.remaining_cases (pos : Position) :
    pos.remainingQty = pos.totalQty ∨ pos.remainingQty = pos.totalQty - pos.totalQty / 2 := by
  have split := pos.balanced
  rw [pos.halved] at split
  cases hit : pos.t1Hit with
  | false => left; simpa [hit] using split
  | true => right; simpa [hit] using split

/-- Something is left to sell as long as something was bought. -/
theorem Position.remaining_pos_iff (pos : Position) : 0 < pos.remainingQty ↔ 0 < pos.totalQty := by
  have counted := pos.counted
  obtain left | left := pos.remaining_cases <;> omega

theorem Position.remaining_nonneg (pos : Position) : 0 ≤ pos.remainingQty := by
  have counted := pos.counted
  obtain left | left := pos.remaining_cases <;> omega

/-- T1: its half leaves the remainder, the stop moves to the spot of the entry. -/
def Position.takeT1 (pos : Position) (whole : pos.t1Hit = false) : Position :=
  { pos with
    t1Hit := true
    remainingQty := pos.remainingQty - pos.t1Qty
    trailSl := pos.spotAtEntry
    balanced := by simp [pos.balanced, whole] }

def optTypeText : OptType → String
  | .ce => "CE"
  | .pe => "PE"

/-- `_build_broker_symbol`. -/
def buildBrokerSymbol (und expiry : String) (strike : Int) (optType : OptType) : String :=
  und ++ expiry ++ toString strike ++ optTypeText optType

end OptionChain.TrapPosition
