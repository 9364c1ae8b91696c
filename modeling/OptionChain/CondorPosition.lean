import OptionChain.Broker

/-!
# The iron condor position

Four legs, the credit they were opened for, and what earlier adjustments have
realised. The position is saved as a dictionary beside the day and the product
type of the save; a file of an earlier day is given back only for a product that
is carried overnight.

The credit is always the sum over the entry prices of the legs, which is a field
of the record. Close times and fill times are left out, no modelled function
reads them.
-/

namespace OptionChain.CondorPosition

open Broker

/-- A calendar day, counted from a fixed one. -/
abbrev Day := Int

structure IronCondorLeg where
  side : OrderSide
  optionType : OptType
  strike : Rat
  entryPrice : Rat
  ltp : Rat := 0
  filled : Bool := false
deriving DecidableEq

/-- The status text "adjusting" is never assigned. -/
inductive PositionStatus where
  | «open»
  | closed
  | broken
deriving DecidableEq

/-- The credit of four legs at their entry prices. -/
def entryCredit (shortCe shortPe longCe longPe : IronCondorLeg) : Rat :=
  (shortCe.entryPrice + shortPe.entryPrice) - (longCe.entryPrice + longPe.entryPrice)

structure IronCondorPosition where
  underlying : String
  expiry : Day
  atmAtEntry : Rat
  tradeId : String
  shortCe : IronCondorLeg
  shortPe : IronCondorLeg
  longCe : IronCondorLeg
  longPe : IronCondorLeg
  netCredit : Rat
  cumulativeAdjPnl : Rat := 0
  openTime : Option Rat := none
  status : PositionStatus := .open
  adjCountCe : Nat := 0
  adjCountPe : Nat := 0
  originalDiff : Rat := 300
  wingPts : Rat := 150
  profitTargetRs : Rat := 5000
  slRs : Rat := 2000
  maxAdj : Int := 4
  lotSize : Int := 65
  credited : netCredit = entryCredit shortCe shortPe longCe longPe
deriving DecidableEq

section Legs

variable (pos : IronCondorPosition)

/-- The short leg of a side. -/
def IronCondorPosition.short : OptType → IronCondorLeg
  | .ce => pos.shortCe
  | .pe => pos.shortPe

/-- The hedge of a side. -/
def IronCondorPosition.long : OptType → IronCondorLeg
  | .ce => pos.longCe
  | .pe => pos.longPe

/-- The adjustments made on a side. -/
def IronCondorPosition.adjCount : OptType → Nat
  | .ce => pos.adjCountCe
  | .pe => pos.adjCountPe

/-- What closing all legs costs at their last prices. -/
def IronCondorPosition.closeCost : Rat :=
  (pos.shortCe.ltp + pos.shortPe.ltp) - (pos.longCe.ltp + pos.longPe.ltp)

/-- `total_pnl_pts`. -/
def IronCondorPosition.totalPnlPts : Rat :=
  (pos.netCredit - pos.closeCost) + pos.cumulativeAdjPnl

/-- `total_pnl_rs`. -/
def IronCondorPosition.totalPnlRs : Rat := pos.totalPnlPts * pos.lotSize

end Legs

/-- The dictionary that `to_dict` writes. -/
structure Snapshot where
  underlying : String
  expiry : Option Day
  atmAtEntry : Rat
  tradeId : String
  shortCe : IronCondorLeg
  shortPe : IronCondorLeg
  longCe : IronCondorLeg
  longPe : IronCondorLeg
  netCredit : Rat
  cumulativeAdjPnl : Rat
  openTime : Option Rat
  status : PositionStatus
  adjCountCe : Nat
  adjCountPe : Nat
  originalDiff : Rat
  wingPts : Rat
  profitTargetRs : Rat
  slRs : Rat
  maxAdj : Int
  lotSize : Int
  credited : netCredit = entryCredit shortCe shortPe longCe longPe
deriving DecidableEq

/-- `to_dict`. -/
def IronCondorPosition.toDict (pos : IronCondorPosition) : Snapshot :=
  { underlying := pos.underlying, expiry := some pos.expiry, atmAtEntry := pos.atmAtEntry
    tradeId := pos.tradeId, shortCe := pos.shortCe, shortPe := pos.shortPe
    longCe := pos.longCe, longPe := pos.longPe, netCredit := pos.netCredit
    cumulativeAdjPnl := pos.cumulativeAdjPnl, openTime := pos.openTime, status := pos.status
    adjCountCe := pos.adjCountCe, adjCountPe := pos.adjCountPe
    originalDiff := pos.originalDiff, wingPts := pos.wingPts
    profitTargetRs := pos.profitTargetRs, slRs := pos.slRs, maxAdj := pos.maxAdj
    lotSize := pos.lotSize, credited := pos.credited }

/-- `from_dict`: a snapshot without an expiry takes today's. -/
def Snapshot.fromDict (today : Day) (saved : Snapshot) : IronCondorPosition :=
  { underlying := saved.underlying, expiry := saved.expiry.getD today
    atmAtEntry := saved.atmAtEntry, tradeId := saved.tradeId
    shortCe := saved.shortCe, shortPe := saved.shortPe, longCe := saved.longCe
    longPe := saved.longPe, netCredit := saved.netCredit
    cumulativeAdjPnl := saved.cumulativeAdjPnl, openTime := saved.openTime
    status := saved.status, adjCountCe := saved.adjCountCe, adjCountPe := saved.adjCountPe
    originalDiff := saved.originalDiff, wingPts := saved.wingPts
    profitTargetRs := saved.profitTargetRs, slRs := saved.slRs, maxAdj := saved.maxAdj
    lotSize := saved.lotSize, credited := saved.credited }

/-- Every field that the dictionary holds comes back. -/
@[simp] theorem fromDict_toDict (today : Day) (pos : IronCondorPosition) :
    pos.toDict.fromDict today = pos := rfl

/-- The stored file. -/
structure StoredFile where
  date : Day
  productType : String
  position : Snapshot
deriving DecidableEq

/-- `position_store.load`: an intraday position of another day is discarded. -/
def load (today : Day) (file : Option StoredFile) : Option Snapshot :=
  match file with
  | none => none
  | some file =>
      if file.productType = "MIS" ∧ file.date ≠ today then none
      else some file.position

/-- A file of today is given back whatever its product. -/
theorem load_today (file : StoredFile) : load file.date (some file) = some file.position := by
  simp [load]

/-- The stored position, loaded on the day it was saved. -/
def reloaded (stored : Option StoredFile) : Option IronCondorPosition :=
  stored.bind (fun file => (load file.date (some file)).map (Snapshot.fromDict file.date))

/-- A saved position comes back. -/
@[simp] theorem reloaded_saved (day : Day) (product : String)
    (pos : IronCondorPosition) :
    reloaded (some ⟨day, product, pos.toDict⟩) = some pos := by
  simp [reloaded, load_today]

end OptionChain.CondorPosition
