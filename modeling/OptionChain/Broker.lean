import Mathlib.Data.Rat.Floor

/-!
# Orders and fills

The option types and the order domain of the broker interface. Quantities are
integers and prices exact rationals. A broker call that raises is an absent
answer.
-/

namespace OptionChain.Broker

inductive OptType where
  | ce
  | pe
deriving DecidableEq

/-- `other = "PE" if side == "CE" else "CE"`. -/
def OptType.other : OptType → OptType
  | .ce => .pe
  | .pe => .ce

inductive OrderSide where
  | buy
  | sell
deriving DecidableEq

/-- The stop-loss types of the source place no order in the modelled code. -/
inductive OrderType where
  | market
  | limit
deriving DecidableEq

inductive OrderStatus where
  | pending
  | «open»
  | complete
  | cancelled
  | rejected
  | unknown
deriving DecidableEq

/-- The request handed to `place_order`, with the defaults of the source. -/
structure OrderRequest where
  brokerSymbol : String
  exchange : String
  side : OrderSide
  qty : Int
  orderType : OrderType
  price : Rat := 0
  product : String := "INTRADAY"
  tag : String := ""
  clientId : String := ""
  timeInForce : String := ""
deriving DecidableEq

/-- The fields of a status answer that the execution code reads. -/
structure OrderFill where
  qty : Int
  avgPrice : Rat
  status : OrderStatus
deriving DecidableEq

/-- A whole status answer, without the raw record. -/
structure FillReport extends OrderFill where
  orderId : String
  brokerSymbol : String
  side : OrderSide
  clientId : String := ""
deriving DecidableEq

/-- The status that a table gives to an exchange's word for it. -/
def statusIn {κ : Type} [DecidableEq κ] (table : List (κ × OrderStatus)) (word : κ) : OrderStatus :=
  (table.lookup word).getD .unknown

/-- The keyword arguments of `execute_leg`. -/
structure LegOrder where
  brokerSymbol : String
  exchange : String
  side : OrderSide
  qty : Int
  product : String
  tag : String
  clientId : String
  useLimit : Bool
  tick : Rat
deriving DecidableEq

/-- What an executor reports for one leg. -/
structure LegFill where
  filledQty : Int
  avgPrice : Rat
  orderIds : List String
  completed : Bool
deriving DecidableEq

end OptionChain.Broker
