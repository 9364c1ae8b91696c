import OptionChain.Broker
import OptionChain.CivilDates

/-!
# The ticks on the event bus

`IndexTick` and `OptionTick` as the feeders publish them. A price is a finite float, here
the number it stands for; a timestamp is the wall clock in India in microseconds.
-/

namespace OptionChain.Ticks

open Broker CivilDates

/-- A date of the language, whose years have at most four digits. -/
structure CalendarDay extends Date where
  fourDigits : 1 ≤ year ∧ year ≤ 9999
deriving DecidableEq

structure IndexTick where
  symbol : String
  ltp : Rat
  opening : Rat
  high : Rat
  low : Rat
  close : Rat
  volume : Int
  timestamp : Int
deriving DecidableEq

/-- `atp` is the exchange's average traded price, the broker's VWAP; left out it is 0. -/
structure OptionTick where
  symbol : String
  underlying : String
  strike : Rat
  optionType : OptType
  expiry : CalendarDay
  ltp : Rat
  bid : Rat
  ask : Rat
  oi : Int
  changeOi : Int
  volume : Int
  iv : Rat
  delta : Rat
  timestamp : Int
  atp : Rat
deriving DecidableEq

end OptionChain.Ticks
