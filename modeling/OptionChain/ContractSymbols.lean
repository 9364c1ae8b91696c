import Mathlib.Order.Fin.Basic
import OptionChain.Broker
import OptionChain.CivilDates
import OptionChain.FrontContracts

/-!
# Option symbols

A contract is named differently at every broker. The names are built from the
neutral symbol, or looked up in the instrument registry; a crypto option is named by
its daily contract, whatever the registry lists.

The order event carries no expiry. It is resolved when the order is placed, from the
clock: the first listed expiry that is not past, or the daily contract that trades.
-/

namespace OptionChain.ContractSymbols

open Broker CivilDates FrontContracts

/-- A moment in IST: the date, and the microseconds of the day. -/
abbrev Moment := Date ×ₗ Fin 86400000000

def Moment.date (moment : Moment) : Date := (ofLex moment).1

structure InternalSymbol where
  underlying : String
  strike : Int
  optionType : OptType
  expiry : Date
deriving DecidableEq

/-- The loaded contracts. An absent Upstox key is the empty text. -/
structure InstrumentRegistry where
  allExpiries : String → List Date
  sorted : ∀ underlying, (allExpiries underlying).Pairwise (· < ·)
  getUpstoxKey : String → Date → Int → OptType → String

section Texts

def typeText : OptType → String
  | .ce => "CE"
  | .pe => "PE"

/-- `to_short_type`. -/
def toShortType : OptType → String
  | .ce => "C"
  | .pe => "P"

/-- Two digits, as `%d`, `%m` and `%y` print them. -/
def twoDigits (number : Nat) : String :=
  if number % 100 < 10 then "0" ++ toString (number % 100) else toString (number % 100)

def months : List String :=
  ["JAN", "FEB", "MAR", "APR", "MAY", "JUN", "JUL", "AUG", "SEP", "OCT", "NOV", "DEC"]

/-- `_MONTH_3`. -/
def monthName (date : Date) : String := months.getD (date.month - 1) ""

/-- `_FYERS_MONTH_CODE`. -/
def monthCode (date : Date) : String :=
  if date.month = 10 then "O" else if date.month = 11 then "N" else if date.month = 12 then "D"
  else toString date.month

end Texts

namespace InternalSymbol

variable (symbol : InternalSymbol)

/-- `__str__`. -/
def text : String :=
  symbol.underlying ++ ":" ++ twoDigits symbol.expiry.day ++ monthName symbol.expiry ++
    twoDigits symbol.expiry.year ++ ":" ++ toString symbol.strike ++ ":" ++
    typeText symbol.optionType

/-- `to_delta_symbol`. -/
def toDeltaSymbol : String :=
  toShortType symbol.optionType ++ "-" ++ symbol.underlying.toUpper ++ "-" ++
    toString symbol.strike ++ "-" ++ twoDigits symbol.expiry.day ++
    twoDigits symbol.expiry.month ++ twoDigits symbol.expiry.year

/-- The name without an exchange that Fyers and Zerodha share: a month for a monthly
contract, a month code and a day for a weekly one. -/
def toZerodha (isMonthly : Bool) : String :=
  if isMonthly then
    symbol.underlying ++ twoDigits symbol.expiry.year ++ monthName symbol.expiry ++
      toString symbol.strike ++ typeText symbol.optionType
  else
    symbol.underlying ++ twoDigits symbol.expiry.year ++ monthCode symbol.expiry ++
      twoDigits symbol.expiry.day ++ toString symbol.strike ++ typeText symbol.optionType

def toFyers (isMonthly : Bool) : String :=
  (if symbol.underlying = "SENSEX" then "BSE" else "NSE") ++ ":" ++ symbol.toZerodha isMonthly

def toAngelone : String :=
  symbol.underlying ++ twoDigits symbol.expiry.day ++ monthName symbol.expiry ++
    twoDigits symbol.expiry.year ++ toString symbol.strike ++ typeText symbol.optionType

/-- The constructed name, for a contract without a registered key. -/
def toUpstox : String :=
  (if symbol.underlying = "SENSEX" then "BSE_FO" else "NSE_FO") ++ "|" ++ symbol.toZerodha false

end InternalSymbol

namespace InstrumentRegistry

variable (registry : InstrumentRegistry)

/-- `is_monthly_expiry`: the next listed expiry is in another month. The last listed
one counts as monthly, an unlisted one is judged by the date a week later. -/
def isMonthlyExpiry (expiry : Date) (underlying : String) : Bool :=
  let allExp := registry.allExpiries underlying
  match allExp.idxOf? expiry with
  | some idx =>
      match allExp[idx + 1]? with
      | some nextExp => decide (nextExp.month ≠ expiry.month)
      | none => true
  | none => decide ((expiry.addDays 7).month ≠ expiry.month)

def mcxUnderlyings : List String := ["CRUDEOIL", "CRUDEOILM", "NATURALGAS", "GOLD", "SILVER"]

/-- The MCX branch of `get_broker_symbol`. -/
def getMcxSymbol (symbol : InternalSymbol) (p : String) : String :=
  let core := symbol.underlying.toUpper ++ twoDigits symbol.expiry.year ++
    monthName symbol.expiry ++ toString symbol.strike ++ typeText symbol.optionType
  if p = "fyers" then "MCX:" ++ core
  else if p = "upstox" then
    registry.getUpstoxKey symbol.underlying.toUpper symbol.expiry symbol.strike symbol.optionType
  else core

def getBrokerSymbol (symbol : InternalSymbol) (provider : String) : String :=
  let p := provider.toLower
  if symbol.underlying.toUpper ∈ mcxUnderlyings then registry.getMcxSymbol symbol p
  else if p = "upstox" then
    let key :=
      registry.getUpstoxKey symbol.underlying symbol.expiry symbol.strike symbol.optionType
    if key ≠ "" then key else symbol.toUpstox
  else if p = "fyers" then
    symbol.toFyers (registry.isMonthlyExpiry symbol.expiry symbol.underlying)
  else if p = "angelone" then symbol.toAngelone
  else if p = "zerodha" then
    symbol.toZerodha (registry.isMonthlyExpiry symbol.expiry symbol.underlying)
  else symbol.text

end InstrumentRegistry

def orderExchange (underlying : String) : String :=
  let u := underlying.toUpper
  if u ∈ ["BTC", "ETH"] then "DELTA"
  else if u ∈ InstrumentRegistry.mcxUnderlyings then "MCX"
  else if u = "SENSEX" then "BFO"
  else "NFO"

/-- `DELTA_DAILY_EXPIRY_IST`. -/
def dailyExpiry : Fin 86400000000 := ⟨(17 * 60 + 30) * 60 * 1000000, by decide⟩

/-- Before 17:30 today's contract, afterwards tomorrow's. -/
def activeDailyExpiry (now : Moment) : Date := daily dailyExpiry now

section Resolve

variable (registry : InstrumentRegistry) (provider underlying : String)

/-- The crypto branch of `_resolve_option_symbol`. -/
def isDelta : Bool :=
  decide (orderExchange underlying = "DELTA") || decide (provider.toLower = "delta")

/-- The expiry that `_live_fill` takes from the registry. -/
def registryExpiry (now : Moment) : Date :=
  firstListed (registry.allExpiries underlying) now.date

/-- The contract that a leg is resolved to. -/
def resolveContract (now : Moment) (strike : Int) (optType : OptType) : InternalSymbol :=
  if isDelta provider underlying then
    ⟨underlying.toUpper, strike, optType, activeDailyExpiry now⟩
  else ⟨underlying, strike, optType, registryExpiry registry underlying now⟩

/-- `_resolve_option_symbol`, with the expiry that `_live_fill` hands to it. -/
def resolveOptionSymbol (now : Moment) (strike : Int) (optType : OptType) : String :=
  let contract := resolveContract registry provider underlying now strike optType
  if isDelta provider underlying then contract.toDeltaSymbol
  else registry.getBrokerSymbol contract provider

/-- The resolved expiry has not been replaced between the two moments. -/
def ExpiryKept (entered exited : Moment) : Prop :=
  if isDelta provider underlying then DailyKept dailyExpiry entered exited
  else CalendarKept (registry.allExpiries underlying) entered.date exited.date

theorem date_mono {entered exited : Moment} (order : entered ≤ exited) :
    entered.date ≤ exited.date := Prod.Lex.monotone_fst entered exited order

/-- At two moments a leg is resolved to one contract exactly if its expiry is kept. -/
theorem resolveContract_eq_iff {entered exited : Moment} (order : entered ≤ exited)
    (strike : Int) (optType : OptType) :
    resolveContract registry provider underlying exited strike optType =
        resolveContract registry provider underlying entered strike optType ↔
      ExpiryKept registry provider underlying entered exited := by
  unfold resolveContract ExpiryKept
  split
  · simp only [InternalSymbol.mk.injEq, true_and, activeDailyExpiry]
    exact daily_eq_iff dailyExpiry order
  · simp only [InternalSymbol.mk.injEq, true_and, registryExpiry]
    exact firstListed_eq_iff (registry.sorted underlying) (date_mono order)

/-- One contract has one name at a broker. -/
theorem resolveOptionSymbol_eq {entered exited : Moment} {strike : Int} {optType : OptType}
    (same : resolveContract registry provider underlying exited strike optType =
      resolveContract registry provider underlying entered strike optType) :
    resolveOptionSymbol registry provider underlying exited strike optType =
      resolveOptionSymbol registry provider underlying entered strike optType := by
  unfold resolveOptionSymbol
  rw [same]

end Resolve

end OptionChain.ContractSymbols
