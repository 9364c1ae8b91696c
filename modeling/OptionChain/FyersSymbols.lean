import OptionChain.ContractSymbols
import OptionChain.Patterns

/-!
# Fyers option symbols

A symbol is written by `get_broker_symbol`, or from the contract's Upstox key by the
Fyers feeder, and read back for every frame of the feed. An index symbol carries a
month and a day, or only the month when the expiry is the last one loaded for its
month; the reader then takes the last loaded expiry of the month. A commodity symbol
carries only the month; its reader ignores it and takes the front expiry of the day.
A strike is a float in the source and an integer here: up to 2^53 that is the same.

The readers try patterns; `Patterns` says that a text has one cut only, so reading
gives back what was written.
-/

namespace OptionChain.FyersSymbols

open Broker CivilDates ContractSymbols InstrumentRegistry Patterns

/-- The keys of `_UPSTOX_UNDERLYING_KEY`. -/
def indexUnderlyings : List String := ["NIFTY", "BANKNIFTY", "FINNIFTY", "MIDCPNIFTY", "SENSEX"]

/-- The registry with its table of Upstox keys, in the order of the loops over
`_upstox_keys`. Upstox gives every contract a key of its own; the loader takes a
commodity only under an `MCX_FO` key and lists the expiry of every contract. -/
structure LoadedRegistry extends InstrumentRegistry where
  contracts : List (InternalSymbol × String)
  keyed : ∀ symbol : InternalSymbol,
    getUpstoxKey symbol.underlying symbol.expiry symbol.strike symbol.optionType =
      (contracts.lookup symbol).getD ""
  distinctKeys : (contracts.map Prod.snd).Nodup
  listed : ∀ entry ∈ contracts, entry.1.expiry ∈ allExpiries entry.1.underlying
  mcxKeyed : ∀ entry ∈ contracts, entry.1.underlying ∈ mcxUnderlyings →
    "MCX_FO|".toList <+: entry.2.toList

section Dates

/-- `date(year, month, day)`, which raises on a date that does not exist. -/
def date? (year month day : Nat) : Option Date :=
  if valid : (1 ≤ month ∧ month ≤ 12) ∧ 1 ≤ day ∧ day ≤ daysInMonth year month then
    some ⟨year, month, day, valid.1, valid.2⟩
  else none

theorem date?_self (date : Date) : date? date.year date.month date.day = some date :=
  dif_pos ⟨date.validMonth, date.validDay⟩

/-- `toordinal`. -/
def ordinal (date : Date) : Nat :=
  365 * (date.year - 1) + (date.year - 1) / 4 - (date.year - 1) / 100 + (date.year - 1) / 400 +
    ((List.range (date.month - 1)).map fun month => daysInMonth date.year (month + 1)).sum +
    date.day

/-- `weekday`, counted from Monday. -/
def weekday (date : Date) : Nat := (ordinal date + 6) % 7

/-- The last Thursday of a month. -/
def lastThursday (year month : Nat) : Option Date :=
  (List.range 7).findSome? fun back =>
    (date? year month (daysInMonth year month - back)).filter fun day => weekday day = 3

example : lastThursday 2026 6 = date? 2026 6 25 ∧ lastThursday 2024 2 = date? 2024 2 29 := by
  decide

end Dates

section Readers

def exchanges : List (List Char) := ["NSE:".toList, "BSE:".toList]

def optionTypes : List (List Char) := ["CE".toList, "PE".toList]

/-- `[0-9OND]`. -/
def isMonthCode (letter : Char) : Bool :=
  letter.isDigit || decide (letter = 'O') || decide (letter = 'N') || decide (letter = 'D')

def monthlyPattern : List (Slot Char) :=
  [.oneOf exchanges, .run Char.isUpper, .exactly 2 Char.isDigit,
    .oneOf (months.map String.toList), .run Char.isDigit, .oneOf optionTypes]

def weeklyPattern : List (Slot Char) :=
  [.oneOf exchanges, .run Char.isUpper, .exactly 2 Char.isDigit, .exactly 1 isMonthCode,
    .exactly 2 Char.isDigit, .run Char.isDigit, .oneOf optionTypes]

/-- `_MCX_FY_OPT_RE`. -/
def mcxPattern : List (Slot Char) :=
  [.oneOf ["MCX:".toList], .run Char.isUpper, .exactly 2 Char.isDigit, .exactly 3 Char.isUpper,
    .run Char.isDigit, .oneOf optionTypes]

/-- `int` of a run of digits. -/
def number (digits : List Char) : Nat := Nat.ofDigitChars 10 digits 0

/-- `_MONTH_3.index(mon3) + 1`. -/
def monthOfName (name : List Char) : Nat := (months.map String.toList).idxOf name + 1

/-- `rev_map.get(m_code, 0)`. -/
def monthOfCode : List Char → Nat
  | ['O'] => 10
  | ['N'] => 11
  | ['D'] => 12
  | digits => number digits

def readType (text : List Char) : OptType := if text = "CE".toList then .ce else .pe

/-- What `from_fyers` does with a symbol; building the date may raise. -/
inductive Reading where
  | symbol (symbol : InternalSymbol)
  | noMatch
  | raised
deriving DecidableEq

variable (registry : InstrumentRegistry) (today : Date)

/-- The last loaded expiry of a month, or its last Thursday. -/
def monthlyExpiry (underlying : String) (year month : Nat) : Option Date :=
  let monthExps := (registry.allExpiries underlying).filter fun expiry =>
    decide (expiry.year = year) && decide (expiry.month = month)
  match monthExps.max? with
  | some expiry => some expiry
  | none => lastThursday year month

/-- `from_fyers`. -/
def fromFyers (raw : String) : Reading :=
  match read monthlyPattern raw.toList with
  | some [_, underlying, yy, mon, strike, optType] =>
      match monthlyExpiry registry (String.ofList underlying) (2000 + number yy)
          (monthOfName mon) with
      | some expiry =>
          .symbol ⟨String.ofList underlying, number strike, readType optType, expiry⟩
      | none => .raised
  | _ =>
      match read weeklyPattern raw.toList with
      | some [_, underlying, yy, code, dd, strike, optType] =>
          if monthOfCode code = 0 then .noMatch
          else
            match date? (2000 + number yy) (monthOfCode code) (number dd) with
            | some expiry =>
                .symbol ⟨String.ofList underlying, number strike, readType optType, expiry⟩
            | none => .raised
      | _ => .noMatch

/-- `get_active_expiry`. -/
def getActiveExpiry (underlying : String) : Option Date :=
  (registry.allExpiries underlying).find? fun expiry => decide (today ≤ expiry)

/-- `_parse_mcx_fyers_option`; without a front expiry the frame is dropped. -/
def parseMcxFyersOption (raw : String) : Option InternalSymbol :=
  match read mcxPattern raw.toList with
  | some [_, underlying, _, _, strike, optType] =>
      (getActiveExpiry registry today (String.ofList underlying)).map fun expiry =>
        ⟨String.ofList underlying, number strike, readType optType, expiry⟩
  | _ => none

/-- The contract that `_parse_frame` publishes a tick for. -/
def parseFyersOption (raw : String) : Option InternalSymbol :=
  match fromFyers registry raw with
  | .symbol symbol => some symbol
  | .noMatch => parseMcxFyersOption registry today raw
  | .raised => none

end Readers

/-- `get_broker_symbol` for Fyers. -/
def fyersSymbol (registry : InstrumentRegistry) (symbol : InternalSymbol) : String :=
  registry.getBrokerSymbol symbol "fyers"

/-- `_upstox_mcx_to_fyers`. -/
def upstoxMcxToFyers (registry : LoadedRegistry) (upstoxKey : String) : Option String :=
  (registry.contracts.find? fun entry => decide (entry.2 = upstoxKey)).map fun entry =>
    entry.1.toFyers (registry.isMonthlyExpiry entry.1.expiry entry.1.underlying)

/-- The keys that the feeder converts. -/
def convertible (upstoxKey : String) : Prop :=
  "MCX_FO|".toList <+: upstoxKey.toList ∨ "BSE_FO|".toList <+: upstoxKey.toList

section Texts

/-- Two digits are read back up to whole hundreds. -/
theorem twoDigits_spec (value : Nat) :
    (twoDigits value).toList.length = 2 ∧ (twoDigits value).toList.all Char.isDigit = true ∧
      number (twoDigits value).toList = value % 100 := by
  have small : ∀ rest < 100, (twoDigits rest).toList.length = 2 ∧
      (twoDigits rest).toList.all Char.isDigit = true ∧
      number (twoDigits rest).toList = rest := by decide +kernel
  have same : twoDigits value = twoDigits (value % 100) := by simp [twoDigits]
  rw [same]
  exact small (value % 100) (Nat.mod_lt value (by decide))

theorem monthName_spec (date : Date) :
    (monthName date).toList ∈ months.map String.toList ∧
      (monthName date).toList.length = 3 ∧ (monthName date).toList.all Char.isUpper = true ∧
      monthOfName (monthName date).toList = date.month := by
  have all : ∀ month < 13, 1 ≤ month →
      (months.getD (month - 1) "").toList ∈ months.map String.toList ∧
        (months.getD (month - 1) "").toList.length = 3 ∧
        (months.getD (month - 1) "").toList.all Char.isUpper = true ∧
        monthOfName (months.getD (month - 1) "").toList = month := by decide
  exact all date.month (Nat.lt_succ_of_le date.validMonth.2) date.validMonth.1

theorem monthCode_spec (date : Date) :
    (monthCode date).toList.length = 1 ∧ (monthCode date).toList.all isMonthCode = true ∧
      monthOfCode (monthCode date).toList = date.month := by
  have all : ∀ month < 13, 1 ≤ month →
      let code : String := if month = 10 then "O" else if month = 11 then "N"
        else if month = 12 then "D" else toString month
      code.toList.length = 1 ∧ code.toList.all isMonthCode = true ∧
        monthOfCode code.toList = month := by decide
  exact all date.month (Nat.lt_succ_of_le date.validMonth.2) date.validMonth.1

/-- A positive strike is a run of digits that is read back. -/
theorem strike_spec {strike : Int} (positive : 0 < strike) :
    (toString strike).toList ≠ [] ∧ (toString strike).toList.all Char.isDigit = true ∧
      (number (toString strike).toList : Int) = strike := by
  obtain ⟨value, rfl⟩ := Int.eq_ofNat_of_zero_le positive.le
  have text : (toString (value : Int)).toList = Nat.toDigits 10 value := Nat.toList_repr
  rw [text]
  refine ⟨Nat.toDigits_ne_nil, ?_, ?_⟩
  · rw [List.all_eq_true]
    intro digit member
    exact Nat.isDigit_of_mem_toDigits (by decide) (by decide) member
  · exact congrArg Int.ofNat Nat.ofDigitChars_ten_toDigits

theorem typeText_spec (optType : OptType) :
    (typeText optType).toList ∈ optionTypes ∧ readType (typeText optType).toList = optType := by
  cases optType <;> decide

/-- The names of the known underlyings are runs of capitals. -/
theorem known_spec {underlying : String} (known : underlying ∈ indexUnderlyings ++ mcxUnderlyings) :
    underlying.toList ≠ [] ∧ underlying.toList.all Char.isUpper = true := by
  have all : ∀ name ∈ indexUnderlyings ++ mcxUnderlyings,
      name.toList ≠ [] ∧ name.toList.all Char.isUpper = true := by decide
  exact all underlying known

theorem mcx_upper {underlying : String} (mcx : underlying ∈ mcxUnderlyings) :
    underlying.toUpper = underlying := by
  have all : ∀ name ∈ mcxUnderlyings, name.toUpper = name := by decide +kernel
  exact all underlying mcx

theorem index_upper {underlying : String} (index : underlying ∈ indexUnderlyings) :
    underlying.toUpper ∉ mcxUnderlyings ∧ underlying ∉ mcxUnderlyings := by
  have all : ∀ name ∈ indexUnderlyings, name.toUpper ∉ mcxUnderlyings ∧ name ∉ mcxUnderlyings := by
    decide +kernel
  exact all underlying index

end Texts

section Writing

variable (registry : InstrumentRegistry) (symbol : InternalSymbol)

/-- The three ways to write a symbol. -/
inductive Style where
  | monthly
  | weekly
  | mcx
deriving DecidableEq

def style : Style :=
  if symbol.underlying ∈ mcxUnderlyings then .mcx
  else if registry.isMonthlyExpiry symbol.expiry symbol.underlying then .monthly
  else .weekly

/-- What a symbol says about the expiry. -/
def datePart (style : Style) (expiry : Date) : List (List Char) :=
  match style with
  | .monthly | .mcx => [(twoDigits expiry.year).toList, (monthName expiry).toList]
  | .weekly =>
      [(twoDigits expiry.year).toList, (monthCode expiry).toList, (twoDigits expiry.day).toList]

def exchangePart (style : Style) (underlying : String) : List Char :=
  match style with
  | .mcx => "MCX:".toList
  | .monthly | .weekly => if underlying = "SENSEX" then "BSE:".toList else "NSE:".toList

def pattern : Style → List (Slot Char)
  | .monthly => monthlyPattern
  | .weekly => weeklyPattern
  | .mcx => mcxPattern

/-- The parts that a symbol is written from. -/
def parts (style : Style) : List (List Char) :=
  [exchangePart style symbol.underlying, symbol.underlying.toList] ++
    datePart style symbol.expiry ++
    [(toString symbol.strike).toList, (typeText symbol.optionType).toList]

/-- A symbol of a known underlying with a positive strike. -/
structure Writable : Prop where
  known : symbol.underlying ∈ indexUnderlyings ++ mcxUnderlyings
  positive : 0 < symbol.strike

variable {registry symbol}

/-- A digit is no capital. -/
theorem digit_not_upper {letter : Char} (digit : letter.isDigit = true) :
    letter.isUpper = false := by
  simp only [Char.isDigit, Bool.and_eq_true, decide_eq_true_eq] at digit
  refine decide_eq_false ?_
  rintro ⟨low, -⟩
  exact absurd (UInt32.le_trans low digit.2) (by decide)

theorem optionTypes_start : ∀ part ∈ optionTypes, ∃ letter ∈ part.head?,
    letter.isDigit = false := by
  simp [optionTypes]

theorem optionTypes_length : ∃ count, ∀ part ∈ optionTypes, part.length = count :=
  ⟨2, by decide⟩

theorem pattern_separated (style : Style) : Separated (pattern style) := by
  have upperDigit : ∀ letter : Char, letter.isDigit = true → letter.isUpper = false :=
    fun _ digit => digit_not_upper digit
  have exchangeLength : ∃ count, ∀ part ∈ exchanges, part.length = count := ⟨4, by decide⟩
  have monthLength : ∃ count, ∀ part ∈ months.map String.toList, part.length = count :=
    ⟨3, by decide⟩
  cases style <;>
    simp only [pattern, monthlyPattern, weeklyPattern, mcxPattern, Separated, List.head?_cons,
      Option.mem_def, Option.some.injEq, forall_eq', Slot.StartsOutside, and_true]
  · exact ⟨exchangeLength, ⟨by decide, upperDigit⟩, monthLength, optionTypes_start,
      optionTypes_length⟩
  · exact ⟨exchangeLength, ⟨by decide, upperDigit⟩, optionTypes_start, optionTypes_length⟩
  · exact ⟨⟨4, by decide⟩, ⟨by decide, upperDigit⟩, optionTypes_start, optionTypes_length⟩

/-- The parts fit their pattern. -/
theorem parts_accepted (writable : Writable symbol) (style : Style) :
    Accepts (pattern style) (parts symbol style) := by
  obtain ⟨named, capitals⟩ := known_spec writable.known
  obtain ⟨yearLength, yearDigits, -⟩ := twoDigits_spec symbol.expiry.year
  obtain ⟨dayLength, dayDigits, -⟩ := twoDigits_spec symbol.expiry.day
  obtain ⟨month, monthLength, monthLetters, -⟩ := monthName_spec symbol.expiry
  obtain ⟨codeLength, codeLetters, -⟩ := monthCode_spec symbol.expiry
  obtain ⟨some, digits, -⟩ := strike_spec writable.positive
  have name : (Slot.run Char.isUpper).accepts symbol.underlying.toList = true := by
    simp only [Slot.accepts, named, capitals, ne_eq, not_false_eq_true, decide_true, Bool.and_self]
  have year : (Slot.exactly 2 Char.isDigit).accepts (twoDigits symbol.expiry.year).toList =
      true := by
    simp only [Slot.accepts, yearLength, yearDigits, decide_true, Bool.and_self]
  have strike : (Slot.run Char.isDigit).accepts (toString symbol.strike).toList = true := by
    simp only [Slot.accepts, some, digits, ne_eq, not_false_eq_true, decide_true, Bool.and_self]
  have type : (Slot.oneOf optionTypes).accepts (typeText symbol.optionType).toList = true :=
    decide_eq_true (typeText_spec symbol.optionType).1
  have exchange : (if symbol.underlying = "SENSEX" then "BSE:".toList else "NSE:".toList) ∈
      exchanges := by
    split <;> decide
  cases style with
  | monthly =>
    exact .cons (decide_eq_true exchange) (.cons name (.cons year (.cons (decide_eq_true month)
      (.cons strike (.cons type .nil)))))
  | weekly =>
    have code : (Slot.exactly 1 isMonthCode).accepts (monthCode symbol.expiry).toList = true := by
      simp only [Slot.accepts, codeLength, codeLetters, decide_true, Bool.and_self]
    have day : (Slot.exactly 2 Char.isDigit).accepts (twoDigits symbol.expiry.day).toList =
        true := by
      simp only [Slot.accepts, dayLength, dayDigits, decide_true, Bool.and_self]
    exact .cons (decide_eq_true exchange) (.cons name (.cons year (.cons code (.cons day
      (.cons strike (.cons type .nil))))))
  | mcx =>
    have letters : (Slot.exactly 3 Char.isUpper).accepts (monthName symbol.expiry).toList =
        true := by
      simp only [Slot.accepts, monthLength, monthLetters, decide_true, Bool.and_self]
    have exchange : (Slot.oneOf ["MCX:".toList]).accepts "MCX:".toList = true := by decide
    exact .cons exchange (.cons name (.cons year (.cons letters
      (.cons strike (.cons type .nil)))))

/-- `get_broker_symbol` writes the parts, one after the other. -/
theorem fyersSymbol_parts (writable : Writable symbol) :
    (fyersSymbol registry symbol).toList = (parts symbol (style registry symbol)).flatten := by
  have lower : "fyers".toLower = "fyers" := by decide +kernel
  unfold fyersSymbol getBrokerSymbol
  rw [lower]
  rcases List.mem_append.mp writable.known with index | mcx
  · obtain ⟨notUpper, notMcx⟩ := index_upper index
    rw [if_neg notUpper]
    simp only [String.reduceEq, if_false, if_true, style, notMcx, InternalSymbol.toFyers,
      InternalSymbol.toZerodha]
    cases monthly : registry.isMonthlyExpiry symbol.expiry symbol.underlying <;>
      by_cases sensex : symbol.underlying = "SENSEX" <;>
      simp [parts, datePart, exchangePart, sensex]
  · have upper := mcx_upper mcx
    rw [upper, if_pos mcx]
    simp [getMcxSymbol, upper, style, mcx, parts, datePart, exchangePart]

/-- Exchange, underlying, year, and the rest of a symbol. -/
def coarsePattern : List (Slot Char) :=
  [.oneOf exchanges, .run Char.isUpper, .exactly 2 Char.isDigit, .run fun _ => true]

theorem coarse_separated : Separated coarsePattern :=
  ⟨⟨4, by decide⟩, ⟨by
    rintro next ⟨⟩
    exact ⟨by decide, fun _ digit => digit_not_upper digit⟩, by simp, trivial⟩⟩

/-- A month is written in three capitals. -/
theorem month_capitals {month : List Char} (named : month ∈ months.map String.toList) :
    ∃ first second third, month = [first, second, third] ∧ second.isUpper = true := by
  have all : ∀ text ∈ months.map String.toList,
      text.length = 3 ∧ text.all Char.isUpper = true := by decide
  obtain ⟨long, capitals⟩ := all month named
  obtain ⟨first, second, third, rfl⟩ := List.length_eq_three.mp long
  simp only [List.all_cons, Bool.and_eq_true] at capitals
  exact ⟨first, second, third, rfl, capitals.2.1⟩

/-- The parts of a weekly symbol, with all that follows the year as one. -/
theorem weekly_coarse (writable : Writable symbol) {date : List Char} (some : date ≠ []) :
    Accepts coarsePattern [exchangePart .weekly symbol.underlying, symbol.underlying.toList,
      (twoDigits symbol.expiry.year).toList, date] := by
  have all := parts_accepted writable .weekly
  cases all with | @cons _ _ _ _ ownExchange all =>
  cases all with | @cons _ _ _ _ ownName all =>
  cases all with | @cons _ _ _ _ ownYear all =>
  exact .cons ownExchange (.cons ownName (.cons ownYear
    (.cons (by simp [Slot.accepts, some]) .nil)))

/-- A weekly symbol has no monthly cut: a day does not continue the name of a month. -/
theorem weekly_not_monthly (writable : Writable symbol) :
    read monthlyPattern (parts symbol .weekly).flatten = none := by
  apply read_none
  intro cut good joined
  cases good with | @cons _ exchange _ _ exchangeGood good =>
  cases good with | @cons _ name _ _ nameGood good =>
  cases good with | @cons _ year _ _ yearGood good =>
  cases good with | @cons _ month _ tail monthGood good =>
  obtain ⟨a, b, c, rfl, capital⟩ := month_capitals (of_decide_eq_true monthGood)
  have coarse : Accepts coarsePattern [exchange, name, year, [a, b, c] ++ tail.flatten] :=
    .cons exchangeGood (.cons nameGood (.cons yearGood
      (.cons (by simp [Slot.accepts]) .nil)))
  obtain ⟨codeLength, -, -⟩ := monthCode_spec symbol.expiry
  obtain ⟨dayLength, dayDigits, -⟩ := twoDigits_spec symbol.expiry.day
  obtain ⟨code, codeText⟩ := List.length_eq_one_iff.mp codeLength
  obtain ⟨first, second, dayText⟩ := List.length_eq_two.mp dayLength
  let rest := (toString symbol.strike).toList ++ (typeText symbol.optionType).toList
  have own := weekly_coarse writable (List.cons_ne_nil code (first :: second :: rest))
  have texts : [exchange, name, year, [a, b, c] ++ tail.flatten].flatten =
      [exchangePart .weekly symbol.underlying, symbol.underlying.toList,
        (twoDigits symbol.expiry.year).toList, code :: first :: second :: rest].flatten := by
    calc [exchange, name, year, [a, b, c] ++ tail.flatten].flatten
        = (exchange :: name :: year :: [a, b, c] :: tail).flatten := by simp
      _ = (parts symbol .weekly).flatten := joined
      _ = _ := by simp [parts, datePart, codeText, dayText, rest]
  have tails : [a, b, c] ++ tail.flatten = code :: first :: second :: rest := by
    have same := cut_unique coarse_separated coarse own texts
    simp only [List.cons.injEq] at same
    exact same.2.2.2.1
  -- the second letter of a month would be the first digit of the day
  simp only [List.cons_append, List.cons.injEq] at tails
  have clash : b = first := tails.2.1
  have digit : first.isDigit = true := by
    simp only [dayText, List.all_cons, Bool.and_eq_true] at dayDigits
    exact dayDigits.1
  rw [clash, digit_not_upper digit] at capital
  exact absurd capital (by decide)

/-- A commodity symbol is read by neither index pattern. -/
theorem mcx_not_index {slots : List (Slot Char)} :
    read (.oneOf exchanges :: slots) (parts symbol .mcx).flatten = none := by
  apply read_none
  intro cut good joined
  cases good with | @cons _ exchange _ tail exchangeGood good =>
  have first : exchange ∈ exchanges := of_decide_eq_true exchangeGood
  have head : (exchange ++ tail.flatten).head? = some 'M' := by
    rw [← List.flatten_cons, joined]
    rfl
  simp only [exchanges, List.mem_cons, List.not_mem_nil, or_false] at first
  rcases first with rfl | rfl <;> simp at head

/-- The style of a symbol can be told from its text. -/
theorem style_unique {other : InternalSymbol} (writable : Writable symbol)
    (also : Writable other) {first second : Style}
    (same : (parts symbol first).flatten = (parts other second).flatten) : first = second := by
  have whole := read_flatten (pattern_separated first) (parts_accepted writable first)
  have others := read_flatten (pattern_separated second) (parts_accepted also second)
  cases first <;> cases second
  case monthly.monthly | weekly.weekly | mcx.mcx => rfl
  case monthly.weekly =>
    rw [same] at whole
    cases whole.symm.trans (weekly_not_monthly also)
  case weekly.monthly =>
    rw [← same] at others
    cases others.symm.trans (weekly_not_monthly writable)
  case monthly.mcx | weekly.mcx =>
    rw [same] at whole
    cases whole.symm.trans mcx_not_index
  case mcx.monthly | mcx.weekly =>
    rw [← same] at others
    cases others.symm.trans mcx_not_index

/-- A text was written from one underlying, date part, strike and type. -/
theorem fyersSymbol_inj {other : InternalSymbol} (writable : Writable symbol)
    (also : Writable other) (same : fyersSymbol registry other = fyersSymbol registry symbol) :
    style registry other = style registry symbol ∧ other.underlying = symbol.underlying ∧
      datePart (style registry other) other.expiry =
        datePart (style registry symbol) symbol.expiry ∧
      other.strike = symbol.strike ∧ other.optionType = symbol.optionType := by
  have texts : (parts other (style registry other)).flatten =
      (parts symbol (style registry symbol)).flatten := by
    rw [← fyersSymbol_parts also, ← fyersSymbol_parts writable, same]
  have styles := style_unique also writable texts
  refine ⟨styles, ?_⟩
  rw [styles] at texts ⊢
  have equal := cut_unique (pattern_separated _) (parts_accepted also _)
    (parts_accepted writable _) texts
  have lengths : (datePart (style registry symbol) other.expiry).length =
      (datePart (style registry symbol) symbol.expiry).length := by
    cases style registry symbol <;> rfl
  simp only [parts, List.cons_append, List.nil_append, List.cons.injEq] at equal
  obtain ⟨-, name, later⟩ := equal
  obtain ⟨dates, ends⟩ := List.append_inj later lengths
  simp only [List.cons.injEq, and_true] at ends
  have strike : other.strike = symbol.strike := by
    rw [← (strike_spec also.positive).2.2, ← (strike_spec writable.positive).2.2, ends.1]
  have type : other.optionType = symbol.optionType := by
    rw [← (typeText_spec other.optionType).2, ← (typeText_spec symbol.optionType).2, ends.2]
  exact ⟨String.toList_injective name, dates, strike, type⟩

end Writing

end OptionChain.FyersSymbols
