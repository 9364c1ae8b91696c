import Mathlib.Data.List.Nodup
import OptionChain.FyersSymbols

/-!
# The Fyers codec of a loaded registry

A monthly symbol is read as the last loaded expiry of its month, which is the expiry it
was written for, because it was written so only for that one. A weekly symbol carries
its date up to the century. A commodity symbol is read as the front contract, and the
feeder derives an exchange for it that no commodity has.

`codec_agrees_iff` says for which contracts encoders and decoders agree.
-/

namespace OptionChain.SymbolCodec

open Broker CivilDates ContractSymbols InstrumentRegistry Patterns FyersSymbols

section Decoding

variable {registry : InstrumentRegistry} {symbol : InternalSymbol} {today : Date}

/-- Two dates of one month have only dates of that month between them. -/
theorem month_between {first middle last : Date} (year : last.year = first.year)
    (month : last.month = first.month) (after : first < middle) (before : middle ≤ last) :
    middle.month = first.month := by
  rw [← not_lt, lt_iff] at before
  rw [lt_iff] at after
  omega

/-- Whatever expiry is read from a month lies in its year. -/
theorem monthlyExpiry_year {underlying : String} {year month : Nat} {expiry : Date}
    (found : monthlyExpiry registry underlying year month = some expiry) :
    expiry.year = year := by
  unfold monthlyExpiry at found
  cases last : ((registry.allExpiries underlying).filter fun expiry =>
      decide (expiry.year = year) && decide (expiry.month = month)).max? with
  | some day =>
    simp only [last, Option.some.injEq] at found
    subst found
    have member := List.max?_mem last
    simp only [List.mem_filter, Bool.and_eq_true, decide_eq_true_eq] at member
    exact member.2.1
  | none =>
    simp only [last, lastThursday] at found
    obtain ⟨back, -, chosen⟩ := List.exists_of_findSome?_eq_some found
    obtain ⟨built, -⟩ := Option.filter_eq_some_iff.mp chosen
    unfold date? at built
    split at built
    · cases built
      rfl
    · cases built

/-- An expiry that is written as monthly is the last loaded one of its month. -/
theorem monthlyExpiry_self (listed : symbol.expiry ∈ registry.allExpiries symbol.underlying)
    (monthly : registry.isMonthlyExpiry symbol.expiry symbol.underlying = true) :
    monthlyExpiry registry symbol.underlying symbol.expiry.year symbol.expiry.month =
      some symbol.expiry := by
  have sorted := registry.sorted symbol.underlying
  have last : ∀ expiry ∈ registry.allExpiries symbol.underlying,
      expiry.year = symbol.expiry.year → expiry.month = symbol.expiry.month →
      expiry ≤ symbol.expiry := by
    intro expiry member sameYear sameMonth
    obtain ⟨other, within, there⟩ := List.getElem_of_mem member
    unfold isMonthlyExpiry at monthly
    cases place : (registry.allExpiries symbol.underlying).idxOf? symbol.expiry with
    | none => exact absurd listed (List.idxOf?_eq_none_iff.mp place)
    | some idx =>
      obtain ⟨inside, here, -⟩ := List.idxOf?_eq_some_iff.mp place
      by_contra later
      have after : idx < other := by
        by_contra early
        rcases Nat.lt_or_eq_of_le (not_lt.mp early) with before | same
        · have smaller := List.pairwise_iff_getElem.mp sorted other idx within inside before
          rw [there, here] at smaller
          exact later smaller.le
        · subst same
          exact later (there.symm.trans here).le
      have next : (registry.allExpiries symbol.underlying)[idx + 1]? =
          some (registry.allExpiries symbol.underlying)[idx + 1] :=
        List.getElem?_eq_getElem (by omega)
      simp only [place, next, decide_eq_true_eq] at monthly
      have first := List.pairwise_iff_getElem.mp sorted idx (idx + 1) inside (by omega) (by omega)
      have second : (registry.allExpiries symbol.underlying)[idx + 1] ≤ expiry := by
        rcases Nat.lt_or_eq_of_le (Nat.succ_le_of_lt after) with before | same
        · exact there ▸ (List.pairwise_iff_getElem.mp sorted (idx + 1) other (by omega) within
            before).le
        · subst same
          exact there.le
      exact monthly (month_between sameYear sameMonth (here ▸ first) second)
  have chosen : ((registry.allExpiries symbol.underlying).filter fun expiry =>
      decide (expiry.year = symbol.expiry.year) &&
        decide (expiry.month = symbol.expiry.month)).max? = some symbol.expiry := by
    rw [List.max?_eq_some_iff]
    constructor
    · simp [listed]
    · intro expiry member
      simp only [List.mem_filter, Bool.and_eq_true, decide_eq_true_eq] at member
      exact last expiry member.1 member.2.1 member.2.2
  simp only [monthlyExpiry, chosen]

theorem parse_monthly (writable : Writable symbol) (styled : style registry symbol = .monthly) :
    parseFyersOption registry today (fyersSymbol registry symbol) =
      (monthlyExpiry registry symbol.underlying (2000 + symbol.expiry.year % 100)
        symbol.expiry.month).map fun expiry => { symbol with expiry := expiry } := by
  have text : read monthlyPattern (fyersSymbol registry symbol).toList =
      some (parts symbol .monthly) := by
    rw [fyersSymbol_parts writable, styled]
    exact read_flatten (pattern_separated .monthly) (parts_accepted writable .monthly)
  simp only [parseFyersOption, fromFyers, text, parts, datePart, List.cons_append, List.nil_append,
    (twoDigits_spec symbol.expiry.year).2.2, (monthName_spec symbol.expiry).2.2.2,
    (strike_spec writable.positive).2.2, (typeText_spec symbol.optionType).2, String.ofList_toList]
  cases monthlyExpiry registry symbol.underlying (2000 + symbol.expiry.year % 100)
    symbol.expiry.month <;> rfl

theorem parse_weekly (writable : Writable symbol) (styled : style registry symbol = .weekly) :
    parseFyersOption registry today (fyersSymbol registry symbol) =
      (date? (2000 + symbol.expiry.year % 100) symbol.expiry.month symbol.expiry.day).map
        fun expiry => { symbol with expiry := expiry } := by
  have monthly : read monthlyPattern (fyersSymbol registry symbol).toList = none := by
    rw [fyersSymbol_parts writable, styled]
    exact weekly_not_monthly writable
  have text : read weeklyPattern (fyersSymbol registry symbol).toList =
      some (parts symbol .weekly) := by
    rw [fyersSymbol_parts writable, styled]
    exact read_flatten (pattern_separated .weekly) (parts_accepted writable .weekly)
  have day : symbol.expiry.day % 100 = symbol.expiry.day :=
    Nat.mod_eq_of_lt (lt_of_le_of_lt symbol.expiry.day_le (by decide))
  have month : symbol.expiry.month ≠ 0 := by
    have positive := symbol.expiry.validMonth.1
    omega
  simp only [parseFyersOption, fromFyers, monthly, text, parts, datePart, List.cons_append,
    List.nil_append, (twoDigits_spec symbol.expiry.year).2.2,
    (twoDigits_spec symbol.expiry.day).2.2, (monthCode_spec symbol.expiry).2.2,
    (strike_spec writable.positive).2.2,
    (typeText_spec symbol.optionType).2, String.ofList_toList, day, month, if_false]
  cases date? (2000 + symbol.expiry.year % 100) symbol.expiry.month symbol.expiry.day <;> rfl

theorem parse_mcx (writable : Writable symbol) (styled : style registry symbol = .mcx) :
    parseFyersOption registry today (fyersSymbol registry symbol) =
      (getActiveExpiry registry today symbol.underlying).map
        fun expiry => { symbol with expiry := expiry } := by
  have notIndex (slots : List (Slot Char)) :
      read (.oneOf exchanges :: slots) (fyersSymbol registry symbol).toList = none := by
    rw [fyersSymbol_parts writable, styled]
    exact mcx_not_index
  have text : read mcxPattern (fyersSymbol registry symbol).toList = some (parts symbol .mcx) := by
    rw [fyersSymbol_parts writable, styled]
    exact read_flatten (pattern_separated .mcx) (parts_accepted writable .mcx)
  simp only [parseFyersOption, fromFyers, monthlyPattern, weeklyPattern, notIndex,
    parseMcxFyersOption, text, parts, datePart, List.cons_append, List.nil_append,
    (strike_spec writable.positive).2.2, (typeText_spec symbol.optionType).2, String.ofList_toList]

/-- Putting back another expiry changes the symbol. -/
theorem expiry_kept (found : Option Date) :
    found.map (fun expiry => { symbol with expiry := expiry }) = some symbol ↔
      found = some symbol.expiry := by
  cases found with
  | none => simp
  | some expiry =>
    simp only [Option.map_some, Option.some.injEq]
    constructor
    · intro same
      exact congrArg InternalSymbol.expiry same
    · rintro rfl
      rfl

/-- A loaded symbol is read back exactly if the two digits of its year mean a year of
this century, or, for a commodity, if its expiry is the front one. -/
theorem decoded_iff (writable : Writable symbol)
    (listed : symbol.expiry ∈ registry.allExpiries symbol.underlying) :
    parseFyersOption registry today (fyersSymbol registry symbol) = some symbol ↔
      if symbol.underlying ∈ mcxUnderlyings then
        getActiveExpiry registry today symbol.underlying = some symbol.expiry
      else 2000 ≤ symbol.expiry.year ∧ symbol.expiry.year < 2100 := by
  by_cases mcx : symbol.underlying ∈ mcxUnderlyings
  · rw [if_pos mcx, parse_mcx writable (by simp [style, mcx]), expiry_kept]
  · rw [if_neg mcx]
    have century : 2000 + symbol.expiry.year % 100 = symbol.expiry.year ↔
        2000 ≤ symbol.expiry.year ∧ symbol.expiry.year < 2100 := by omega
    rw [← century]
    cases monthly : registry.isMonthlyExpiry symbol.expiry symbol.underlying with
    | true =>
      rw [parse_monthly writable (by simp [style, mcx, monthly]), expiry_kept]
      constructor
      · intro found
        exact (monthlyExpiry_year found).symm
      · intro same
        rw [same]
        exact monthlyExpiry_self listed monthly
    | false =>
      rw [parse_weekly writable (by simp [style, mcx, monthly]), expiry_kept]
      constructor
      · intro found
        unfold date? at found
        split at found
        · exact congrArg Date.year (Option.some.inj found)
        · cases found
      · intro same
        rw [same]
        exact date?_self symbol.expiry

end Decoding

section Agreement

variable (registry : LoadedRegistry) (today : Date) (symbol : InternalSymbol)

/-- A contract of a loaded expiry: any positive strike of a known underlying. -/
structure Loaded : Prop extends Writable symbol where
  listed : symbol.expiry ∈ registry.allExpiries symbol.underlying

/-- Encoders and decoders agree on a contract, and no other contract has its symbol. -/
structure CodecAgrees : Prop where
  derived : ∀ upstoxKey, (symbol, upstoxKey) ∈ registry.contracts → convertible upstoxKey →
    upstoxMcxToFyers registry upstoxKey = some (fyersSymbol registry.toInstrumentRegistry symbol)
  decoded : parseFyersOption registry.toInstrumentRegistry today
    (fyersSymbol registry.toInstrumentRegistry symbol) = some symbol
  distinct : ∀ other, Loaded registry other →
    fyersSymbol registry.toInstrumentRegistry other =
      fyersSymbol registry.toInstrumentRegistry symbol → other = symbol

/-- No other loaded expiry of the underlying is written alike. -/
def DateDistinct : Prop :=
  ∀ expiry ∈ registry.allExpiries symbol.underlying,
    style registry.toInstrumentRegistry { symbol with expiry := expiry } =
      style registry.toInstrumentRegistry symbol →
    datePart (style registry.toInstrumentRegistry symbol) expiry =
      datePart (style registry.toInstrumentRegistry symbol) symbol.expiry →
    expiry = symbol.expiry

instance : Decidable (DateDistinct registry symbol) :=
  inferInstanceAs (Decidable (∀ expiry ∈ _, _))

/-- A commodity contract needs the front expiry and no Upstox key, an index contract
an expiry of this century. -/
def Unambiguous : Prop :=
  DateDistinct registry symbol ∧
    if symbol.underlying ∈ mcxUnderlyings then
      getActiveExpiry registry.toInstrumentRegistry today symbol.underlying =
          some symbol.expiry ∧
        ∀ entry ∈ registry.contracts, entry.1 ≠ symbol
    else 2000 ≤ symbol.expiry.year ∧ symbol.expiry.year < 2100

instance : Decidable (Unambiguous registry today symbol) :=
  inferInstanceAs (Decidable (_ ∧ _))

variable {registry today symbol}

/-- A key is found at its own contract. -/
theorem upstoxMcxToFyers_eq {upstoxKey : String}
    (member : (symbol, upstoxKey) ∈ registry.contracts) :
    upstoxMcxToFyers registry upstoxKey =
      some (symbol.toFyers (registry.isMonthlyExpiry symbol.expiry symbol.underlying)) := by
  have found : (registry.contracts.find? fun entry => decide (entry.2 = upstoxKey)) =
      some (symbol, upstoxKey) := by
    cases first : registry.contracts.find? fun entry => decide (entry.2 = upstoxKey) with
    | none =>
      have none := List.find?_eq_none.mp first (symbol, upstoxKey) member
      simp at none
    | some entry =>
      have here := List.mem_of_find?_eq_some first
      have key : entry.2 = upstoxKey := by simpa using List.find?_some first
      have same := List.inj_on_of_nodup_map registry.distinctKeys here member key
      rw [same]
  rw [upstoxMcxToFyers, found]
  rfl

/-- The feeder derives the name of every index key, and of no commodity key. -/
theorem derived_iff (loaded : Loaded registry symbol) :
    (∀ upstoxKey, (symbol, upstoxKey) ∈ registry.contracts → convertible upstoxKey →
      upstoxMcxToFyers registry upstoxKey =
        some (fyersSymbol registry.toInstrumentRegistry symbol)) ↔
      (symbol.underlying ∈ mcxUnderlyings → ∀ entry ∈ registry.contracts, entry.1 ≠ symbol) := by
  constructor
  · rintro derived mcx ⟨contract, upstoxKey⟩ member rfl
    have named := derived upstoxKey member (Or.inl (registry.mcxKeyed _ member mcx))
    rw [upstoxMcxToFyers_eq member] at named
    have text := congrArg (fun name => (String.toList name).head?) (Option.some.inj named)
    have styled : style registry.toInstrumentRegistry contract = .mcx := by simp [style, mcx]
    simp only [fyersSymbol_parts loaded.toWritable, styled] at text
    have other : contract.underlying ≠ "SENSEX" := by
      rintro sensex
      rw [sensex] at mcx
      exact absurd mcx (by decide)
    simp [InternalSymbol.toFyers, other, parts, exchangePart] at text
  · intro free upstoxKey member _
    rw [upstoxMcxToFyers_eq member]
    rcases List.mem_append.mp loaded.known with index | mcx
    · obtain ⟨notUpper, -⟩ := index_upper index
      have lower : "fyers".toLower = "fyers" := by decide +kernel
      simp only [fyersSymbol, getBrokerSymbol, lower, notUpper, String.reduceEq, if_false, if_true]
    · exact absurd rfl (free mcx _ member)

/-- A contract shares its symbol exactly with the contracts whose expiry is written
alike. -/
theorem distinct_iff (loaded : Loaded registry symbol) :
    (∀ other, Loaded registry other →
      fyersSymbol registry.toInstrumentRegistry other =
        fyersSymbol registry.toInstrumentRegistry symbol → other = symbol) ↔
      DateDistinct registry symbol := by
  constructor
  · intro distinct expiry listed styled dates
    have other : Loaded registry { symbol with expiry := expiry } :=
      ⟨⟨loaded.known, loaded.positive⟩, listed⟩
    have same := distinct { symbol with expiry := expiry } other (by
      apply String.toList_injective
      rw [fyersSymbol_parts other.toWritable, fyersSymbol_parts loaded.toWritable, styled]
      simp only [parts, dates])
    exact congrArg InternalSymbol.expiry same
  · intro dates other also same
    obtain ⟨styled, name, date, strike, type⟩ :=
      fyersSymbol_inj loaded.toWritable also.toWritable same
    have built : { symbol with expiry := other.expiry } = other := by
      rw [← name, ← strike, ← type]
    have expiry : other.expiry = symbol.expiry := by
      apply dates other.expiry (name ▸ also.listed)
      · rw [built, styled]
      · rw [← styled]
        exact styled ▸ date
    rw [← built, expiry]

/-- For every loaded contract, encoders and decoders agree and no other contract has
its symbol exactly if the contract is unambiguous. -/
theorem codec_agrees_iff (registry : LoadedRegistry) (today : Date) (symbol : InternalSymbol)
    (loaded : Loaded registry symbol) :
    CodecAgrees registry today symbol ↔ Unambiguous registry today symbol := by
  have derived := derived_iff loaded
  have decoded := @decoded_iff registry.toInstrumentRegistry symbol today loaded.toWritable
    loaded.listed
  have distinct := distinct_iff loaded
  unfold Unambiguous
  constructor
  · rintro ⟨derives, decodes, separates⟩
    refine ⟨distinct.mp separates, ?_⟩
    have read := decoded.mp decodes
    split
    · rename_i mcx
      rw [if_pos mcx] at read
      exact ⟨read, derived.mp derives mcx⟩
    · rename_i mcx
      rwa [if_neg mcx] at read
  · rintro ⟨dates, rest⟩
    split at rest
    · rename_i mcx
      exact ⟨derived.mpr fun _ => rest.2, decoded.mpr (by rw [if_pos mcx]; exact rest.1),
        distinct.mpr dates⟩
    · rename_i mcx
      exact ⟨derived.mpr fun also => absurd also mcx, decoded.mpr (by rw [if_neg mcx]; exact rest),
        distinct.mpr dates⟩

end Agreement

section Chains

def augustExpiry : Date := ⟨2026, 8, 17, by decide, by decide⟩

def septemberExpiry : Date := ⟨2026, 9, 16, by decide, by decide⟩

/-- The September call of a commodity, which is not the front contract in August. -/
def nextCrude : InternalSymbol := ⟨"CRUDEOIL", 8500, .ce, septemberExpiry⟩

def sensexCall : InternalSymbol := ⟨"SENSEX", 80000, .ce, augustExpiry⟩

def loadedKeys : List (InternalSymbol × String) :=
  [(⟨"CRUDEOIL", 8500, .ce, augustExpiry⟩, "MCX_FO|565901"), (nextCrude, "MCX_FO|565902"),
    (sensexCall, "BSE_FO|822001")]

/-- Two expiries for every underlying. -/
def twoExpiries : LoadedRegistry where
  allExpiries := fun _ => [augustExpiry, septemberExpiry]
  sorted := by
    intro underlying
    decide
  getUpstoxKey := fun underlying expiry strike optType =>
    (loadedKeys.lookup ⟨underlying, strike, optType, expiry⟩).getD ""
  contracts := loadedKeys
  keyed := fun _ => rfl
  distinctKeys := by decide
  listed := by decide
  mcxKeyed := by decide

theorem sensex_codec_agrees : CodecAgrees twoExpiries augustExpiry sensexCall :=
  (codec_agrees_iff twoExpiries augustExpiry sensexCall
    ⟨⟨by decide, by decide⟩, by decide⟩).mpr
    ⟨by decide, by decide⟩

/-- The feeder derives another name than the registry builds, and the registry's name is
read back as the August contract. -/
theorem crude_codec_disagrees :
    upstoxMcxToFyers twoExpiries "MCX_FO|565902" = some "NSE:CRUDEOIL26SEP8500CE" ∧
      fyersSymbol twoExpiries.toInstrumentRegistry nextCrude = "MCX:CRUDEOIL26SEP8500CE" ∧
      parseFyersOption twoExpiries.toInstrumentRegistry augustExpiry
        "MCX:CRUDEOIL26SEP8500CE" = some ⟨"CRUDEOIL", 8500, .ce, augustExpiry⟩ ∧
      ¬ CodecAgrees twoExpiries augustExpiry nextCrude := by
  refine ⟨by decide +kernel, by decide +kernel, by decide +kernel, ?_⟩
  intro agrees
  have read := agrees.decoded
  revert read
  decide +kernel

end Chains

end OptionChain.SymbolCodec
