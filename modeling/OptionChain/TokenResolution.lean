import Mathlib.Data.List.Infix
import OptionChain.Buckets
import OptionChain.FyersSymbols
import OptionChain.Rounding

/-!
# From symbols to security ids and tokens

Dhan and Angel One take orders by number. Dhan's numbers come from a master file that
is folded into a dictionary: each usable row is filed under the neutral name of the
contract it seems to be, and a later row replaces an earlier one. A symbol that is not
in the dictionary is sent as if it were a number. Angel One's numbers come from two
searches, first for the symbol itself, then for the underlying's name, whose results
are tested for pieces of the symbol. Both answers are cached.

What an exchange sells under a number is not in the code. It is a parameter here, and
an order is sound if that is the contract.
-/

namespace OptionChain.TokenResolution

open Broker CivilDates ContractSymbols InstrumentRegistry Patterns FyersSymbols Rounding

/-- What a number stands for at a broker. -/
structure Instrument where
  underlying : String
  strike : Rat
  optionType : OptType
  expiry : Date
deriving DecidableEq

/-- The instrument that a contract asks for. -/
def instrumentOf (symbol : InternalSymbol) : Instrument :=
  ⟨symbol.underlying, symbol.strike, symbol.optionType, symbol.expiry⟩

/-- An order that is sent goes to the contract's own instrument. -/
def Sound (behind : String → Option Instrument) (symbol : InternalSymbol)
    (order : Option String) : Prop :=
  ∀ number ∈ order, behind number = some (instrumentOf symbol)

instance (behind : String → Option Instrument) (symbol : InternalSymbol) (order : Option String) :
    Decidable (Sound behind symbol order) :=
  inferInstanceAs (Decidable (∀ number ∈ order, _))

section Dhan

/-- The columns of a master row that are read, without surrounding blanks. An expiry or
a strike that cannot be read is absent. -/
structure MasterRow where
  exchId : String
  tradingSymbol : String
  securityId : String
  expiryDate : Option Date
  strikePrice : Option Rat
  optionType : String
  instrumentName : String
deriving DecidableEq

/-- The prefixes that a trading symbol is tested for, in order. -/
def dhanPrefixes : List String := ["NIFTY", "BANKNIFTY", "FINNIFTY", "SENSEX", "MIDCPNIFTY"]

/-- The underlying that a row is filed under: the first prefix that fits. -/
def rowUnderlying (sym : String) : String :=
  (dhanPrefixes.find? fun start => start.toList.isPrefixOf sym.toList).getD sym

def usable (row : MasterRow) : Bool :=
  decide (row.securityId ≠ "") && decide (row.exchId ∈ ["NSE", "BSE"]) &&
    decide (row.instrumentName ∈ ["OPTIDX", "OPTSTK"])

/-- The key that a row is filed under; a row that cannot be read is skipped. -/
def rowKey (row : MasterRow) : Option String :=
  if usable row then
    match row.expiryDate, row.strikePrice with
    | some expiry, some strike =>
        some (rowUnderlying row.tradingSymbol ++ ":" ++ twoDigits expiry.day ++ monthName expiry ++
          twoDigits expiry.year ++ ":" ++ toString (towardZero strike) ++ ":" ++ row.optionType)
    | _, _ => none
  else none

/-- `_load_instrument_master`: the dictionary, each entry with its row. -/
def symbolMap (rows : List MasterRow) : AList (fun _ : String => String × MasterRow) :=
  Buckets.groups Prod.fst (rows.filterMap fun row => (rowKey row).map fun key => (key, row))

/-- `self._symbol_map.get(req.broker_symbol, req.broker_symbol)`. -/
def securityId (rows : List MasterRow) (brokerSymbol : String) : String :=
  match (symbolMap rows).lookup brokerSymbol with
  | some entry => entry.2.securityId
  | none => brokerSymbol

/-- `place_order` never refuses a symbol. -/
def dhanOrder (registry : InstrumentRegistry) (rows : List MasterRow) (symbol : InternalSymbol) :
    Option String :=
  some (securityId rows (registry.getBrokerSymbol symbol "dhan"))

/-- A row that is filed under a contract's name. The year counts up to the century, the
strike without its fraction, the underlying as far as the prefixes tell it. -/
def looksLike (symbol : InternalSymbol) (row : MasterRow) : Bool :=
  usable row && decide (rowUnderlying row.tradingSymbol = symbol.underlying) &&
    (match row.expiryDate, row.strikePrice with
      | some expiry, some strike =>
          decide (expiry.day = symbol.expiry.day) && decide (expiry.month = symbol.expiry.month) &&
            decide (expiry.year % 100 = symbol.expiry.year % 100) &&
            decide (towardZero strike = symbol.strike)
      | _, _ => false) &&
    decide (row.optionType = typeText symbol.optionType)

/-- The last row that looks like the contract exists and is the contract's. -/
def DhanListed (behind : String → Option Instrument) (rows : List MasterRow)
    (symbol : InternalSymbol) : Prop :=
  symbol.underlying ∉ mcxUnderlyings ∧
    ∃ row ∈ (rows.filter (looksLike symbol)).getLast?,
      behind row.securityId = some (instrumentOf symbol)

end Dhan

section Angel

/-- A row of a search result. -/
structure Scrip where
  tradingsymbol : String
  symboltoken : String
deriving DecidableEq

/-- How a search ends. -/
inductive SearchReply where
  | raised
  | failed
  | data (scrips : List Scrip)
deriving DecidableEq

def SearchReply.rows : SearchReply → List Scrip
  | .data scrips => scrips
  | .raised | .failed => []

/-- `_tok_cache` and `_scrip_cache`. -/
structure AngelCaches where
  tok : List ((String × String) × (String × String))
  scrip : List ((String × String) × List Scrip)

/-- The pattern of the fallback. -/
def angelPattern : List (Slot Char) :=
  [.run Char.isUpper, .exactly 2 Char.isDigit, .exactly 3 Char.isUpper, .run Char.isDigit,
    .oneOf optionTypes]

/-- The test of a search result: it ends in the type, right after the strike and no
other digit, and contains the month and the two digits somewhere. -/
def scripMatches (yy mon strike opt : List Char) (scrip : Scrip) : Bool :=
  let ts := scrip.tradingsymbol.toUpper.toList
  let ending := (toString (number strike)).toList ++ opt
  decide (opt <:+ ts) && decide (mon <:+: ts) && decide (yy <:+: ts) && decide (ending <:+ ts) &&
    (ts.take (ts.length - ending.length)).getLast?.all fun letter => !letter.isDigit

/-- The first result that passes the test. -/
def pickScrip (tradingsymbol : String) (yy mon strike opt : List Char) (lst : List Scrip) :
    String × String :=
  match lst.find? (scripMatches yy mon strike opt) with
  | some it => (it.symboltoken, it.tradingsymbol)
  | none => ("", tradingsymbol)

/-- The result of the first search. -/
def exactScrip (tradingsymbol : String) (res : SearchReply) : String × String :=
  match res.rows.find? fun it => decide (it.tradingsymbol = tradingsymbol) with
  | some it => (it.symboltoken, tradingsymbol)
  | none => ("", tradingsymbol)

/-- The second search, by name. -/
def searchByName (caches : AngelCaches) (exchange tradingsymbol : String) (r2 : SearchReply) :
    (String × String) × List ((String × String) × List Scrip) :=
  match read angelPattern tradingsymbol.toList with
  | some [name, yy, mon, strike, opt] =>
      match caches.scrip.lookup (exchange, String.ofList name), r2 with
      | some lst, _ => (pickScrip tradingsymbol yy mon strike opt lst, caches.scrip)
      | none, .raised => (("", tradingsymbol), caches.scrip)
      | none, reply =>
          (pickScrip tradingsymbol yy mon strike opt reply.rows,
            ((exchange, String.ofList name), reply.rows) :: caches.scrip)
  | _ => (("", tradingsymbol), caches.scrip)

/-- `_lookup_symbol`, with the answers of its two searches. -/
def lookupSymbol (caches : AngelCaches) (exchange tradingsymbol : String)
    (res r2 : SearchReply) : (String × String) × AngelCaches :=
  match caches.tok.lookup (exchange, tradingsymbol) with
  | some cached => (cached, caches)
  | none =>
      let found :=
        match res with
        | .raised => (("", tradingsymbol), caches.scrip)
        | .failed | .data _ =>
            if (exactScrip tradingsymbol res).1 ≠ "" then
              (exactScrip tradingsymbol res, caches.scrip)
            else searchByName caches exchange tradingsymbol r2
      (found.1, ⟨((exchange, tradingsymbol), found.1) :: caches.tok, found.2⟩)

/-- `place_order` refuses a symbol without a token. -/
def angelOrder (registry : InstrumentRegistry) (caches : AngelCaches) (exchange : String)
    (symbol : InternalSymbol) (res r2 : SearchReply) : Option String :=
  let token := (lookupSymbol caches exchange (registry.getBrokerSymbol symbol "angelone")
    res r2).1.1
  if token = "" then none else some token

/-- The two digits and the longer digits that the fallback finds in a contract's symbol:
the day, and year and strike in one; for a commodity the year, and the strike. -/
def angelDigits (symbol : InternalSymbol) : List Char × List Char :=
  if symbol.underlying ∈ mcxUnderlyings then
    ((twoDigits symbol.expiry.year).toList, (toString symbol.strike).toList)
  else
    ((twoDigits symbol.expiry.day).toList,
      (twoDigits symbol.expiry.year).toList ++ (toString symbol.strike).toList)

/-- A search result that passes the test for a contract. Its underlying and, for an
index, its day are not tested. -/
def resembles (symbol : InternalSymbol) : Scrip → Bool :=
  scripMatches (angelDigits symbol).1 (monthName symbol.expiry).toList (angelDigits symbol).2
    (typeText symbol.optionType).toList

/-- The results of the search by name, if there are any. -/
def namedScrips (caches : AngelCaches) (exchange name : String) (r2 : SearchReply) :
    Option (List Scrip) :=
  match caches.scrip.lookup (exchange, name), r2 with
  | some lst, _ => some lst
  | none, .raised => none
  | none, reply => some reply.rows

/-- A token is missing, or it is the contract's. -/
def Fits (behind : String → Option Instrument) (symbol : InternalSymbol) (token : String) : Prop :=
  token = "" ∨ behind token = some (instrumentOf symbol)

/-- The result that decides is the contract's own: the cached one, else the first result
under its symbol, else the first result by name that resembles it. -/
def AngelListed (registry : InstrumentRegistry) (behind : String → Option Instrument)
    (caches : AngelCaches) (exchange : String) (res r2 : SearchReply)
    (symbol : InternalSymbol) : Prop :=
  let name := registry.getBrokerSymbol symbol "angelone"
  match caches.tok.lookup (exchange, name) with
  | some cached => Fits behind symbol cached.1
  | none =>
      res ≠ .raised →
        if (exactScrip name res).1 ≠ "" then Fits behind symbol (exactScrip name res).1
        else
          ∀ lst ∈ namedScrips caches exchange symbol.underlying r2,
            ∀ scrip ∈ lst.find? (resembles symbol), Fits behind symbol scrip.symboltoken

end Angel

section Brokers

/-- The two brokers with the answers that an order meets. -/
inductive TokenBroker where
  | dhan (rows : List MasterRow)
  | angel (caches : AngelCaches) (exchange : String) (res r2 : SearchReply)

/-- The number that an order is sent for. -/
def orderNumber (registry : InstrumentRegistry) (broker : TokenBroker)
    (symbol : InternalSymbol) : Option String :=
  match broker with
  | .dhan rows => dhanOrder registry rows symbol
  | .angel caches exchange res r2 => angelOrder registry caches exchange symbol res r2

/-- The row or result that decides is the contract's own. -/
def Listed (registry : InstrumentRegistry) (behind : String → Option Instrument)
    (broker : TokenBroker) (symbol : InternalSymbol) : Prop :=
  match broker with
  | .dhan rows => DhanListed behind rows symbol
  | .angel caches exchange res r2 => AngelListed registry behind caches exchange res r2 symbol

end Brokers

section Keys

/-- What stands before the first separator. -/
theorem separator_cut {letter : Char} {first second rest later : List Char}
    (free : letter ∉ first) (also : letter ∉ second)
    (same : first ++ letter :: rest = second ++ letter :: later) : first = second := by
  have stops {before after : List Char} (absent : letter ∉ before) :
      (before ++ letter :: after).takeWhile (fun other => decide (other ≠ letter)) = before := by
    apply takeWhile_run
    · simp only [List.all_eq_true, decide_eq_true_eq]
      rintro other member rfl
      exact absent member
    · simp
  rw [← stops free, same, stops also]

/-- Only a positive strike is written with its digits. -/
theorem strikeText_inj {strike other : Int} (positive : 0 < strike)
    (same : toString other = toString strike) : other = strike := by
  obtain ⟨-, digits, value⟩ := strike_spec positive
  rcases lt_or_ge other 0 with negative | natural
  · rw [← same, Int.toString_eq_repr, Int.repr_eq_if, if_neg (by omega)] at digits
    simp at digits
  · obtain ⟨count, rfl⟩ := Int.eq_ofNat_of_zero_le natural
    rw [← value, ← same]
    exact congrArg Int.ofNat (Nat.ofDigitChars_ten_toDigits.symm.trans
      (congrArg number Nat.toList_repr.symm))

/-- The text between the underlying and the strike. -/
def keyDate (date : Date) : String :=
  twoDigits date.day ++ monthName date ++ twoDigits date.year

theorem keyDate_eq_iff (first second : Date) :
    keyDate first = keyDate second ↔ first.day = second.day ∧ first.month = second.month ∧
      first.year % 100 = second.year % 100 := by
  have day (date : Date) : date.day < 100 := lt_of_le_of_lt date.day_le (by decide)
  obtain ⟨dayLength, -, dayValue⟩ := twoDigits_spec first.day
  obtain ⟨otherLength, -, otherValue⟩ := twoDigits_spec second.day
  obtain ⟨-, monthLength, -, monthValue⟩ := monthName_spec first
  obtain ⟨-, laterLength, -, laterValue⟩ := monthName_spec second
  constructor
  · intro same
    have texts := congrArg String.toList same
    simp only [keyDate, String.toList_append] at texts
    obtain ⟨front, years⟩ := List.append_inj texts (by simp [dayLength, otherLength,
      monthLength, laterLength])
    obtain ⟨days, names⟩ := List.append_inj front (dayLength.trans otherLength.symm)
    refine ⟨?_, ?_, ?_⟩
    · rw [← Nat.mod_eq_of_lt (day first), ← Nat.mod_eq_of_lt (day second), ← dayValue,
        ← otherValue, days]
    · rw [← monthValue, ← laterValue, names]
    · rw [← (twoDigits_spec first.year).2.2, ← (twoDigits_spec second.year).2.2, years]
  · rintro ⟨days, names, years⟩
    have yearText : twoDigits first.year = twoDigits second.year := by
      simp only [twoDigits, years]
    simp only [keyDate, monthName, days, names, yearText]

theorem keyDate_length (date : Date) : (keyDate date).toList.length = 7 := by
  simp [keyDate, (twoDigits_spec date.day).1, (monthName_spec date).2.1,
    (twoDigits_spec date.year).1]

/-- No number is written with a separator. -/
theorem intText_free (value : Int) : ':' ∉ (toString value).toList := by
  have digits (count : Nat) : ':' ∉ (Nat.repr count).toList := by
    intro member
    rw [Nat.toList_repr] at member
    exact absurd (Nat.isDigit_of_mem_toDigits (by decide) (by decide) member) (by decide)
  rw [Int.toString_eq_repr, Int.repr_eq_if]
  split
  · exact digits _
  · rw [String.toList_append, List.mem_append]
    rintro (sign | member)
    · exact absurd sign (by decide)
    · exact digits _ member

/-- The name of an index has no separator and is one of the prefixes. -/
theorem index_spec {underlying : String} (index : underlying ∈ indexUnderlyings) :
    ':' ∉ underlying.toList ∧ underlying ∈ dhanPrefixes := by
  have all : ∀ name ∈ indexUnderlyings, ':' ∉ name.toList ∧ name ∈ dhanPrefixes := by
    decide
  exact all underlying index

/-- A row filed under a text that starts with an index and a separator is filed under
that index. -/
theorem rowUnderlying_cut {underlying sym : String} {rest later : List Char}
    (index : underlying ∈ indexUnderlyings)
    (same : (rowUnderlying sym).toList ++ ':' :: rest = underlying.toList ++ ':' :: later) :
    rowUnderlying sym = underlying := by
  obtain ⟨free, listed⟩ := index_spec index
  unfold rowUnderlying at same ⊢
  cases found : dhanPrefixes.find? fun start => start.toList.isPrefixOf sym.toList with
  | some start =>
    rw [found, Option.getD_some] at same
    have member := List.mem_of_find?_eq_some found
    have all : ∀ name ∈ dhanPrefixes, ':' ∉ name.toList := by decide
    exact String.toList_injective (separator_cut (all start member) free same)
  | none =>
    rw [found, Option.getD_none] at same
    have unfit : ¬ underlying.toList <+: sym.toList := by
      have none := List.find?_eq_none.mp found underlying listed
      simpa using none
    rcases List.append_eq_append_iff.mp same with ⟨more, names, ends⟩ | ⟨more, names, -⟩
    · cases more with
      | nil =>
        rw [List.append_nil] at names
        exact absurd (names ▸ List.prefix_rfl) unfit
      | cons letter _ =>
        have here : ':' = letter := (List.cons.inj ends).1
        exact absurd (names ▸ here ▸ List.mem_append_right _ List.mem_cons_self) free
    · exact absurd (names ▸ List.prefix_append _ _) unfit

/-- Exactly the rows that look like an index contract are filed under its name. -/
theorem rowKey_eq_iff {symbol : InternalSymbol} (index : symbol.underlying ∈ indexUnderlyings)
    (positive : 0 < symbol.strike) (row : MasterRow) :
    rowKey row = some symbol.text ↔ looksLike symbol row = true := by
  unfold rowKey looksLike
  cases used : usable row with
  | false => simp
  | true =>
    cases date : row.expiryDate with
    | none => simp
    | some expiry =>
      cases price : row.strikePrice with
      | none => simp
      | some strike =>
        simp only [if_true, Option.some.injEq, Bool.true_and, Bool.and_eq_true, decide_eq_true_eq]
        have same : rowUnderlying row.tradingSymbol ++ ":" ++ twoDigits expiry.day ++
            monthName expiry ++ twoDigits expiry.year ++ ":" ++ toString (towardZero strike) ++
            ":" ++ row.optionType = symbol.text ↔
            (rowUnderlying row.tradingSymbol).toList ++ ':' :: ((keyDate expiry).toList ++
              ':' :: ((toString (towardZero strike)).toList ++ ':' :: row.optionType.toList)) =
            symbol.underlying.toList ++ ':' :: ((keyDate symbol.expiry).toList ++
              ':' :: ((toString symbol.strike).toList ++
                ':' :: (typeText symbol.optionType).toList)) := by
          rw [← String.toList_inj]
          simp [InternalSymbol.text, keyDate]
        rw [same]
        constructor
        · intro texts
          have name := rowUnderlying_cut index texts
          rw [name] at texts
          obtain ⟨dates, ends⟩ := List.append_inj (List.cons.inj (List.append_cancel_left texts)).2
            ((keyDate_length expiry).trans (keyDate_length symbol.expiry).symm)
          have ends := (List.cons.inj ends).2
          have strikes := separator_cut (intText_free _) (intText_free _) ends
          rw [strikes] at ends
          have type := (List.cons.inj (List.append_cancel_left ends)).2
          obtain ⟨day, month, year⟩ :=
            (keyDate_eq_iff expiry symbol.expiry).mp (String.toList_injective dates)
          exact ⟨⟨name, ⟨⟨day, month⟩, year⟩,
            strikeText_inj positive (String.toList_injective strikes)⟩,
            String.toList_injective type⟩
        · rintro ⟨⟨name, ⟨⟨day, month⟩, year⟩, whole⟩, type⟩
          rw [name, (keyDate_eq_iff expiry symbol.expiry).mpr ⟨day, month, year⟩, whole, type]

end Keys

section DhanSound

variable {registry : InstrumentRegistry} {behind : String → Option Instrument}
  {symbol : InternalSymbol}

/-- The names that are looked up. -/
theorem dhanSymbol_index (index : symbol.underlying ∈ indexUnderlyings) :
    registry.getBrokerSymbol symbol "dhan" = symbol.text := by
  have lower : "dhan".toLower = "dhan" := by decide +kernel
  simp [getBrokerSymbol, lower, (index_upper index).1]

theorem dhanSymbol_mcx (mcx : symbol.underlying ∈ mcxUnderlyings) :
    registry.getBrokerSymbol symbol "dhan" = symbol.underlying ++
      twoDigits symbol.expiry.year ++ monthName symbol.expiry ++ toString symbol.strike ++
      typeText symbol.optionType := by
  have lower : "dhan".toLower = "dhan" := by decide +kernel
  simp [getBrokerSymbol, getMcxSymbol, lower, mcx_upper mcx, mcx]

/-- A row is filed under a name with a separator. -/
theorem rowKey_separated {row : MasterRow} {key : String} (filed : rowKey row = some key) :
    ':' ∈ key.toList := by
  unfold rowKey at filed
  split at filed
  · split at filed
    · obtain rfl := Option.some.inj filed
      simp
    · cases filed
  · cases filed

/-- The name of a commodity contract has no separator. -/
theorem mcxSymbol_free (writable : Writable symbol) (mcx : symbol.underlying ∈ mcxUnderlyings) :
    ':' ∉ (registry.getBrokerSymbol symbol "dhan").toList := by
  have capital {text : List Char} (letters : text.all Char.isUpper = true) : ':' ∉ text :=
    fun member => absurd (List.all_eq_true.mp letters ':' member) (by decide)
  have digit {text : List Char} (digits : text.all Char.isDigit = true) : ':' ∉ text :=
    fun member => absurd (List.all_eq_true.mp digits ':' member) (by decide)
  have type : ':' ∉ (typeText symbol.optionType).toList := by
    cases symbol.optionType <;> decide
  rw [dhanSymbol_mcx mcx]
  simp only [String.toList_append, List.mem_append, not_or]
  exact ⟨⟨⟨⟨capital (known_spec writable.known).2, digit (twoDigits_spec _).2.1⟩,
    capital (monthName_spec symbol.expiry).2.2.1⟩, digit (strike_spec writable.positive).2.1⟩, type⟩

/-- Nor is it a number. -/
theorem mcxSymbol_name (writable : Writable symbol) (mcx : symbol.underlying ∈ mcxUnderlyings) :
    (registry.getBrokerSymbol symbol "dhan").toList.all Char.isDigit ≠ true := by
  intro digits
  obtain ⟨some, letters⟩ := known_spec writable.known
  obtain ⟨letter, member⟩ := List.exists_mem_of_ne_nil _ some
  have capital := List.all_eq_true.mp letters letter member
  have digit : letter.isDigit = true := by
    apply List.all_eq_true.mp digits
    rw [dhanSymbol_mcx mcx]
    simp [member]
  rw [digit_not_upper digit] at capital
  exact absurd capital (by decide)

/-- The rows filed under a key, in order. -/
theorem filed_rows (rows : List MasterRow) (key : String) :
    (rows.filterMap fun row => (rowKey row).map fun name => (name, row)).filter
        (fun entry => decide (entry.1 = key)) =
      (rows.filter fun row => decide (rowKey row = some key)).map fun row => (key, row) := by
  induction rows with
  | nil => rfl
  | cons row rest inductionHypothesis =>
    cases name : rowKey row with
    | none => simpa [name] using inductionHypothesis
    | some own =>
      by_cases same : own = key
      · simpa [name, same] using inductionHypothesis
      · simpa [name, same] using inductionHypothesis

/-- The dictionary keeps the last row of a key. -/
theorem securityId_eq (rows : List MasterRow) (key : String) :
    securityId rows key =
      match (rows.filter fun row => decide (rowKey row = some key)).getLast? with
      | some row => row.securityId
      | none => key := by
  unfold securityId symbolMap
  rw [Buckets.lookup_groups, Buckets.lastIn, filed_rows, List.getLast?_map]
  cases (rows.filter fun row => decide (rowKey row = some key)).getLast? <;> rfl

/-- A number is sent for a contract soundly exactly if the last row that looks like it
is its own. -/
theorem dhan_sound_iff (numbered : ∀ text, behind text ≠ none → text.toList.all Char.isDigit = true)
    (writable : Writable symbol) (rows : List MasterRow) :
    Sound behind symbol (dhanOrder registry rows symbol) ↔ DhanListed behind rows symbol := by
  have sound : Sound behind symbol (dhanOrder registry rows symbol) ↔
      behind (securityId rows (registry.getBrokerSymbol symbol "dhan")) =
        some (instrumentOf symbol) := by
    simp [Sound, dhanOrder]
  rw [sound]
  -- a name that is sent in place of a number stands for nothing
  have nameless {text : String} (name : text.toList.all Char.isDigit ≠ true) :
      behind text ≠ some (instrumentOf symbol) := by
    intro found
    exact name (numbered text (by simp [found]))
  rcases List.mem_append.mp writable.known with index | mcx
  · have filed : (rows.filter fun row => decide (rowKey row = some symbol.text)) =
        rows.filter (looksLike symbol) := by
      apply List.filter_congr
      intro row _
      rw [Bool.eq_iff_iff, decide_eq_true_eq]
      exact rowKey_eq_iff index writable.positive row
    rw [dhanSymbol_index index, securityId_eq, filed, DhanListed]
    simp only [(index_upper index).2, not_false_eq_true, true_and]
    cases last : (rows.filter (looksLike symbol)).getLast? with
    | some row => simp
    | none =>
      have separator : symbol.text.toList.all Char.isDigit ≠ true := by
        intro digits
        have here : ':' ∈ symbol.text.toList := by simp [InternalSymbol.text]
        exact absurd (List.all_eq_true.mp digits ':' here) (by decide)
      simpa using nameless separator
  · have unfiled : (rows.filter fun row => decide (rowKey row =
        some (registry.getBrokerSymbol symbol "dhan"))) = [] := by
      apply List.filter_eq_nil_iff.mpr
      intro row _ filed
      exact mcxSymbol_free writable mcx (rowKey_separated (of_decide_eq_true filed))
    rw [securityId_eq, unfiled]
    constructor
    · intro found
      exact absurd found (nameless (mcxSymbol_name writable mcx))
    · intro listed
      exact absurd mcx listed.1

end DhanSound

section AngelSound

variable {registry : InstrumentRegistry} {behind : String → Option Instrument}
  {symbol : InternalSymbol}

theorem angelPattern_separated : Separated angelPattern := by
  have upperDigit : ∀ letter : Char, letter.isDigit = true → letter.isUpper = false :=
    fun _ digit => digit_not_upper digit
  simp only [angelPattern, Separated, List.head?_cons, Option.mem_def, Option.some.injEq,
    forall_eq', Slot.StartsOutside, and_true]
  exact ⟨⟨by decide, upperDigit⟩, optionTypes_start, optionTypes_length⟩

/-- The fallback reads the underlying, the month, the type and the digits around the
month from a contract's symbol. -/
theorem angelSymbol_read (writable : Writable symbol) :
    read angelPattern (registry.getBrokerSymbol symbol "angelone").toList =
      some [symbol.underlying.toList, (angelDigits symbol).1, (monthName symbol.expiry).toList,
        (angelDigits symbol).2, (typeText symbol.optionType).toList] := by
  have lower : "angelone".toLower = "angelone" := by decide +kernel
  obtain ⟨named, capitals⟩ := known_spec writable.known
  obtain ⟨yearLength, yearDigits, -⟩ := twoDigits_spec symbol.expiry.year
  obtain ⟨dayLength, dayDigits, -⟩ := twoDigits_spec symbol.expiry.day
  obtain ⟨-, monthLength, monthLetters, -⟩ := monthName_spec symbol.expiry
  obtain ⟨some, digits, -⟩ := strike_spec writable.positive
  have type : (Slot.oneOf optionTypes).accepts (typeText symbol.optionType).toList = true :=
    decide_eq_true (typeText_spec symbol.optionType).1
  have text : (registry.getBrokerSymbol symbol "angelone").toList =
      [symbol.underlying.toList, (angelDigits symbol).1, (monthName symbol.expiry).toList,
        (angelDigits symbol).2, (typeText symbol.optionType).toList].flatten := by
    rcases List.mem_append.mp writable.known with index | mcx
    · obtain ⟨notUpper, notMcx⟩ := index_upper index
      simp [getBrokerSymbol, lower, notUpper, notMcx, angelDigits, InternalSymbol.toAngelone]
    · simp [getBrokerSymbol, getMcxSymbol, lower, mcx_upper mcx, mcx, angelDigits]
  rw [text]
  refine read_flatten angelPattern_separated (.cons ?_ (.cons ?_ (.cons ?_ (.cons ?_
    (.cons type .nil)))))
  · simp only [Slot.accepts, named, capitals, ne_eq, not_false_eq_true, decide_true,
      Bool.and_self]
  · unfold angelDigits
    split <;> simp only [Slot.accepts, yearLength, yearDigits, dayLength, dayDigits, decide_true,
      Bool.and_self]
  · simp only [Slot.accepts, monthLength, monthLetters, decide_true, Bool.and_self]
  · unfold angelDigits
    split
    · simp only [Slot.accepts, some, digits, ne_eq, not_false_eq_true, decide_true, Bool.and_self]
    · simp only [Slot.accepts, List.append_eq_nil_iff, some, and_false, List.all_append, digits,
        yearDigits, ne_eq, not_false_eq_true, decide_true, Bool.and_self]

/-- The result that is picked has no token or the contract's, or there is none. -/
theorem pickScrip_fits (tradingsymbol : String) (lst : List Scrip) :
    Fits behind symbol (pickScrip tradingsymbol (angelDigits symbol).1
        (monthName symbol.expiry).toList (angelDigits symbol).2
        (typeText symbol.optionType).toList lst).1 ↔
      ∀ scrip ∈ lst.find? (resembles symbol), Fits behind symbol scrip.symboltoken := by
  unfold pickScrip resembles
  cases lst.find? (scripMatches (angelDigits symbol).1 (monthName symbol.expiry).toList
    (angelDigits symbol).2 (typeText symbol.optionType).toList) with
  | none => simp [Fits]
  | some scrip => simp

theorem searchByName_fits (writable : Writable symbol) (caches : AngelCaches) (exchange : String)
    (r2 : SearchReply) :
    Fits behind symbol (searchByName caches exchange
        (registry.getBrokerSymbol symbol "angelone") r2).1.1 ↔
      ∀ lst ∈ namedScrips caches exchange symbol.underlying r2,
        ∀ scrip ∈ lst.find? (resembles symbol), Fits behind symbol scrip.symboltoken := by
  unfold searchByName namedScrips
  simp only [angelSymbol_read writable, String.ofList_toList]
  cases caches.scrip.lookup (exchange, symbol.underlying) with
  | some lst => simpa using pickScrip_fits _ lst
  | none =>
    cases r2 with
    | raised => simp [Fits]
    | failed =>
      simpa using pickScrip_fits (registry.getBrokerSymbol symbol "angelone")
        (SearchReply.rows .failed)
    | data scrips =>
      simpa using pickScrip_fits (registry.getBrokerSymbol symbol "angelone")
        (SearchReply.rows (.data scrips))

/-- An order goes to the contract exactly if the result that decides is its own. -/
theorem angel_sound_iff (writable : Writable symbol) (caches : AngelCaches) (exchange : String)
    (res r2 : SearchReply) :
    Sound behind symbol (angelOrder registry caches exchange symbol res r2) ↔
      AngelListed registry behind caches exchange res r2 symbol := by
  have sound : Sound behind symbol (angelOrder registry caches exchange symbol res r2) ↔
      Fits behind symbol (lookupSymbol caches exchange
        (registry.getBrokerSymbol symbol "angelone") res r2).1.1 := by
    unfold Sound angelOrder Fits
    by_cases missing : (lookupSymbol caches exchange
        (registry.getBrokerSymbol symbol "angelone") res r2).1.1 = ""
    · simp [missing]
    · simp [missing]
  rw [sound]
  have byName : Fits behind symbol (searchByName caches exchange
      (registry.getBrokerSymbol symbol "angelone") r2).1.1 ↔ _ :=
    searchByName_fits writable caches exchange r2
  unfold AngelListed lookupSymbol
  cases cached : caches.tok.lookup (exchange, registry.getBrokerSymbol symbol "angelone") with
  | some entry => simp only [cached]
  | none =>
    simp only [cached]
    cases res with
    | raised => simp [Fits]
    | failed =>
      simp only [ne_eq, reduceCtorEq, not_false_eq_true, forall_const]
      split
      · rfl
      · exact byName
    | data scrips =>
      simp only [ne_eq, reduceCtorEq, not_false_eq_true, forall_const]
      split
      · rfl
      · exact byName

end AngelSound

section Resolution

/-- An order goes to the contract that was asked for exactly if the row or the search
result that decides is that contract's. -/
theorem token_resolution_sound_iff {registry : InstrumentRegistry}
    {behind : String → Option Instrument} {symbol : InternalSymbol}
    (numbered : ∀ text, behind text ≠ none → text.toList.all Char.isDigit = true)
    (writable : Writable symbol) (broker : TokenBroker) :
    Sound behind symbol (orderNumber registry broker symbol) ↔
      Listed registry behind broker symbol := by
  cases broker with
  | dhan rows => exact dhan_sound_iff numbered writable rows
  | angel caches exchange res r2 => exact angel_sound_iff writable caches exchange res r2

/-- A registry that has loaded nothing; the two brokers' symbols do not depend on it. -/
def bareRegistry : InstrumentRegistry where
  allExpiries := fun _ => []
  sorted := fun _ => List.Pairwise.nil
  getUpstoxKey := fun _ _ _ _ => ""

theorem august_valid : 1 ≤ 8 ∧ 8 ≤ 12 := by decide

def lastTuesday : Date := ⟨2026, 8, 25, august_valid, by decide⟩

def crudeExpiry : Date := ⟨2026, 8, 19, august_valid, by decide⟩

def crudeCall : InternalSymbol := ⟨"CRUDEOIL", 8800, .ce, crudeExpiry⟩

def niftyCall : InternalSymbol := ⟨"NIFTY", 65000, .ce, lastTuesday⟩

/-- Three contracts and their numbers. -/
def sold (text : String) : Option Instrument :=
  if text = "35001" then some ⟨"NIFTY", 65000, .ce, lastTuesday⟩
  else if text = "35002" then some ⟨"NIFTYNXT50", 65000, .ce, lastTuesday⟩
  else if text = "45002" then some ⟨"CRUDEOILM", 8800, .ce, crudeExpiry⟩
  else none

theorem sold_numbered (text : String) (found : sold text ≠ none) :
    text.toList.all Char.isDigit = true := by
  unfold sold at found
  by_cases nifty : text = "35001"
  · rw [nifty]
    decide
  by_cases next : text = "35002"
  · rw [next]
    decide
  by_cases mini : text = "45002"
  · rw [mini]
    decide
  · simp [nifty, next, mini] at found

def masterRow (tradingSymbol securityId : String) : MasterRow :=
  ⟨"NSE", tradingSymbol, securityId, some lastTuesday, some 65000, "CE", "OPTIDX"⟩

/-- The master's row of the contract stands last. -/
theorem listed_row_sound :
    Sound sold niftyCall (orderNumber bareRegistry
      (.dhan [masterRow "NIFTYNXT50-Aug2026-65000-CE" "35002",
        masterRow "NIFTY-Aug2026-65000-CE" "35001"]) niftyCall) :=
  (token_resolution_sound_iff sold_numbered ⟨by decide, by decide⟩ _).mpr
    ⟨by decide, masterRow "NIFTY-Aug2026-65000-CE" "35001", by decide, by decide⟩

/-- The row of another index that stands last is taken; a symbol without a row is sent
as it is; and the result for the mini contract is taken for the crude oil one. -/
theorem another_contract_is_ordered :
    let swapped : TokenBroker := .dhan [masterRow "NIFTY-Aug2026-65000-CE" "35001",
      masterRow "NIFTYNXT50-Aug2026-65000-CE" "35002"]
    let mini : TokenBroker := .angel ⟨[], []⟩ "MCX" (.data [])
      (.data [⟨"CRUDEOILM26AUG8800CE", "45002"⟩])
    orderNumber bareRegistry swapped niftyCall = some "35002" ∧
      ¬ Sound sold niftyCall (orderNumber bareRegistry swapped niftyCall) ∧
      orderNumber bareRegistry (.dhan []) niftyCall = some "NIFTY:25AUG26:65000:CE" ∧
      ¬ Sound sold niftyCall (orderNumber bareRegistry (.dhan []) niftyCall) ∧
      orderNumber bareRegistry mini crudeCall = some "45002" ∧
      ¬ Sound sold crudeCall (orderNumber bareRegistry mini crudeCall) := by
  decide +kernel

end Resolution

end OptionChain.TokenResolution
