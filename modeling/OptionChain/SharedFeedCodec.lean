import OptionChain.FyersSymbols
import OptionChain.Patterns
import OptionChain.Rounding
import OptionChain.Ticks

/-!
# Ticks over the shared feed

The feed server writes a tick as a dictionary, the client of another process reads the
dictionary back field by field, with a default for a field that is missing. The line of
JSON between them is left out: it gives back texts, integers and finite floats as they
were. A timestamp is not carried over; the client takes its own clock.
-/

namespace OptionChain.SharedFeedCodec

open Broker CivilDates ContractSymbols FyersSymbols Patterns Rounding Ticks

section Messages

inductive JsonValue where
  | string (text : String)
  | int (value : Int)
  | float (value : Rat)
deriving DecidableEq

/-- A JSON object, in the order in which it is written. -/
abbrev Message := List (String × JsonValue)

namespace Message

/-- `raw.get(key)`. -/
def get (raw : Message) (key : String) : Option JsonValue :=
  (raw.find? fun entry => decide (entry.1 = key)).map Prod.snd

/-- `float(raw.get(key, 0))`; no text is sent where a number is read. -/
def float (raw : Message) (key : String) : Option Rat :=
  match raw.get key with
  | some (.float value) => some value
  | some (.int value) => some value
  | some (.string _) => none
  | none => some 0

/-- `int(raw.get(key, 0))`. -/
def int (raw : Message) (key : String) : Option Int :=
  match raw.get key with
  | some (.float value) => some (towardZero value)
  | some (.int value) => some value
  | some (.string _) => none
  | none => some 0

/-- A text, or its default. -/
def text (raw : Message) (key : String) (default : String) : Option String :=
  match raw.get key with
  | some (.string value) => some value
  | some (.int _) | some (.float _) => none
  | none => some default

end Message

end Messages

section Dates

/-- `isoformat`. -/
def isoformat (day : CalendarDay) : String :=
  twoDigits (day.year / 100) ++ twoDigits day.year ++ "-" ++ twoDigits day.month ++ "-" ++
    twoDigits day.day

/-- A century, a year of it, a month and a day. -/
def isoPattern : List (Slot Char) :=
  [.exactly 2 Char.isDigit, .exactly 2 Char.isDigit, .oneOf [['-']], .exactly 2 Char.isDigit,
    .oneOf [['-']], .exactly 2 Char.isDigit]

/-- `date.fromisoformat`, which raises on another text. The other forms that it accepts are
never written. -/
def fromisoformat (text : String) : Option CalendarDay :=
  match read isoPattern text.toList with
  | some [century, year, _, month, _, day] =>
      match date? (number century * 100 + number year) (number month) (number day) with
      | some date =>
          if inRange : 1 ≤ date.year ∧ date.year ≤ 9999 then some ⟨date, inRange⟩ else none
      | none => none
  | _ => none

end Dates

section Codec

/-- A tick on either topic of the bus. -/
inductive BusTick where
  | index (tick : IndexTick)
  | option (tick : OptionTick)
deriving DecidableEq

/-- The message of `_drain_index_ticks`. -/
def encodeIndex (ts : Rat) (tick : IndexTick) : Message :=
  [("type", .string "tick"), ("symbol", .string tick.symbol), ("ltp", .float tick.ltp),
    ("open", .float tick.opening), ("high", .float tick.high), ("low", .float tick.low),
    ("close", .float tick.close), ("volume", .int tick.volume), ("ts", .float ts),
    ("source", .string "feeder")]

/-- The message of `_drain_option_ticks`. -/
def encodeOption (ts : Rat) (tick : OptionTick) : Message :=
  [("type", .string "opt_tick"), ("symbol", .string tick.symbol),
    ("underlying", .string tick.underlying), ("strike", .float tick.strike),
    ("option_type", .string (typeText tick.optionType)),
    ("expiry", .string (isoformat tick.expiry)),
    ("ltp", .float tick.ltp), ("bid", .float tick.bid), ("ask", .float tick.ask),
    ("oi", .int tick.oi), ("change_oi", .int tick.changeOi), ("volume", .int tick.volume),
    ("iv", .float tick.iv), ("delta", .float tick.delta), ("ts", .float ts)]

def encode (ts : Rat) : BusTick → Message
  | .index tick => encodeIndex ts tick
  | .option tick => encodeOption ts tick

variable (now : Int) (today : CalendarDay)

/-- `_parse_frame` for a tick of an index. -/
def decodeIndex (raw : Message) : Option IndexTick := do
  let _ ← raw.get "symbol"
  let symbol ← raw.text "symbol" ""
  let ltp ← raw.float "ltp"
  let opening ← raw.float "open"
  let high ← raw.float "high"
  let low ← raw.float "low"
  let close ← raw.float "close"
  let volume ← raw.int "volume"
  return ⟨symbol, ltp, opening, high, low, close, volume, now⟩

/-- The expiry, or the day of the client where there is none or it cannot be read. -/
def decodeExpiry (raw : Message) : Option CalendarDay := do
  let text ← raw.text "expiry" ""
  return if text = "" then today else (fromisoformat text).getD today

/-- `_parse_frame` for an option tick; `atp` is left to its default. -/
def decodeOption (raw : Message) : Option OptionTick := do
  let expiry ← decodeExpiry today raw
  let _ ← raw.get "symbol"
  let symbol ← raw.text "symbol" ""
  let underlying ← raw.text "underlying" ""
  let strike ← raw.float "strike"
  let optionType ← raw.text "option_type" "CE"
  let ltp ← raw.float "ltp"
  let bid ← raw.float "bid"
  let ask ← raw.float "ask"
  let oi ← raw.int "oi"
  let changeOi ← raw.int "change_oi"
  let volume ← raw.int "volume"
  let iv ← raw.float "iv"
  let delta ← raw.float "delta"
  return ⟨symbol, underlying, strike, readType optionType.toList, expiry, ltp, bid, ask, oi,
    changeOi, volume, iv, delta, now, 0⟩

/-- `_parse_frame`. -/
def parseFrame (raw : Message) : Option BusTick :=
  if raw.get "type" = some (.string "tick") then (decodeIndex now raw).map .index
  else if raw.get "type" = some (.string "opt_tick") then (decodeOption now today raw).map .option
  else none

/-- The tick as it was, at the client's time. -/
def BusTick.restamped : BusTick → BusTick
  | .index tick => .index { tick with timestamp := now }
  | .option tick => .option { tick with timestamp := now }

/-- An index tick, or an option tick without an average price. -/
def BusTick.Unpriced : BusTick → Prop
  | .index _ => True
  | .option tick => tick.atp = 0

end Codec

section RoundTrip

theorem isoPattern_separated : Separated isoPattern :=
  ⟨⟨1, by decide⟩, ⟨1, by decide⟩, trivial⟩

/-- A date is read back from its text. -/
theorem fromisoformat_isoformat (day : CalendarDay) : fromisoformat (isoformat day) = some day := by
  obtain ⟨first, last⟩ := day.fourDigits
  obtain ⟨centuryLength, centuryDigits, century⟩ := twoDigits_spec (day.year / 100)
  obtain ⟨yearLength, yearDigits, year⟩ := twoDigits_spec day.year
  obtain ⟨monthLength, monthDigits, month⟩ := twoDigits_spec day.month
  obtain ⟨dayLength, dayDigits, number⟩ := twoDigits_spec day.day
  have pair {text : List Char} (two : text.length = 2) (digits : text.all Char.isDigit = true) :
      (Slot.exactly 2 Char.isDigit).accepts text = true := by
    simp only [Slot.accepts, two, digits, decide_true, Bool.and_self]
  have dash : (Slot.oneOf [['-']]).accepts ['-'] = true := by decide
  have text : (isoformat day).toList =
      [(twoDigits (day.year / 100)).toList, (twoDigits day.year).toList, ['-'],
        (twoDigits day.month).toList, ['-'], (twoDigits day.day).toList].flatten := by
    simp [isoformat]
  have accepted : Accepts isoPattern [(twoDigits (day.year / 100)).toList,
      (twoDigits day.year).toList, ['-'], (twoDigits day.month).toList, ['-'],
      (twoDigits day.day).toList] :=
    .cons (pair centuryLength centuryDigits) (.cons (pair yearLength yearDigits) (.cons dash
      (.cons (pair monthLength monthDigits) (.cons dash (.cons (pair dayLength dayDigits) .nil)))))
  have months := day.validMonth.2
  have days := day.day_le
  have shortMonth : day.month % 100 = day.month := Nat.mod_eq_of_lt (by omega)
  have shortDay : day.day % 100 = day.day := Nat.mod_eq_of_lt (by omega)
  have whole : day.year / 100 % 100 * 100 + day.year % 100 = day.year := by omega
  rw [fromisoformat, text, read_flatten isoPattern_separated accepted]
  simp only [century, year, month, number, shortMonth, shortDay, whole, date?_self,
    dif_pos day.fourDigits]

/-- What the client makes of a message of the server. -/
theorem parseFrame_encode (ts : Rat) (now : Int) (today : CalendarDay) (tick : BusTick) :
    parseFrame now today (encode ts tick) = some (match tick with
      | .index tick => .index { tick with timestamp := now }
      | .option tick => .option { tick with timestamp := now, atp := 0 }) := by
  cases tick with
  | index tick =>
    simp [parseFrame, encode, encodeIndex, decodeIndex, Message.get, Message.float, Message.int,
      Message.text]
  | option tick =>
    have written : isoformat tick.expiry ≠ "" := by
      intro empty
      have dash : '-' ∈ (isoformat tick.expiry).toList := by simp [isoformat]
      rw [empty] at dash
      cases dash
    simp [parseFrame, encode, encodeOption, decodeOption, decodeExpiry, Message.get, Message.float,
      Message.int, Message.text, written, fromisoformat_isoformat,
      (typeText_spec tick.optionType).2]

/-- A tick comes out of the shared feed as it was, but for its timestamp, exactly if it has
no average price. -/
theorem shared_tick_iff (ts : Rat) (now : Int) (today : CalendarDay) (tick : BusTick) :
    parseFrame now today (encode ts tick) = some (tick.restamped now) ↔ tick.Unpriced := by
  rw [parseFrame_encode, Option.some.injEq]
  cases tick with
  | index tick => exact iff_of_true rfl trivial
  | option tick =>
    rw [BusTick.restamped, BusTick.option.injEq]
    constructor
    · intro same
      exact (congrArg OptionTick.atp same).symm
    · intro unpriced
      rw [← unpriced]

/-- A call of NIFTY with an average price of 151. -/
def pricedCall : OptionTick :=
  ⟨"NSE_FO|40001", "NIFTY", 24500, .ce, ⟨⟨2026, 10, 27, by decide, by decide⟩, by decide⟩,
    150, 149, 151, 1200, 40, 9000, 12, 0, 33301000000, 151⟩

theorem average_price_lost :
    parseFrame 33301000000 pricedCall.expiry (encode 0 (.option pricedCall)) =
        some (.option { pricedCall with atp := 0 }) ∧
      parseFrame 33301000000 pricedCall.expiry (encode 0 (.option pricedCall)) ≠
        some ((BusTick.option pricedCall).restamped 33301000000) := by
  decide

end RoundTrip

end OptionChain.SharedFeedCodec
