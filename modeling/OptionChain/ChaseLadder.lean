import OptionChain.ExecutorAtomicity

/-!
# The prices of the ladder

The rungs of a chase walk from the mid to the touch. Each price is the nearest multiple of
the tick to a point between bid and ask, so it stays in the quote when bid and ask are
multiples themselves. The source rounds the price once more, to eight decimals, which
changes nothing for a tick that has no more.
-/

namespace OptionChain.ChaseLadder

open Broker Rounding SmartExecutor ExecutorSizing ExecutorRuns ExecutorAtomicity

/-- Quotes of a book whose prices are multiples of the tick. -/
structure TickQuote (tick bid ask : Rat) : Prop where
  positive : 0 < bid
  ordered : bid ≤ ask
  bidTicks : ∃ n : Int, bid = n * tick
  askTicks : ∃ n : Int, ask = n * tick

/-- A tick that eight decimals can write. -/
def EightDecimals (tick : Rat) : Prop := ∃ n : Int, tick = n / 10 ^ 8

/-- The side of the quote that fills an order at once. -/
def touch (leg : LegOrder) (bid ask : Rat) : Rat := if leg.side = .sell then bid else ask

/-- Where a rung aims: at the mid first, and at the touch after all chases. -/
def aim (leg : LegOrder) (chases attempt : Nat) (bid ask : Rat) : Rat :=
  (bid + ask) / 2 + (touch leg bid ask - (bid + ask) / 2) * (attempt / chases)

/-- The nearest multiple of the tick. -/
def nearestTick (tick price : Rat) : Rat := roundHalfEven (price / tick) * tick

theorem aim_first (leg : LegOrder) (chases : Nat) (bid ask : Rat) :
    aim leg chases 0 bid ask = (bid + ask) / 2 := by
  simp [aim]

theorem aim_last (leg : LegOrder) {chases : Nat} (chased : 1 ≤ chases) (bid ask : Rat) :
    aim leg chases chases bid ask = touch leg bid ask := by
  have nonzero : (chases : Rat) ≠ 0 := by
    have positive : chases ≠ 0 := by omega
    exact_mod_cast positive
  rw [aim, div_self nonzero]
  ring

/-- The part of the way to the touch grows with the attempt and never exceeds it. -/
theorem fraction_mono (chases : Nat) {attempt later : Nat} (ordered : attempt ≤ later) :
    (attempt / chases : Rat) ≤ later / chases := by
  have cast : (attempt : Rat) ≤ later := by exact_mod_cast ordered
  exact div_le_div_of_nonneg_right cast (Nat.cast_nonneg chases)

theorem fraction_le_one {chases attempt : Nat} (within : attempt ≤ chases) :
    (attempt / chases : Rat) ≤ 1 := by
  have cast : (attempt : Rat) ≤ chases := by exact_mod_cast within
  exact div_le_one_of_le₀ cast (Nat.cast_nonneg chases)

/-- A rung aims into the quote. -/
theorem aim_between (leg : LegOrder) {chases attempt : Nat} {bid ask : Rat} (ordered : bid ≤ ask)
    (within : attempt ≤ chases) :
    bid ≤ aim leg chases attempt bid ask ∧ aim leg chases attempt bid ask ≤ ask := by
  have low : (0 : Rat) ≤ attempt / chases := by positivity
  have high := fraction_le_one within
  have half : 0 ≤ (ask - bid) / 2 := by linarith
  have step := mul_le_of_le_one_right half high
  have nonnegative := mul_nonneg half low
  unfold aim touch
  split
  · constructor <;> linarith
  · constructor <;> linarith

/-- Later rungs aim closer to the touch: down for a sale, up for a purchase. -/
theorem aim_towards (leg : LegOrder) (chases : Nat) {attempt later : Nat} {bid ask : Rat}
    (ordered : bid ≤ ask) (after : attempt ≤ later) :
    if leg.side = .sell then aim leg chases later bid ask ≤ aim leg chases attempt bid ask
    else aim leg chases attempt bid ask ≤ aim leg chases later bid ask := by
  have half : 0 ≤ (ask - bid) / 2 := by linarith
  have step := mul_le_mul_of_nonneg_left (fraction_mono chases after) half
  unfold aim touch
  split
  · linarith
  · linarith

section Ticks

variable {tick : Rat} (positive : 0 < tick)

include positive

theorem nearestTick_mono {price other : Rat} (ordered : price ≤ other) :
    nearestTick tick price ≤ nearestTick tick other := by
  have scaled : price / tick ≤ other / tick := div_le_div_of_nonneg_right ordered positive.le
  have rounded : (roundHalfEven (price / tick) : Rat) ≤ roundHalfEven (other / tick) := by
    exact_mod_cast roundHalfEven_mono scaled
  exact mul_le_mul_of_nonneg_right rounded positive.le

/-- Multiples of the tick are left as they are. -/
theorem nearestTick_multiple (n : Int) : nearestTick tick (n * tick) = n * tick := by
  rw [nearestTick, mul_div_cancel_right₀ _ positive.ne', roundHalfEven_intCast]

/-- `_round_tick` of a positive tick. -/
theorem roundTick_eq (price : Rat) : roundTick price tick = roundTo 8 (nearestTick tick price) := by
  rw [roundTick, if_pos positive]
  rfl

end Ticks

/-- The second rounding leaves the multiples of a tick of eight decimals alone. -/
theorem roundTo_multiple {tick : Rat} (decimals : EightDecimals tick) (n : Int) :
    roundTo 8 (n * tick) = n * tick := by
  apply (roundTo_eq_iff 8 _).mpr
  obtain ⟨units, rfl⟩ := decimals
  refine ⟨n * units, ?_⟩
  push_cast
  ring

section Rungs

variable {leg : LegOrder} {chases : Nat} (positive : 0 < leg.tick) (chased : 1 ≤ chases)

include positive chased

theorem rungPrice_eq (attempt : Nat) (bid ask : Rat) :
    rungPrice leg chases attempt bid ask =
      roundTo 8 (nearestTick leg.tick (aim leg chases attempt bid ask)) := by
  unfold rungPrice
  rw [roundTick_eq positive, max_eq_left chased]
  rfl

omit chased in
/-- The tick nearest to an aim lies in the quote. -/
theorem nearestTick_between {attempt : Nat} {bid ask : Rat} (quote : TickQuote leg.tick bid ask)
    (within : attempt ≤ chases) :
    bid ≤ nearestTick leg.tick (aim leg chases attempt bid ask) ∧
      nearestTick leg.tick (aim leg chases attempt bid ask) ≤ ask := by
  obtain ⟨low, high⟩ := aim_between leg quote.ordered within
  obtain ⟨below, bidTicks⟩ := quote.bidTicks
  obtain ⟨above, askTicks⟩ := quote.askTicks
  constructor
  · calc bid = nearestTick leg.tick bid := by rw [bidTicks, nearestTick_multiple positive]
      _ ≤ _ := nearestTick_mono positive low
  · calc nearestTick leg.tick (aim leg chases attempt bid ask)
        ≤ nearestTick leg.tick ask := nearestTick_mono positive high
      _ = ask := by rw [askTicks, nearestTick_multiple positive]

/-- Of two rungs of one quote the later is priced closer to the touch. -/
theorem rungPrice_towards {attempt later : Nat} {bid ask : Rat}
    (quote : TickQuote leg.tick bid ask) (after : attempt ≤ later) :
    if leg.side = .sell then
      rungPrice leg chases later bid ask ≤ rungPrice leg chases attempt bid ask
    else rungPrice leg chases attempt bid ask ≤ rungPrice leg chases later bid ask := by
  have towards := aim_towards leg chases quote.ordered after
  simp only [rungPrice_eq positive chased]
  split
  next sale =>
    rw [if_pos sale] at towards
    exact roundTo_mono 8 (nearestTick_mono positive towards)
  next purchase =>
    rw [if_neg purchase] at towards
    exact roundTo_mono 8 (nearestTick_mono positive towards)

/-- The last rung is at the touch. -/
theorem rungPrice_last {bid ask : Rat} (quote : TickQuote leg.tick bid ask) :
    rungPrice leg chases chases bid ask = roundTo 8 (touch leg bid ask) := by
  rw [rungPrice_eq positive chased, aim_last leg chased]
  obtain ⟨below, bidTicks⟩ := quote.bidTicks
  obtain ⟨above, askTicks⟩ := quote.askTicks
  unfold touch
  split
  · rw [bidTicks, nearestTick_multiple positive]
  · rw [askTicks, nearestTick_multiple positive]

end Rungs

section Call

variable (venue : Venue) (leg : LegOrder) (chases : Nat)

/-- What the orders of a call ask for: a limit order the price of the rung with its number,
and every order what the ones before it were not credited with. -/
structure Laid (attempts : List Attempt) : Prop where
  rung : ∀ n attempt, attempts[n]? = some attempt → attempt.request.orderType = .limit →
    n ≤ chases ∧ rungQuote venue leg chases n = some attempt.request.price
  sized : ∀ n attempt, attempts[n]? = some attempt →
    attempt.request.qty = leg.qty - creditQty (attempts.take n)

/-- Between two orders the books hold the credits as well. -/
def Balanced (progress : Progress) : Prop :=
  Laid venue leg chases progress.attempts ∧ progress.filledQty = creditQty progress.attempts

variable {venue leg chases}

theorem laid_snoc {attempts : List Attempt} {last : Attempt}
    (laid : Laid venue leg chases attempts)
    (rung : last.request.orderType = .limit → attempts.length ≤ chases ∧
      rungQuote venue leg chases attempts.length = some last.request.price)
    (sized : last.request.qty = leg.qty - creditQty attempts) :
    Laid venue leg chases (attempts ++ [last]) := by
  have earlier : ∀ n attempt, (attempts ++ [last])[n]? = some attempt →
      attempts[n]? = some attempt ∨ (n = attempts.length ∧ attempt = last) := by
    intro n attempt found
    rw [List.getElem?_append] at found
    split at found
    · exact .inl found
    · rename_i beyond
      obtain ⟨bound, same⟩ := List.getElem?_eq_some_iff.mp found
      rw [List.length_singleton] at bound
      rw [List.getElem_singleton] at same
      exact .inr ⟨by omega, same.symm⟩
  constructor
  · intro n attempt found limit
    rcases earlier n attempt found with old | ⟨rfl, rfl⟩
    · exact laid.rung n attempt old limit
    · exact rung limit
  · intro n attempt found
    rcases earlier n attempt found with old | ⟨rfl, rfl⟩
    · have inside : n < attempts.length := (List.getElem?_eq_some_iff.mp old).1
      rw [List.take_append_of_le_length inside.le]
      exact laid.sized n attempt old
    · rw [List.take_left]
      exact sized

/-- A limit order of the next rung, or the MARKET order, asks for what is left. -/
theorem laid_rung {progress : Progress} {price : Rat} (answer : Option OrderScript)
    (balanced : Balanced venue leg chases progress) (rung : Rung venue leg chases progress price) :
    Laid venue leg chases (progress.attempts ++ [⟨rungOrder leg progress price, answer⟩]) := by
  apply laid_snoc balanced.1
  · intro _
    exact ⟨rung.within, rung.quoted⟩
  · rw [← balanced.2]
    rfl

theorem laid_rest {progress : Progress} (answer : Option OrderScript)
    (balanced : Balanced venue leg chases progress) :
    Laid venue leg chases (progress.attempts ++ [⟨restOrder leg progress, answer⟩]) := by
  apply laid_snoc balanced.1
  · rintro ⟨⟩
  · rw [← balanced.2]
    rfl

theorem balanced_book {progress : Progress} {request : OrderRequest} {script : OrderScript}
    {read : Int × Rat} (balanced : Balanced venue leg chases progress)
    (laid : Laid venue leg chases (progress.attempts ++ [⟨request, some script⟩]))
    (found : readBy ⟨request, some script⟩ = some read) :
    Balanced venue leg chases ((progress.attempt request (some script)).book read) := by
  constructor
  · rw [book_attempts, attempt_attempts]
    exact laid
  · rw [book_filledQty, attempt_filledQty, book_attempts, attempt_attempts, creditQty_snoc,
      balanced.2]
    simp only [creditBy, found]

theorem laid_steps : Steps venue leg chases (Balanced venue leg chases)
    (fun raised => Laid venue leg chases raised.attempts) where
  empty := by
    refine ⟨⟨?_, ?_⟩, rfl⟩
    · intro n attempt found
      simp [Progress.empty] at found
    · intro n attempt found
      simp [Progress.empty] at found
  refusedRung _ _ balanced rung _ := laid_rung none balanced rung
  readRung _ _ script balanced rung _ :=
    balanced_book balanced (laid_rung (some script) balanced rung) rfl
  refusedRest _ balanced _ := laid_rest none balanced
  unreadRest _ script balanced _ _ := laid_rest (some script) balanced
  readRest _ script _ balanced _ found :=
    balanced_book balanced (laid_rest (some script) balanced) found

/-- However a call ends, its orders are laid out so. -/
theorem execute_leg_laid : Laid venue leg chases (executeLeg venue leg chases).1 := by
  have ends : EndsIn (Balanced venue leg chases)
      (fun raised => Laid venue leg chases raised.attempts) (orders venue leg chases) :=
    orders_rule laid_steps
  unfold executeLeg
  cases outcome : orders venue leg chases with
  | error raised =>
    rw [outcome] at ends
    exact ends
  | ok progress =>
    rw [outcome] at ends
    exact ends.1

end Call

/-- A rung that sends an order has a quote and prices it. -/
theorem rungQuote_some {venue : Venue} {leg : LegOrder} {chases attempt : Nat} {price : Rat}
    (quoted : rungQuote venue leg chases attempt = some price) :
    ∃ bid ask, venue.quote attempt = some (bid, ask) ∧
      price = rungPrice leg chases attempt bid ask := by
  unfold rungQuote at quoted
  cases quote : venue.quote attempt with
  | none =>
    rw [quote] at quoted
    cases quoted
  | some pair =>
    obtain ⟨bid, ask⟩ := pair
    rw [quote] at quoted
    dsimp only at quoted
    split at quoted
    · split at quoted
      · cases quoted
      · exact ⟨bid, ask, rfl, (Option.some.inj quoted).symm⟩
    · cases quoted

/-- The orders of a chase walk from the mid to the touch of their quotes, in ticks and
rounded to eight decimals. A tick of eight decimals keeps them in the quote and on the tick.
Each order asks for what the ones before it, all booked whole, left unfilled. -/
structure ChasesInside (venue : Venue) (leg : LegOrder) (chases : Nat)
    (attempts : List Attempt) : Prop where
  priced : ∀ n attempt, attempts[n]? = some attempt → attempt.request.orderType = .limit →
    ∃ bid ask, venue.quote n = some (bid, ask) ∧ n ≤ chases ∧
      attempt.request.price = roundTo 8 (nearestTick leg.tick (aim leg chases n bid ask)) ∧
      roundTo 8 bid ≤ attempt.request.price ∧ attempt.request.price ≤ roundTo 8 ask ∧
      (EightDecimals leg.tick → bid ≤ attempt.request.price ∧ attempt.request.price ≤ ask ∧
        attempt.request.price = nearestTick leg.tick (aim leg chases n bid ask))
  first : ∀ attempt bid ask, attempts[0]? = some attempt →
    attempt.request.orderType = .limit → venue.quote 0 = some (bid, ask) →
    attempt.request.price = roundTo 8 (nearestTick leg.tick ((bid + ask) / 2))
  last : ∀ attempt bid ask, attempts[chases]? = some attempt →
    attempt.request.orderType = .limit → venue.quote chases = some (bid, ask) →
    attempt.request.price = roundTo 8 (touch leg bid ask) ∧
      (EightDecimals leg.tick → attempt.request.price = touch leg bid ask)
  towards : ∀ n m early late, n ≤ m → attempts[n]? = some early → attempts[m]? = some late →
    early.request.orderType = .limit → late.request.orderType = .limit →
    venue.quote n = venue.quote m →
    if leg.side = .sell then late.request.price ≤ early.request.price
    else early.request.price ≤ late.request.price
  sized : ∀ n attempt, attempts[n]? = some attempt →
    (∀ earlier ∈ attempts.take n, ReadWhole earlier) →
    attempt.request.qty = leg.qty - ExecutorBooking.realQty (attempts.take n)

/-- Orders that were read whole are credited with what they filled. -/
theorem creditQty_whole {attempts : List Attempt}
    (whole : ∀ attempt ∈ attempts, ReadWhole attempt) :
    creditQty attempts = ExecutorBooking.realQty attempts := by
  unfold creditQty ExecutorBooking.realQty
  congr 1
  apply List.map_congr_left
  intro attempt placed
  obtain ⟨read, found, same⟩ := whole attempt placed
  simp only [creditBy, found]
  exact same

/-- With eight decimals the touch is a price of the ladder. -/
theorem roundTo_touch {leg : LegOrder} {bid ask : Rat} (quote : TickQuote leg.tick bid ask)
    (decimals : EightDecimals leg.tick) : roundTo 8 (touch leg bid ask) = touch leg bid ask := by
  obtain ⟨below, bidTicks⟩ := quote.bidTicks
  obtain ⟨above, askTicks⟩ := quote.askTicks
  unfold touch
  split
  · rw [bidTicks, roundTo_multiple decimals]
  · rw [askTicks, roundTo_multiple decimals]

/-- With a tick and quotes on its multiples, a call with at least one chase sends such
orders. -/
theorem execute_leg_chases_inside {venue : Venue} {leg : LegOrder} {chases : Nat}
    (positive : 0 < leg.tick) (chased : 1 ≤ chases)
    (quotes : ∀ n bid ask, venue.quote n = some (bid, ask) → TickQuote leg.tick bid ask) :
    ChasesInside venue leg chases (executeLeg venue leg chases).1 := by
  have laid : Laid venue leg chases (executeLeg venue leg chases).1 := execute_leg_laid
  constructor
  · intro n attempt found limit
    obtain ⟨within, quoted⟩ := laid.rung n attempt found limit
    obtain ⟨bid, ask, quote, price⟩ := rungQuote_some quoted
    obtain ⟨low, high⟩ := nearestTick_between positive (quotes n bid ask quote) within
    rw [rungPrice_eq positive chased] at price
    refine ⟨bid, ask, quote, within, price, ?_, ?_, ?_⟩
    · rw [price]
      exact roundTo_mono 8 low
    · rw [price]
      exact roundTo_mono 8 high
    · intro decimals
      have exact : attempt.request.price = nearestTick leg.tick (aim leg chases n bid ask) :=
        price.trans (roundTo_multiple decimals _)
      rw [exact]
      exact ⟨low, high, rfl⟩
  · intro attempt bid ask found limit quote
    obtain ⟨_, quoted⟩ := laid.rung 0 attempt found limit
    obtain ⟨_, _, same, price⟩ := rungQuote_some quoted
    rw [quote] at same
    cases same
    rw [price, rungPrice_eq positive chased, aim_first]
  · intro attempt bid ask found limit quote
    obtain ⟨_, quoted⟩ := laid.rung chases attempt found limit
    obtain ⟨_, _, same, price⟩ := rungQuote_some quoted
    rw [quote] at same
    cases same
    have onTick := quotes chases bid ask quote
    rw [rungPrice_last positive chased onTick] at price
    exact ⟨price, fun decimals => price.trans (roundTo_touch onTick decimals)⟩
  · intro n m early late ordered foundEarly foundLate limitEarly limitLate constant
    obtain ⟨_, quotedEarly⟩ := laid.rung n early foundEarly limitEarly
    obtain ⟨_, quotedLate⟩ := laid.rung m late foundLate limitLate
    obtain ⟨bid, ask, quote, priceEarly⟩ := rungQuote_some quotedEarly
    obtain ⟨_, _, same, priceLate⟩ := rungQuote_some quotedLate
    rw [← constant, quote] at same
    cases same
    rw [priceEarly, priceLate]
    exact rungPrice_towards positive chased (quotes n bid ask quote) ordered
  · intro n attempt found whole
    rw [laid.sized n attempt found, creditQty_whole whole]

/-- The sale of ten, with one chase. -/
theorem execute_leg_chases_inside_of_sellTen :
    ChasesInside (marginVenue false) ExecutorBooking.sellTen 1
      (executeLeg (marginVenue false) ExecutorBooking.sellTen 1).1 := by
  apply execute_leg_chases_inside
  · norm_num [ExecutorBooking.sellTen]
  · exact Nat.le_refl 1
  · rintro n bid ask ⟨⟩
    constructor
    · norm_num
    · norm_num
    · exact ⟨1000, by norm_num [ExecutorBooking.sellTen]⟩
    · exact ⟨1040, by norm_num [ExecutorBooking.sellTen]⟩

/-- A leg whose tick needs nine decimals, and a venue that quotes three ticks on both
sides and refuses every order. -/
def fineLeg : LegOrder := { ExecutorBooking.sellTen with tick := 5 / 10 ^ 9 }

def fineVenue : Venue where
  quote _ := some (15 / 10 ^ 9, 15 / 10 ^ 9)
  place _ _ := none

/-- The second rounding lifts the first price from three ticks to four, above the ask. -/
theorem chase_leaves_the_quote_of_a_fine_tick :
    TickQuote fineLeg.tick (15 / 10 ^ 9) (15 / 10 ^ 9) ∧
      ∃ attempt, (executeLeg fineVenue fineLeg 1).1[0]? = some attempt ∧
        attempt.request.orderType = .limit ∧ ¬ attempt.request.price ≤ 15 / 10 ^ 9 := by
  have price : rungPrice fineLeg 1 0 (15 / 10 ^ 9) (15 / 10 ^ 9) = 2 / 10 ^ 8 := by
    have three : (((15 / 10 ^ 9 + 15 / 10 ^ 9) / 2 + (15 / 10 ^ 9 - (15 / 10 ^ 9 + 15 / 10 ^ 9) / 2)
        * (0 / 1)) / (5 / 10 ^ 9) : Rat) = ((3 : Int) : Rat) := by norm_num
    have again : (((3 : Int) : Rat) * (5 / 10 ^ 9) * 10 ^ 8) = 3 / 2 := by norm_num
    have up : roundHalfEven (3 / 2) = 2 := by
      have floor : ⌊(3 / 2 : Rat)⌋ = 1 := by norm_num
      rw [roundHalfEven, show (3 / 2 : Rat).floor = 1 from floor]
      norm_num
    simp only [rungPrice, roundTick, fineLeg, ExecutorBooking.sellTen, if_true, Nat.cast_zero,
      max_self, Nat.cast_one]
    rw [three, roundHalfEven_intCast, if_pos (by norm_num), roundTo, again, up]
    norm_num
  have quoted : rungQuote fineVenue fineLeg 1 0 = some (2 / 10 ^ 8) := by
    simp [rungQuote, fineVenue, price]
  have run : (executeLeg fineVenue fineLeg 1).1 =
      [⟨limitRequest fineLeg 10 (2 / 10 ^ 8), none⟩] := by
    unfold executeLeg orders
    rw [if_pos (show fineLeg.useLimit = true from rfl),
      show List.range (1 + 1) = [0, 1] from rfl, climb,
      if_neg (show ¬ fineLeg.qty - Progress.empty.filledQty ≤ 0 by decide), quoted]
    rfl
  refine ⟨⟨by norm_num, le_refl _, ⟨3, by norm_num [fineLeg]⟩, ⟨3, by norm_num [fineLeg]⟩⟩, ?_⟩
  rw [run]
  refine ⟨_, rfl, rfl, ?_⟩
  norm_num [limitRequest]

end OptionChain.ChaseLadder
