import OptionChain.ExecutorBooking
import OptionChain.ExecutorRuns
import OptionChain.ExecutorSizing

/-!
# Exceptions and fills

The caller of `execute_leg` takes an exception as a fill of nothing. The exception says
only that one order was refused or could not be read; what earlier orders of the call
filled stays with the broker.

A broker here may report an order in progress, so an answer may fall short of what the
order fills in the end, but never exceed it.
-/

namespace OptionChain.ExecutorAtomicity

open Broker Rounding SmartExecutor ExecutorBooking ExecutorRuns ExecutorSizing

/-- No status answer overstates what the order fills. -/
structure HonestScript (script : OrderScript) : Prop where
  nonnegative : 0 ≤ script.filled
  polled : ∀ f, some f ∈ script.polls → f.qty ≤ script.filled
  fetched : ∀ f, script.fetch = some f → f.qty ≤ script.filled

/-- Every order the broker accepts is reported honestly. -/
def Honest (venue : Venue) : Prop :=
  ∀ n request script, venue.place n request = some script → HonestScript script

/-- What the call reads of an order; None is the order whose exception leaves it. -/
def readBy (attempt : Attempt) : Option (Int × Rat) :=
  attempt.answer.bind fun script =>
    if attempt.request.orderType = .market then readMarket script else some (readIoc script)

/-- What an order adds to the returned fill. -/
def creditBy (attempt : Attempt) : Int :=
  match readBy attempt with
  | none => 0
  | some read => priced read

def creditQty (attempts : List Attempt) : Int := (attempts.map creditBy).sum

@[simp] theorem creditQty_snoc (attempts : List Attempt) (attempt : Attempt) :
    creditQty (attempts ++ [attempt]) = creditQty attempts + creditBy attempt := by
  simp [creditQty]

/-- An order was accepted and read, and the whole of its fill was credited. -/
def ReadWhole (attempt : Attempt) : Prop :=
  ∃ read, readBy attempt = some read ∧ priced read = filledBy attempt

instance (attempt : Attempt) : Decidable (ReadWhole attempt) :=
  match found : readBy attempt with
  | none => isFalse (by rintro ⟨read, same, _⟩; rw [found] at same; cases same)
  | some read =>
      if whole : priced read = filledBy attempt then isTrue ⟨read, found, whole⟩
      else isFalse (by
        rintro ⟨other, same, equal⟩
        rw [found] at same
        cases same
        exact whole equal)

/-- A call that raised filled nothing, and a returned fill is all that was filled. -/
def ExceptionAtomic (outcome : List Attempt × Option LegFill) : Prop :=
  (outcome.2 = none → realQty outcome.1 = 0) ∧
    ∀ fill ∈ outcome.2, fill.filledQty = realQty outcome.1

section Reads

variable {script : OrderScript}

/-- Polling ends on a quantity that was reported, or on none. -/
theorem awaitFrom_bounded (bound : Int) (polls : List (Option OrderFill)) {last : OrderFill}
    (nonnegative : 0 ≤ bound) (started : last.qty ≤ bound)
    (reported : ∀ f, some f ∈ polls → f.qty ≤ bound) : (awaitFrom last polls).qty ≤ bound := by
  induction polls generalizing last with
  | nil =>
    unfold awaitFrom
    dsimp only
    split
    · exact started
    · exact nonnegative
  | cons poll rest inductionHypothesis =>
    have later : ∀ f, some f ∈ rest → f.qty ≤ bound :=
      fun f found => reported f (List.mem_cons_of_mem _ found)
    cases poll with
    | none => exact inductionHypothesis started later
    | some f =>
      have first : f.qty ≤ bound := reported f List.mem_cons_self
      unfold awaitFrom
      split
      · exact first
      · split
        · exact nonnegative
        · exact inductionHypothesis first later

variable (honest : HonestScript script)

include honest

theorem awaitFill_bounded : (awaitFill script.polls).qty ≤ script.filled :=
  awaitFrom_bounded script.filled script.polls honest.nonnegative honest.nonnegative honest.polled

theorem readIoc_bounded : (readIoc script).1 ≤ script.filled := by
  have polled := awaitFill_bounded honest
  unfold readIoc
  cases found : script.fetch with
  | none =>
    dsimp only
    split
    · exact polled
    · exact honest.nonnegative
  | some f =>
    dsimp only
    split
    · exact polled
    · exact honest.fetched f found

theorem readMarket_bounded {read : Int × Rat} (found : readMarket script = some read) :
    read.1 ≤ script.filled := by
  have polled := awaitFill_bounded honest
  unfold readMarket at found
  dsimp only at found
  split at found
  · obtain ⟨f, answered, same⟩ := Option.map_eq_some_iff.mp found
    subst same
    exact honest.fetched f answered
  · cases found
    exact polled

end Reads

/-- Every order of a call is reported honestly. -/
def HonestOrders (attempts : List Attempt) : Prop :=
  ∀ attempt ∈ attempts, ∀ script, attempt.answer = some script → HonestScript script

theorem priced_nonnegative (read : Int × Rat) : 0 ≤ priced read := by
  unfold priced
  split
  next positive => exact positive.1.le
  next => exact Int.le_refl 0

theorem priced_le {read : Int × Rat} {bound : Int} (nonnegative : 0 ≤ bound)
    (within : read.1 ≤ bound) : priced read ≤ bound := by
  unfold priced
  split
  · exact within
  · exact nonnegative

theorem filledBy_nonnegative {attempt : Attempt}
    (honest : ∀ script, attempt.answer = some script → HonestScript script) :
    0 ≤ filledBy attempt := by
  unfold filledBy
  cases answer : attempt.answer with
  | none => exact Int.le_refl 0
  | some script => exact (honest script answer).nonnegative

/-- An order is never credited with more than it fills. -/
theorem creditBy_le {attempt : Attempt}
    (honest : ∀ script, attempt.answer = some script → HonestScript script) :
    0 ≤ creditBy attempt ∧ creditBy attempt ≤ filledBy attempt := by
  have nonnegative := filledBy_nonnegative honest
  unfold creditBy
  cases found : readBy attempt with
  | none => exact ⟨Int.le_refl 0, nonnegative⟩
  | some read =>
    refine ⟨priced_nonnegative read, priced_le nonnegative ?_⟩
    unfold readBy at found
    obtain ⟨script, answer, read⟩ := Option.bind_eq_some_iff.mp found
    have filled : filledBy attempt = script.filled := by simp only [filledBy, answer]
    rw [filled]
    split at read
    · exact readMarket_bounded (honest script answer) read
    · cases read
      exact readIoc_bounded (honest script answer)

/-- Where one sum bounds another term by term, they agree only if all terms do. -/
theorem sum_map_eq_iff {α : Type} {f g : α → Int} {l : List α} (bounded : ∀ a ∈ l, f a ≤ g a) :
    (l.map f).sum = (l.map g).sum ↔ ∀ a ∈ l, f a = g a := by
  constructor
  · intro equal a found
    by_contra different
    have short : f a < g a := lt_of_le_of_ne (bounded a found) different
    have less := List.sum_lt_sum f g bounded ⟨a, found, short⟩
    exact absurd equal (Int.ne_of_lt less)
  · intro equal
    rw [List.map_congr_left equal]

/-- The orders of a call filled nothing exactly when none of them did. -/
theorem realQty_eq_zero_iff {attempts : List Attempt} (honest : HonestOrders attempts) :
    realQty attempts = 0 ↔ ∀ attempt ∈ attempts, filledBy attempt = 0 := by
  have nothing : (attempts.map fun _ => (0 : Int)).sum = 0 := by simp
  have bounded : ∀ attempt ∈ attempts, 0 ≤ filledBy attempt :=
    fun attempt placed => filledBy_nonnegative (honest attempt placed)
  have each := sum_map_eq_iff bounded
  rw [nothing] at each
  unfold realQty
  rw [eq_comm, each]
  exact forall₂_congr fun _ _ => eq_comm

/-- Everything was credited exactly when each order was credited whole. -/
theorem creditQty_eq_iff {attempts : List Attempt} (honest : HonestOrders attempts) :
    creditQty attempts = realQty attempts ↔
      ∀ attempt ∈ attempts, creditBy attempt = filledBy attempt :=
  sum_map_eq_iff fun attempt placed => (creditBy_le (honest attempt placed)).2

section Call

variable {venue : Venue} {leg : LegOrder} {chases : Nat}

/-- Between two orders everything so far was read, and the books hold the credits. -/
structure Credited (progress : Progress) : Prop where
  honest : HonestOrders progress.attempts
  read : ∀ attempt ∈ progress.attempts, (readBy attempt).isSome = true
  booked : progress.filledQty = creditQty progress.attempts

/-- The order that raised was not read. -/
structure Unread (progress : Progress) : Prop where
  honest : HonestOrders progress.attempts
  unread : ∃ attempt ∈ progress.attempts, readBy attempt = none

theorem honestOrders_snoc {attempts : List Attempt} {attempt : Attempt}
    (earlier : HonestOrders attempts)
    (last : ∀ script, attempt.answer = some script → HonestScript script) :
    HonestOrders (attempts ++ [attempt]) := by
  intro other placed
  rcases List.mem_append.mp placed with old | new
  · exact earlier other old
  · rw [List.mem_singleton.mp new]
    exact last

/-- An order that is read keeps the credits. -/
theorem credited_order {progress : Progress} (credited : Credited progress)
    {request : OrderRequest} {script : OrderScript} {read : Int × Rat}
    (honest : HonestScript script) (found : readBy ⟨request, some script⟩ = some read) :
    Credited ((progress.attempt request (some script)).book read) := by
  constructor
  · rw [book_attempts, attempt_attempts]
    apply honestOrders_snoc credited.honest
    rintro other ⟨⟩
    exact honest
  · intro attempt placed
    rw [book_attempts, attempt_attempts] at placed
    rcases List.mem_append.mp placed with old | new
    · exact credited.read attempt old
    · rw [List.mem_singleton.mp new, found]
      rfl
  · rw [book_filledQty, attempt_filledQty, book_attempts, attempt_attempts, creditQty_snoc,
      credited.booked]
    simp only [creditBy, found]

theorem unread_order {progress : Progress} (credited : Credited progress)
    {request : OrderRequest} {answer : Option OrderScript}
    (honest : ∀ script, answer = some script → HonestScript script)
    (unread : readBy ⟨request, answer⟩ = none) : Unread (progress.attempt request answer) := by
  constructor
  · rw [attempt_attempts]
    exact honestOrders_snoc credited.honest honest
  · exact ⟨_, by rw [attempt_attempts]; exact List.mem_append_right _ (List.mem_singleton_self _),
      unread⟩

/-- Each kind of order keeps the credits or is the unread one. -/
theorem credited_steps (honest : Honest venue) : Steps venue leg chases Credited Unread where
  empty := by
    constructor
    · intro attempt placed
      cases placed
    · intro attempt placed
      cases placed
    · rfl
  refusedRung progress price credited _ _ := by
    apply unread_order credited
    · rintro script ⟨⟩
    · rfl
  readRung progress price script credited _ placed :=
    credited_order credited (honest _ _ _ placed) rfl
  refusedRest progress credited _ := by
    apply unread_order credited
    · rintro script ⟨⟩
    · rfl
  unreadRest progress script credited placed unread := by
    apply unread_order credited
    · rintro other ⟨⟩
      exact honest _ _ _ placed
    · exact unread
  readRest progress script read credited placed found :=
    credited_order credited (honest _ _ _ placed) found

/-- A call that raised is atomic only if its orders filled nothing: one of them was not read. -/
theorem raised_atomic_iff {raised : Progress} (left : Unread raised) :
    ExceptionAtomic (raised.attempts, none) ↔
      (∀ attempt ∈ raised.attempts, filledBy attempt = 0) ∨
        ∀ attempt ∈ raised.attempts, ReadWhole attempt := by
  have zero := realQty_eq_zero_iff left.honest
  constructor
  · rintro ⟨nothing, _⟩
    exact .inl (zero.mp (nothing rfl))
  · rintro (nothing | whole)
    · refine ⟨fun _ => zero.mpr nothing, ?_⟩
      rintro fill ⟨⟩
    · obtain ⟨attempt, placed, unread⟩ := left.unread
      obtain ⟨read, found, _⟩ := whole attempt placed
      rw [unread] at found
      cases found

/-- A returned fill is what the orders filled only if each of them was credited whole. -/
theorem returned_atomic_iff {progress : Progress} {fill : LegFill} (credited : Credited progress)
    (booked : fill.filledQty = progress.filledQty) :
    ExceptionAtomic (progress.attempts, some fill) ↔
      (∀ attempt ∈ progress.attempts, filledBy attempt = 0) ∨
        ∀ attempt ∈ progress.attempts, ReadWhole attempt := by
  have equal := creditQty_eq_iff credited.honest
  rw [credited.booked] at booked
  constructor
  · rintro ⟨_, exact⟩
    have whole : fill.filledQty = realQty progress.attempts := exact fill rfl
    rw [booked] at whole
    refine .inr fun attempt placed => ?_
    have same := equal.mp whole attempt placed
    obtain ⟨read, found⟩ := Option.isSome_iff_exists.mp (credited.read attempt placed)
    simp only [creditBy, found] at same
    exact ⟨read, found, same⟩
  · intro either
    refine ⟨(by rintro ⟨⟩), ?_⟩
    rintro returned ⟨⟩
    rw [booked]
    apply equal.mpr
    intro attempt placed
    rcases either with nothing | whole
    · have bounds := creditBy_le (credited.honest attempt placed)
      rw [nothing attempt placed] at bounds ⊢
      exact le_antisymm bounds.2 bounds.1
    · obtain ⟨read, found, same⟩ := whole attempt placed
      simp only [creditBy, found]
      exact same

/-- With a broker that never overstates a fill, a call is exception-atomic exactly when
its orders filled nothing, or each of them was accepted, read and credited whole. -/
theorem execute_leg_atomic_iff (honest : Honest venue) :
    ExceptionAtomic (executeLeg venue leg chases) ↔
      (∀ attempt ∈ (executeLeg venue leg chases).1, filledBy attempt = 0) ∨
        ∀ attempt ∈ (executeLeg venue leg chases).1, ReadWhole attempt := by
  have ends : EndsIn Credited Unread (orders venue leg chases) :=
    orders_rule (credited_steps honest)
  unfold executeLeg
  cases outcome : orders venue leg chases with
  | error raised =>
    rw [outcome] at ends
    exact raised_atomic_iff ends
  | ok progress =>
    rw [outcome] at ends
    exact returned_atomic_iff ends rfl

end Call

/-- An IOC order for 10 that sells 4. -/
def soldFour : OrderScript :=
  ⟨"O0", 4, 102, .cancelled, [some ⟨4, 102, .cancelled⟩], some ⟨4, 102, .cancelled⟩⟩

/-- A MARKET order that sells the other 6. -/
def soldSix : OrderScript := ⟨"O1", 6, 100, .complete, [some ⟨6, 100, .complete⟩], none⟩

/-- A venue whose first order sells 4; every later one is refused, or sells 6. -/
def marginVenue (refuses : Bool) : Venue where
  quote _ := some (100, 104)
  place n _ := if n = 0 then some soldFour else if refuses then none else some soldSix

theorem marginVenue_honest (refuses : Bool) : Honest (marginVenue refuses) := by
  intro n request script placed
  simp only [marginVenue] at placed
  by_cases first : n = 0
  · rw [if_pos first] at placed
    cases placed
    constructor <;> simp [soldFour]
  · rw [if_neg first] at placed
    cases refuses with
    | true => cases placed
    | false =>
      cases placed
      constructor <;> simp [soldSix]

/-- The only rung of the sale: at the mid. -/
theorem marginVenue_rung (refuses : Bool) :
    rungQuote (marginVenue refuses) sellTen 0 0 = some 102 := by
  have steps : ((100 + 104) / 2 + (100 - (100 + 104) / 2) * ((0 : Rat) / 1)) / (1 / 10) =
      ((1020 : Int) : Rat) := by norm_num
  have price : rungPrice sellTen 0 0 100 104 = 102 := by
    simp only [rungPrice, roundTick, sellTen, if_true, Nat.cast_zero, zero_le, max_eq_right,
      Nat.cast_one]
    rw [steps, roundHalfEven_intCast, if_pos (by norm_num)]
    refine ((roundTo_eq_iff 8 _).mpr ⟨10200000000, by norm_num⟩).trans (by norm_num)
  simp [rungQuote, marginVenue, price]

/-- The sale up to its MARKET order. -/
theorem marginVenue_climb (refuses : Bool) :
    climb (marginVenue refuses) sellTen 0 [0] .empty =
      .ok ⟨[⟨limitRequest sellTen 10 102, some soldFour⟩], ["O0"], 4, 408⟩ := by
  have booked : Progress.book (.attempt .empty (limitRequest sellTen 10 102) (some soldFour))
      (readIoc soldFour) = ⟨[⟨limitRequest sellTen 10 102, some soldFour⟩], ["O0"], 4, 408⟩ := by
    have read : readIoc soldFour = (4, 102) := rfl
    rw [read, Progress.book, if_pos (by norm_num)]
    simp [Progress.attempt, Progress.empty, soldFour]
    norm_num
  rw [climb, if_neg (show ¬ sellTen.qty - Progress.empty.filledQty ≤ 0 by decide),
    marginVenue_rung]
  dsimp only
  rw [← booked]
  rfl

/-- When every order is accepted and read, the fill of the call is returned. -/
theorem execute_leg_atomic_of_accepted_orders :
    ExceptionAtomic (executeLeg (marginVenue false) sellTen 0) := by
  apply (execute_leg_atomic_iff (marginVenue_honest false)).mpr
  right
  have run : (executeLeg (marginVenue false) sellTen 0).1 =
      [⟨limitRequest sellTen 10 102, some soldFour⟩, ⟨marketRequest sellTen 6, some soldSix⟩] := by
    unfold executeLeg orders
    rw [if_pos (show sellTen.useLimit = true from rfl),
      show List.range (0 + 1) = [0] from rfl, marginVenue_climb]
    rfl
  rw [run]
  decide

/-- The refused MARKET order leaves the call by an exception with 4 sold. -/
theorem execute_leg_raises_after_a_fill :
    Honest (marginVenue true) ∧ (executeLeg (marginVenue true) sellTen 0).2 = none ∧
      realQty (executeLeg (marginVenue true) sellTen 0).1 = 4 ∧
      ¬ ExceptionAtomic (executeLeg (marginVenue true) sellTen 0) := by
  have run : executeLeg (marginVenue true) sellTen 0 =
      ([⟨limitRequest sellTen 10 102, some soldFour⟩, ⟨marketRequest sellTen 6, none⟩], none) := by
    unfold executeLeg orders
    rw [if_pos (show sellTen.useLimit = true from rfl),
      show List.range (0 + 1) = [0] from rfl, marginVenue_climb]
    rfl
  rw [run]
  have sold : realQty [⟨limitRequest sellTen 10 102, some soldFour⟩,
      ⟨marketRequest sellTen 6, none⟩] = 4 := rfl
  refine ⟨marginVenue_honest true, rfl, sold, ?_⟩
  rintro ⟨nothing, _⟩
  have zero := nothing rfl
  rw [sold] at zero
  cases zero

end OptionChain.ExecutorAtomicity
