import Mathlib.Algebra.Order.BigOperators.Group.List
import OptionChain.ExecutorRuns

/-!
# Booked and real quantity

A truthful broker reports, whenever it answers at all, what an order really did.
Each order's fill is then booked whole or not at all: a fill without a price is
never booked, and a priced one is lost when the last fetch raises and the polls
cannot stand in for it, which they do only for COMPLETE orders. The next order is
sized as if a lost fill had not happened.

The invariant of a call balances the booked and the lost quantity against the
real one. A call left by an exception ends with the attempt that raised.
-/

namespace OptionChain.ExecutorBooking

open Broker SmartExecutor ExecutorRuns

/-- What a truthful answer says about an order. -/
def report (script : OrderScript) : OrderFill := ⟨script.filled, script.avgPrice, script.status⟩

/-- An order fills at most its size, is terminal (CANCELLED only as an IOC whose
remainder was killed), and every status answer tells its outcome. -/
structure TruthfulScript (request : OrderRequest) (script : OrderScript) : Prop where
  nonnegative : 0 ≤ script.filled
  sized : script.filled ≤ request.qty
  terminal : script.status = .complete ∨
    (script.status = .cancelled ∧ request.orderType = .limit)
  polled : ∀ f, some f ∈ script.polls → f = report script
  fetched : ∀ f, script.fetch = some f → f = report script

theorem TruthfulScript.unfilled {request : OrderRequest} {script : OrderScript}
    (truth : TruthfulScript request script) (none : ¬ 0 < script.filled) : script.filled = 0 :=
  le_antisymm (not_lt.mp none) truth.nonnegative

/-- Every order the broker accepts is truthful. -/
def Truthful (venue : Venue) : Prop :=
  ∀ n request script, venue.place n request = some script → TruthfulScript request script

/-- Some poll was answered. -/
def answered (script : OrderScript) : Bool := script.polls.any Option.isSome

/-- A fill that no read of the call makes bookable. -/
def lost (script : OrderScript) : Bool :=
  decide (0 < script.filled) &&
    !(decide (0 < script.avgPrice) &&
      (script.fetch.isSome || (decide (script.status = .complete) && answered script)))

/-- The attempt whose exception leaves the call: a refused order, or a MARKET
order that neither the polls nor the last-resort fetch can read. -/
def breaks (attempt : Attempt) : Bool :=
  match attempt.answer with
  | none => true
  | some script =>
      decide (attempt.request.orderType = .market) && !script.fetch.isSome &&
        !(decide (0 < script.filled) && decide (0 < script.avgPrice) && answered script)

/-- The quantity an attempt really filled. -/
def filledBy (attempt : Attempt) : Int :=
  match attempt.answer with
  | none => 0
  | some script => script.filled

/-- The part of it that is lost: all or nothing. -/
def lostBy (attempt : Attempt) : Int :=
  match attempt.answer with
  | none => 0
  | some script => if lost script then script.filled else 0

def realQty (attempts : List Attempt) : Int := (attempts.map filledBy).sum

def lostQty (attempts : List Attempt) : Int := (attempts.map lostBy).sum

@[simp] theorem realQty_snoc (attempts : List Attempt) (attempt : Attempt) :
    realQty (attempts ++ [attempt]) = realQty attempts + filledBy attempt := by
  simp [realQty]

@[simp] theorem lostQty_snoc (attempts : List Attempt) (attempt : Attempt) :
    lostQty (attempts ++ [attempt]) = lostQty attempts + lostBy attempt := by
  simp [lostQty]

section Polling

variable {polls : List (Option OrderFill)}

/-- Without an answer the polls end on the last state they began with. -/
theorem awaitFrom_silent (last : OrderFill) (silent : polls.any Option.isSome = false) :
    awaitFrom last polls =
      { last with qty := if last.status = .complete then last.qty else 0 } := by
  induction polls with
  | nil => rfl
  | cons poll rest inductionHypothesis =>
    cases poll with
    | none => exact inductionHypothesis (by simpa using silent)
    | some f => simp at silent

/-- The first answer of a priced COMPLETE order ends the polling. -/
theorem awaitFrom_complete {truth : OrderFill} (last : OrderFill)
    (complete : truth.status = .complete) (priced : 0 < truth.avgPrice)
    (truthful : ∀ f, some f ∈ polls → f = truth) (heard : polls.any Option.isSome = true) :
    awaitFrom last polls = truth := by
  induction polls with
  | nil => simp at heard
  | cons poll rest inductionHypothesis =>
    cases poll with
    | none =>
      apply inductionHypothesis
      · intro f found
        exact truthful f (List.mem_cons_of_mem _ found)
      · simpa using heard
    | some f =>
      have same : f = truth := truthful f (by simp)
      subst same
      rw [awaitFrom, if_pos ⟨complete, priced⟩]

/-- An order that is not COMPLETE yields no polled quantity. -/
theorem awaitFrom_cancelled {truth : OrderFill} (last : OrderFill)
    (cancelled : truth.status = .cancelled) (truthful : ∀ f, some f ∈ polls → f = truth)
    (started : last.qty = 0) : (awaitFrom last polls).qty = 0 := by
  induction polls with
  | nil => simp [awaitFrom, started]
  | cons poll rest inductionHypothesis =>
    cases poll with
    | none =>
      apply inductionHypothesis
      intro f found
      exact truthful f (List.mem_cons_of_mem _ found)
    | some f =>
      have same : f = truth := truthful f (by simp)
      subst same
      simp [awaitFrom, cancelled]

/-- Polling an order without a price yields no price. -/
theorem awaitFrom_unpriced {truth : OrderFill} (last : OrderFill)
    (unpriced : truth.avgPrice ≤ 0) (truthful : ∀ f, some f ∈ polls → f = truth)
    (started : last.avgPrice ≤ 0) : (awaitFrom last polls).avgPrice ≤ 0 := by
  induction polls generalizing last with
  | nil => exact started
  | cons poll rest inductionHypothesis =>
    have later : ∀ f, some f ∈ rest → f = truth := by
      intro f found
      exact truthful f (List.mem_cons_of_mem _ found)
    cases poll with
    | none => exact inductionHypothesis last later started
    | some f =>
      have same : f = truth := truthful f (by simp)
      subst same
      rw [awaitFrom, if_neg (by simp [not_lt.mpr unpriced])]
      by_cases terminal : f.status = .cancelled ∨ f.status = .rejected
      · rw [if_pos terminal]
      · rw [if_neg terminal]
        exact inductionHypothesis f later unpriced

end Polling

section Reads

variable {request : OrderRequest} {script : OrderScript} (truth : TruthfulScript request script)

include truth

/-- What the polls alone make bookable: the whole fill of a priced COMPLETE order
that answered once, and otherwise nothing. -/
theorem awaitFill_bookable :
    (0 < (awaitFill script.polls).qty ∧ 0 < (awaitFill script.polls).avgPrice) ↔
      (0 < script.filled ∧ 0 < script.avgPrice ∧ script.status = .complete ∧
        answered script = true) := by
  by_cases heard : answered script = true
  · by_cases priced : 0 < script.avgPrice
    · rcases truth.terminal with complete | ⟨cancelled, _⟩
      · have read : awaitFill script.polls = report script :=
          awaitFrom_complete _ complete priced truth.polled heard
        simp [read, report, priced, complete, heard]
      · have empty : (awaitFill script.polls).qty = 0 :=
          awaitFrom_cancelled _ cancelled truth.polled rfl
        simp [empty, cancelled]
    · have unpriced : (awaitFill script.polls).avgPrice ≤ 0 :=
        awaitFrom_unpriced _ (not_lt.mp priced) truth.polled (le_refl _)
      simp [priced, not_lt.mpr unpriced]
  · have silent : awaitFill script.polls = ⟨0, 0, .unknown⟩ := by
      rw [awaitFill, awaitFrom_silent _ (Bool.eq_false_of_not_eq_true heard)]
      rfl
    simp [silent, heard]

/-- Bookable polls report the order. -/
theorem awaitFill_report (priced : 0 < script.avgPrice) (complete : script.status = .complete)
    (heard : answered script = true) : awaitFill script.polls = report script :=
  awaitFrom_complete _ complete priced truth.polled heard

/-- An IOC fill is booked whole unless it is lost. -/
theorem book_readIoc (progress : Progress) :
    (progress.book (readIoc script)).filledQty =
      progress.filledQty + (if lost script then 0 else script.filled) := by
  have polled := awaitFill_bookable truth
  cases fetch : script.fetch with
  | some f =>
    have same : f = report script := truth.fetched f fetch
    subst same
    by_cases positive : 0 < script.filled
    · have read : readIoc script = (script.filled, script.avgPrice) := by
        simp [readIoc, fetch, report, not_le.mpr positive]
      by_cases priced : 0 < script.avgPrice <;>
        simp [Progress.book, read, lost, fetch, positive, priced]
    · have zero : script.filled = 0 := truth.unfilled positive
      have unread : ¬ (0 < (readIoc script).1 ∧ 0 < (readIoc script).2) := by
        simp only [readIoc, fetch, report, zero]
        by_cases quantity : 0 < (awaitFill script.polls).qty
        · simp only [le_refl, quantity, and_self, if_true]
          intro bookable
          exact positive (polled.mp ⟨quantity, bookable.2⟩).1
        · simp [quantity]
      rw [Progress.book, if_neg unread]
      simp [zero]
  | none =>
    by_cases bookable : 0 < script.filled ∧ 0 < script.avgPrice ∧ script.status = .complete ∧
        answered script = true
    · obtain ⟨positive, priced, complete, heard⟩ := bookable
      have read : readIoc script = (script.filled, script.avgPrice) := by
        rw [readIoc, awaitFill_report truth priced complete heard, fetch]
        simp [report, positive]
      simp [Progress.book, read, lost, positive, priced, complete, heard]
    · have unread : ¬ (0 < (readIoc script).1 ∧ 0 < (readIoc script).2) := by
        rw [← polled] at bookable
        simp only [readIoc, fetch]
        by_cases quantity : 0 < (awaitFill script.polls).qty
        · simpa [quantity] using bookable
        · simp [quantity]
      rw [Progress.book, if_neg unread]
      by_cases positive : 0 < script.filled
      · have missed : lost script = true := by
          simp only [lost, fetch, positive]
          grind
        simp [missed]
      · have zero : script.filled = 0 := truth.unfilled positive
        simp [zero]

/-- A MARKET order either breaks the call or is booked whole unless it is lost. -/
theorem readMarket_spec (progress : Progress) (kind : request.orderType = .market) :
    match readMarket script with
    | none => breaks ⟨request, some script⟩ = true
    | some read => breaks ⟨request, some script⟩ = false ∧
        (progress.book read).filledQty =
          progress.filledQty + (if lost script then 0 else script.filled) := by
  have complete : script.status = .complete := by
    rcases truth.terminal with complete | ⟨_, limit⟩
    · exact complete
    · rw [kind] at limit
      cases limit
  have polled := awaitFill_bookable truth
  by_cases bookable : 0 < script.filled ∧ 0 < script.avgPrice ∧ script.status = .complete ∧
      answered script = true
  · obtain ⟨positive, priced, _, heard⟩ := bookable
    have read : readMarket script = some (script.filled, script.avgPrice) := by
      rw [readMarket, awaitFill_report truth priced complete heard]
      simp [report, not_le.mpr positive, not_le.mpr priced]
    simp only [read]
    constructor
    · simp [breaks, positive, priced, heard]
    · simp [Progress.book, lost, positive, priced, complete, heard]
  · have unpolled : (awaitFill script.polls).qty ≤ 0 ∨ (awaitFill script.polls).avgPrice ≤ 0 := by
      rw [← polled] at bookable
      grind
    have unheard : ¬ (0 < script.filled ∧ 0 < script.avgPrice ∧ answered script = true) := by
      rintro ⟨positive, priced, heard⟩
      exact bookable ⟨positive, priced, complete, heard⟩
    have read : readMarket script = script.fetch.map (fun f => (f.qty, f.avgPrice)) := by
      rw [readMarket, if_pos unpolled]
    cases fetch : script.fetch with
    | none =>
      simp only [read, fetch, Option.map_none]
      simp only [breaks, kind, fetch]
      grind
    | some f =>
      have same : f = report script := truth.fetched f fetch
      subst same
      simp only [read, fetch, Option.map_some]
      constructor
      · simp [breaks, fetch]
      · by_cases positive : 0 < script.filled
        · by_cases priced : 0 < script.avgPrice <;>
            simp [Progress.book, lost, fetch, report, positive, priced]
        · have zero : script.filled = 0 := truth.unfilled positive
          simp [Progress.book, report, zero]

end Reads

/-- The books of a call after some orders: booked and lost quantities add up to
the real one, and no order so far has raised. -/
structure Accounted (leg : LegOrder) (progress : Progress) : Prop where
  balanced : progress.filledQty + lostQty progress.attempts = realQty progress.attempts
  lower : 0 ≤ progress.filledQty
  upper : progress.filledQty ≤ leg.qty
  intact : ∀ attempt ∈ progress.attempts, breaks attempt = false

/-- A call left by an exception: accounted orders, then the attempt that raised,
sized to what had not been booked. -/
structure CutShort (leg : LegOrder) (before : Progress) (last : Attempt) (after : Progress) :
    Prop where
  accounted : Accounted leg before
  attempts : after.attempts = before.attempts ++ [last]
  raised : breaks last = true
  sized : last.request.qty = leg.qty - before.filledQty
  nonnegative : 0 ≤ filledBy last
  fits : filledBy last ≤ last.request.qty

/-- How a call may stand after a stretch of its orders. -/
def Settles (leg : LegOrder) : Except Progress Progress → Prop
  | .ok progress => Accounted leg progress
  | .error raised => ∃ before last, CutShort leg before last raised

section Run

variable {venue : Venue} (leg : LegOrder) (chases : Nat)

/-- An accepted and booked order keeps the balance. -/
theorem accounted_order {progress booked : Progress} {request : OrderRequest}
    {script : OrderScript} (accounted : Accounted leg progress)
    (truth : TruthfulScript request script)
    (sized : request.qty = leg.qty - progress.filledQty)
    (attempts : booked.attempts = progress.attempts ++ [⟨request, some script⟩])
    (intact : breaks ⟨request, some script⟩ = false)
    (quantity : booked.filledQty =
      progress.filledQty + (if lost script then 0 else script.filled)) :
    Accounted leg booked := by
  have balanced := accounted.balanced
  have lower := accounted.lower
  have positive := truth.nonnegative
  have fits := truth.sized
  constructor
  · rw [attempts, realQty_snoc, lostQty_snoc, quantity]
    simp only [filledBy, lostBy]
    split <;> omega
  · rw [quantity]
    split <;> omega
  · rw [quantity]
    split <;> omega
  · intro attempt found
    rw [attempts, List.mem_append, List.mem_singleton] at found
    rcases found with old | new
    · exact accounted.intact attempt old
    · exact new ▸ intact

/-- A refused order ends the call with nothing filled by it. -/
theorem cutShort_refused {progress : Progress} {request : OrderRequest}
    (accounted : Accounted leg progress) (sized : request.qty = leg.qty - progress.filledQty) :
    CutShort leg progress ⟨request, none⟩ (progress.attempt request none) := by
  have upper := accounted.upper
  constructor
  · exact accounted
  · rfl
  · rfl
  · exact sized
  · exact Int.le_refl 0
  · simp only [filledBy]
    omega

theorem accounted_empty (positive : 0 < leg.qty) : Accounted leg .empty := by
  constructor
  · rfl
  · exact Int.le_refl 0
  · exact Int.le_of_lt positive
  · intro attempt found
    cases found

/-- Each order keeps the balance or ends the call by its exception. -/
theorem accounted_steps (truthful : Truthful venue) (positive : 0 < leg.qty) :
    Steps venue leg chases (Accounted leg)
      fun raised => ∃ before last, CutShort leg before last raised where
  empty := accounted_empty leg positive
  refusedRung progress price accounted _ _ :=
    ⟨progress, _, cutShort_refused leg accounted rfl⟩
  readRung progress price script accounted _ placed := by
    have truth := truthful _ _ _ placed
    exact accounted_order leg accounted truth rfl (by simp) rfl (book_readIoc truth _)
  refusedRest progress accounted _ := ⟨progress, _, cutShort_refused leg accounted rfl⟩
  unreadRest progress script accounted placed read := by
    have truth := truthful _ _ _ placed
    have spec := readMarket_spec truth (progress.attempt (restOrder leg progress) (some script)) rfl
    rw [read] at spec
    exact ⟨progress, _, accounted, rfl, spec, rfl, truth.nonnegative, truth.sized⟩
  readRest progress script fill accounted placed read := by
    have truth := truthful _ _ _ placed
    have spec := readMarket_spec truth (progress.attempt (restOrder leg progress) (some script)) rfl
    rw [read] at spec
    exact accounted_order leg accounted truth rfl (by simp) spec.1 spec.2

theorem orders_settles (truthful : Truthful venue) (positive : 0 < leg.qty) :
    Settles leg (orders venue leg chases) := by
  have ended := orders_rule (accounted_steps leg chases truthful positive)
  cases outcome : orders venue leg chases with
  | error raised =>
    rw [outcome] at ended
    exact ended
  | ok progress =>
    rw [outcome] at ended
    exact ended

end Run

/-- The call never over-executes: what its orders really filled fits into the
requested quantity, and a returned leg fill says exactly that much. -/
def NeverOverExecutes (leg : LegOrder) (outcome : List Attempt × Option LegFill) : Prop :=
  realQty outcome.1 ≤ leg.qty ∧ ∀ fill ∈ outcome.2, fill.filledQty = realQty outcome.1

/-- The fill of an attempt is lost. -/
def loses (attempt : Attempt) : Bool :=
  match attempt.answer with
  | none => false
  | some script => lost script

/-- The last attempt raises, and what was lost before still fits into the part of
it that stayed unfilled. -/
def RaisesInTime (attempts : List Attempt) : Prop :=
  ∃ earlier last, attempts = earlier ++ [last] ∧ breaks last = true ∧
    lostQty earlier ≤ last.request.qty - filledBy last

/-- Lost quantities are nonnegative and vanish only when nothing is lost. -/
theorem lostQty_nonnegative (attempts : List Attempt) : 0 ≤ lostQty attempts := by
  unfold lostQty
  apply List.sum_nonneg
  simp only [List.mem_map]
  rintro quantity ⟨attempt, _, rfl⟩
  unfold lostBy
  split
  · exact Int.le_refl 0
  · split
    next missed =>
      simp only [lost, Bool.and_eq_true, decide_eq_true_eq] at missed
      exact Int.le_of_lt missed.1
    next => exact Int.le_refl 0

theorem lostQty_eq_zero_iff (attempts : List Attempt) :
    lostQty attempts = 0 ↔ ∀ attempt ∈ attempts, loses attempt = false := by
  induction attempts with
  | nil => simp [lostQty]
  | cons attempt rest inductionHypothesis =>
    have others := lostQty_nonnegative rest
    have first := lostQty_nonnegative [attempt]
    have split : lostQty (attempt :: rest) = lostQty [attempt] + lostQty rest := by
      simp [lostQty]
    have single : lostQty [attempt] = 0 ↔ loses attempt = false := by
      obtain ⟨request, answer⟩ := attempt
      cases answer with
      | none => simp [lostQty, lostBy, loses]
      | some script =>
        by_cases missed : lost script = true
        · have positive : 0 < script.filled := by
            simp only [lost, Bool.and_eq_true, decide_eq_true_eq] at missed
            exact missed.1
          simp [lostQty, lostBy, loses, missed, Int.ne_of_gt positive]
        · simp [lostQty, lostBy, loses, missed]
    rw [List.forall_mem_cons, ← single, ← inductionHypothesis, split]
    omega

/-- With a truthful broker the call never over-executes exactly when no order it
placed loses its fill, or the call raises in time. -/
theorem execute_leg_safe_iff (venue : Venue) (leg : LegOrder) (chases : Nat)
    (positive : 0 < leg.qty) (truthful : Truthful venue) :
    NeverOverExecutes leg (executeLeg venue leg chases) ↔
      (∀ attempt ∈ (executeLeg venue leg chases).1, loses attempt = false) ∨
        RaisesInTime (executeLeg venue leg chases).1 := by
  have settles := orders_settles leg chases truthful positive
  unfold executeLeg
  cases outcome : orders venue leg chases with
  | ok progress =>
    rw [outcome] at settles
    have accounted : Accounted leg progress := settles
    have balanced := accounted.balanced
    have upper := accounted.upper
    simp only [NeverOverExecutes]
    rw [← lostQty_eq_zero_iff]
    constructor
    · rintro ⟨_, exact⟩
      have booked : progress.filledQty = realQty progress.attempts := exact _ rfl
      omega
    · rintro (nothing | ⟨earlier, last, same, raised, _⟩)
      · refine ⟨by omega, ?_⟩
        rintro fill ⟨⟩
        simp only [legFill]
        omega
      · have intact := accounted.intact last (by simp [same])
        rw [intact] at raised
        cases raised
  | error raised =>
    rw [outcome] at settles
    obtain ⟨before, last, cut⟩ := settles
    have balanced := cut.accounted.balanced
    have sized := cut.sized
    have fits := cut.fits
    simp only [NeverOverExecutes, cut.attempts, realQty_snoc]
    constructor
    · rintro ⟨bounded, _⟩
      exact .inr ⟨before.attempts, last, rfl, cut.raised, by omega⟩
    · rintro (nothing | ⟨earlier, final, same, _, inTime⟩)
      · have none : lostQty before.attempts = 0 := by
          rw [lostQty_eq_zero_iff]
          intro attempt found
          exact nothing attempt (List.mem_append_left _ found)
        exact ⟨by omega, by simp⟩
      · obtain ⟨rfl, rfl⟩ := List.append_inj' same rfl |>.imp_right List.singleton_inj.mp
        exact ⟨by omega, by simp⟩

/-- A venue whose first order is an IOC that fills 4 before its remainder is
killed; its last fetch answers or raises. Later orders fill whole. -/
def partialVenue (fetched : Bool) : Venue where
  quote _ := some (100, 104)
  place n request :=
    if n = 0 then
      if 4 ≤ request.qty ∧ request.orderType = .limit then
        some ⟨"O0", 4, 102, .cancelled, [some ⟨4, 102, .cancelled⟩],
          if fetched then some ⟨4, 102, .cancelled⟩ else none⟩
      else none
    else if 0 ≤ request.qty then
      some ⟨"O1", request.qty, 104, .complete, [some ⟨request.qty, 104, .complete⟩],
        some ⟨request.qty, 104, .complete⟩⟩
    else none

/-- A sale of 10 with the limit ladder. -/
def sellTen : LegOrder where
  brokerSymbol := "C-BTC-60000-130626"
  exchange := "DELTA"
  side := .sell
  qty := 10
  product := "NRML"
  tag := "t"
  clientId := "c"
  useLimit := true
  tick := 1 / 10

theorem partialVenue_truthful (fetched : Bool) : Truthful (partialVenue fetched) := by
  intro n request script placed
  simp only [partialVenue] at placed
  by_cases first : n = 0
  · rw [if_pos first] at placed
    by_cases accepted : 4 ≤ request.qty ∧ request.orderType = .limit
    · rw [if_pos accepted] at placed
      cases placed
      obtain ⟨sized, limit⟩ := accepted
      constructor
      · exact Int.natCast_nonneg 4
      · exact sized
      · exact .inr ⟨rfl, limit⟩
      · simp [report]
      · cases fetched <;> simp [report]
    · rw [if_neg accepted] at placed
      cases placed
  · rw [if_neg first] at placed
    by_cases accepted : 0 ≤ request.qty
    · rw [if_pos accepted] at placed
      cases placed
      constructor
      · exact accepted
      · exact Int.le_refl _
      · exact .inl rfl
      · simp [report]
      · simp [report]
    · rw [if_neg accepted] at placed
      cases placed

/-- With a readable fetch the partial fill is booked and the rest completed. -/
theorem execute_leg_safe_on_a_partial_fill :
    NeverOverExecutes sellTen (executeLeg (partialVenue true) sellTen 0) :=
  (execute_leg_safe_iff (partialVenue true) sellTen 0 (by decide) (partialVenue_truthful true)).mpr
    (.inl (by decide +kernel))

/-- When the fetch of the partial fill raises, the call sells 14 of 10 and
returns a leg fill of 10. -/
theorem execute_leg_sells_the_unread_fill_again :
    Truthful (partialVenue false) ∧
      realQty (executeLeg (partialVenue false) sellTen 0).1 = 14 ∧
      (executeLeg (partialVenue false) sellTen 0).2.map LegFill.filledQty = some 10 ∧
      ¬ NeverOverExecutes sellTen (executeLeg (partialVenue false) sellTen 0) := by
  have sold : realQty (executeLeg (partialVenue false) sellTen 0).1 = 14 := by decide +kernel
  refine ⟨partialVenue_truthful false, sold, by decide +kernel, ?_⟩
  rintro ⟨bounded, _⟩
  rw [sold] at bounded
  revert bounded
  decide

end OptionChain.ExecutorBooking
