import OptionChain.StraddleBridge

/-!
# When a published ENTRY is really filled

The guard of the bridge looks at rewritten quantities. A leg that came back short
is promoted to the full quantity by any priced status answer, whatever quantity
that answer carries, and two legs that came back empty pass the guard as a normal
fill. Apart from these two the guard is right.
-/

namespace OptionChain.EntryAtomicity

open Broker StraddleEvents StraddleBridge

/-- The quantity the executor reports for a leg: nothing without a symbol or
after an exception. -/
def reported (call : LiveCall) (inputs : LegInputs) : Int :=
  match usable inputs.symbol with
  | none => 0
  | some symbol =>
      match inputs.execute (call.legOrder symbol) with
      | none => 0
      | some legfill => legfill.filledQty

/-- Among the next answers one carries a price, before any exception. -/
def pricedWithin (statuses : Nat → Option OrderFill) : Nat → Nat → Bool
  | 0, _ => false
  | remaining + 1, attempt =>
      match statuses attempt with
      | none => false
      | some f => decide (0 < f.avgPrice) || pricedWithin statuses remaining (attempt + 1)

/-- The executor left the leg short and a later status answer carries a price. -/
def promoted (call : LiveCall) (inputs : LegInputs) : Bool :=
  match usable inputs.symbol with
  | none => false
  | some symbol =>
      match inputs.execute (call.legOrder symbol) with
      | none => false
      | some legfill =>
          decide (legfill.filledQty < call.qty) && decide (legfill.orderIds ≠ []) &&
            pricedWithin inputs.statuses 5 0

/-- The leg comes back full: by report or by promotion. -/
def comesFull (call : LiveCall) (inputs : LegInputs) : Bool :=
  decide (call.qty ≤ reported call inputs) || promoted call inputs

/-- The leg comes back empty. -/
def comesEmpty (call : LiveCall) (inputs : LegInputs) : Bool :=
  decide (reported call inputs ≤ 0) && !promoted call inputs

/-- The polling rewrites a quantity exactly when an answer carries a price. -/
theorem confirmFill_qty (qty : Int) (statuses : Nat → Option OrderFill) (remaining attempt : Nat)
    (result : Rat × Int) :
    (confirmFill qty statuses remaining attempt result).2 =
      if pricedWithin statuses remaining attempt then qty else result.2 := by
  induction remaining generalizing attempt with
  | zero => simp [confirmFill, pricedWithin]
  | succ remaining inductionHypothesis =>
    cases answer : statuses attempt with
    | none => simp [confirmFill, pricedWithin, answer]
    | some f =>
      by_cases priced : 0 < f.avgPrice
      · simp [confirmFill, pricedWithin, answer, priced, filledQtyAttribute]
      · simpa [confirmFill, pricedWithin, answer, priced] using inductionHypothesis (attempt + 1)

/-- What the guard sees of a leg. -/
theorem doLeg_filledQty (call : LiveCall) (optType : OptType) (inputs : LegInputs) :
    (doLeg call optType inputs).filledQty =
      if promoted call inputs then call.qty else reported call inputs := by
  unfold doLeg promoted reported
  cases usable inputs.symbol with
  | none => rfl
  | some symbol =>
    simp only []
    cases inputs.execute (call.legOrder symbol) with
    | none => rfl
    | some legfill =>
      by_cases under : legfill.filledQty < call.qty ∧ legfill.orderIds ≠ []
      · simp [under, confirmFill_qty]
      · have settled : (decide (legfill.filledQty < call.qty) &&
            decide (legfill.orderIds ≠ [])) = false := by
          rw [← Bool.decide_and]
          exact decide_eq_false under
        simp only [if_neg under, settled, Bool.false_and]
        rfl

/-- A live ENTRY of both legs, for a positive quantity. -/
structure TwoLegEntry (call : LiveCall) : Prop where
  entry : call.event.action = .entry
  live : call.paper = false
  both : ∀ optType, optType ∈ call.event.legs
  positive : 0 < call.qty

section Guard

variable {call : LiveCall} (inputs : OptType → LegInputs)

/-- The shown quantity is full or positive as the leg came back. -/
theorem shown_full_iff (optType : OptType) :
    call.qty ≤ (doLeg call optType (inputs optType)).filledQty ↔
      comesFull call (inputs optType) = true := by
  rw [doLeg_filledQty]
  cases promotion : promoted call (inputs optType) <;> simp [comesFull, promotion]

theorem shown_positive_iff (positive : 0 < call.qty) (optType : OptType) :
    0 < (doLeg call optType (inputs optType)).filledQty ↔
      comesEmpty call (inputs optType) = false := by
  rw [doLeg_filledQty]
  cases promotion : promoted call (inputs optType) <;> simp [comesEmpty, promotion, positive]

/-- The guard lets an ENTRY pass when both legs come back full or both empty. -/
theorem published_iff (two : TwoLegEntry call) (state : BridgeState)
    (positions : Option (List (String × Int))) :
    (liveFill call state inputs positions).published.entryAborted = false ↔
      (comesFull call (inputs .ce) = true ∧ comesFull call (inputs .pe) = true) ∨
        (comesEmpty call (inputs .ce) = true ∧ comesEmpty call (inputs .pe) = true) := by
  have guard : asymmetric call (fun optType => doLeg call optType (inputs optType)) = false ↔
      (comesFull call (inputs .ce) = true ∧ comesFull call (inputs .pe) = true) ∨
        (comesEmpty call (inputs .ce) = true ∧ comesEmpty call (inputs .pe) = true) := by
    have legs : call.legs = [.ce, .pe] := by
      simp [LiveCall.legs, two.both]
    simp only [asymmetric, legs, List.any_cons, List.any_nil, List.filter_cons, List.filter_nil,
      shown_full_iff inputs, shown_positive_iff inputs two.positive]
    cases comesFull call (inputs .ce) <;> cases comesFull call (inputs .pe) <;>
      cases comesEmpty call (inputs .ce) <;> cases comesEmpty call (inputs .pe) <;> decide
  rw [← guard]
  unfold liveFill
  cases passes : asymmetric call (fun optType => doLeg call optType (inputs optType)) with
  | true => simp [two.entry, two.live, passes, abortFill]
  | false => simp [passes, book, two.entry, normalFill]

end Guard

/-- A published ENTRY that was not aborted is filled in full on both legs. -/
def Atomic (call : LiveCall) (real : OptType → Int) (outcome : LiveOutcome) : Prop :=
  outcome.published.entryAborted = false → call.qty ≤ real .ce ∧ call.qty ≤ real .pe

/-- The bridge is atomic exactly when no promoted leg of a passing ENTRY is really
short, and two empty legs are really full. -/
theorem live_entry_atomic_iff (call : LiveCall) (two : TwoLegEntry call)
    (inputs : OptType → LegInputs) (state : BridgeState)
    (positions : Option (List (String × Int))) (real : OptType → Int)
    (confirmed : ∀ optType, reported call (inputs optType) ≤ real optType) :
    Atomic call real (liveFill call state inputs positions) ↔
      ((comesFull call (inputs .ce) = true ∧ comesFull call (inputs .pe) = true →
        ∀ optType, promoted call (inputs optType) = true → call.qty ≤ real optType) ∧
      (comesEmpty call (inputs .ce) = true ∧ comesEmpty call (inputs .pe) = true →
        call.qty ≤ real .ce ∧ call.qty ≤ real .pe)) := by
  have byReport : ∀ optType, comesFull call (inputs optType) = true →
      (promoted call (inputs optType) = true → call.qty ≤ real optType) →
      call.qty ≤ real optType := by
    intro optType full really
    simp only [comesFull, Bool.or_eq_true, decide_eq_true_eq] at full
    rcases full with report | promotion
    · exact Int.le_trans report (confirmed optType)
    · exact really promotion
  rw [Atomic, published_iff inputs two]
  constructor
  · intro atomic
    constructor
    · rintro full optType _
      have both := atomic (.inl full)
      cases optType with
      | ce => exact both.1
      | pe => exact both.2
    · intro empty
      exact atomic (.inr empty)
  · rintro ⟨promotions, empties⟩ (full | empty)
    · constructor
      · exact byReport .ce full.1 (promotions full .ce)
      · exact byReport .pe full.2 (promotions full .pe)
    · exact empties empty

/-- An ENTRY of ten on both legs. -/
def tenOfBoth : LiveCall where
  event :=
    { action := .entry, underlying := "BTC", atm := 63600, ceStrike := 64000, peStrike := 63200,
      ceLtp := 45, peLtp := 37, lotMultiplier := 1, lotSize := 10, spot := 63600,
      eventId := ⟨"BTC", .entry, 1⟩ }
  clientId := "cli"
  bindingId := "Delta1"
  exchange := "DELTA"
  product := "MIS"
  paper := false

/-- A leg whose executor reports a quantity, with one later answer. -/
def legReporting (filledQty : Int) (status : OrderFill) : LegInputs where
  symbol := some "SYM"
  execute _ := some ⟨filledQty, 50, ["o"], decide (10 ≤ filledQty)⟩
  statuses _ := some status

/-- A full CE leg and a PE leg short at 4, whose cancelled order is reported with
its price and its quantity. -/
def shortPe : OptType → LegInputs
  | .ce => legReporting 10 ⟨10, 50, .complete⟩
  | .pe => legReporting 4 ⟨4, 50, .cancelled⟩

def shortPeReal : OptType → Int
  | .ce => 10
  | .pe => 4

theorem tenOfBoth_entry : TwoLegEntry tenOfBoth := by
  refine ⟨rfl, rfl, ?_, by decide⟩
  intro optType
  cases optType <;> decide

/-- Two full reports make an atomic ENTRY. -/
theorem live_entry_atomic_on_full_reports :
    Atomic tenOfBoth (fun _ => 10)
      (liveFill tenOfBoth ⟨fun _ _ => none, fun _ => none⟩
        (fun _ => legReporting 10 ⟨10, 50, .complete⟩) none) :=
  (live_entry_atomic_iff tenOfBoth tenOfBoth_entry _ _ none (fun _ => 10)
    (fun _ => by decide)).mpr
    ⟨fun _ _ _ => by decide, fun _ => by decide⟩

/-- The short leg is promoted and the ENTRY published as a full one. -/
theorem live_entry_promotes_a_short_leg :
    (∀ optType, reported tenOfBoth (shortPe optType) ≤ shortPeReal optType) ∧
      ¬ Atomic tenOfBoth shortPeReal
        (liveFill tenOfBoth ⟨fun _ _ => none, fun _ => none⟩ shortPe none) := by
  constructor
  · intro optType
    cases optType <;> decide
  · intro atomic
    have published := atomic (by decide)
    revert published
    decide

end OptionChain.EntryAtomicity
