import Mathlib.Algebra.BigOperators.Group.List.Basic
import Mathlib.Logic.Function.Basic
import OptionChain.EntryAtomicity

/-!
# The account after an aborted ENTRY

An abort undoes an ENTRY in two ways. It buys back the quantities that the legs came
back with, and then flattens whatever the broker still holds in the symbols of the
legs. The second looks for the order symbols among the position symbols, which an
adapter may write differently, and it does not know what was held before.

So a contract is flat after the abort if its position is found, and otherwise off by
what the legs sold and the bridge did not see.
-/

namespace OptionChain.AbortRestores

open Broker StraddleEvents StraddleBridge EntryAtomicity

/-- How an adapter names contracts: in orders, and in its positions. A position symbol
is an order for its own contract or for none. -/
structure Adapter (κ : Type) where
  contract : String → Option κ
  positionSymbol : κ → String
  own : ∀ held named, contract (positionSymbol held).toUpper = some named → named = held

section Account

variable {κ : Type} [DecidableEq κ] (adapter : Adapter κ)

/-- The quantity by which a filled order changes the net position. -/
def signedQty (request : OrderRequest) : Int :=
  match request.side with
  | .buy => request.qty
  | .sell => -request.qty

/-- A market order fills completely, in the contract that its symbol names. -/
def fillOrder (net : κ → Int) (request : OrderRequest) : κ → Int :=
  match adapter.contract request.brokerSymbol with
  | none => net
  | some named => Function.update net named (net named + signedQty request)

/-- The net positions after an action of the bridge. -/
def act (net : κ → Int) : Effect → κ → Int
  | .flatten request => fillOrder adapter net request
  | .reconcile request => fillOrder adapter net request
  | .cancel _ | .logEntry _ | .logExit _ _ _ => net

def settle (net : κ → Int) (effects : List Effect) : κ → Int := effects.foldl (act adapter) net

/-- The contract that a leg is ordered in, if it has a symbol that the broker knows. -/
def legContract (leg : LegInputs) : Option κ := (usable leg.symbol).bind adapter.contract

/-- The sum of some amount over the legs in one contract. -/
def inContract (inputs : OptType → LegInputs) (legs : List OptType) (amount : OptType → Int)
    (held : κ) : Int :=
  (legs.map (fun side =>
    if legContract adapter (inputs side) = some held then amount side else 0)).sum

variable (call : LiveCall) (inputs : OptType → LegInputs)

/-- The quantity that the abort buys back for a leg: what was reported, or the whole
quantity of a leg that a later answer promoted. -/
def flattened (side : OptType) : Int :=
  max 0 (if promoted call (inputs side) then call.qty else reported call (inputs side))

/-- The net positions once all orders of the legs have filled, late fills included. -/
def afterLegs (before : κ → Int) (sold : OptType → Int) (held : κ) : Int :=
  before held - inContract adapter inputs call.legs sold held

/-- The net positions when they are read: the filled legs have been flattened. -/
def whenRead (before : κ → Int) (sold : OptType → Int) : κ → Int :=
  settle adapter (afterLegs adapter call inputs before sold)
    (flattenFilled call (fun side => doLeg call side (inputs side)))

/-- The answer of `get_positions` that lists some rows under their position symbols. -/
def listed (rows : List (κ × Int)) : List (String × Int) :=
  rows.map (fun row => (adapter.positionSymbol row.1, row.2))

/-- The part of a row that counts for a contract. -/
def share (held : κ) (row : κ × Int) : Int := if row.1 = held then row.2 else 0

/-- The rows are the true positions: those of a contract add up to its net quantity. -/
def TrueRows (rows : List (κ × Int)) (net : κ → Int) : Prop :=
  ∀ held, (rows.map (share held)).sum = net held

def legSymbols : List String := call.legs.filterMap (fun side => usable (inputs side).symbol)

/-- The position of a contract is found among the symbols of the legs. -/
def Found (symbols : List String) (held : κ) : Prop :=
  (adapter.positionSymbol held).toUpper ∈ symbols.map String.toUpper ∧
    adapter.contract (adapter.positionSymbol held).toUpper = some held

instance (symbols : List String) (held : κ) : Decidable (Found adapter symbols held) :=
  inferInstanceAs (Decidable (_ ∧ _))

end Account

/-- Working a leg keeps its symbol. -/
theorem doLeg_symbol (call : LiveCall) (side : OptType) (inputs : LegInputs) :
    usable (doLeg call side inputs).symbol = usable inputs.symbol := by
  unfold doLeg
  cases found : usable inputs.symbol with
  | none => exact found
  | some symbol =>
    have named : usable (some symbol) = some symbol := by
      have nonempty : symbol ≠ "" := of_decide_eq_true (Option.filter_eq_some_iff.mp found).2
      simp [usable, nonempty]
    dsimp only
    split <;> exact named

section Settle

variable {κ : Type} [DecidableEq κ] (adapter : Adapter κ)

theorem settle_append (net : κ → Int) (first second : List Effect) :
    settle adapter net (first ++ second) = settle adapter (settle adapter net first) second := by
  simp [settle]

/-- A filled order moves the contract that it names. -/
theorem fillOrder_apply (net : κ → Int) (request : OrderRequest) (held : κ) :
    fillOrder adapter net request held =
      net held +
        if adapter.contract request.brokerSymbol = some held then signedQty request else 0 := by
  unfold fillOrder
  cases named : adapter.contract request.brokerSymbol with
  | none => simp
  | some contract =>
    by_cases same : contract = held
    · simp [same]
    · simp [same, Function.update_of_ne (Ne.symm same)]

theorem settle_cancels (net : κ → Int) (known : List String) :
    settle adapter net (known.map .cancel) = net := by
  induction known with
  | nil => rfl
  | cons oid rest inductionHypothesis => exact inductionHypothesis

variable (call : LiveCall) (inputs : OptType → LegInputs)

/-- The order that flattens one leg, if it has one. -/
def flattenLeg (results : OptType → LegResult) (side : OptType) : Option Effect :=
  match usable (results side).symbol with
  | none => none
  | some symbol =>
      if 0 < (results side).filledQty then
        some (.flatten (flattenRequest call symbol (results side).filledQty))
      else none

/-- Flattening a leg of an ENTRY moves the contract of the leg, by what is flattened. -/
theorem settle_flattenLeg (entry : call.event.action = .entry) (net : κ → Int) (side : OptType)
    (held : κ) :
    settle adapter net
        (flattenLeg call (fun side => doLeg call side (inputs side)) side).toList held =
      net held +
        if legContract adapter (inputs side) = some held then flattened call inputs side
        else 0 := by
  have buys : ∀ symbol qty, signedQty (flattenRequest call symbol qty) = qty := by
    intro symbol qty
    simp [signedQty, flattenRequest, closeSide, LiveCall.side, entry]
  have amount := doLeg_filledQty call side (inputs side)
  unfold flattenLeg legContract
  dsimp only
  rw [doLeg_symbol]
  cases named : usable (inputs side).symbol with
  | none => simp [settle]
  | some symbol =>
    dsimp only
    rw [Option.bind_some]
    split
    · rename_i positive
      rw [amount] at positive
      simp only [Option.toList_some, settle, List.foldl_cons, List.foldl_nil, act,
        fillOrder_apply, buys, flattened, max_eq_right positive.le, amount]
      rfl
    · rename_i empty
      rw [amount] at empty
      simp [settle, flattened, max_eq_left (not_lt.mp empty)]

theorem settle_flattens (entry : call.event.action = .entry) (legs : List OptType)
    (net : κ → Int) (held : κ) :
    settle adapter net
        (legs.filterMap (flattenLeg call (fun side => doLeg call side (inputs side)))) held =
      net held + inContract adapter inputs legs (flattened call inputs) held := by
  induction legs generalizing net with
  | nil => simp [settle, inContract]
  | cons side rest inductionHypothesis =>
    have split : (side :: rest).filterMap
          (flattenLeg call (fun side => doLeg call side (inputs side))) =
        (flattenLeg call (fun side => doLeg call side (inputs side)) side).toList ++
          rest.filterMap (flattenLeg call (fun side => doLeg call side (inputs side))) := by
      rw [List.filterMap_cons]
      cases flattenLeg call (fun side => doLeg call side (inputs side)) side <;> rfl
    rw [split, settle_append, inductionHypothesis, settle_flattenLeg adapter call inputs entry]
    simp only [inContract, List.map_cons, List.sum_cons]
    ring

/-- When the positions are read, each contract is off by what was sold unseen. -/
theorem whenRead_apply (entry : call.event.action = .entry) (before : κ → Int)
    (sold : OptType → Int) (held : κ) :
    whenRead adapter call inputs before sold held =
      before held - inContract adapter inputs call.legs sold held +
        inContract adapter inputs call.legs (flattened call inputs) held :=
  settle_flattens adapter call inputs entry call.legs _ held

/-- A reconciling order takes its quantity away, whatever its sign. -/
theorem signedQty_reconcile (symbol : String) (qty : Int) :
    signedQty (reconcileRequest call symbol qty) = -qty := by
  unfold signedQty reconcileRequest
  by_cases long : 0 < qty
  · simp only [if_pos long]
    omega
  · simp only [if_neg long]
    omega

/-- The row is one that the reconciliation flattens. -/
def residual (symbols : List String) (row : String × Int) : Bool :=
  decide (row.1.toUpper ∈ symbols.map String.toUpper) && decide (row.2 ≠ 0)

/-- A flattened row goes to its own contract or is refused. -/
theorem fillOrder_residual (symbols : List String) (row : κ × Int) (net : κ → Int) (held : κ)
    (kept : residual symbols (adapter.positionSymbol row.1, row.2) = true) :
    fillOrder adapter net
        (reconcileRequest call (adapter.positionSymbol row.1).toUpper row.2) held =
      net held - if Found adapter symbols held then share held row else 0 := by
  rw [fillOrder_apply, signedQty_reconcile]
  change net held +
    (if adapter.contract (adapter.positionSymbol row.1).toUpper = some held then -row.2 else 0) = _
  simp only [residual, Bool.and_eq_true, decide_eq_true_eq] at kept
  by_cases named : adapter.contract (adapter.positionSymbol row.1).toUpper = some held
  · have same : held = row.1 := adapter.own row.1 held named
    subst same
    have found : Found adapter symbols row.1 := ⟨kept.1, named⟩
    simp only [if_pos named, if_pos found, share, if_true]
    ring
  · have apart : ¬ (Found adapter symbols held ∧ row.1 = held) := by
      rintro ⟨found, rfl⟩
      exact named found.2
    rw [if_neg named]
    by_cases found : Found adapter symbols held
    · have other : row.1 ≠ held := fun same => apart ⟨found, same⟩
      simp [share, other]
    · simp [found]

/-- A row that is not flattened holds nothing of a contract that is found. -/
theorem share_unflattened (symbols : List String) (row : κ × Int) (held : κ)
    (skipped : residual symbols (adapter.positionSymbol row.1, row.2) = false)
    (found : Found adapter symbols held) : share held row = 0 := by
  unfold share
  split
  · rename_i same
    subst same
    simpa [residual, found.1] using skipped
  · rfl

/-- Flattening the residual rows takes away the rows whose contract is found. -/
theorem settle_residual (symbols : List String) (rows : List (κ × Int)) (net : κ → Int)
    (held : κ) :
    settle adapter net
        (((listed adapter rows).filter (residual symbols)).map
          (fun p => .reconcile (reconcileRequest call p.1.toUpper p.2))) held =
      net held - if Found adapter symbols held then (rows.map (share held)).sum else 0 := by
  induction rows generalizing net with
  | nil => simp [settle, listed]
  | cons row rest inductionHypothesis =>
    simp only [listed, List.map_cons, List.sum_cons] at inductionHypothesis ⊢
    cases kept : residual symbols (adapter.positionSymbol row.1, row.2) with
    | true =>
      rw [List.filter_cons_of_pos kept]
      have first := fillOrder_residual adapter call symbols row net held kept
      simp only [List.map_cons]
      change settle adapter (fillOrder adapter net _) _ held = _
      rw [inductionHypothesis, first]
      by_cases found : Found adapter symbols held
      · simp only [if_pos found]
        ring
      · simp only [if_neg found]
        ring
    | false =>
      rw [List.filter_cons_of_neg (by simp [kept]), inductionHypothesis]
      by_cases found : Found adapter symbols held
      · simp only [if_pos found, share_unflattened adapter symbols row held kept found]
        ring
      · simp only [if_neg found]

/-- The reconciliation takes away the rows of the contracts that it finds. -/
theorem settle_reconcileFlat (state : BridgeState) (symbols : List String)
    (rows : List (κ × Int)) (net : κ → Int) (held : κ) :
    settle adapter net (reconcileFlat call state symbols (some (listed adapter rows))) held =
      net held - if Found adapter symbols held then (rows.map (share held)).sum else 0 := by
  unfold reconcileFlat
  dsimp only
  split
  · rename_i none
    simp [settle, Found, none]
  · rw [settle_append, settle_cancels]
    exact settle_residual adapter call symbols rows net held

/-- An aborted outcome is that of an ENTRY, with the two corrections. -/
theorem aborted_effects {state : BridgeState} {positions : Option (List (String × Int))}
    (aborted : (liveFill call state inputs positions).published.entryAborted = true) :
    call.event.action = .entry ∧
      (liveFill call state inputs positions).effects =
        flattenFilled call (fun side => doLeg call side (inputs side)) ++
          reconcileFlat call
            (rememberOrders call (fun side => doLeg call side (inputs side)) state)
            (legSymbols call inputs) positions := by
  unfold liveFill at aborted ⊢
  dsimp only at aborted ⊢
  split at aborted
  · rename_i guard
    refine ⟨guard.1, ?_⟩
    rw [if_pos guard]
    simp only [legSymbols, doLeg_symbol]
  · unfold book at aborted
    split at aborted <;> simp [normalFill] at aborted

/-- The account after the abort: found contracts are flat, the others are off by what
was sold unseen. -/
theorem settled_apply {state : BridgeState} {before : κ → Int} {sold : OptType → Int}
    {rows : List (κ × Int)} (truth : TrueRows rows (whenRead adapter call inputs before sold))
    (aborted : (liveFill call state inputs
      (some (listed adapter rows))).published.entryAborted = true) (held : κ) :
    settle adapter (afterLegs adapter call inputs before sold)
        (liveFill call state inputs (some (listed adapter rows))).effects held =
      if Found adapter (legSymbols call inputs) held then 0
      else before held - inContract adapter inputs call.legs sold held +
        inContract adapter inputs call.legs (flattened call inputs) held := by
  obtain ⟨entry, effects⟩ := aborted_effects call inputs aborted
  rw [effects, settle_append, settle_reconcileFlat, truth held]
  change whenRead adapter call inputs before sold held - _ = _
  split
  · omega
  · rw [sub_zero, whenRead_apply adapter call inputs entry]

end Settle

/-- Every contract in which a leg was ordered holds what it held before the ENTRY. -/
def Restored {κ : Type} [DecidableEq κ] (adapter : Adapter κ) (call : LiveCall)
    (inputs : OptType → LegInputs) (before after : κ → Int) : Prop :=
  ∀ side ∈ call.legs, ∀ held ∈ legContract adapter (inputs side), after held = before held

/-- After an abort the account is restored exactly if each leg contract whose position is
found was empty before, and of each other one the flattened quantity is the sold one. -/
theorem abort_restores_iff {κ : Type} [DecidableEq κ] (adapter : Adapter κ) (call : LiveCall)
    (inputs : OptType → LegInputs) (state : BridgeState) (before : κ → Int)
    (sold : OptType → Int) (rows : List (κ × Int))
    (truth : TrueRows rows (whenRead adapter call inputs before sold))
    (aborted : (liveFill call state inputs
      (some (listed adapter rows))).published.entryAborted = true) :
    Restored adapter call inputs before
        (settle adapter (afterLegs adapter call inputs before sold)
          (liveFill call state inputs (some (listed adapter rows))).effects) ↔
      ∀ side ∈ call.legs, ∀ held ∈ legContract adapter (inputs side),
        if Found adapter (legSymbols call inputs) held then before held = 0
        else inContract adapter inputs call.legs (flattened call inputs) held =
          inContract adapter inputs call.legs sold held := by
  have each : ∀ held,
      settle adapter (afterLegs adapter call inputs before sold)
          (liveFill call state inputs (some (listed adapter rows))).effects held = before held ↔
        if Found adapter (legSymbols call inputs) held then before held = 0
        else inContract adapter inputs call.legs (flattened call inputs) held =
          inContract adapter inputs call.legs sold held := by
    intro held
    rw [settled_apply adapter call inputs truth aborted held]
    split
    · exact eq_comm
    · omega
  simp only [Restored, each]

/-- The contracts of a broker that trades two of them, under their order symbols. -/
def twoContracts (order : OptType → String) (text : String) : Option OptType :=
  if text = order .ce then some .ce else if text = order .pe then some .pe else none

/-- Orders and positions under one symbol. -/
def deltaSymbol : OptType → String
  | .ce => "C-BTC-64000-140626"
  | .pe => "P-BTC-63200-140626"

def delta : Adapter OptType where
  contract := twoContracts deltaSymbol
  positionSymbol := deltaSymbol
  own held named := by cases held <;> cases named <;> decide +kernel

/-- Orders under an instrument key, positions under a trading symbol. -/
def instrumentKey : OptType → String
  | .ce => "NSE_FO|43885"
  | .pe => "NSE_FO|43886"

def tradingSymbol : OptType → String
  | .ce => "NIFTY 24500 CE 16 JUN 26"
  | .pe => "NIFTY 24500 PE 16 JUN 26"

def upstox : Adapter OptType where
  contract := twoContracts instrumentKey
  positionSymbol := tradingSymbol
  own held named := by cases held <;> cases named <;> decide +kernel

/-- The CE leg fills ten. The PE leg is reported empty. -/
def emptyPe (symbol : OptType → String) : OptType → LegInputs
  | .ce => ⟨some (symbol .ce), fun _ => some ⟨10, 50, ["o-ce"], true⟩, fun _ => none⟩
  | .pe => ⟨some (symbol .pe), fun _ => some ⟨0, 0, ["o-pe"], false⟩, fun _ => none⟩

/-- Six of the PE leg fill late, before the positions are read. -/
def lateSix : OptType → Int
  | .ce => 10
  | .pe => 6

def tenOfNifty : LiveCall where
  event :=
    { action := .entry, underlying := "NIFTY", atm := 24500, ceStrike := 24500, peStrike := 24500,
      ceLtp := 120, peLtp := 80, lotMultiplier := 1, lotSize := 10, spot := 24510,
      eventId := ⟨"NIFTY", .entry, 1⟩ }
  clientId := "A"
  bindingId := "A_b1"
  exchange := "NFO"
  product := "MIS"
  paper := false

def noOrders : BridgeState := ⟨fun _ _ => none, fun _ => none⟩

/-- The late fill is found under its order symbol and taken away. -/
theorem late_fill_restored :
    Restored delta tenOfBoth (emptyPe deltaSymbol) (fun _ => 0)
      (settle delta (afterLegs delta tenOfBoth (emptyPe deltaSymbol) (fun _ => 0) lateSix)
        (liveFill tenOfBoth noOrders (emptyPe deltaSymbol)
          (some (listed delta [(OptType.pe, -6)]))).effects) := by
  have truth : TrueRows [(OptType.pe, -6)]
      (whenRead delta tenOfBoth (emptyPe deltaSymbol) (fun _ => 0) lateSix) := by
    intro held
    cases held <;> decide
  have found : ∀ held, Found delta (legSymbols tenOfBoth (emptyPe deltaSymbol)) held := by
    intro held
    have symbols : legSymbols tenOfBoth (emptyPe deltaSymbol) =
        [deltaSymbol .ce, deltaSymbol .pe] := rfl
    have named : (deltaSymbol held).toUpper ∈
        [deltaSymbol .ce, deltaSymbol .pe].map String.toUpper := by
      cases held <;> simp
    have known : delta.contract (deltaSymbol held).toUpper = some held := by
      cases held <;> decide +kernel
    exact ⟨symbols ▸ named, known⟩
  apply (abort_restores_iff delta tenOfBoth (emptyPe deltaSymbol) noOrders (fun _ => 0) lateSix
    [(.pe, -6)] truth (by decide)).mpr
  intro side _ held _
  rw [if_pos (found held)]

/-- Under another symbol it is not found, and the account stays short. -/
theorem late_fill_stays :
    TrueRows [(OptType.pe, -6)]
        (whenRead upstox tenOfNifty (emptyPe instrumentKey) (fun _ => 0) lateSix) ∧
      (liveFill tenOfNifty noOrders (emptyPe instrumentKey)
        (some (listed upstox [(OptType.pe, -6)]))).published.entryAborted = true ∧
      ¬ Restored upstox tenOfNifty (emptyPe instrumentKey) (fun _ => 0)
        (settle upstox
          (afterLegs upstox tenOfNifty (emptyPe instrumentKey) (fun _ => 0) lateSix)
          (liveFill tenOfNifty noOrders (emptyPe instrumentKey)
            (some (listed upstox [(OptType.pe, -6)]))).effects) := by
  refine ⟨?_, by decide, ?_⟩
  · intro held
    cases held <;> decide
  · intro restored
    have flat := restored .pe (by decide) .pe (by decide)
    revert flat
    decide +kernel

end OptionChain.AbortRestores
