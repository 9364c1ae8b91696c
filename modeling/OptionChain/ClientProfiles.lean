import Mathlib.Algebra.Order.Field.Rat
import Mathlib.Data.List.Basic

/-!
# Client profiles

The part of a client's profile that risk checks and order routing read, and the
registry that holds one profile for each client. Broker bindings are read from the
database and not from here.
-/

namespace OptionChain.ClientProfiles

structure RiskProfile where
  capital : Rat := 500000
  maxDailyLossPct : Rat := 3
deriving DecidableEq

/-- The bound that `validate` asserts of the daily limit. -/
def RiskProfile.validate (risk : RiskProfile) : Prop :=
  0 < risk.maxDailyLossPct ∧ risk.maxDailyLossPct ≤ 10

instance (risk : RiskProfile) : Decidable risk.validate :=
  inferInstanceAs (Decidable (_ ∧ _))

structure ClientProfile where
  clientId : String
  risk : RiskProfile := {}
  active : Bool := true
  dailyPnl : Rat := 0
  dailyTrades : Nat := 0
  halted : Bool := false
deriving DecidableEq

def ClientProfile.recordTrade (client : ClientProfile) (pnl : Rat) : ClientProfile :=
  { client with
    dailyTrades := client.dailyTrades + 1
    dailyPnl := client.dailyPnl + pnl }

def ClientProfile.halt (client : ClientProfile) : ClientProfile := { client with halted := true }

/-- The profiles of `ClientRegistry`, in the order of their registration. -/
abbrev ClientRegistry := List ClientProfile

namespace ClientRegistry

def get (registry : ClientRegistry) (clientId : String) : Option ClientProfile :=
  registry.find? (·.clientId = clientId)

/-- `all_active`. -/
def allActive (registry : ClientRegistry) : List ClientProfile := registry.filter (·.active)

theorem get_mem {registry : ClientRegistry} {clientId : String} {client : ClientProfile}
    (found : registry.get clientId = some client) :
    client ∈ registry ∧ client.clientId = clientId := by
  refine ⟨List.mem_of_find?_eq_some found, ?_⟩
  simpa using List.find?_some found

end ClientRegistry

end OptionChain.ClientProfiles
