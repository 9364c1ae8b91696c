import Mathlib.Data.Rat.Defs
import OptionChain.MergedTrees

/-!
# The runtime configuration

The live configuration is the defaults with the stored file merged in, and every update
and every saved section is merged into it and written back. A section of an index is read
by its strategy from the live copy, and shown to the administrator merged into its
defaults once more.

A list is a leaf, whatever it holds. The file is what it last held, and a call that raises
is an absent answer.
-/

namespace OptionChain.RuntimeConfig

open MergedTrees

inductive Json where
  | null
  | bool (value : Bool)
  | int (value : Int)
  | float (value : Rat)
  | str (value : String)
  | list (items : List Json)
  | dict (entries : List (String × Json))

/-- A value that is not a dictionary. -/
inductive Leaf where
  | null
  | bool (value : Bool)
  | int (value : Int)
  | float (value : Rat)
  | str (value : String)
  | list (items : List Json)

def Leaf.truthy : Leaf → Bool
  | .null => false
  | .bool value => value
  | .int value => decide (value ≠ 0)
  | .float value => decide (value ≠ 0)
  | .str value => decide (value ≠ "")
  | .list items => !items.isEmpty

abbrev Value := Node String Leaf

abbrev Config := Dict String Leaf

/-- A section, an empty one included, as `or` and `if not` see it. -/
def truthy : Value → Bool
  | .leaf value => value.truthy
  | .dict keys _ => decide (keys ≠ ∅)

/-- What further reading takes for granted. -/
def asDict : Value → Option Config
  | .leaf _ => none
  | .dict keys entries => some ⟨keys, entries⟩

/-- `.get(key, {})`. -/
def getDict (config : Config) (key : String) : Value := (config.get? key).getD Dict.empty.node

/-! ## The defaults -/

def flag (value : Bool) : Value := .leaf (.bool value)

def int (value : Int) : Value := .leaf (.int value)

def float (value : Rat) : Value := .leaf (.float value)

def str (value : String) : Value := .leaf (.str value)

def noRules : Value := .leaf (.list [])

def dict (entries : List (String × Value)) : Value := (Dict.ofList entries).node

/-- The overrides of one weekday. -/
def dayDefault : Value :=
  dict [("enabled", flag false), ("profit_target_pct", float 0), ("loss_sl_pct", float 0)]

def perDayDefault : Value :=
  dict [("monday", dayDefault), ("tuesday", dayDefault), ("wednesday", dayDefault),
    ("thursday", dayDefault), ("friday", dayDefault)]

/-- `_SS_INDEX_DEFAULT`. -/
def ssIndexBase : Config := Dict.ofList
  [("entry_start", str "09:20"),
    ("entry_end", str "15:15"),
    ("squareoff_time", str "15:15"),
    ("entry_workflow_mode", str "hybrid"),
    ("ltp_target", float 0),
    ("trail_lock_pct", float 20),
    ("trail_floor_pct", float 10),
    ("pool_itm_depth", int 4),
    ("pool_otm_depth", int 4),
    ("entry_rules_beginning", noRules),
    ("entry_rules_reentry", noRules),
    ("exit_rules", noRules),
    ("profit_target_enabled", flag true),
    ("profit_pct", float 30),
    ("sl_enabled", flag true),
    ("sl_pct", float 200),
    ("profit_target_pct", float 0),
    ("loss_sl_pct", float 0),
    ("tsl_enabled", flag false),
    ("trail_lock_pct", float 20),
    ("trail_floor_pct", float 10),
    ("tsl_scalable", dict
      [("enabled", flag false), ("base_profit", int 3000), ("base_lock", int 1500),
        ("step_profit", int 1000), ("step_lock", int 500)]),
    ("guardrail_roc", dict
      [("enabled", flag false), ("tf", int 15), ("length", int 9), ("target", float 20),
        ("stoploss", float (-40))]),
    ("guardrail_pnl", dict
      [("enabled", flag false), ("target_pts", float 100), ("stoploss_pts", float (-60))]),
    ("ratio_exit", dict [("enabled", flag false), ("threshold", float 3)]),
    ("ltp_decay", dict [("enabled", flag false), ("ltp_exit_min", float 20)]),
    ("smart_rolling_enabled", flag false),
    ("vwap_rise_sl", dict [("enabled", flag false), ("tf", int 1), ("threshold", float 1)]),
    ("sl_cooldown_tf_multiplier", float 1),
    ("capital_deployed_inr", int 0),
    ("max_trades", int 1),
    ("per_day", perDayDefault)]

/-- `_IC_BASE_DEFAULT`. -/
def icBase : Config := Dict.ofList
  [("enabled", flag true),
    ("start_time", str "09:16"),
    ("squareoff_time", str "15:15"),
    ("entry_day", str "daily"),
    ("product_type", str "MIS"),
    ("lot_size", int 65),
    ("strike_step", int 50),
    ("max_adjustments_per_side", int 3),
    ("roll_step_pts", int 5),
    ("profit_target_inr", float 5000),
    ("stoploss_inr", float 2000),
    ("ratio_exit_threshold", float 3)]

/-- The legs out of the money, in points. -/
def strikes (short long : Rat) : List (String × Value) :=
  [("short_leg_otm_pts", float short), ("long_leg_otm_pts", float long)]

/-- `_IC_STRIKE_DEFAULTS`. -/
def icStrikeDefaults : List (String × List (String × Value)) :=
  [("NIFTY", strikes 200 300),
    ("BANKNIFTY", strikes 400 600),
    ("FINNIFTY", strikes 200 300),
    ("SENSEX", strikes 500 750),
    ("MIDCPNIFTY", strikes 150 250),
    ("CRUDEOIL", strikes 100 200)]

def mcxIndices : List String := ["CRUDEOIL", "CRUDEOILM", "NATURALGAS"]

def allIndices : List String :=
  ["NIFTY", "BANKNIFTY", "FINNIFTY", "SENSEX", "MIDCPNIFTY", "CRUDEOIL"]

def ssIndexDefault (index : String) : Config :=
  if index.toUpper ∈ mcxIndices then
    ssIndexBase.update
      [("entry_start", str "09:00"), ("entry_end", str "23:15"), ("squareoff_time", str "23:30")]
  else ssIndexBase

def icIndexDefault (index : String) : Config :=
  let base := icBase.update ((icStrikeDefaults.lookup index).getD (strikes 200 300))
  if index.toUpper ∈ mcxIndices then
    base.update
      [("start_time", str "09:00"), ("squareoff_time", str "23:30"), ("strike_step", int 100),
        ("lot_size", int 100)]
  else base

/-- The two sections that every index has by default. -/
def sectionDefaults (index : String) : List (String × Config) :=
  [("sell_straddle", ssIndexDefault index), ("iron_condor", icIndexDefault index)]

/-- A dictionary of dictionaries. -/
def dictOf (sections : List (String × Config)) : Config :=
  Dict.ofList (sections.map (fun entry => (entry.1, entry.2.node)))

/-- `_build_index_defaults`. -/
def buildIndexDefaults : Config :=
  dictOf (allIndices.map (fun index => (index, dictOf (sectionDefaults index))))

/-- `_DEFAULTS`. -/
def defaults : Config := Dict.ofList
  [("rms", dict
      [("max_drawdown_pct", float 5),
        ("order_throttle_per_sec", int 5),
        ("squareoff_time", str "15:15"),
        ("distance_filter_pct", float 5)]),
    ("indicators", dict
      [("rsi_period", int 14),
        ("vwap_window", int 500),
        ("adx_period", int 20),
        ("ema_fast", int 9),
        ("ema_slow", int 21),
        ("htf_minutes", int 75),
        ("ltf_minutes", int 5)]),
    ("iron_condor", dict
      [("enabled", flag true),
        ("start_time", str "09:16"),
        ("squareoff_time", str "15:15"),
        ("entry_day", str "daily"),
        ("product_type", str "MIS"),
        ("lot_size", int 65),
        ("strike_step", int 50),
        ("max_adjustments_per_side", int 3),
        ("roll_step_pts", int 5),
        ("profit_target_inr", float 5000),
        ("stoploss_inr", float 2000),
        ("ratio_exit_threshold", float 3)]),
    ("sell_straddle", dict
      [("entry_start", str "09:20"),
        ("entry_end", str "15:15"),
        ("squareoff_time", str "15:15"),
        ("profit_pct", float 30),
        ("sl_pct", float 200),
        ("trail_lock_pct", float 20),
        ("trail_floor_pct", float 10),
        ("profit_target_pct", float 0),
        ("loss_sl_pct", float 0),
        ("max_trades", int 1),
        ("roc_limit_pct", float (3 / 2)),
        ("ratio_exit_threshold", float 3),
        ("sl_cooldown_tf_multiplier", float 1),
        ("capital_deployed_inr", int 0),
        ("lot_size", int 50),
        ("smart_rolling_enabled", flag true),
        ("vwap_rise_sl_enabled", flag false),
        ("vwap_rise_sl_threshold_pct", float 1),
        ("tsl_scalable_enabled", flag false),
        ("tsl_base_profit_rs", float 1000),
        ("tsl_base_lock_rs", float 250),
        ("tsl_step_profit_rs", float 250),
        ("tsl_step_lock_rs", float 250),
        ("entry_rules_beginning", noRules),
        ("entry_rules_reentry", noRules),
        ("per_day", perDayDefault)]),
    ("indices", buildIndexDefaults.node)]

/-! ## The live copy and the file -/

structure State where
  live : Config := Dict.empty
  /-- What the file holds, when there is one. -/
  disk : Option Config := none

/-- `_load_from_disk`. -/
def loadFromDisk (state : State) : Config := state.disk.getD Dict.empty

def reloadFromDisk (state : State) : State :=
  { state with live := defaults.merge (loadFromDisk state) }

/-- `_ensure_loaded`. -/
def ensureLoaded (state : State) : State :=
  if truthy state.live.node then state else reloadFromDisk state

/-- The live copy with the file written after it. -/
def saved (live : Config) : State := ⟨live, some live⟩

def update (state : State) (patch : Config) : State :=
  saved ((ensureLoaded state).live.merge patch)

/-- A section with new data, which replaces anything that is not a dictionary. -/
def mergeSection (existing : Value) (data : Config) : Config :=
  match asDict existing with
  | some known => known.merge data
  | none => data

/-- The live copy with one section merged in, if there are dictionaries on the way to it. -/
def setSection (live : Config) (index strategy : String) (data : Config) : Option Config := do
  let indices ← asDict (getDict live "indices")
  let sect ← asDict (getDict indices index)
  let merged := mergeSection (getDict sect strategy) data
  some (live.set "indices" (indices.set index (sect.set strategy merged.node).node).node)

def setIndexSection (state : State) (index strategy : String) (data : Config) : Option State :=
  (setSection (ensureLoaded state).live index strategy data).map saved

/-- What a strategy is handed. -/
def indexSection (state : State) (index strategy : String) : Option Value := do
  let indices ← asDict (getDict (ensureLoaded state).live "indices")
  let sect ← asDict (getDict indices index)
  let stored := getDict sect strategy
  if truthy stored then some stored
  else do
    let sections ← asDict (getDict buildIndexDefaults index)
    some (getDict sections strategy)

/-- One section as it is shown. -/
def shownSection (indices : Config) (index : String) (default : String × Config) :
    Option (String × Config) := do
  let sect ← asDict (getDict indices index)
  let stored ← asDict (getDict sect default.1)
  some (default.1, default.2.merge stored)

/-- What the administrator is shown. -/
def getAllIndices (state : State) : Option Config := do
  let indices ← asDict (getDict (ensureLoaded state).live "indices")
  let shown ← allIndices.mapM (fun index => do
    let sections ← (sectionDefaults index).mapM (shownSection indices index)
    some (index, dictOf sections))
  some (dictOf shown)

end OptionChain.RuntimeConfig
