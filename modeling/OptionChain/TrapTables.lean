import Mathlib.Tactic.Linarith
import OptionChain.OwnedRows
import OptionChain.TrapGrowth

/-!
# Zones and their rows in the event table

A zone takes its prices from the two bars of its setup and keeps them, so its geometry is
that of the setup. Once trapped it owns a row of the event table, whose index it stores;
the bears and bulls of a spot scan store indices into one table. `scans_consistent` says
that the rows of a table and the zones that were ever trapped belong to each other, one to
one, and that each row tells the life of its zone.
-/

namespace OptionChain.TrapTables

open OwnedRows TrapScanner TrapZones

/-- The row tells the life of the entry. -/
structure RowOf {τ ρ : Type} (entry : Entry τ) (row : EventRow ρ) : Prop where
  trapBar : entry.trappedOn = some row.trapBar
  refBar : row.refBar = entry.refTs
  status : row.status = .closed ↔ entry.status = .closed
  closeBar : row.closeBar = entry.closedOn

/-- An entry stores an index once it has been trapped, and a return once it is closed. -/
structure Indexed {τ : Type} (entry : Entry τ) : Prop where
  trapped : entry.eventIdx.isSome = true ↔ entry.status ≠ .active
  pending : entry.status ≠ .closed → entry.closedOn = none

/-- The rows of the table belong to the entries that were ever trapped, one to one. -/
structure TableOf {τ ρ : Type} (entries : List (Entry τ)) (events : List (EventRow ρ)) :
    Prop where
  owned : Owned Entry.eventIdx RowOf entries events
  indexed : ∀ entry ∈ entries, Indexed entry

section Visits

variable {τ ρ : Type} (rule : TrapRule τ ρ)

/-- The entry with the row that its trap appends. -/
def trappedAt (curr : Bar) (entry : Entry τ) (row : Nat) : Entry τ :=
  { entry with status := .trapped, trappedOn := some curr.datetime, eventIdx := some row }

def closedAt (curr : Bar) (entry : Entry τ) : Entry τ :=
  { entry with status := .closed, closedOn := some curr.datetime }

/-- The first test of a visit, with the table. -/
def firing (curr : Bar) (entry : Entry τ) (events : List (EventRow ρ)) :
    Entry τ × List (EventRow ρ) :=
  if fires rule curr entry.toZone then
    (trappedAt curr entry events.length, events ++ [openRow rule curr entry.toSetup])
  else (entry, events)

/-- The second test. -/
def ending (curr : Bar) (entry : Entry τ) (events : List (EventRow ρ)) :
    Entry τ × List (EventRow ρ) :=
  if ends rule curr entry.toZone then
    (closedAt curr entry, closeRow curr entry.eventIdx events)
  else (entry, events)

variable {rule} {curr : Bar} {entry : Entry τ} {entries others : List (Entry τ)}
  {events : List (EventRow ρ)}

theorem visit_eq : visit rule curr entry events =
    ending rule curr (firing rule curr entry events).1 (firing rule curr entry events).2 := by
  have fired : (firing rule curr entry events).1 =
      { trap rule curr entry.toZone with
        eventIdx := if fires rule curr entry.toZone then some events.length
          else entry.eventIdx } := by
    unfold firing trap
    split <;> rfl
  have table : (firing rule curr entry events).2 =
      if fires rule curr entry.toZone then events ++ [openRow rule curr entry.toSetup]
      else events := by
    unfold firing
    split <;> rfl
  rw [fired, table]
  unfold visit ending finish
  dsimp only
  split <;> rfl

theorem tableOf_nil : TableOf ([] : List (Entry τ)) ([] : List (EventRow ρ)) := by
  constructor
  · exact owned_nil
  · intro entry member
    cases member

theorem TableOf.unordered (table : TableOf entries events) (permuted : entries.Perm others) :
    TableOf others events := by
  constructor
  · exact table.owned.unordered permuted
  · intro entry member
    exact table.indexed entry (permuted.mem_iff.mpr member)

/-- A trap appends the row of its entry. -/
theorem firing_table (table : TableOf (entry :: others) events) :
    TableOf ((firing rule curr entry events).1 :: others) (firing rule curr entry events).2 := by
  obtain ⟨indexed, rest⟩ := List.forall_mem_cons.mp table.indexed
  unfold firing
  split
  case isTrue fired =>
    have active : entry.status = .active := by
      simp only [fires, Bool.and_eq_true, decide_eq_true_eq] at fired
      exact fired.1
    have free : entry.eventIdx = none := by
      have rowless := mt indexed.trapped.mp (not_not_intro active)
      simpa using rowless
    have unclosed : entry.closedOn = none := indexed.pending (by simp [active])
    constructor
    case owned =>
      apply (table.owned.of_cons_none free).append rfl
      constructor
      · rfl
      · rfl
      · simp [openRow, trappedAt]
      · simp [openRow, trappedAt, unclosed]
    case indexed =>
      refine List.forall_mem_cons.mpr ⟨?_, rest⟩
      constructor
      · simp [trappedAt]
      · simp [trappedAt, unclosed]
  case isFalse quiet => exact table

/-- A return closes the row of its entry. -/
theorem ending_table (table : TableOf (entry :: others) events) :
    TableOf ((ending rule curr entry events).1 :: others) (ending rule curr entry events).2 := by
  obtain ⟨indexed, rest⟩ := List.forall_mem_cons.mp table.indexed
  unfold ending
  split
  case isTrue ended =>
    have trapped : entry.status = .trapped := by
      simp only [ends, Bool.and_eq_true, decide_eq_true_eq] at ended
      exact ended.1.1
    have holds := indexed.trapped.mpr (by simp [trapped])
    obtain ⟨row, own⟩ := Option.isSome_iff_exists.mp holds
    constructor
    case owned =>
      have still : (closedAt curr entry).eventIdx = some row := own
      rw [own]
      apply table.owned.modify own still
      intro stored fits
      constructor
      · exact fits.trapBar
      · exact fits.refBar
      · simp [closedAt]
      · rfl
    case indexed =>
      refine List.forall_mem_cons.mpr ⟨?_, rest⟩
      constructor
      · simp [closedAt, holds]
      · simp [closedAt]
  case isFalse quiet => exact table

variable (rule) (curr)

theorem visit_table (table : TableOf (entry :: others) events) :
    TableOf ((visit rule curr entry events).1 :: others) (visit rule curr entry events).2 := by
  rw [visit_eq]
  exact ending_table (firing_table table)

/-- `for e in entries`, beside the entries of another family. -/
theorem visitAll_table (table : TableOf (entries ++ others) events) :
    TableOf ((visitAll rule curr entries events).1 ++ others)
      (visitAll rule curr entries events).2 := by
  induction entries generalizing events others with
  | nil => exact table
  | cons entry rest inductionHypothesis =>
    have visited := visit_table rule curr table
    -- the visited entry joins the others
    have moved := visited.unordered List.perm_middle.symm
    exact (inductionHypothesis moved).unordered List.perm_middle

theorem opens_table (prev : Bar) (table : TableOf entries events) :
    TableOf (entries ++ opens rule prev curr) events := by
  unfold opens
  split
  case isTrue setup =>
    apply TableOf.unordered _ (List.perm_append_singleton _ _).symm
    constructor
    · exact table.owned.cons_none rfl
    · refine List.forall_mem_cons.mpr ⟨?_, table.indexed⟩
      constructor
      · simp [fresh]
      · simp [fresh]
  case isFalse none =>
    rw [List.append_nil]
    exact table

end Visits

/-- What every turn of the outer loop keeps holds after it. -/
theorem overPairs_keeps {σ : Type} {body : Bar → Bar → σ → σ} (holds : σ → Prop)
    (keeps : ∀ prev curr state, holds state → holds (body prev curr state)) (bars : List Bar)
    (state : σ) (first : holds state) : holds (overPairs body state bars) := by
  induction bars generalizing state with
  | nil => exact first
  | cons prev rest inductionHypothesis =>
    cases rest with
    | nil => exact first
    | cons curr rest => exact inductionHypothesis _ (keeps prev curr state first)

/-- A scan with one family of zones. -/
theorem scanBars_table {τ ρ : Type} (rule : TrapRule τ ρ) (bars : List Bar) :
    TableOf (scanBars rule bars).entries (scanBars rule bars).events := by
  apply overPairs_keeps (fun scan : Scan τ ρ => TableOf scan.entries scan.events)
  · intro prev curr scan table
    have alone : TableOf (scan.entries ++ []) scan.events := by
      rw [List.append_nil]
      exact table
    have visited := visitAll_table rule curr alone
    rw [List.append_nil] at visited
    exact opens_table rule curr prev visited
  · exact tableOf_nil

/-- A spot scan: both families in one table. -/
theorem spotBars_table (bars : List Bar) :
    TableOf ((spotBars bars).bearEntries ++ (spotBars bars).bullEntries)
      (spotBars bars).events := by
  apply overPairs_keeps
    (fun scan : SpotScan => TableOf (scan.bearEntries ++ scan.bullEntries) scan.events)
  · intro prev curr scan table
    have bears := visitAll_table bearRule curr table
    have bulls := visitAll_table bullRule curr
      (bears.unordered List.perm_append_comm)
    have newBears := opens_table bearRule curr prev bulls
    rw [List.append_assoc] at newBears
    have newBulls := opens_table bullRule curr prev
      (newBears.unordered List.perm_append_comm)
    rw [List.append_assoc] at newBulls
    exact newBulls
  · exact tableOf_nil

/-! ## The geometry of the zones -/

/-- What holds of every setup of a frame holds of every entry of its scan. -/
theorem entry_setup {τ ρ : Type} {rule : TrapRule τ ρ} {bars : List Bar}
    {entries : List (Entry τ)} (zones : entries.map Entry.toZone = zonesOf rule bars)
    {holds : Setup τ → Prop}
    (made : ∀ prev ∈ bars, ∀ curr, rule.setup prev curr = true → holds (rule.make prev curr))
    {entry : Entry τ} (member : entry ∈ entries) : holds entry.toSetup := by
  have listed : entry.toZone ∈ zonesOf rule bars := zones ▸ List.mem_map_of_mem member
  obtain ⟨prev, inside, curr, makes, same⟩ := TrapGrowth.setup_of_zonesOf rule listed
  rw [same]
  exact made prev inside curr makes

/-- The prices of a zone of `scan_htf`, from below. -/
structure HtfGeometry (setup : Setup Trigger) : Prop where
  width : setup.zoneLow < setup.zoneHigh
  aboveLow : setup.zoneLow < setup.tag.zoneTrigger
  belowHigh : setup.tag.zoneTrigger < setup.zoneHigh
  stop : setup.zoneHigh ≤ setup.sl
  outer : setup.entry ≤ setup.sl

/-- A zone of `scan_htf_spot` and the side of its stop. -/
structure SpotGeometry (setup : Setup SpotTag) : Prop where
  width : setup.zoneLow < setup.zoneHigh
  bear : setup.tag.kind = .bear → setup.entry ≤ setup.sl
  bull : setup.tag.kind = .bull → setup.sl ≤ setup.entry

section Geometry

variable {prev curr : Bar}

theorem htfRule_geometry (sound : prev.low ≤ prev.high)
    (lower : htfRule.setup prev curr = true) : HtfGeometry (htfRule.make prev curr) := by
  have below : curr.low < prev.low := of_decide_eq_true lower
  constructor
  · exact below
  · show curr.low < curr.low + (prev.low - curr.low) / 3
    linarith
  · show curr.low + (prev.low - curr.low) / 3 < prev.low
    linarith
  · exact sound
  · exact sound

theorem bearRule_geometry (sound : prev.low ≤ prev.high)
    (lower : bearRule.setup prev curr = true) : SpotGeometry (bearRule.make prev curr) := by
  constructor
  · exact of_decide_eq_true lower
  · exact fun _ => sound
  · intro bull
    cases bull

theorem bullRule_geometry (sound : prev.low ≤ prev.high)
    (higher : bullRule.setup prev curr = true) : SpotGeometry (bullRule.make prev curr) := by
  constructor
  · exact of_decide_eq_true higher
  · intro bear
    cases bear
  · exact fun _ => sound

end Geometry

/-- Every zone of `scan_htf` and `scan_htf_spot` lies on the outer side of its stop, and
the rows of their tables are those of the zones that were ever trapped. -/
theorem scans_consistent (bars : List Bar) (sound : ∀ bar ∈ bars, bar.low ≤ bar.high) :
    (∀ entry ∈ (scanHtf bars).2, HtfGeometry entry.toSetup) ∧
      (∀ entry ∈ (scanHtfSpot bars).2, SpotGeometry entry.toSetup) ∧
      TableOf (scanHtf bars).2 (scanHtf bars).1 ∧
      TableOf (scanHtfSpot bars).2 (scanHtfSpot bars).1 := by
  refine ⟨?_, ?_, scanBars_table htfRule bars, spotBars_table bars⟩
  · intro entry member
    apply entry_setup (scanBars_zones htfRule bars) _ member
    intro prev inside curr lower
    exact htfRule_geometry (sound prev inside) lower
  · intro entry member
    obtain ⟨bears, bulls⟩ := spotBars_zones bars
    rcases List.mem_append.mp member with bear | bull
    · apply entry_setup bears _ bear
      intro prev inside curr lower
      exact bearRule_geometry (sound prev inside) lower
    · apply entry_setup bulls _ bull
      intro prev inside curr higher
      exact bullRule_geometry (sound prev inside) higher

/-- A bear that is trapped and closed, while a bull is trapped. -/
theorem scans_consistent_on_four_bars :
    TableOf (scanHtfSpot [⟨0, 10, 8, 9⟩, ⟨1, 9, 7, 8⟩, ⟨2, 11, 9, 10⟩, ⟨3, 10, 6, 9⟩]).2
      (scanHtfSpot [⟨0, 10, 8, 9⟩, ⟨1, 9, 7, 8⟩, ⟨2, 11, 9, 10⟩, ⟨3, 10, 6, 9⟩]).1 :=
  (scans_consistent _ (by decide)).2.2.2

end OptionChain.TrapTables
