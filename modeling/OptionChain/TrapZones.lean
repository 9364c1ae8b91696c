import Mathlib.Data.List.GetD
import Mathlib.Data.List.Induction
import OptionChain.TrapScanner

/-!
# The zones a scan holds

The event rows never influence a zone, so every scan is a list of independent
lives: one zone for each index whose bar makes a setup, advanced by each later
bar in turn. `zonesOf` is that list. Each scan of the source is shown to hold it,
whatever rows it writes, by induction on the frame from its last bar.
-/

namespace OptionChain.TrapZones

open TrapScanner

/-- `df.iloc[i]`. -/
def barAt (bars : List Bar) (index : Nat) : Bar := bars.getD index default

@[simp] theorem barAt_append {early : List Bar} {index : Nat} (late : List Bar)
    (inside : index < early.length) : barAt (early ++ late) index = barAt early index :=
  List.getD_append _ _ _ _ inside

@[simp] theorem barAt_end (early : List Bar) (b : Bar) : barAt (early ++ [b]) early.length = b := by
  simp [barAt]

theorem getElem?_barAt {bars : List Bar} {index : Nat} (inside : index < bars.length) :
    bars[index]? = some (barAt bars index) := by
  simp [barAt, inside]

/-- The loop over consecutive pairs handles a further bar last, together with
the bar before it. -/
theorem overPairs_snoc {σ : Type} (body : Bar → Bar → σ → σ) (state : σ) (bars : List Bar)
    (b : Bar) (nonempty : bars ≠ []) :
    overPairs body state (bars ++ [b]) =
      body (barAt bars (bars.length - 1)) b (overPairs body state bars) := by
  induction bars generalizing state with
  | nil => exact (nonempty rfl).elim
  | cons prev rest inductionHypothesis =>
    cases rest with
    | nil => rfl
    | cons curr rest =>
      have later := inductionHypothesis (body prev curr state) (by simp)
      simpa [overPairs, barAt] using later

section Rule

variable {τ ρ : Type} (rule : TrapRule τ ρ)

/-- A zone shown some bars in order. -/
def follow (bars : List Bar) (zone : Zone τ) : Zone τ :=
  bars.foldl (fun zone bar => advance rule bar zone) zone

@[simp] theorem follow_nil (zone : Zone τ) : follow rule [] zone = zone := rfl

@[simp] theorem follow_snoc (bars : List Bar) (b : Bar) (zone : Zone τ) :
    follow rule (bars ++ [b]) zone = advance rule b (follow rule bars zone) := by
  simp [follow]

theorem follow_append (early late : List Bar) (zone : Zone τ) :
    follow rule (early ++ late) zone = follow rule late (follow rule early zone) :=
  List.foldl_append

/-- The setup that a bar and the one before it make. -/
def setupAt (bars : List Bar) (index : Nat) : Setup τ :=
  rule.make (barAt bars (index - 1)) (barAt bars index)

/-- The indices whose bar makes a setup, in order. -/
def setups (bars : List Bar) : List Nat :=
  (List.range bars.length).filter (fun index =>
    decide (0 < index) && rule.setup (barAt bars (index - 1)) (barAt bars index))

/-- The zone opened at an index, after every later bar. -/
def zoneFrom (bars : List Bar) (index : Nat) : Zone τ :=
  follow rule (bars.drop (index + 1)) (fresh (setupAt rule bars index))

/-- One life for each setup. -/
def zonesOf (bars : List Bar) : List (Zone τ) := (setups rule bars).map (zoneFrom rule bars)

theorem mem_setups {bars : List Bar} {index : Nat} :
    index ∈ setups rule bars ↔ 0 < index ∧ index < bars.length ∧
      rule.setup (barAt bars (index - 1)) (barAt bars index) = true := by
  simp only [setups, List.mem_filter, List.mem_range, Bool.and_eq_true, decide_eq_true_eq]
  constructor
  · rintro ⟨inside, positive, makes⟩
    exact ⟨positive, inside, makes⟩
  · rintro ⟨positive, inside, makes⟩
    exact ⟨inside, positive, makes⟩

/-- A longer frame keeps the setup at every index it had. -/
theorem setupAt_append {early : List Bar} (late : List Bar) {index : Nat}
    (inside : index < early.length) :
    setupAt rule (early ++ late) index = setupAt rule early index := by
  have before : index - 1 < early.length := by omega
  rw [setupAt, barAt_append late inside, barAt_append late before, setupAt]

/-- A longer frame shows the zone of an old index the new bars, after the old ones. -/
theorem zoneFrom_append {early : List Bar} (late : List Bar) {index : Nat}
    (inside : index < early.length) :
    zoneFrom rule (early ++ late) index = follow rule late (zoneFrom rule early index) := by
  rw [zoneFrom, setupAt_append rule late inside, List.drop_append_of_le_length (by omega),
    follow_append, zoneFrom]

/-- The zones of a frame are those of its neighbours that make a setup. -/
theorem mem_zonesOf {bars : List Bar} {zone : Zone τ} :
    zone ∈ zonesOf rule bars ↔ ∃ early prev curr late, bars = early ++ prev :: curr :: late ∧
      rule.setup prev curr = true ∧ zone = follow rule late (fresh (rule.make prev curr)) := by
  constructor
  · intro listed
    obtain ⟨index, found, life⟩ := List.mem_map.mp listed
    obtain ⟨positive, inside, makes⟩ := (mem_setups rule).mp found
    obtain ⟨before, rfl⟩ : ∃ before, index = before + 1 := ⟨index - 1, by omega⟩
    refine ⟨bars.take before, barAt bars before, barAt bars (before + 1),
      bars.drop (before + 2), ?_, makes, life.symm⟩
    have prev : bars[before] = barAt bars before := by simp [barAt, Nat.lt_of_succ_lt inside]
    have curr : bars[before + 1] = barAt bars (before + 1) := by simp [barAt, inside]
    calc bars = bars.take before ++ bars.drop before := (List.take_append_drop _ _).symm
      _ = _ := by
        rw [List.drop_eq_getElem_cons (by omega), List.drop_eq_getElem_cons inside, prev, curr]
  · rintro ⟨early, prev, curr, late, rfl, makes, rfl⟩
    apply List.mem_map.mpr
    have first : barAt (early ++ prev :: curr :: late) early.length = prev := by simp [barAt]
    have second : barAt (early ++ prev :: curr :: late) (early.length + 1) = curr := by
      simp [barAt]
    have rest : (early ++ prev :: curr :: late).drop (early.length + 1 + 1) = late :=
      List.drop_length_add_append 2
    refine ⟨early.length + 1, (mem_setups rule).mpr ⟨by omega, by simp, ?_⟩, ?_⟩
    · rw [Nat.add_sub_cancel, first, second]
      exact makes
    · rw [zoneFrom, setupAt, Nat.add_sub_cancel, first, second, rest]

/-- The zone a bar opens, if it makes a setup. -/
def born (prev curr : Bar) : List (Zone τ) :=
  if rule.setup prev curr then [fresh (rule.make prev curr)] else []

/-- The setups of a frame with one more bar. -/
theorem setups_snoc (bars : List Bar) (b : Bar) :
    setups rule (bars ++ [b]) = setups rule bars ++
      (if decide (0 < bars.length) && rule.setup (barAt bars (bars.length - 1)) b
        then [bars.length] else []) := by
  have same : ∀ index ∈ List.range bars.length,
      (decide (0 < index) &&
        rule.setup (barAt (bars ++ [b]) (index - 1)) (barAt (bars ++ [b]) index)) =
      (decide (0 < index) && rule.setup (barAt bars (index - 1)) (barAt bars index)) := by
    intro index inside
    have bound : index < bars.length := List.mem_range.mp inside
    have before : index - 1 < bars.length := by omega
    rw [barAt_append [b] bound, barAt_append [b] before]
  rw [setups, List.length_append, List.length_singleton, List.range_succ, List.filter_append,
    List.filter_congr same]
  cases bars with
  | nil => rfl
  | cons first rest =>
    have before : (first :: rest).length - 1 < (first :: rest).length := by simp
    rw [List.filter_singleton, barAt_end, barAt_append [b] before, cond_eq_ite]
    rfl

/-- One more bar advances every life and may start another. -/
theorem zonesOf_snoc (bars : List Bar) (b : Bar) (nonempty : bars ≠ []) :
    zonesOf rule (bars ++ [b]) =
      (zonesOf rule bars).map (advance rule b) ++
        born rule (barAt bars (bars.length - 1)) b := by
  have positive : 0 < bars.length := List.length_pos_iff.mpr nonempty
  have old : (setups rule bars).map (zoneFrom rule (bars ++ [b])) =
      (zonesOf rule bars).map (advance rule b) := by
    rw [zonesOf, List.map_map]
    apply List.map_congr_left
    intro index found
    have inside : index < bars.length := ((mem_setups rule).mp found).2.1
    rw [zoneFrom_append rule [b] inside]
    rfl
  have started : zoneFrom rule (bars ++ [b]) bars.length =
      fresh (rule.make (barAt bars (bars.length - 1)) b) := by
    have before : bars.length - 1 < bars.length := by omega
    rw [zoneFrom, setupAt, barAt_end, barAt_append [b] before, List.drop_of_length_le (by simp)]
    rfl
  rw [zonesOf, setups_snoc, List.map_append, old, born]
  cases makes : rule.setup (barAt bars (bars.length - 1)) b with
  | false => simp
  | true => simp [positive, started]

/-- A longer frame follows the zones of the shorter one and adds others behind them. -/
theorem zonesOf_append (early late : List Bar) :
    ∃ further, zonesOf rule (early ++ late) =
      (zonesOf rule early).map (follow rule late) ++ further := by
  cases early with
  | nil => exact ⟨_, rfl⟩
  | cons first rest =>
    induction late using List.reverseRecOn with
    | nil =>
      have same : follow rule [] = id := funext (follow_nil rule)
      exact ⟨[], by simp [same]⟩
    | append_singleton late b inductionHypothesis =>
      obtain ⟨further, same⟩ := inductionHypothesis
      rw [← List.append_assoc, zonesOf_snoc rule _ b (by simp), same, List.map_append,
        List.map_map, List.append_assoc]
      refine ⟨_, congrArg (· ++ _) (List.map_congr_left ?_)⟩
      intro zone _
      rw [follow_snoc]
      rfl

@[simp] theorem visit_zone (curr : Bar) (entry : Entry τ) (events : List (EventRow ρ)) :
    (visit rule curr entry events).1.toZone = advance rule curr entry.toZone := rfl

/-- `for e in entries` advances every zone, in place. -/
theorem visitAll_zones (curr : Bar) (entries : List (Entry τ)) (events : List (EventRow ρ)) :
    (visitAll rule curr entries events).1.map Entry.toZone =
      (entries.map Entry.toZone).map (advance rule curr) := by
  induction entries generalizing events with
  | nil => rfl
  | cons entry rest inductionHypothesis =>
    simp only [visitAll, List.map_cons, visit_zone, inductionHypothesis]

theorem opens_zones (prev curr : Bar) :
    (opens rule prev curr).map Entry.toZone = born rule prev curr := by
  unfold opens born
  split <;> rfl

/-- One body of the outer loop on the zones of one family, whatever table the
entries were visited with. -/
theorem body_zones {bars : List Bar} (b : Bar) (nonempty : bars ≠ []) {entries : List (Entry τ)}
    (events : List (EventRow ρ)) (before : entries.map Entry.toZone = zonesOf rule bars) :
    ((visitAll rule b entries events).1 ++ opens rule (barAt bars (bars.length - 1)) b).map
      Entry.toZone = zonesOf rule (bars ++ [b]) := by
  rw [List.map_append, visitAll_zones, opens_zones, before, zonesOf_snoc rule bars b nonempty]

/-- A frame of one bar has no setup. -/
theorem zonesOf_singleton (b : Bar) : zonesOf rule [b] = [] := by
  simp [zonesOf, setups, List.range_succ]

/-- A frame too short for a pass has none either. -/
theorem zonesOf_short {bars : List Bar} (short : bars.length < 2) : zonesOf rule bars = [] := by
  match bars, short with
  | [], _ => rfl
  | [b], _ => exact zonesOf_singleton rule b

/-- The zones of a whole pass with one family. -/
theorem scanBars_zones (bars : List Bar) :
    (scanBars rule bars).entries.map Entry.toZone = zonesOf rule bars := by
  induction bars using List.reverseRecOn with
  | nil => rfl
  | append_singleton bars b inductionHypothesis =>
    by_cases empty : bars = []
    · subst empty
      rw [List.nil_append, zonesOf_singleton]
      rfl
    · rw [scanBars, overPairs_snoc _ _ bars b empty]
      exact body_zones rule b empty _ inductionHypothesis

end Rule

/-- The zones of both families of a spot pass. -/
theorem spotBars_zones (bars : List Bar) :
    (spotBars bars).bearEntries.map Entry.toZone = zonesOf bearRule bars ∧
      (spotBars bars).bullEntries.map Entry.toZone = zonesOf bullRule bars := by
  induction bars using List.reverseRecOn with
  | nil => exact ⟨rfl, rfl⟩
  | append_singleton bars b inductionHypothesis =>
    obtain ⟨bears, bulls⟩ := inductionHypothesis
    by_cases empty : bars = []
    · subst empty
      rw [List.nil_append, zonesOf_singleton, zonesOf_singleton]
      exact ⟨rfl, rfl⟩
    · rw [spotBars, overPairs_snoc _ _ bars b empty]
      constructor
      · exact body_zones bearRule b empty _ bears
      · exact body_zones bullRule b empty _ bulls

end OptionChain.TrapZones
