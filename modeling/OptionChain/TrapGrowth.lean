import OptionChain.TrapLife

/-!
# Scans of growing frames

A live engine scans a frame again whenever bars were added to it. The zones of
the shorter frame come back first and in the same order: each is its former self
shown the new bars, and a bar can only move a zone forward.
-/

namespace OptionChain.TrapGrowth

open TrapScanner TrapZones

/-- ACTIVE, then TRAPPED, then CLOSED. -/
def rank : Status → Nat
  | .active => 0
  | .trapped => 1
  | .closed => 2

/-- The later zone is the earlier one further in its life. -/
structure Advances {τ : Type} (early late : Zone τ) : Prop where
  identity : late.toSetup = early.toSetup
  forward : rank early.status ≤ rank late.status
  trapKept : early.status ≠ .active → late.trappedOn = early.trappedOn
  closeKept : early.status = .closed → late.closedOn = early.closedOn

/-- The entries of the later scan begin with those of the earlier one, advanced. -/
def NoRepaint {τ : Type} (early late : List (Entry τ)) : Prop :=
  ∃ kept further, late = kept ++ further ∧
    List.Forall₂ (fun e l => Advances e.toZone l.toZone) early kept

theorem advances_refl {τ : Type} (zone : Zone τ) : Advances zone zone :=
  ⟨rfl, Nat.le_refl _, fun _ => rfl, fun _ => rfl⟩

/-- A zone that left a status keeps what it fixed there. -/
theorem advances_trans {τ : Type} {early middle late : Zone τ} (first : Advances early middle)
    (second : Advances middle late) : Advances early late := by
  constructor
  · rw [second.identity, first.identity]
  · exact Nat.le_trans first.forward second.forward
  · intro left
    have moved : middle.status ≠ .active := by
      intro back
      have ranks := first.forward
      rw [back] at ranks
      cases status : early.status <;> simp [status, rank] at left ranks
    rw [second.trapKept moved, first.trapKept left]
  · intro closed
    have ranks := first.forward
    have ended : middle.status = .closed := by
      cases status : middle.status <;> simp [closed, status, rank] at ranks ⊢
    rw [second.closeKept ended, first.closeKept closed]

section Rule

variable {τ ρ : Type} (rule : TrapRule τ ρ)

/-- The trap test only moves ACTIVE zones. -/
theorem trap_advances (curr : Bar) (zone : Zone τ) : Advances zone (trap rule curr zone) := by
  by_cases fired : fires rule curr zone = true
  · have active : zone.status = .active := by
      simp only [fires, Bool.and_eq_true, decide_eq_true_eq] at fired
      exact fired.1
    rw [trap, if_pos fired]
    constructor
    · rfl
    · simp [active, rank]
    · intro left
      exact (left active).elim
    · intro closed
      simp [active] at closed
  · rw [trap, if_neg fired]
    exact advances_refl zone

/-- The return test only moves TRAPPED zones and leaves the trap time alone. -/
theorem finish_advances (curr : Bar) (zone : Zone τ) : Advances zone (finish rule curr zone) := by
  by_cases ended : ends rule curr zone = true
  · have trapped : zone.status = .trapped := by
      simp only [ends, Bool.and_eq_true, decide_eq_true_eq] at ended
      exact ended.1.1
    rw [finish, if_pos ended]
    constructor
    · rfl
    · simp [trapped, rank]
    · intro _
      rfl
    · intro closed
      simp [trapped] at closed
  · rw [finish, if_neg ended]
    exact advances_refl zone

theorem advance_advances (curr : Bar) (zone : Zone τ) : Advances zone (advance rule curr zone) :=
  advances_trans (trap_advances rule curr zone) (finish_advances rule curr _)

/-- Further bars only advance a zone. -/
theorem follow_advances (late : List Bar) (zone : Zone τ) :
    Advances zone (follow rule late zone) := by
  induction late generalizing zone with
  | nil => exact advances_refl zone
  | cons b rest inductionHypothesis =>
    exact advances_trans (advance_advances rule b zone) (inductionHypothesis _)

/-- The setup of a life is the one it started with. -/
theorem follow_setup (late : List Bar) (setup : Setup τ) :
    (follow rule late (fresh setup)).toSetup = setup :=
  (follow_advances rule late (fresh setup)).identity

/-- A zone has the prices of a setup of its frame. -/
theorem setup_of_zonesOf {bars : List Bar} {zone : Zone τ} (listed : zone ∈ zonesOf rule bars) :
    ∃ prev ∈ bars, ∃ curr, rule.setup prev curr = true ∧ zone.toSetup = rule.make prev curr := by
  obtain ⟨early, prev, curr, late, rfl, makes, rfl⟩ := (mem_zonesOf rule).mp listed
  exact ⟨prev, by simp, curr, makes, follow_setup rule late _⟩

/-- Two scans with one rule, of a frame and of its extension, do not repaint. -/
theorem noRepaint_of_zones (early late : List Bar) {short long : List (Entry τ)}
    (shortZones : short.map Entry.toZone = zonesOf rule early)
    (longZones : long.map Entry.toZone = zonesOf rule (early ++ late)) : NoRepaint short long := by
  obtain ⟨further, grown⟩ := zonesOf_append rule early late
  rw [grown, ← shortZones] at longZones
  obtain ⟨kept, others, split, keptZones, _⟩ := List.map_eq_append_iff.mp longZones
  refine ⟨kept, others, split, ?_⟩
  rw [← List.forall₂_map_right_iff, keptZones, List.map_map, List.forall₂_map_right_iff,
    List.forall₂_same]
  intro entry _
  exact follow_advances rule late entry.toZone

end Rule

/-- The entries of one kind. -/
def ofKind (kind : Kind) (entries : List (Entry SpotTag)) : List (Entry SpotTag) :=
  entries.filter (fun e => decide (e.tag.kind = kind))

/-- A life never changes its tag. -/
theorem tag_of_zones (rule : TrapRule SpotTag SpotTag) {tag : SpotTag}
    (tagged : ∀ prev curr, (rule.make prev curr).tag = tag) {bars : List Bar}
    {entries : List (Entry SpotTag)} (zones : entries.map Entry.toZone = zonesOf rule bars)
    {entry : Entry SpotTag} (found : entry ∈ entries) : entry.tag = tag := by
  have listed : entry.toZone ∈ zonesOf rule bars := zones ▸ List.mem_map_of_mem found
  obtain ⟨prev, _, curr, _, same⟩ := setup_of_zonesOf rule listed
  rw [same]
  exact tagged prev curr

/-- The kinds of a spot scan are its two families. -/
theorem scanHtfSpot_kinds (bars : List Bar) :
    ofKind .bear (scanHtfSpot bars).2 = (spotBars bars).bearEntries ∧
      ofKind .bull (scanHtfSpot bars).2 = (spotBars bars).bullEntries := by
  obtain ⟨bears, bulls⟩ := spotBars_zones bars
  have bearTags : ∀ e ∈ (spotBars bars).bearEntries, e.tag = ⟨.bear, .bullish⟩ := by
    intro e found
    exact tag_of_zones bearRule (fun _ _ => rfl) bears found
  have bullTags : ∀ e ∈ (spotBars bars).bullEntries, e.tag = ⟨.bull, .bearish⟩ := by
    intro e found
    exact tag_of_zones bullRule (fun _ _ => rfl) bulls found
  constructor
  · rw [ofKind, scanHtfSpot, List.filter_append, List.filter_eq_self.mpr,
      List.filter_eq_nil_iff.mpr, List.append_nil]
    · intro e found
      simp [bullTags e found]
    · intro e found
      simp [bearTags e found]
  · rw [ofKind, scanHtfSpot, List.filter_append, List.filter_eq_nil_iff.mpr,
      List.filter_eq_self.mpr, List.nil_append]
    · intro e found
      simp [bullTags e found]
    · intro e found
      simp [bearTags e found]

/-- No scan repaints: on an extended frame `scan_htf`, and each kind of
`scan_htf_spot`, returns its former entries advanced, and new ones behind them. -/
theorem scans_never_repaint (bars later : List Bar) :
    NoRepaint (scanHtf bars).2 (scanHtf (bars ++ later)).2 ∧
      ∀ kind, NoRepaint (ofKind kind (scanHtfSpot bars).2)
        (ofKind kind (scanHtfSpot (bars ++ later)).2) := by
  constructor
  · exact noRepaint_of_zones htfRule bars later (scanBars_zones htfRule bars)
      (scanBars_zones htfRule (bars ++ later))
  · intro kind
    obtain ⟨bears, bulls⟩ := spotBars_zones bars
    obtain ⟨laterBears, laterBulls⟩ := spotBars_zones (bars ++ later)
    cases kind with
    | bear =>
      rw [(scanHtfSpot_kinds bars).1, (scanHtfSpot_kinds (bars ++ later)).1]
      exact noRepaint_of_zones bearRule bars later bears laterBears
    | bull =>
      rw [(scanHtfSpot_kinds bars).2, (scanHtfSpot_kinds (bars ++ later)).2]
      exact noRepaint_of_zones bullRule bars later bulls laterBulls

end OptionChain.TrapGrowth
