import Mathlib.Data.List.Forall2
import OptionChain.FirstCrossing
import OptionChain.TrapZones

/-!
# The declarative life of a zone

A zone of a scan is a two-stage watch over the bars after its setup: first for
the trap, then for the return. The scans tell the trap bar from later bars by its
timestamp, so with distinct timestamps a rule that excludes the trap bar is the
watch that resumes strictly after it; a rule without the exclusion is the
immediate watch.

`scan_htf_exact` unfolds that to the nested first-crossing search.
-/

namespace OptionChain.TrapLife

open FirstCrossing TrapScanner TrapZones

/-- The zone of a setup at a stage of its watch. -/
def zoneAt {τ : Type} (setup : Setup τ) : Stage Bar → Zone τ
  | .waiting => fresh setup
  | .crossed first =>
      { setup with status := .trapped, trappedOn := some first.datetime, closedOn := none }
  | .returned first second =>
      { setup with
        status := .closed
        trappedOn := some first.datetime
        closedOn := some second.datetime }

section Rule

variable {τ ρ : Type} (rule : TrapRule τ ρ)

/-- The watch over the bars after a setup. -/
def watch (setup : Setup τ) : Stage Bar → Bar → Stage Bar :=
  next (!rule.excludesTrapBar) (fun b => rule.traps b setup) (fun b => rule.returns b setup)

/-- The loop body is one look of the watch, as long as no later bar repeats the
timestamp of the trap bar. -/
theorem advance_zoneAt (setup : Setup τ) (stage : Stage Bar) (b : Bar)
    (apart : rule.excludesTrapBar = true → ∀ first, stage = .crossed first →
      first.datetime ≠ b.datetime) :
    advance rule b (zoneAt setup stage) = zoneAt setup (watch rule setup stage b) := by
  cases stage with
  | waiting =>
    cases breaks : rule.traps b setup with
    | false => simp [advance, trap, finish, fires, ends, zoneAt, fresh, watch, next, breaks]
    | true =>
      cases excludes : rule.excludesTrapBar <;> cases back : rule.returns b setup <;>
        simp [advance, trap, finish, fires, ends, zoneAt, fresh, watch, next, breaks, excludes,
          back]
  | crossed first =>
    cases back : rule.returns b setup with
    | false => simp [advance, trap, finish, fires, ends, zoneAt, watch, next, back]
    | true =>
      cases excludes : rule.excludesTrapBar with
      | false => simp [advance, trap, finish, fires, ends, zoneAt, watch, next, back, excludes]
      | true =>
        have different : first.datetime ≠ b.datetime := apart excludes first rfl
        simp [advance, trap, finish, fires, ends, zoneAt, watch, next, back, different]
  | returned first second => simp [advance, trap, finish, fires, ends, zoneAt, watch, next]

/-- A zone shown bars with distinct timestamps is the watch shown the same bars. -/
theorem follow_zoneAt (setup : Setup τ) (late : List Bar)
    (distinct : (late.map Bar.datetime).Nodup) :
    follow rule late (fresh setup) = zoneAt setup (late.foldl (watch rule setup) .waiting) := by
  induction late using List.reverseRecOn with
  | nil => rfl
  | append_singleton late b inductionHypothesis =>
    rw [List.map_append, List.nodup_append] at distinct
    obtain ⟨earlier, _, apart⟩ := distinct
    rw [follow_snoc, inductionHypothesis earlier, List.foldl_append]
    apply advance_zoneAt
    intro _ first crossed
    have shown : first ∈ late := crossed_mem _ _ _ late crossed
    exact apart first.datetime (List.mem_map_of_mem shown) b.datetime (by simp)

/-- The zone opened at an index has the two-stage history of the whole frame. -/
theorem zoneFrom_history {bars : List Bar} (distinct : (bars.map Bar.datetime).Nodup)
    {index : Nat} (inside : index < bars.length) :
    ∃ stage, zoneFrom rule bars index = zoneAt (setupAt rule bars index) stage ∧
      History (!rule.excludesTrapBar) bars index
        (fun b => rule.traps b (setupAt rule bars index))
        (fun b => rule.returns b (setupAt rule bars index)) stage := by
  have later : ((bars.drop (index + 1)).map Bar.datetime).Nodup := by
    rw [List.map_drop]
    exact distinct.sublist (List.drop_sublist _ _)
  have opened : (bars.take (index + 1)).length = index + 1 := by
    rw [List.length_take]
    omega
  refine ⟨_, follow_zoneAt rule _ _ later, ?_⟩
  have exact := watch_exact (!rule.excludesTrapBar)
    (fun b => rule.traps b (setupAt rule bars index))
    (fun b => rule.returns b (setupAt rule bars index))
    (bars.take (index + 1)) index opened (bars.drop (index + 1))
  rwa [List.take_append_drop] at exact

end Rule

/-- A property of every zone and its index may be checked setup by setup. -/
theorem forall₂_zones_iff {τ : Type} {holds : Nat → Zone τ → Prop} {indices : List Nat}
    {entries : List (Entry τ)} {zone : Nat → Zone τ}
    (zones : entries.map Entry.toZone = indices.map zone) :
    List.Forall₂ (fun index entry => holds index entry.toZone) indices entries ↔
      ∀ index ∈ indices, holds index (zone index) := by
  rw [← List.forall₂_map_right_iff, zones, List.forall₂_map_right_iff, List.forall₂_same]

/-- The indices whose low undercuts the bar before. -/
def lowerLows (bars : List Bar) : List Nat :=
  (List.range bars.length).filter (fun i =>
    decide (0 < i) && decide ((barAt bars i).low < (barAt bars (i - 1)).low))

/-- The trap relation of a setup at index `i`: the first later bar above the high
of bar `i - 1`, and the first bar after that one back at or below its low. -/
structure TrapRelation (bars : List Bar) (i : Nat) (zone : Zone Trigger) : Prop where
  refTs : zone.refTs = (barAt bars (i - 1)).datetime
  entryLevel : zone.entry = (barAt bars (i - 1)).low
  stop : zone.sl = (barAt bars (i - 1)).high
  zoneHigh : zone.zoneHigh = (barAt bars (i - 1)).low
  zoneLow : zone.zoneLow = (barAt bars i).low
  active : Never bars i (fun b => b.high > (barAt bars (i - 1)).high) →
    zone.status = .active ∧ zone.trappedOn = none ∧ zone.closedOn = none
  trapped : ∀ j, First bars i (fun b => b.high > (barAt bars (i - 1)).high) j →
    Never bars j (fun b => b.low ≤ (barAt bars (i - 1)).low) →
    zone.status = .trapped ∧ zone.trappedOn = some (barAt bars j).datetime ∧
      zone.closedOn = none
  closed : ∀ j k, First bars i (fun b => b.high > (barAt bars (i - 1)).high) j →
    First bars j (fun b => b.low ≤ (barAt bars (i - 1)).low) k →
    zone.status = .closed ∧ zone.trappedOn = some (barAt bars j).datetime ∧
      zone.closedOn = some (barAt bars k).datetime

/-- An element found at a position is the bar there. -/
theorem barAt_of_getElem? {bars : List Bar} {index : Nat} {b : Bar}
    (found : bars[index]? = some b) : barAt bars index = b := by
  simp [barAt, found]

/-- A zone with the history of its frame stands in the trap relation. -/
theorem trapRelation_zoneFrom {bars : List Bar} (distinct : (bars.map Bar.datetime).Nodup)
    {i : Nat} (inside : i < bars.length) : TrapRelation bars i (zoneFrom htfRule bars i) := by
  obtain ⟨stage, same, history⟩ := zoneFrom_history htfRule distinct inside
  rw [same]
  have setup : (zoneAt (setupAt htfRule bars i) stage).toSetup = setupAt htfRule bars i := by
    cases stage <;> rfl
  constructor
  case refTs => rw [setup]; rfl
  case entryLevel => rw [setup]; rfl
  case stop => rw [setup]; rfl
  case zoneHigh => rw [setup]; rfl
  case zoneLow => rw [setup]; rfl
  case active =>
    intro never
    have waiting : stage = .waiting := history_never history never
    subst waiting
    exact ⟨rfl, rfl, rfl⟩
  case trapped =>
    intro j first never
    obtain ⟨b, found, crossed⟩ := history_crossed history first never
    subst crossed
    rw [barAt_of_getElem? found]
    exact ⟨rfl, rfl, rfl⟩
  case closed =>
    intro j k first second
    obtain ⟨b, c, found, back, returned⟩ := history_returned history first second
    subst returned
    rw [barAt_of_getElem? found, barAt_of_getElem? back]
    exact ⟨rfl, rfl, rfl⟩

/-- `scan_htf` computes the trap relation: one entry for each lower low, in order,
with the status and the timestamps of the nested search. -/
theorem scan_htf_exact (bars : List Bar) (distinct : (bars.map Bar.datetime).Nodup) :
    List.Forall₂ (fun i entry => TrapRelation bars i entry.toZone) (lowerLows bars)
      (scanHtf bars).2 := by
  have zones : (scanHtf bars).2.map Entry.toZone =
      (lowerLows bars).map (zoneFrom htfRule bars) := scanBars_zones htfRule bars
  rw [forall₂_zones_iff zones]
  intro i found
  have inside : i < bars.length := ((mem_setups htfRule).mp found).2.1
  exact trapRelation_zoneFrom distinct inside

/-- A setup, its trap two bars later and the return after that. -/
theorem scan_htf_exact_on_a_closed_zone :
    List.Forall₂
      (fun i entry => TrapRelation [⟨0, 10, 8, 9⟩, ⟨1, 9, 7, 8⟩, ⟨2, 11, 9, 10⟩, ⟨3, 10, 8, 9⟩]
        i entry.toZone)
      (lowerLows [⟨0, 10, 8, 9⟩, ⟨1, 9, 7, 8⟩, ⟨2, 11, 9, 10⟩, ⟨3, 10, 8, 9⟩])
      (scanHtf [⟨0, 10, 8, 9⟩, ⟨1, 9, 7, 8⟩, ⟨2, 11, 9, 10⟩, ⟨3, 10, 8, 9⟩]).2 :=
  scan_htf_exact _ (by decide)

end OptionChain.TrapLife
