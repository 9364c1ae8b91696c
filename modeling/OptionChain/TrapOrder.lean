import OptionChain.TrapLife

/-!
# The order of a zone's life

The reference bar, the setup bar, the trap and the return of a zone follow each
other in time. Two of the three loops exclude the bar that fired the trap from
the return test; `scan_ltf_bull` does not, so there one wide bar can trap a zone
and close it. `zone_ordered_iff` says for any loop when a zone keeps the order,
and the main result says it for the three scans together, on the bars they read.
-/

namespace OptionChain.TrapOrder

open FirstCrossing TrapScanner TrapZones TrapLife

/-- Strictly increasing timestamps. -/
def Increasing (bars : List Bar) : Prop := bars.Pairwise (fun a b => a.datetime < b.datetime)

/-- Whether the timestamps increase can be computed. -/
instance increasingDecidable (bars : List Bar) : Decidable (Increasing bars) :=
  inferInstanceAs (Decidable (bars.Pairwise (fun a b => a.datetime < b.datetime)))

/-- The order of the four moments, as far as a zone has come. -/
structure OrderedAt {τ : Type} (bars : List Bar) (index : Nat) (zone : Zone τ) : Prop where
  trapped : zone.status ≠ .active → ∃ trappedOn, zone.trappedOn = some trappedOn ∧
    zone.refTs < (barAt bars index).datetime ∧ (barAt bars index).datetime < trappedOn
  closed : zone.status = .closed → ∃ trappedOn closedOn, zone.trappedOn = some trappedOn ∧
    zone.closedOn = some closedOn ∧ trappedOn < closedOn

/-- Every entry of a scan keeps the order, at the index of its setup. -/
def LivesOrdered {τ : Type} (bars : List Bar) (indices : List Nat)
    (entries : List (Entry τ)) : Prop :=
  List.Forall₂ (fun index entry => OrderedAt bars index entry.toZone) indices entries

theorem increasing_barAt {bars : List Bar} (increasing : Increasing bars) {early late : Nat}
    (before : early < late) (inside : late < bars.length) :
    (barAt bars early).datetime < (barAt bars late).datetime := by
  have earlyInside : early < bars.length := by omega
  have ordered := List.pairwise_iff_getElem.mp increasing early late earlyInside inside before
  simpa [barAt, earlyInside, inside] using ordered

theorem increasing_distinct {bars : List Bar} (increasing : Increasing bars) :
    (bars.map Bar.datetime).Nodup := by
  rw [List.nodup_iff_pairwise_ne, List.pairwise_map]
  apply List.Pairwise.imp _ increasing
  intro a b before
  exact Int.ne_of_lt before

/-- The scans read part of a frame, which is then increasing as well. -/
theorem increasing_filter {bars : List Bar} (increasing : Increasing bars) (keep : Bar → Bool) :
    Increasing (bars.filter keep) :=
  List.Pairwise.filter keep increasing

section Rule

variable {τ ρ : Type} (rule : TrapRule τ ρ)

/-- The bar that fires the trap of a setup passes its return test. -/
def TrapReturns (bars : List Bar) (index : Nat) : Prop :=
  ∃ j, First bars index (fun b => rule.traps b (setupAt rule bars index)) j ∧
    rule.returns (barAt bars j) (setupAt rule bars index) = true

/-- A returning trap bar is the first return an immediate watch finds. -/
theorem returns_at_once {bars : List Bar} {index j : Nat}
    (first : First bars index (fun b => rule.traps b (setupAt rule bars index)) j)
    (back : rule.returns (barAt bars j) (setupAt rule bars index) = true) :
    First bars (resumes true j) (fun b => rule.returns b (setupAt rule bars index)) j := by
  have later : index < j := first.1.1
  have inside : j < bars.length := crossings_bound first.1
  constructor
  · refine ⟨?_, barAt bars j, getElem?_barAt inside, back⟩
    simp only [resumes, if_true]
    omega
  · intro other crossing
    have after : j - 1 < other := crossing.1
    omega

/-- A return comes after its trap unless the trap bar itself may return, and does. -/
theorem return_after_trap {bars : List Bar} {index j k : Nat}
    (excluded : rule.excludesTrapBar = true ∨ ¬ TrapReturns rule bars index)
    (first : First bars index (fun b => rule.traps b (setupAt rule bars index)) j)
    (second : First bars (resumes (!rule.excludesTrapBar) j)
      (fun b => rule.returns b (setupAt rule bars index)) k) : j < k := by
  have resumed : resumes (!rule.excludesTrapBar) j < k := second.1.1
  rcases excluded with excludes | apart
  · simpa [resumes, excludes] using resumed
  · apply Nat.lt_of_le_of_ne (Nat.le_trans (le_resumes _ j) resumed)
    rintro rfl
    apply apart
    obtain ⟨d, atEnd, back⟩ := second.1.2
    exact ⟨j, first, barAt_of_getElem? atEnd ▸ back⟩

/-- A zone keeps the order exactly when its rule excludes the trap bar or that
bar does not return. -/
theorem zone_ordered_iff {bars : List Bar} (increasing : Increasing bars) {index : Nat}
    (found : index ∈ setups rule bars)
    (reference : (setupAt rule bars index).refTs = (barAt bars (index - 1)).datetime) :
    OrderedAt bars index (zoneFrom rule bars index) ↔
      (rule.excludesTrapBar = true ∨ ¬ TrapReturns rule bars index) := by
  obtain ⟨positive, inside, _⟩ := (mem_setups rule).mp found
  obtain ⟨stage, same, history⟩ := zoneFrom_history rule (increasing_distinct increasing) inside
  have referenced : (barAt bars (index - 1)).datetime < (barAt bars index).datetime :=
    increasing_barAt increasing (by omega) inside
  rw [same]
  constructor
  · intro ordered
    by_contra fails
    push Not at fails
    obtain ⟨immediate, j, first, back⟩ := fails
    rw [Bool.eq_false_of_not_eq_true immediate] at history
    obtain ⟨b, c, trapBar, closeBar, returned⟩ :=
      history_returned history first (returns_at_once rule first back)
    have together : c = b := Option.some.inj (closeBar.symm.trans trapBar)
    subst together returned
    obtain ⟨trappedOn, closedOn, left, right, before⟩ := ordered.closed rfl
    have equal : trappedOn = closedOn := Option.some.inj (left.symm.trans right)
    omega
  · intro excluded
    have trapLater {j : Nat} {b : Bar} (trapBar : bars[j]? = some b)
        (first : First bars index (fun b => rule.traps b (setupAt rule bars index)) j) :
        (setupAt rule bars index).refTs < (barAt bars index).datetime ∧
          (barAt bars index).datetime < b.datetime := by
      refine ⟨reference ▸ referenced, ?_⟩
      rw [← barAt_of_getElem? trapBar]
      exact increasing_barAt increasing first.1.1 (crossings_bound first.1)
    cases history with
    | waiting never =>
      constructor
      · intro status
        exact (status rfl).elim
      · intro status
        cases status
    | crossed j b trapBar first never =>
      constructor
      · intro status
        exact ⟨b.datetime, rfl, trapLater trapBar first⟩
      · intro status
        cases status
    | returned j k b c trapBar closeBar first second =>
      have strict : j < k := return_after_trap rule excluded first second
      constructor
      · intro status
        exact ⟨b.datetime, rfl, trapLater trapBar first⟩
      · intro status
        refine ⟨b.datetime, c.datetime, rfl, rfl, ?_⟩
        rw [← barAt_of_getElem? trapBar, ← barAt_of_getElem? closeBar]
        exact increasing_barAt increasing strict (crossings_bound second.1)

/-- A rule that excludes the trap bar keeps every one of its zones in order. -/
theorem lives_ordered {bars : List Bar} (increasing : Increasing bars)
    (reference : ∀ prev curr, (rule.make prev curr).refTs = prev.datetime)
    (excludes : rule.excludesTrapBar = true) {entries : List (Entry τ)}
    (zones : entries.map Entry.toZone = zonesOf rule bars) :
    LivesOrdered bars (setups rule bars) entries := by
  rw [LivesOrdered, forall₂_zones_iff zones]
  intro index found
  exact (zone_ordered_iff rule increasing found (reference _ _)).mpr (.inl excludes)

end Rule

/-- The indices whose high exceeds the bar before. -/
def higherHighs (bars : List Bar) : List Nat :=
  (List.range bars.length).filter (fun i =>
    decide (0 < i) && decide ((barAt bars i).high > (barAt bars (i - 1)).high))

/-- The zones of `scan_ltf_bull`; a frame too short for a pass has no setup. -/
theorem scanLtfBull_zones (zone : HtfZone) (df : List Bar) :
    (scanLtfBull zone df).2.map Entry.toZone =
      zonesOf (ltfBullRule zone) (ltfBullZoneBars zone df) := by
  by_cases short : (ltfBullZoneBars zone df).length < 2
  · rw [scanLtfBull, if_pos short]
    exact (zonesOf_short (ltfBullRule zone) short).symm
  · rw [scanLtfBull, if_neg short]
    exact scanBars_zones (ltfBullRule zone) _

/-- `scan_ltf_bull` keeps the order exactly when no setup has a trap bar that is
back at its entry. -/
theorem scanLtfBull_ordered_iff (zone : HtfZone) (df : List Bar) (increasing : Increasing df) :
    LivesOrdered (ltfBullZoneBars zone df) (higherHighs (ltfBullZoneBars zone df))
        (scanLtfBull zone df).2 ↔
      ∀ i ∈ higherHighs (ltfBullZoneBars zone df), ∀ j,
        First (ltfBullZoneBars zone df) i
          (fun b => b.low < (barAt (ltfBullZoneBars zone df) (i - 1)).low) j →
        (barAt (ltfBullZoneBars zone df) j).high <
          (barAt (ltfBullZoneBars zone df) (i - 1)).high := by
  have kept : Increasing (ltfBullZoneBars zone df) := increasing_filter increasing _
  rw [LivesOrdered, show higherHighs (ltfBullZoneBars zone df) =
    setups (ltfBullRule zone) (ltfBullZoneBars zone df) from rfl,
    forall₂_zones_iff (scanLtfBull_zones zone df)]
  apply forall₂_congr
  intro i found
  rw [zone_ordered_iff (ltfBullRule zone) kept found rfl]
  constructor
  · rintro (excludes | apart) j first
    · cases excludes
    · by_contra back
      exact apart ⟨j, first, decide_eq_true (not_lt.mp back)⟩
  · intro apart
    apply Or.inr
    rintro ⟨j, first, back⟩
    exact absurd (of_decide_eq_true back) (not_le.mpr (apart j first))

/-- The three scans keep every zone in order exactly when, on the bars that
`scan_ltf_bull` reads, no setup has a trap bar that is back at its entry. -/
theorem scans_ordered_iff (zone : HtfZone) (df : List Bar) (increasing : Increasing df) :
    (LivesOrdered df (lowerLows df) (scanHtf df).2 ∧
      LivesOrdered df (lowerLows df ++ higherHighs df) (scanHtfSpot df).2 ∧
      LivesOrdered (ltfBullZoneBars zone df) (higherHighs (ltfBullZoneBars zone df))
        (scanLtfBull zone df).2) ↔
    ∀ i ∈ higherHighs (ltfBullZoneBars zone df), ∀ j,
      First (ltfBullZoneBars zone df) i
        (fun b => b.low < (barAt (ltfBullZoneBars zone df) (i - 1)).low) j →
      (barAt (ltfBullZoneBars zone df) j).high <
        (barAt (ltfBullZoneBars zone df) (i - 1)).high := by
  have htf : LivesOrdered df (lowerLows df) (scanHtf df).2 :=
    lives_ordered htfRule increasing (fun _ _ => rfl) rfl (scanBars_zones htfRule df)
  have spot : LivesOrdered df (lowerLows df ++ higherHighs df) (scanHtfSpot df).2 := by
    obtain ⟨bears, bulls⟩ := spotBars_zones df
    exact List.rel_append (lives_ordered bearRule increasing (fun _ _ => rfl) rfl bears)
      (lives_ordered bullRule increasing (fun _ _ => rfl) rfl bulls)
  constructor
  · rintro ⟨_, _, ordered⟩
    exact (scanLtfBull_ordered_iff zone df increasing).mp ordered
  · intro apart
    exact ⟨htf, spot, (scanLtfBull_ordered_iff zone df increasing).mpr apart⟩

/-- A bull zone that is trapped by the third bar and closed by the fourth. -/
theorem scans_ordered_on_a_later_return :
    LivesOrdered [⟨0, 10, 8, 9⟩, ⟨1, 11, 9, 10⟩, ⟨2, 9, 7, 8⟩, ⟨3, 10, 8, 9⟩] [1, 3]
      (scanLtfBull ⟨10, 8, "", "", 0⟩
        [⟨0, 10, 8, 9⟩, ⟨1, 11, 9, 10⟩, ⟨2, 9, 7, 8⟩, ⟨3, 10, 8, 9⟩]).2 := by
  let bars : List Bar := [⟨0, 10, 8, 9⟩, ⟨1, 11, 9, 10⟩, ⟨2, 9, 7, 8⟩, ⟨3, 10, 8, 9⟩]
  have calm : ∀ i < 4, ∀ j < 4, i < j → (barAt bars j).low < (barAt bars (i - 1)).low →
      (barAt bars j).high < (barAt bars (i - 1)).high := by decide +kernel
  have read : ltfBullZoneBars ⟨10, 8, "", "", 0⟩ bars = bars := by decide +kernel
  have made : higherHighs bars = [1, 3] := by decide +kernel
  have ordered := (scans_ordered_iff ⟨10, 8, "", "", 0⟩ bars (by decide)).mpr (by
    rw [read]
    intro i found j first
    have inside : j < 4 := crossings_bound first.1
    have later : i < j := first.1.1
    obtain ⟨b, trapBar, breaks⟩ := first.1.2
    rw [← barAt_of_getElem? trapBar] at breaks
    exact calm i (by omega) j inside later (of_decide_eq_true breaks))
  rw [read, made] at ordered
  exact ordered.2.2

/-- One wide bar traps the zone of the second bar and closes it. -/
theorem scan_ltf_bull_closes_on_the_trap_bar :
    Increasing [⟨0, 10, 8, 9⟩, ⟨1, 11, 9, 10⟩, ⟨2, 11, 7, 9⟩] ∧
      (scanLtfBull ⟨10, 8, "", "", 0⟩
        [⟨0, 10, 8, 9⟩, ⟨1, 11, 9, 10⟩, ⟨2, 11, 7, 9⟩]).2.map
          (fun e => (e.status, e.trappedOn, e.closedOn)) = [(.closed, some 2, some 2)] ∧
      ¬ LivesOrdered [⟨0, 10, 8, 9⟩, ⟨1, 11, 9, 10⟩, ⟨2, 11, 7, 9⟩] [1]
        (scanLtfBull ⟨10, 8, "", "", 0⟩ [⟨0, 10, 8, 9⟩, ⟨1, 11, 9, 10⟩, ⟨2, 11, 7, 9⟩]).2 := by
  refine ⟨by decide +kernel, by decide +kernel, ?_⟩
  let bars : List Bar := [⟨0, 10, 8, 9⟩, ⟨1, 11, 9, 10⟩, ⟨2, 11, 7, 9⟩]
  have read : ltfBullZoneBars ⟨10, 8, "", "", 0⟩ bars = bars := by decide +kernel
  have made : higherHighs bars = [1] := by decide +kernel
  have exact := scanLtfBull_ordered_iff ⟨10, 8, "", "", 0⟩ bars (by decide)
  rw [read, made] at exact
  intro ordered
  have first : First bars 1 (fun b => b.low < (barAt bars 0).low) 2 := by
    refine ⟨⟨by decide, ⟨2, 11, 7, 9⟩, rfl, by decide⟩, ?_⟩
    intro other crossing
    exact crossing.1
  have below := exact.mp ordered 1 (by simp) 2 first
  revert below
  decide

end OptionChain.TrapOrder
