import Mathlib.Tactic.Linarith
import Mathlib.Order.Interval.Set.Basic

/-!
# Stops that trail a peak

A value moves, and the highest value so far is its peak. Once the peak has reached
the lock, the stop is hit where the value lies the floor below the peak. Two peaks
are the same for the values of a set if no value of it tells them apart.

Nothing here mentions a strategy: the values are those of any ordered ring.
-/

namespace OptionChain.PeakStops

universe u
variable {α : Type u} [CommRing α] [LinearOrder α]
  {lock floor peak other value bound : α} {values : Set α}

/-- The stop is hit by a value, which first moves the peak. -/
def Hits (lock floor peak value : α) : Prop :=
  lock ≤ max peak value ∧ value ≤ max peak value - floor

instance : Decidable (Hits lock floor peak value) := inferInstanceAs (Decidable (_ ∧ _))

/-- No value tells two peaks apart. -/
def Same (values : Set α) (lock floor peak other : α) : Prop :=
  ∀ value ∈ values, Hits lock floor peak value ↔ Hits lock floor other value

theorem Same.refl : Same values lock floor peak peak := fun _ _ => Iff.rfl

theorem Same.symm (same : Same values lock floor peak other) :
    Same values lock floor other peak := fun value listed => (same value listed).symm

/-- Both peaks stay unlocked up to the higher one, or both are locked and every value
up to its peak lies below both floors. -/
def Tied (lock floor bound low high : α) : Prop :=
  high < lock ∨ (lock ≤ low ∧ (floor ≤ 0 ∨ bound ≤ low - floor))

/-- A value below the peak leaves it. -/
theorem hits_below (below : value ≤ peak) :
    Hits lock floor peak value ↔ lock ≤ peak ∧ value ≤ peak - floor := by
  rw [Hits, max_eq_left below]

/-- No values tell no peaks apart. -/
theorem same_empty : Same ∅ lock floor peak other := fun _ listed => absurd listed (by simp)

/-- A value that never changes moves a peak once. -/
theorem Same.moved_constant (same : Same {value} lock floor peak other) :
    Same {value} lock floor (max peak value) (max other value) := by
  rintro _ rfl
  simpa only [Hits, max_assoc, max_self] using same _ rfl

variable [IsStrictOrderedRing α]

/-- A value above the peak has no distance from it. -/
theorem hits_above (above : peak ≤ value) :
    Hits lock floor peak value ↔ lock ≤ value ∧ floor ≤ 0 := by
  rw [Hits, max_eq_right above]
  constructor
  · rintro ⟨locked, below⟩
    exact ⟨locked, by linarith⟩
  · rintro ⟨locked, flat⟩
    exact ⟨locked, by linarith⟩

section Bounded

variable {low high : α}

/-- The values up to a bound tell two peaks apart unless they are tied. -/
theorem same_of_tied (lower : low < high) (tied : Tied lock floor bound low high) :
    Same (Set.Iic bound) lock floor low high := by
  intro value under
  have bounded : value ≤ bound := under
  rcases le_or_gt high value with above | below
  · rw [hits_above (lower.le.trans above), hits_above above]
  · rw [hits_below below.le]
    rcases tied with unlocked | ⟨locked, apart⟩
    · refine iff_of_false ?_ (fun hit => absurd hit.1 (not_le.mpr unlocked))
      rintro ⟨reached, _⟩
      exact absurd reached (not_le.mpr ((max_lt lower below).trans unlocked))
    · have later : lock ≤ high := locked.trans lower.le
      rcases le_or_gt value low with inside | between
      · rw [hits_below inside]
        have under : value ≤ low - floor := by
          rcases apart with flat | far
          · linarith
          · exact bounded.trans far
        exact iff_of_true ⟨locked, under⟩ ⟨later, by linarith⟩
      · have flat : floor ≤ 0 := by
          rcases apart with flat | far
          · exact flat
          · linarith
        rw [hits_above between.le]
        exact iff_of_true ⟨locked.trans between.le, flat⟩ ⟨later, by linarith⟩

/-- Two peaks that no value up to a bound tells apart are tied. The lowest value of
interest finds an unlocked low peak; the highest finds a value between the floors. -/
theorem tied_of_same (lower : low < high) (same : Same (Set.Iic bound) lock floor low high) :
    Tied lock floor bound low high := by
  by_contra untied
  simp only [Tied, not_or, not_and, not_lt, not_le] at untied
  obtain ⟨reached, apart⟩ := untied
  by_cases locked : lock ≤ low
  · obtain ⟨positive, between⟩ := apart locked
    have under : min bound (high - floor) ≤ bound := min_le_left _ _
    have beyond : low - floor < min bound (high - floor) := lt_min between (by linarith)
    have short : min bound (high - floor) ≤ high - floor := min_le_right _ _
    have hit : Hits lock floor high (min bound (high - floor)) :=
      (hits_below (by linarith)).mpr ⟨reached, short⟩
    have missed := (same _ under).mpr hit
    rcases le_total (min bound (high - floor)) low with inside | above
    · have far := ((hits_below inside).mp missed).2
      linarith
    · have flat := ((hits_above above).mp missed).2
      linarith
  · have inside : min bound (min low (high - floor)) ≤ low :=
      (min_le_right _ _).trans (min_le_left _ _)
    have short : min bound (min low (high - floor)) ≤ high - floor :=
      (min_le_right _ _).trans (min_le_right _ _)
    have hit : Hits lock floor high (min bound (min low (high - floor))) :=
      (hits_below (inside.trans lower.le)).mpr ⟨reached, short⟩
    have missed := (same _ (min_le_left _ _)).mpr hit
    exact locked ((hits_below inside).mp missed).1

theorem same_bounded (lower : low < high) :
    Same (Set.Iic bound) lock floor low high ↔ Tied lock floor bound low high :=
  ⟨tied_of_same lower, same_of_tied lower⟩

/-- Moving both peaks by a value keeps them tied, or makes them one. -/
theorem Tied.moved (lower : low < high) (tied : Tied lock floor bound low high) (value : α) :
    Same (Set.Iic bound) lock floor (max low value) (max high value) := by
  rcases le_or_gt high value with above | below
  · rw [max_eq_right above, max_eq_right (lower.le.trans above)]
    exact .refl
  · rw [max_eq_left below.le]
    apply same_of_tied (max_lt lower below)
    have risen : low ≤ max low value := le_max_left _ _
    rcases tied with unlocked | ⟨locked, flat | far⟩
    · exact .inl unlocked
    · exact .inr ⟨locked.trans risen, .inl flat⟩
    · exact .inr ⟨locked.trans risen, .inr (by linarith)⟩

end Bounded

/-- Peaks that the values up to a bound do not tell apart stay so. -/
theorem Same.moved_bounded (same : Same (Set.Iic bound) lock floor peak other) (value : α) :
    Same (Set.Iic bound) lock floor (max peak value) (max other value) := by
  rcases lt_trichotomy peak other with lower | equal | higher
  · exact (tied_of_same lower same).moved lower value
  · rw [equal]
    exact .refl
  · exact ((tied_of_same higher same.symm).moved higher value).symm

/-- Which peaks the values up to a bound do not tell apart. -/
theorem same_iff : Same (Set.Iic bound) lock floor peak other ↔
    peak = other ∨ Tied lock floor bound (min peak other) (max peak other) := by
  rcases lt_trichotomy peak other with lower | equal | higher
  · rw [same_bounded lower, min_eq_left lower.le, max_eq_right lower.le]
    simp [lower.ne]
  · simp [equal, Same.refl]
  · rw [min_eq_right higher.le, max_eq_left higher.le, ← same_bounded higher]
    simp only [higher.ne', false_or]
    exact ⟨Same.symm, Same.symm⟩

end OptionChain.PeakStops
