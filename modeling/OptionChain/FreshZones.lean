import Mathlib.Data.Prod.Lex
import Mathlib.Data.String.Basic
import OptionChain.Broker
import OptionChain.SortedLists
import OptionChain.TrapScanner

/-!
# The zone to enter on

After the last zone that was resolved, a zone whose reference bar is later and that has
trapped is fresh. Of the fresh zones the one trapped last is taken, and of those trapped by
the same bar the deepest: the highest low for a call, the lowest high for a put.

The timestamps are compared as strings. A format is sortable for a list of zones if it
orders the strings of their timestamps as the instants, and leaves none empty.
-/

namespace OptionChain.FreshZones

open Broker SortedLists TrapScanner

section Select

variable {τ : Type} (format : Int → String)

/-- `_ts`: a missing timestamp is the empty string. -/
def ts (stamp : Option Int) : String := (stamp.map format).getD ""

/-- How deep a zone lies: by its low for a call, by its high for a put. -/
def depth (side : OptType) (entry : Entry τ) : Rat :=
  match side with
  | .ce => entry.zoneLow
  | .pe => -entry.zoneHigh

/-- `_best_among`. -/
def bestAmong (side : OptType) (zones : List (Entry τ)) : Option (Entry τ) :=
  sortedLast (fun entry => toLex (ts format entry.trappedOn, depth side entry)) zones

/-- `select_fresh_ltf_entry`. -/
def selectFreshLtfEntry (ltfEntries : List (Entry τ)) (side : OptType) : Option (Entry τ) :=
  let closed := ltfEntries.filter (fun entry => decide (entry.status = .closed))
  let trapped := ltfEntries.filter (fun entry => decide (entry.status = .trapped))
  match sortedLast (fun entry => ts format entry.closedOn) closed with
  | none => bestAmong format side trapped
  | some lastClosed =>
      bestAmong format side
        (trapped.filter fun entry => decide (ts format lastClosed.closedOn < format entry.refTs))

end Select

/-- The timestamps of a zone. -/
def stamps {τ : Type} (entry : Entry τ) : List Int :=
  entry.refTs :: (entry.trappedOn.toList ++ entry.closedOn.toList)

/-- The format orders the timestamps of the zones as the instants. -/
structure Sortable {τ : Type} (format : Int → String) (entries : List (Entry τ)) : Prop where
  ordered : ∀ first ∈ entries, ∀ second ∈ entries, ∀ s ∈ stamps first, ∀ t ∈ stamps second,
    s < t → format s < format t
  written : ∀ entry ∈ entries, ∀ s ∈ stamps entry, format s ≠ ""

/-- A trapped zone whose reference bar is later than every return of a closed zone. -/
structure Fresh {τ : Type} (entries : List (Entry τ)) (entry : Entry τ) : Prop where
  listed : entry ∈ entries
  trapped : entry.status = .trapped
  later : ∀ closed ∈ entries, closed.status = .closed → ∀ closedOn ∈ closed.closedOn,
    closedOn < entry.refTs

/-- The zone was trapped no later than the other, and lies no deeper if at the same time. -/
structure Precedes {τ : Type} (side : OptType) (entry best : Entry τ) : Prop where
  trapped : ∀ trappedOn ∈ entry.trappedOn, ∃ latest ∈ best.trappedOn, trappedOn ≤ latest
  deepest : entry.trappedOn = best.trappedOn →
    match side with
    | .ce => entry.zoneLow ≤ best.zoneLow
    | .pe => best.zoneHigh ≤ entry.zoneHigh

theorem empty_lt {s : String} (written : s ≠ "") : "" < s := by
  rw [String.lt_iff_toList_lt]
  cases chars : s.toList with
  | nil => exact absurd (String.toList_eq_nil_iff.mp chars) written
  | cons first rest => exact List.nil_lt_cons first rest

section Formats

variable {τ : Type} {format : Int → String} {entries : List (Entry τ)}
  (sortable : Sortable format entries) {first second : Entry τ} (one : first ∈ entries)
  (two : second ∈ entries)

include sortable one two

/-- The strings of two instants are ordered as these. -/
theorem format_lt_iff {s t : Int} (sListed : s ∈ stamps first) (tListed : t ∈ stamps second) :
    format s < format t ↔ s < t := by
  constructor
  · intro less
    by_contra late
    rcases lt_or_eq_of_le (not_lt.mp late) with after | same
    · exact lt_asymm less (sortable.ordered second two first one t tListed s sListed after)
    · rw [same] at less
      exact lt_irrefl _ less
  · exact sortable.ordered first one second two s sListed t tListed

omit one

/-- A return is before an instant exactly when its string is, also one that is missing. -/
theorem ts_lt_iff {t : Int} (tListed : t ∈ stamps second) (one : first ∈ entries) :
    ts format first.closedOn < format t ↔ ∀ closedOn ∈ first.closedOn, closedOn < t := by
  cases closed : first.closedOn with
  | none =>
    have less := empty_lt (sortable.written second two t tListed)
    simpa [ts] using less
  | some closedOn =>
    have listed : closedOn ∈ stamps first := by simp [stamps, closed]
    have less := format_lt_iff sortable one two listed tListed
    simpa [ts] using less

/-- A zone whose trap has no later string was trapped no later. -/
theorem trapped_of_ts_le (one : first ∈ entries)
    (ordered : ts format first.trappedOn ≤ ts format second.trappedOn) :
    ∀ trappedOn ∈ first.trappedOn, ∃ latest ∈ second.trappedOn, trappedOn ≤ latest := by
  intro trappedOn found
  have listed : trappedOn ∈ stamps first := by simp [stamps, Option.mem_def.mp found]
  have here : ts format first.trappedOn = format trappedOn := by
    rw [Option.mem_def.mp found]
    rfl
  rw [here] at ordered
  cases trapped : second.trappedOn with
  | none =>
    rw [trapped] at ordered
    have less := empty_lt (sortable.written first one trappedOn listed)
    exact absurd less (not_lt.mpr ordered)
  | some latest =>
    rw [trapped] at ordered
    have latestListed : latest ∈ stamps second := by simp [stamps, trapped]
    refine ⟨latest, rfl, not_lt.mp ?_⟩
    rw [← format_lt_iff sortable two one latestListed listed]
    exact not_lt.mpr ordered

/-- Keys that are ordered belong to zones that are. -/
theorem precedes_of_key {side : OptType} (one : first ∈ entries)
    (ordered : toLex (ts format first.trappedOn, depth side first) ≤
      toLex (ts format second.trappedOn, depth side second)) :
    Precedes side first second := by
  rw [Prod.Lex.toLex_le_toLex] at ordered
  constructor
  · apply trapped_of_ts_le sortable two one
    rcases ordered with before | ⟨same, _⟩
    · exact before.le
    · exact same.le
  · intro together
    have deeper : depth side first ≤ depth side second := by
      rcases ordered with before | ⟨_, deeper⟩
      · rw [together] at before
        exact absurd before (lt_irrefl _)
      · exact deeper
    cases side with
    | ce => exact deeper
    | pe => exact neg_le_neg_iff.mp deeper

end Formats

section Selected

variable {τ : Type} {format : Int → String} {entries : List (Entry τ)}

/-- The zones among which the best is taken are the fresh ones. -/
theorem selectFreshLtfEntry_eq (sortable : Sortable format entries) (side : OptType) :
    ∃ fresh, selectFreshLtfEntry format entries side = bestAmong format side fresh ∧
      ∀ entry, entry ∈ fresh ↔ Fresh entries entry := by
  cases found : sortedLast (fun entry => ts format entry.closedOn)
      (entries.filter (fun entry => decide (entry.status = .closed))) with
  | none =>
    refine ⟨entries.filter (fun entry => decide (entry.status = .trapped)), ?_, ?_⟩
    · simp only [selectFreshLtfEntry, found]
    · intro entry
      have nothing := (sortedLast_none_iff _).mp found
      rw [List.filter_eq_nil_iff] at nothing
      rw [List.mem_filter, decide_eq_true_eq]
      constructor
      · rintro ⟨listed, trapped⟩
        refine ⟨listed, trapped, ?_⟩
        intro closed closedListed isClosed
        exact absurd (decide_eq_true isClosed) (nothing closed closedListed)
      · rintro ⟨listed, trapped, _⟩
        exact ⟨listed, trapped⟩
  | some lastClosed =>
    have member := List.mem_filter.mp (sortedLast_mem _ found)
    refine ⟨(entries.filter (fun entry => decide (entry.status = .trapped))).filter
      (fun entry => decide (ts format lastClosed.closedOn < format entry.refTs)), ?_, ?_⟩
    · simp only [selectFreshLtfEntry, found]
    · intro entry
      rw [List.mem_filter, List.mem_filter, decide_eq_true_eq, decide_eq_true_eq]
      constructor
      · rintro ⟨⟨listed, trapped⟩, after⟩
        refine ⟨listed, trapped, ?_⟩
        intro closed closedListed isClosed
        have latest := sortedLast_greatest _ found
          (List.mem_filter.mpr ⟨closedListed, decide_eq_true isClosed⟩)
        exact (ts_lt_iff sortable listed List.mem_cons_self closedListed).mp
          (lt_of_le_of_lt latest after)
      · rintro ⟨listed, trapped, later⟩
        refine ⟨⟨listed, trapped⟩, ?_⟩
        apply (ts_lt_iff sortable listed List.mem_cons_self member.1).mpr
        exact later lastClosed member.1 (of_decide_eq_true member.2)

/-- A zone is selected exactly where one is fresh; it is fresh, and every fresh zone precedes
it. -/
theorem selectFreshLtfEntry_best (sortable : Sortable format entries) (side : OptType) :
    ((selectFreshLtfEntry format entries side).isSome = true ↔ ∃ entry, Fresh entries entry) ∧
      ∀ best, selectFreshLtfEntry format entries side = some best →
        Fresh entries best ∧ ∀ entry, Fresh entries entry → Precedes side entry best := by
  obtain ⟨fresh, selected, exactly⟩ := selectFreshLtfEntry_eq sortable side
  rw [selected]
  constructor
  · rw [Option.isSome_iff_ne_none, Ne, bestAmong, sortedLast_none_iff,
      List.eq_nil_iff_forall_not_mem]
    push Not
    exact exists_congr exactly
  · intro best found
    have isFresh := (exactly best).mp (sortedLast_mem _ found)
    refine ⟨isFresh, ?_⟩
    intro entry entryFresh
    exact precedes_of_key sortable isFresh.listed entryFresh.listed
      (sortedLast_greatest _ found ((exactly entry).mpr entryFresh))

end Selected

/-- A zone with its life, on a scale of minutes after nine. -/
def zoneOf (refTs : Int) (low : Rat) (status : Status) (trappedOn closedOn : Option Int) :
    Entry Unit where
  refTs := refTs
  entry := low + 4
  sl := low + 9
  zoneHigh := low + 4
  zoneLow := low
  tag := ()
  status := status
  trappedOn := trappedOn
  closedOn := closedOn
  eventIdx := none

/-- A resolved zone, and two that one bar trapped after it. -/
def morning : List (Entry Unit) :=
  [zoneOf 15 100 .closed (some 20) (some 25), zoneOf 30 90 .trapped (some 40) none,
    zoneOf 35 95 .trapped (some 40) none]

/-- `09:MM`. -/
def clockText (minute : Int) : String := "09:" ++ Nat.repr minute.toNat

theorem morning_sortable : Sortable clockText morning where
  ordered := by decide
  written := by decide

/-- One of the two is selected. -/
theorem morning_selected :
    (selectFreshLtfEntry clockText morning .ce).isSome = true := by
  apply (selectFreshLtfEntry_best morning_sortable .ce).1.mpr
  refine ⟨zoneOf 35 95 .trapped (some 40) none, by simp [morning], rfl, ?_⟩
  decide

end OptionChain.FreshZones
