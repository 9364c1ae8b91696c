import OptionChain.FormingBars

/-!
# The all-cleared entry and the length of the day

In futures mode `_run_ltf_on` enters when every bear trap of the day's option bars is
closed. It says that it scans the full day, but its table has only the last 200 bars of
the day, so a trap whose reference bar is older is not seen any more, resolved or not.

The zones of the day are those of the scanned bars, with the same lives, and those whose
reference bar came before. The latter decide whether the entry is what it says it is.
-/

namespace OptionChain.ClearedSessions

open TrapScanner TrapZones TrapSignals
open FuturesStops (rowOf Tabulates)
open Broker (OptType)
open TrapPosition (Leg zoneUid)
open TrapTrail (StoredBar barsOf)

/-! ## The zones of the last bars -/

section Window

variable {τ ρ : Type} (rule : TrapRule τ ρ) (older recent : List Bar)

theorem barAt_recent (index : Nat) :
    barAt (older ++ recent) (older.length + index) = barAt recent index := by
  rw [barAt, List.getD_append_right _ _ _ _ (Nat.le_add_right _ _), Nat.add_sub_cancel_left, barAt]

/-- The setups of the last bars are those of the whole frame at their positions. -/
theorem mem_setups_recent {index : Nat} (positive : 0 < index) :
    older.length + index ∈ setups rule (older ++ recent) ↔ index ∈ setups rule recent := by
  have before : older.length + index - 1 = older.length + (index - 1) := by omega
  rw [mem_setups, mem_setups, before, barAt_recent, barAt_recent, List.length_append]
  constructor
  · rintro ⟨-, inside, makes⟩
    exact ⟨positive, by omega, makes⟩
  · rintro ⟨-, inside, makes⟩
    exact ⟨by omega, by omega, makes⟩

/-- Their zones see the same later bars. -/
theorem zoneFrom_recent {index : Nat} (positive : 0 < index) :
    zoneFrom rule (older ++ recent) (older.length + index) = zoneFrom rule recent index := by
  have before : older.length + index - 1 = older.length + (index - 1) := by omega
  have later : (older ++ recent).drop (older.length + index + 1) = recent.drop (index + 1) :=
    List.drop_length_add_append (index + 1)
  rw [zoneFrom, setupAt, before, barAt_recent, barAt_recent, later]
  rfl

/-- A zone of a frame is one of its last bars or has an older reference bar. -/
theorem mem_zonesOf_split {zone : Zone τ} :
    zone ∈ zonesOf rule (older ++ recent) ↔
      (∃ index ∈ setups rule (older ++ recent), index ≤ older.length ∧
        zoneFrom rule (older ++ recent) index = zone) ∨ zone ∈ zonesOf rule recent := by
  constructor
  · intro listed
    obtain ⟨index, found, life⟩ := List.mem_map.mp listed
    by_cases old : index ≤ older.length
    · exact .inl ⟨index, found, old, life⟩
    · obtain ⟨position, rfl⟩ : ∃ position, index = older.length + position :=
        ⟨index - older.length, by omega⟩
      have positive : 0 < position := by omega
      rw [mem_setups_recent rule older recent positive] at found
      rw [zoneFrom_recent rule older recent positive] at life
      exact .inr (List.mem_map.mpr ⟨position, found, life⟩)
  · rintro (⟨index, found, -, life⟩ | listed)
    · exact List.mem_map.mpr ⟨index, found, life⟩
    · obtain ⟨position, found, life⟩ := List.mem_map.mp listed
      have positive : 0 < position := ((mem_setups rule).mp found).1
      rw [← mem_setups_recent rule older recent positive] at found
      rw [← zoneFrom_recent rule older recent positive] at life
      exact List.mem_map.mpr ⟨_, found, life⟩

end Window

/-! ## The verdict -/

/-- The trap scan of some rows has a closed zone and no trapped one. -/
structure AllCleared (rows : List Bar) : Prop where
  closed : ∃ e ∈ (scanLtf unbounded rows).2, e.status = .closed
  free : ∀ e ∈ (scanLtf unbounded rows).2, e.status ≠ .trapped

/-- A zone whose reference bar is among the older rows is still trapped after the others. -/
def TrappedBefore (older recent : List Bar) : Prop :=
  ∃ index ∈ setups htfRule (ltfZoneBars unbounded (older ++ recent)),
    index ≤ (ltfZoneBars unbounded older).length ∧
      (zoneFrom htfRule (ltfZoneBars unbounded (older ++ recent)) index).status = .trapped

/-- Which statuses a scan returns. -/
theorem scanLtf_status {band : TrapScanner.HtfZone} {rows : List Bar} {status : Status} :
    (∃ e ∈ (scanLtf band rows).2, e.status = status) ↔
      ∃ zone ∈ zonesOf htfRule (ltfZoneBars band rows), zone.status = status := by
  have statuses := congrArg (List.map Prod.fst) (FuturesStops.scanLtf_zones band rows)
  rw [List.map_map, List.map_map] at statuses
  have listed := congrArg (status ∈ ·) statuses
  simpa using listed

theorem allCleared_iff {rows : List Bar} :
    AllCleared rows ↔
      (∃ zone ∈ zonesOf htfRule (ltfZoneBars unbounded rows), zone.status = .closed) ∧
        ¬∃ zone ∈ zonesOf htfRule (ltfZoneBars unbounded rows), zone.status = .trapped := by
  rw [← scanLtf_status, ← scanLtf_status]
  constructor
  · intro cleared
    refine ⟨cleared.closed, ?_⟩
    rintro ⟨e, member, trapped⟩
    exact cleared.free e member trapped
  · rintro ⟨closed, free⟩
    exact ⟨closed, fun e member trapped => free ⟨e, member, trapped⟩⟩

/-- What the last rows say of the whole day is wrong exactly if an older zone is trapped. -/
theorem cleared_iff {older recent : List Bar} (cleared : AllCleared recent) :
    AllCleared (older ++ recent) ↔ ¬TrappedBefore older recent := by
  rw [allCleared_iff] at cleared ⊢
  obtain ⟨⟨zone, listed, closed⟩, free⟩ := cleared
  have kept : ltfZoneBars unbounded (older ++ recent) =
      ltfZoneBars unbounded older ++ ltfZoneBars unbounded recent := List.filter_append _ _
  have split : ∀ zone, zone ∈ zonesOf htfRule (ltfZoneBars unbounded (older ++ recent)) ↔
      (∃ index ∈ setups htfRule (ltfZoneBars unbounded (older ++ recent)),
        index ≤ (ltfZoneBars unbounded older).length ∧
          zoneFrom htfRule (ltfZoneBars unbounded (older ++ recent)) index = zone) ∨
        zone ∈ zonesOf htfRule (ltfZoneBars unbounded recent) := by
    intro zone
    rw [kept]
    exact mem_zonesOf_split htfRule _ _
  constructor
  · rintro ⟨-, resolved⟩ ⟨index, found, old, trapped⟩
    exact resolved ⟨_, (split _).mpr (.inl ⟨index, found, old, rfl⟩), trapped⟩
  · intro resolved
    refine ⟨⟨zone, (split zone).mpr (.inr listed), closed⟩, ?_⟩
    rintro ⟨other, member, trapped⟩
    rcases (split other).mp member with ⟨index, found, old, rfl⟩ | recently
    · exact resolved ⟨index, found, old, trapped⟩
    · exact free ⟨other, recently, trapped⟩

/-! ## The pass of the engine -/

section Pass

variable (frames : ScanFrames) (book : Book) (legKey : Leg) (bars : List StoredBar)
  (htfZones : List (Entry SpotTag))

/-- Today's bars before the last 200. -/
def olderBars : List StoredBar :=
  (barsOf book.today bars).take ((barsOf book.today bars).length - 200)

/-- `today_bars[-200:]`. -/
def scannedBars : List StoredBar :=
  (barsOf book.today bars).drop ((barsOf book.today bars).length - 200)

theorem today_split : olderBars book bars ++ scannedBars book bars = barsOf book.today bars :=
  List.take_append_drop _ _

/-- The pass comes to scan for cleared traps. -/
structure Reaches : Prop where
  unentered : ∃ first ∈ htfZones.head?, zoneUid (htfZoneOf first) ∉ book.notifiedUids
  stored : 3 ≤ bars.length
  today : 3 ≤ (barsOf book.today bars).length
  table : ∃ df, frames.table (scannedBars book bars) = .ok df

variable {frames}

/-- A table without open traps names a zone if it has a closed one. -/
theorem clearedZone_iff {df : List Bar} :
    (∃ best, clearedZone frames df = some best) ↔ AllCleared df := by
  unfold clearedZone
  dsimp only
  constructor
  · rintro ⟨best, found⟩
    split at found
    case isTrue trapped => cases found
    case isFalse free =>
      have listed := List.mem_filter.mp (List.argmax_mem found)
      constructor
      · exact ⟨best, listed.1, of_decide_eq_true listed.2⟩
      · intro e member trapped
        exact free (List.any_eq_true.mpr ⟨e, member, decide_eq_true trapped⟩)
  · rintro ⟨⟨e, member, closed⟩, free⟩
    have quiet : ¬(scanLtf unbounded df).2.any isTrapped = true := by
      intro some
      obtain ⟨other, listed, trapped⟩ := List.any_eq_true.mp some
      exact free other listed (of_decide_eq_true trapped)
    rw [if_neg quiet, latestClosed, ← Option.ne_none_iff_exists', ne_eq, List.argmax_eq_none]
    exact List.ne_nil_of_mem (List.mem_filter.mpr ⟨member, decide_eq_true closed⟩)

variable {book legKey bars htfZones} {optType : OptType} {requireClosed : Bool}
  {priceOverride : Rat}

/-- When the pass raises a signal: the last 200 bars of the day decide. -/
theorem raises_iff (tabulates : Tabulates frames) :
    (∃ raised, runLtfOn frames book legKey bars htfZones optType requireClosed priceOverride
      true = .ok (some raised)) ↔
      Reaches frames book bars htfZones ∧ AllCleared ((scannedBars book bars).map rowOf) := by
  constructor
  · rintro ⟨raised, found⟩
    obtain ⟨first, rest, df, rfl, read, signal⟩ := FuturesStops.runLtfOn_raised found
    rw [if_pos rfl, FuturesStops.clearedSignal_iff] at signal
    obtain ⟨fresh, best, zone, -⟩ := signal
    have enough : ¬(bars.length < 3 ∨ (barsOf book.today bars).length < 3) := by
      intro short
      rw [runLtfOn] at found
      rw [if_pos short] at found
      cases found
    push Not at enough
    have rows : df = (scannedBars book bars).map rowOf := tabulates.rows _ _ read
    refine ⟨⟨⟨first, rfl, fresh⟩, enough.1, enough.2, df, read⟩, ?_⟩
    rw [← rows]
    exact clearedZone_iff.mp ⟨best, zone⟩
  · rintro ⟨reaches, cleared⟩
    obtain ⟨first, head, fresh⟩ := reaches.unentered
    obtain ⟨df, read⟩ := reaches.table
    obtain ⟨rest, rfl⟩ := List.head?_eq_some_iff.mp head
    have enough : ¬(bars.length < 3 ∨ (barsOf book.today bars).length < 3) :=
      not_or.mpr ⟨Nat.not_lt.mpr reaches.stored, Nat.not_lt.mpr reaches.today⟩
    have rows : df = (scannedBars book bars).map rowOf := tabulates.rows _ _ read
    rw [← rows] at cleared
    obtain ⟨best, zone⟩ := clearedZone_iff.mpr cleared
    refine ⟨⟨legKey, optType, best.toZone, htfZoneOf first⟩, ?_⟩
    rw [runLtfOn]
    rw [if_neg enough, show frames.table ((barsOf book.today bars).drop
      ((barsOf book.today bars).length - 200)) = .ok df from read]
    dsimp only
    rw [if_pos rfl, Except.ok.injEq, FuturesStops.clearedSignal_iff]
    exact ⟨fresh, best, zone, rfl⟩

/-- A day of at most 200 bars is scanned whole. -/
theorem short_day (short : (barsOf book.today bars).length ≤ 200) (recent : List Bar) :
    ¬TrappedBefore ((olderBars book bars).map rowOf) recent := by
  have none : olderBars book bars = [] := by
    rw [olderBars, Nat.sub_eq_zero_of_le short, List.take_zero]
  rintro ⟨index, found, old, -⟩
  rw [none] at old
  exact absurd ((mem_setups htfRule).mp found).1 (Nat.not_lt.mpr old)

/-- The pass enters on a cleared day only, unless a trap whose reference bar lies before
the last 200 bars is still open when the bars after it are cleared. -/
theorem cleared_entry_iff (tabulates : Tabulates frames) :
    ((∃ raised, runLtfOn frames book legKey bars htfZones optType requireClosed priceOverride
        true = .ok (some raised)) →
      AllCleared ((barsOf book.today bars).map rowOf)) ↔
    ¬Reaches frames book bars htfZones ∨ ¬AllCleared ((scannedBars book bars).map rowOf) ∨
      ¬TrappedBefore ((olderBars book bars).map rowOf) ((scannedBars book bars).map rowOf) := by
  rw [raises_iff tabulates, ← today_split, List.map_append]
  by_cases reaches : Reaches frames book bars htfZones
  · by_cases cleared : AllCleared ((scannedBars book bars).map rowOf)
    · rw [cleared_iff cleared]
      simp [reaches, cleared]
    · simp [cleared]
  · simp [reaches]

end Pass

section Days

open FormingBars (pandasFrames pandasFrames_tabulates)
open FuturesStops (futureBar)

/-- A trapped zone of the future. -/
def bias : Entry SpotTag :=
  ⟨⟨⟨0, 5995, 6005, 5995, 5990, ⟨.bear, .bullish⟩⟩, .trapped, some 1, none⟩, some 0⟩

/-- A book with option bars of the day of the examples. -/
def optionBook (barsCe1 : List StoredBar) : Book where
  barsFut := []
  barsCe1 := barsCe1
  barsPe1 := []
  futZones := [bias]
  spotCache := 5992
  ltpCache := fun _ => 0
  notifiedUids := []
  today := 20000
  cascadeMin := 15
  cascadePositive := Nat.succ_pos 14

/-- A trap that its later bars leave open. -/
def openTrap : List StoredBar :=
  [futureBar 555 105 100 101, futureBar 556 104 95 100, futureBar 557 110 106 108]

/-- Another one, which the price comes back from. -/
def closedTrap : List StoredBar :=
  [futureBar 751 125 120 122, futureBar 752 124 115 118, futureBar 753 126 121 125,
    futureBar 754 123 119 120, futureBar 755 122 119 121]

def quietMinutes : List StoredBar :=
  (List.range 193).map (fun k => futureBar (558 + k) 125 120 122)

/-- A day of 201 minutes: the first bar is the reference bar of the open trap. -/
def longDay : List StoredBar := openTrap ++ quietMinutes ++ closedTrap

/-- On this book the pass only needs cleared bars. -/
theorem optionBook_reaches {bars : List StoredBar} (stored : 3 ≤ bars.length)
    (today : 3 ≤ (barsOf 20000 bars).length) :
    Reaches pandasFrames (optionBook bars) bars [bias] :=
  ⟨⟨bias, rfl, List.not_mem_nil⟩, stored, today, _, rfl⟩

theorem cleared_entry_iff_on_a_short_day :
    AllCleared ((barsOf 20000 closedTrap).map rowOf) := by
  have entered : ∃ raised, runLtfOn pandasFrames (optionBook closedTrap) .ce1 closedTrap [bias]
      .ce true 0 true = .ok (some raised) :=
    (raises_iff pandasFrames_tabulates).mpr
      ⟨optionBook_reaches (by decide) (by decide +kernel),
        ⟨by decide +kernel, by decide +kernel⟩⟩
  exact (cleared_entry_iff pandasFrames_tabulates).mpr
    (.inr (.inr (short_day (by decide +kernel) _))) entered

/-- The pass raises a signal on the long day, whose first trap is open. -/
theorem cleared_entry_after_an_open_trap :
    (∃ raised, runLtfOn pandasFrames (optionBook longDay) .ce1 longDay [bias] .ce true 0 true =
        .ok (some raised)) ∧
      ¬AllCleared ((barsOf 20000 longDay).map rowOf) := by
  constructor
  · apply (raises_iff pandasFrames_tabulates).mpr
    exact ⟨optionBook_reaches (by decide +kernel) (by decide +kernel),
      ⟨by decide +kernel, by decide +kernel⟩⟩
  · intro cleared
    have unresolved : ∃ e ∈ (scanLtf unbounded ((barsOf 20000 longDay).map rowOf)).2,
        e.status = .trapped := by decide +kernel
    obtain ⟨e, member, trapped⟩ := unresolved
    exact cleared.free e member trapped

end Days

end OptionChain.ClearedSessions
