import OptionChain.FuturesStops
import OptionChain.HtfBoundaries
import OptionChain.OpenGroups

/-!
# Scans of a bar that is still forming

The engine resamples the one-minute bars it has, so the last candle it scans may be
incomplete. Further minutes of its interval only raise its high and lower its low, and
every test of `scan_htf` that such a candle passes is passed by the wider one as well. So
what the scan says of an unfinished candle stands when the candle is complete, and a
15-minute gate is not withdrawn.
-/

namespace OptionChain.FormingBars

open OpenGroups TrapScanner TrapZones HtfBoundaries
open TickBuckets (Candle)
open TrapTrail (StoredBar PyError)
open TrapSignals (ScanFrames findClosed15mZone isClosed latestClosed)
open FuturesStops (rowOf Tabulates)

/-- The columns of a candle that the scans read. -/
def barOf (candle : Candle) : Bar := ⟨candle.ts, candle.high, candle.low, candle.close⟩

/-- A bar with the columns that they do not read. -/
def candleOf (bar : Bar) : Candle := ⟨bar.datetime, bar.close, bar.high, bar.low, bar.close, 0⟩

/-- `_resample_htf` of a table with these columns. -/
def resample (minutes : Nat) (df : List Bar) : List Bar :=
  (resampleHtf minutes (df.map candleOf)).map barOf

/-- The interval of a time in a table. -/
def interval (minutes : Nat) (df : List Bar) (ts : Int) : Int :=
  label minutes (midnight ((df.head?.map Bar.datetime).getD 0)) ts

/-- The further bars fall in the last interval of the table. -/
def InLastBucket (minutes : Nat) (df further : List Bar) : Prop :=
  ∀ last ∈ df.getLast?, ∀ bar ∈ further,
    interval minutes df bar.datetime = interval minutes df last.datetime

instance (minutes : Nat) (df further : List Bar) :
    Decidable (InLastBucket minutes df further) :=
  inferInstanceAs (Decidable (∀ last ∈ df.getLast?, ∀ bar ∈ further, _ = _))

/-! ## What further minutes do to the last candle -/

section Resampling

/-- The candle is complete where the other one was still forming. -/
structure Widens (forming complete : Bar) : Prop where
  datetime : complete.datetime = forming.datetime
  high : forming.high ≤ complete.high
  low : complete.low ≤ forming.low

theorem le_foldl_max (prices : List Rat) (first : Rat) : first ≤ prices.foldl max first := by
  induction prices generalizing first with
  | nil => exact le_refl first
  | cons price rest inductionHypothesis =>
    exact (le_max_left first price).trans (inductionHypothesis _)

theorem foldl_min_le (prices : List Rat) (first : Rat) : prices.foldl min first ≤ first := by
  induction prices generalizing first with
  | nil => exact le_refl first
  | cons price rest inductionHypothesis =>
    exact (inductionHypothesis _).trans (min_le_left first price)

/-- A group of minutes and the same group with further ones. -/
theorem aggregate_widens (start : Int) {group : List Candle} (nonempty : group ≠ [])
    (further : List Candle) :
    ∃ forming complete, aggregate start group = some forming ∧
      aggregate start (group ++ further) = some complete ∧
      Widens (barOf forming) (barOf complete) := by
  cases group with
  | nil => exact (nonempty rfl).elim
  | cons first rest =>
    refine ⟨_, _, rfl, rfl, rfl, ?_, ?_⟩
    · show (rest.map Candle.high).foldl max first.high ≤
        ((rest ++ further).map Candle.high).foldl max first.high
      rw [List.map_append, List.foldl_append]
      exact le_foldl_max _ _
    · show ((rest ++ further).map Candle.low).foldl min first.low ≤
        (rest.map Candle.low).foldl min first.low
      rw [List.map_append, List.foldl_append]
      exact foldl_min_le _ _

/-- The start of the interval of a candle, counted from the midnight before the first. -/
def startFrom (minutes : Nat) (first candle : Candle) : Int :=
  label minutes (midnight first.ts) candle.ts

/-- The row of a group. -/
def groupRow (start : Candle → Int) (group : List Candle) : Option Candle :=
  (group.head?.map start).bind (fun start => aggregate start group)

theorem resampleHtf_cons (minutes : Nat) (first : Candle) (rest : List Candle) :
    resampleHtf minutes (first :: rest) =
      (groups (startFrom minutes first) (first :: rest)).filterMap
        (groupRow (startFrom minutes first)) := rfl

theorem resampleHtf_further (minutes : Nat) {first final : Candle} {rest further : List Candle}
    (ends : (first :: rest).getLast? = some final)
    (same : ∀ candle ∈ further,
      startFrom minutes first candle = startFrom minutes first final) :
    ∃ rows forming complete, resampleHtf minutes (first :: rest) = rows ++ [forming] ∧
      resampleHtf minutes (first :: rest ++ further) = rows ++ [complete] ∧
      Widens (barOf forming) (barOf complete) := by
  obtain ⟨closed, last, nonempty, before, after⟩ := groups_further ends same
  obtain ⟨head, tail, rfl⟩ := List.exists_cons_of_ne_nil nonempty
  obtain ⟨forming, complete, formed, completed, widens⟩ :=
    aggregate_widens (startFrom minutes first head) nonempty further
  refine ⟨closed.filterMap (groupRow (startFrom minutes first)), forming, complete, ?_, ?_,
    widens⟩
  · rw [resampleHtf_cons, before, List.filterMap_append]
    simp [groupRow, formed]
  · rw [List.cons_append, resampleHtf_cons, ← List.cons_append, after, List.filterMap_append]
    rw [List.cons_append] at completed ⊢
    simp [groupRow, completed]

/-- The rows before the last one stay, and the last one widens. -/
theorem resample_further {minutes : Nat} {df further : List Bar} (nonempty : df ≠ [])
    (inside : InLastBucket minutes df further) :
    ∃ rows forming complete, resample minutes df = rows ++ [forming] ∧
      resample minutes (df ++ further) = rows ++ [complete] ∧ Widens forming complete := by
  obtain ⟨first, rest, rfl⟩ := List.exists_cons_of_ne_nil nonempty
  obtain ⟨final, ends⟩ := Option.ne_none_iff_exists'.mp
    (mt List.getLast?_eq_none_iff.mp nonempty)
  have mapped : (candleOf first :: rest.map candleOf).getLast? = some (candleOf final) := by
    rw [← List.map_cons, List.getLast?_map, ends]
    rfl
  have same : ∀ candle ∈ further.map candleOf,
      startFrom minutes (candleOf first) candle =
        startFrom minutes (candleOf first) (candleOf final) := by
    intro candle member
    obtain ⟨bar, listed, rfl⟩ := List.mem_map.mp member
    exact inside final ends bar listed
  obtain ⟨rows, forming, complete, before, after, widens⟩ :=
    resampleHtf_further minutes mapped same
  refine ⟨rows.map barOf, barOf forming, barOf complete, ?_, ?_, widens⟩
  · rw [resample, List.map_cons, before]
    simp
  · rw [resample, List.map_append, List.map_cons, after]
    simp

/-- The row of a group has the columns that the scans read from these columns. -/
theorem groupRow_barOf (start : Candle → Int) (group : List Candle)
    (same : ∀ candle, start (candleOf (barOf candle)) = start candle) :
    (groupRow start (group.map (candleOf ∘ barOf))).map barOf =
      (groupRow start group).map barOf := by
  cases group with
  | nil => rfl
  | cons first rest =>
    have highs : (rest.map (candleOf ∘ barOf)).map Candle.high = rest.map Candle.high := by
      rw [List.map_map]
      rfl
    have lows : (rest.map (candleOf ∘ barOf)).map Candle.low = rest.map Candle.low := by
      rw [List.map_map]
      rfl
    have close : (rest.map (candleOf ∘ barOf)).getLast?.map Candle.close =
        rest.getLast?.map Candle.close := by
      rw [List.getLast?_map, Option.map_map]
      rfl
    simp only [groupRow, List.map_cons, List.head?_cons, Option.map_some, Option.bind_some,
      aggregate, barOf, highs, lows, close, Function.comp_apply]
    have begins : start (candleOf ⟨first.ts, first.high, first.low, first.close⟩) = start first :=
      same first
    rw [begins]
    rfl

/-- The opening prices and the volumes do not matter. -/
theorem resample_barOf (minutes : Nat) (candles : List Candle) :
    resample minutes (candles.map barOf) = (resampleHtf minutes candles).map barOf := by
  cases candles with
  | nil => rfl
  | cons first rest =>
    have cut : groups (startFrom minutes first) ((first :: rest).map (candleOf ∘ barOf)) =
        (groups (startFrom minutes first) (first :: rest)).map
          (List.map (candleOf ∘ barOf)) :=
      splitBy_map (candleOf ∘ barOf) _ (first :: rest)
    rw [resample, List.map_map, List.map_cons, resampleHtf_cons, resampleHtf_cons,
      List.map_filterMap, List.map_filterMap]
    rw [show startFrom minutes ((candleOf ∘ barOf) first) = startFrom minutes first from rfl,
      ← List.map_cons, cut, List.filterMap_map]
    apply List.filterMap_congr
    intro group _
    exact groupRow_barOf _ group (fun _ => rfl)

end Resampling

/-! ## What the scan says of them -/

/-- The zone that the last bar of a frame makes. -/
def Newest (rows : List Bar) (zone : Zone Trigger) : Prop :=
  zone.toSetup = setupAt htfRule rows (rows.length - 1)

/-- What was said of a zone stands, and only the lower edge and the trigger of the zone of
the last bar may have moved, downwards. -/
structure Stands (rows : List Bar) (forming complete : Zone Trigger) : Prop where
  refTs : complete.refTs = forming.refTs
  entry : complete.entry = forming.entry
  stop : complete.sl = forming.sl
  high : complete.zoneHigh = forming.zoneHigh
  edges : complete.zoneLow = forming.zoneLow ∧ complete.tag = forming.tag ∨
    Newest rows forming ∧ complete.zoneLow ≤ forming.zoneLow ∧
      complete.tag.zoneTrigger ≤ forming.tag.zoneTrigger
  trapped : forming.status = .trapped →
    (complete.status = .trapped ∨ complete.status = .closed) ∧
      complete.trappedOn = forming.trappedOn
  closed : forming.status = .closed → complete.status = .closed ∧
    complete.trappedOn = forming.trappedOn ∧ complete.closedOn = forming.closedOn

/-- Every verdict on the earlier frame stands in the later one. -/
def VerdictsStand (rows : List Bar) (early late : List (Entry Trigger)) : Prop :=
  ∃ kept further, late = kept ++ further ∧
    List.Forall₂ (fun e l => Stands rows e.toZone l.toZone) early kept

section Advance

variable {bar : Bar} {zone : Zone Trigger}

/-- A waiting zone is trapped by a high above its stop, and not closed by the same bar. -/
theorem advance_active (active : zone.status = .active) :
    advance htfRule bar zone = if zone.sl < bar.high then
      { zone with status := .trapped, trappedOn := some bar.datetime } else zone := by
  by_cases above : zone.sl < bar.high
  · simp [advance, finish, trap, fires, ends, htfRule, active, above]
  · simp [advance, finish, trap, fires, ends, htfRule, active, above]

/-- A trapped zone is closed by a later low at its entry. -/
theorem advance_trapped (trapped : zone.status = .trapped) :
    advance htfRule bar zone =
      if bar.low ≤ zone.entry ∧ zone.trappedOn ≠ some bar.datetime then
        { zone with status := .closed, closedOn := some bar.datetime } else zone := by
  simp [advance, finish, trap, fires, ends, htfRule, trapped]

theorem advance_closed (closed : zone.status = .closed) : advance htfRule bar zone = zone := by
  simp [advance, finish, trap, fires, ends, closed]

end Advance

section Verdicts

variable {forming complete : Bar} (widens : Widens forming complete) (rows : List Bar)

theorem stands_refl (zone : Zone Trigger) : Stands rows zone zone where
  refTs := rfl
  entry := rfl
  stop := rfl
  high := rfl
  edges := .inl ⟨rfl, rfl⟩
  trapped := fun trapped => ⟨.inl trapped, rfl⟩
  closed := fun closed => ⟨closed, rfl, rfl⟩

include widens

/-- A wider bar of the same time takes a zone at least as far. -/
theorem advance_stands (zone : Zone Trigger) :
    Stands rows (advance htfRule forming zone) (advance htfRule complete zone) := by
  cases status : zone.status with
  | active =>
    rw [advance_active status, advance_active status]
    by_cases above : zone.sl < forming.high
    · rw [if_pos above, if_pos (above.trans_le widens.high), widens.datetime]
      exact stands_refl rows _
    · rw [if_neg above]
      -- nothing was said of the zone yet
      have unsaid : zone.status ≠ .trapped ∧ zone.status ≠ .closed := by simp [status]
      split
      · exact ⟨rfl, rfl, rfl, rfl, .inl ⟨rfl, rfl⟩, fun trapped => absurd trapped unsaid.1,
          fun closed => absurd closed unsaid.2⟩
      · exact stands_refl rows zone
  | trapped =>
    rw [advance_trapped status, advance_trapped status, widens.datetime]
    by_cases back : forming.low ≤ zone.entry ∧ zone.trappedOn ≠ some forming.datetime
    · rw [if_pos back, if_pos ⟨widens.low.trans back.1, back.2⟩]
      exact stands_refl rows _
    · rw [if_neg back]
      have unclosed : zone.status ≠ .closed := by simp [status]
      split
      · exact ⟨rfl, rfl, rfl, rfl, .inl ⟨rfl, rfl⟩, fun _ => ⟨.inr rfl, rfl⟩,
          fun closed => absurd closed unclosed⟩
      · exact stands_refl rows zone
  | closed =>
    rw [advance_closed status, advance_closed status]
    exact stands_refl rows zone

/-- The zone of the last bar only moves down. -/
theorem fresh_stands (prev : Bar)
    (newest : setupAt htfRule rows (rows.length - 1) = htfRule.make prev forming) :
    Stands rows (fresh (htfRule.make prev forming)) (fresh (htfRule.make prev complete)) := by
  constructor
  case refTs => rfl
  case entry => rfl
  case stop => rfl
  case high => rfl
  case edges =>
    refine .inr ⟨newest.symm, widens.low, ?_⟩
    show complete.low + (prev.low - complete.low) / 3 ≤ forming.low + (prev.low - forming.low) / 3
    linarith [widens.low]
  case trapped =>
    intro trapped
    cases trapped
  case closed =>
    intro closed
    cases closed

/-- The zones of the two frames. -/
theorem zones_stand (early : List Bar) (nonempty : early ≠ []) :
    ∃ kept further, zonesOf htfRule (early ++ [complete]) = kept ++ further ∧
      List.Forall₂ (Stands (early ++ [forming])) (zonesOf htfRule (early ++ [forming])) kept := by
  have prior : List.Forall₂ (Stands (early ++ [forming]))
      ((zonesOf htfRule early).map (advance htfRule forming))
      ((zonesOf htfRule early).map (advance htfRule complete)) := by
    rw [List.forall₂_map_left_iff, List.forall₂_map_right_iff, List.forall₂_same]
    exact fun zone _ => advance_stands widens _ zone
  have newest : setupAt htfRule (early ++ [forming]) ((early ++ [forming]).length - 1) =
      htfRule.make (barAt early (early.length - 1)) forming := by
    have positive := List.length_pos_iff.mpr nonempty
    rw [List.length_append, List.length_singleton, Nat.add_sub_cancel, setupAt, barAt_end,
      barAt_append _ (by omega)]
  rw [zonesOf_snoc htfRule early forming nonempty, zonesOf_snoc htfRule early complete nonempty]
  cases lower : htfRule.setup (barAt early (early.length - 1)) forming with
  | false =>
    refine ⟨_, _, rfl, ?_⟩
    simpa [born, lower] using prior
  | true =>
    have below : forming.low < (barAt early (early.length - 1)).low := of_decide_eq_true lower
    have still : htfRule.setup (barAt early (early.length - 1)) complete = true :=
      decide_eq_true (widens.low.trans_lt below)
    refine ⟨_, [], (List.append_nil _).symm, ?_⟩
    apply List.rel_append prior
    rw [born, born, if_pos lower, if_pos still]
    exact .cons (fresh_stands widens _ _ newest) .nil

end Verdicts

theorem scanHtf_zones (rows : List Bar) :
    (scanHtf rows).2.map Entry.toZone = zonesOf htfRule rows := scanBars_zones htfRule rows

/-- Fewer than two rows make no zone. -/
theorem scanHtf_short {rows : List Bar} (short : rows.length < 2) : (scanHtf rows).2 = [] := by
  match rows, short with
  | [], _ => rfl
  | [row], _ => rfl

/-- The scan of a table whose last candle is incomplete, and the scan of the complete one. -/
theorem scanHtf_stands {minutes : Nat} {df further : List Bar}
    (inside : InLastBucket minutes df further) :
    VerdictsStand (resample minutes df) (scanHtf (resample minutes df)).2
      (scanHtf (resample minutes (df ++ further))).2 := by
  by_cases empty : df = []
  · subst empty
    exact ⟨[], _, rfl, .nil⟩
  obtain ⟨early, forming, complete, before, after, widens⟩ := resample_further empty inside
  rw [before, after]
  by_cases alone : early = []
  · subst alone
    rw [scanHtf_short (by simp)]
    exact ⟨[], _, rfl, .nil⟩
  obtain ⟨kept, further, grown, stand⟩ := zones_stand widens early alone
  rw [← scanHtf_zones] at grown stand
  obtain ⟨entries, others, split, zones, _⟩ := List.map_eq_append_iff.mp grown
  refine ⟨entries, others, split, ?_⟩
  rw [← zones, List.forall₂_map_left_iff, List.forall₂_map_right_iff] at stand
  exact stand

/-! ## The 15-minute gate -/

section Gate

variable {frames : ScanFrames} {todayBars further : List StoredBar}
  {htfZone : Option (Entry SpotTag)}

/-- A closed 15-minute zone that lies in the zone of the higher timeframe, if there is one. -/
structure Opens (htfZone : Option (Entry SpotTag)) (entry : Entry Trigger) : Prop where
  closed : entry.status = .closed
  within : ∀ zone ∈ htfZone, zone.zoneLow ≤ entry.zoneHigh ∧ entry.zoneHigh ≤ zone.zoneHigh

/-- The zones that the gate selects from. -/
def gateZones (htfZone : Option (Entry SpotTag)) (rows : List Bar) : List (Entry Trigger) :=
  match htfZone with
  | none => (scanHtf rows).2.filter isClosed
  | some zone => ((scanHtf rows).2.filter isClosed).filter (fun e =>
      decide (zone.zoneLow ≤ e.zoneHigh ∧ e.zoneHigh ≤ zone.zoneHigh))

theorem mem_gateZones {rows : List Bar} {entry : Entry Trigger} :
    entry ∈ gateZones htfZone rows ↔ entry ∈ (scanHtf rows).2 ∧ Opens htfZone entry := by
  cases htfZone with
  | none =>
    rw [gateZones, List.mem_filter, isClosed, decide_eq_true_iff]
    exact and_congr_right fun _ =>
      ⟨fun closed => ⟨closed, by simp⟩, fun opens => opens.closed⟩
  | some zone =>
    rw [gateZones, List.mem_filter, List.mem_filter, isClosed, decide_eq_true_iff,
      decide_eq_true_iff, and_assoc]
    exact and_congr_right fun _ =>
      ⟨fun opens => ⟨opens.1, by simpa using opens.2⟩,
        fun opens => ⟨opens.closed, opens.within zone rfl⟩⟩

/-- The gate of a table that can be read. -/
theorem findClosed15mZone_eq {df : List Bar} (enough : 2 ≤ todayBars.length)
    (read : frames.table todayBars = .ok df) :
    findClosed15mZone frames todayBars htfZone =
      .ok (latestClosed frames (gateZones htfZone (frames.candles 15 df))) := by
  rw [findClosed15mZone, if_neg (Nat.not_lt.mpr enough), read]
  dsimp only
  by_cases few : (frames.candles 15 df).length < 2
  · rw [if_pos few]
    cases htfZone <;> rw [gateZones, scanHtf_short few] <;> rfl
  · rw [if_neg few]
    cases htfZone <;> rfl

/-- The gate is passed if some zone of the table opens it. -/
theorem gate_iff (tabulates : Tabulates frames) (resamples : frames.candles = resample) :
    (∃ gate, findClosed15mZone frames todayBars htfZone = .ok (some gate)) ↔
      2 ≤ todayBars.length ∧ (∃ df, frames.table todayBars = .ok df) ∧
        ∃ entry ∈ (scanHtf (resample 15 (todayBars.map rowOf))).2, Opens htfZone entry := by
  by_cases short : todayBars.length < 2
  · rw [findClosed15mZone, if_pos short]
    constructor
    · rintro ⟨gate, none⟩
      cases none
    · rintro ⟨enough, _⟩
      omega
  have enough : 2 ≤ todayBars.length := Nat.not_lt.mp short
  cases read : frames.table todayBars with
  | error error => simp [findClosed15mZone, short, read]
  | ok df =>
    obtain rfl := tabulates.rows _ _ read
    rw [findClosed15mZone_eq enough read, resamples]
    constructor
    · rintro ⟨gate, selected⟩
      have member := List.argmax_mem (Except.ok.inj selected)
      exact ⟨enough, ⟨_, rfl⟩, gate, mem_gateZones.mp member⟩
    · rintro ⟨_, _, entry, member⟩
      have listed := mem_gateZones.mpr member
      have nonempty : latestClosed frames
          (gateZones htfZone (resample 15 (todayBars.map rowOf))) ≠ none := by
        intro none
        rw [List.argmax_eq_none.mp none] at listed
        cases listed
      obtain ⟨gate, selected⟩ := Option.ne_none_iff_exists'.mp nonempty
      exact ⟨gate, congrArg Except.ok selected⟩

/-- A related list has a partner for each item. -/
theorem exists_partner {α β : Type} {related : α → β → Prop} {items : List α} {others : List β}
    (partners : List.Forall₂ related items others) {item : α} (member : item ∈ items) :
    ∃ other ∈ others, related item other := by
  induction partners with
  | nil => cases member
  | cons first _ inductionHypothesis =>
    rcases List.mem_cons.mp member with rfl | rest
    · exact ⟨_, List.mem_cons_self, first⟩
    · obtain ⟨other, found, partner⟩ := inductionHypothesis rest
      exact ⟨other, List.mem_cons_of_mem _ found, partner⟩

/-- A gate that an unfinished candle passes is passed by the finished one. -/
theorem gate_stands (tabulates : Tabulates frames) (resamples : frames.candles = resample)
    (inside : InLastBucket 15 (todayBars.map rowOf) (further.map rowOf))
    (reads : ∃ df, frames.table (todayBars ++ further) = .ok df)
    (passed : ∃ gate, findClosed15mZone frames todayBars htfZone = .ok (some gate)) :
    ∃ gate, findClosed15mZone frames (todayBars ++ further) htfZone = .ok (some gate) := by
  obtain ⟨enough, _, entry, member, opens⟩ := (gate_iff tabulates resamples).mp passed
  obtain ⟨kept, others, grown, stand⟩ := scanHtf_stands inside
  obtain ⟨later, found, stands⟩ := exists_partner stand member
  refine (gate_iff tabulates resamples).mpr ⟨?_, reads, later, ?_, ?_, ?_⟩
  · rw [List.length_append]
    omega
  · rw [List.map_append, grown]
    exact List.mem_append_left _ found
  · exact (stands.closed opens.closed).1
  · rw [stands.high]
    exact opens.within

end Gate

/-- What `scan_htf` says of a candle that is still forming stands when the candle is
complete, and a 15-minute gate that the candle passes stays open. -/
theorem forming_verdicts_final :
    (∀ (minutes : Nat) (df further : List Bar), InLastBucket minutes df further →
      VerdictsStand (resample minutes df) (scanHtf (resample minutes df)).2
        (scanHtf (resample minutes (df ++ further))).2) ∧
    ∀ frames : ScanFrames, Tabulates frames → frames.candles = resample →
      ∀ (todayBars further : List StoredBar) (htfZone : Option (Entry SpotTag)),
        InLastBucket 15 (todayBars.map rowOf) (further.map rowOf) →
        (∃ df, frames.table (todayBars ++ further) = .ok df) →
        (∃ gate, findClosed15mZone frames todayBars htfZone = .ok (some gate)) →
        ∃ gate, findClosed15mZone frames (todayBars ++ further) htfZone = .ok (some gate) := by
  constructor
  · intro minutes df further inside
    exact scanHtf_stands inside
  · intro frames tabulates resamples todayBars further htfZone inside reads passed
    exact gate_stands tabulates resamples inside reads passed

section Morning

open FuturesStops (futureBar)

def pandasFrames : ScanFrames where
  table bars := .ok (bars.map rowOf)
  candles := resample
  text := toString

theorem pandasFrames_tabulates : Tabulates pandasFrames where
  rows := fun _ _ read => (Except.ok.inj read).symm
  reads := fun bars _ => ⟨bars.map rowOf, rfl⟩

/-- A zone from 95 to 100 that is trapped, and closed by the first minute of a candle. -/
def morning : List StoredBar :=
  [futureBar 555 105 100 101, futureBar 570 102 95 100, futureBar 585 106 101 105,
    futureBar 600 104 99 100]

/-- A later minute of this candle. -/
def laterMinute : StoredBar := futureBar 607 108 94 97

theorem morning_passes :
    ∃ gate, findClosed15mZone pandasFrames morning none = .ok (some gate) := by
  have closes : (scanHtf (resample 15 (morning.map rowOf))).2.any isClosed = true := by
    decide +kernel
  obtain ⟨entry, member, closed⟩ := List.any_eq_true.mp closes
  apply (gate_iff pandasFrames_tabulates rfl).mpr
  exact ⟨by decide, ⟨_, rfl⟩, entry, member, of_decide_eq_true closed, by simp⟩

theorem forming_verdicts_final_in_the_morning :
    VerdictsStand (resample 15 (morning.map rowOf)) (scanHtf (resample 15 (morning.map rowOf))).2
        (scanHtf (resample 15 (morning.map rowOf ++ [rowOf laterMinute]))).2 ∧
      ∃ gate, findClosed15mZone pandasFrames (morning ++ [laterMinute]) none =
        .ok (some gate) :=
  ⟨forming_verdicts_final.1 15 _ _ (by decide +kernel),
    forming_verdicts_final.2 pandasFrames pandasFrames_tabulates rfl morning [laterMinute] none
      (by decide +kernel) ⟨_, rfl⟩ morning_passes⟩

end Morning

end OptionChain.FormingBars
