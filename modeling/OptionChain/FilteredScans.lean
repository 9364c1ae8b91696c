import Mathlib.Data.List.Basic
import Mathlib.Data.List.Nodup
import OptionChain.TrapGrowth
import OptionChain.TrapOrder

/-!
# Scans inside a zone and scans of the whole frame

`scan_ltf` and `scan_ltf_bull` first drop the bars outside the band of a parent
zone and then scan what is left, so a setup may straddle dropped bars. A zone of
such a scan is compared with the zones that the scan of the whole frame opens at
the same reference bar: both wait for a bar beyond the far side of that one bar,
and the whole frame shows every bar that the filter keeps.

The reference bar is told from the others by its timestamp.
-/

namespace OptionChain.FilteredScans

open TrapScanner TrapZones TrapGrowth

/-! ## The rows that pass a filter -/

section Rows

variable {β : Type} {keep : β → Bool}

/-- Two neighbours among the kept rows have only dropped rows between them. -/
theorem exists_gap {rows early late : List β} {first second : β}
    (kept : rows.filter keep = early ++ first :: second :: late) :
    ∃ before between after, rows = before ++ first :: (between ++ second :: after) ∧
      keep first = true ∧ keep second = true ∧ (∀ b ∈ between, keep b = false) ∧
      after.filter keep = late := by
  obtain ⟨left, right, split, -, keptRight⟩ := List.filter_eq_append_iff.mp kept
  obtain ⟨gap, rest, opened, -, firstKept, keptRest⟩ := List.filter_eq_cons_iff.mp keptRight
  obtain ⟨between, after, closed, dropped, secondKept, keptAfter⟩ :=
    List.filter_eq_cons_iff.mp keptRest
  refine ⟨left ++ gap, between, after, ?_, firstKept, secondKept, ?_, keptAfter⟩
  · rw [split, opened, closed, List.append_assoc]
  · intro b inside
    exact Bool.not_eq_true _ ▸ dropped b inside

/-- The first match lies no later than any match. -/
theorem find?_within (test : β → Bool) {b : β} (holds : test b = true) (early late : List β) :
    ∃ first ∈ early ++ [b], (early ++ b :: late).find? test = some first := by
  have matched : ((early ++ [b]).find? test).isSome = true := by
    rw [List.find?_isSome]
    exact ⟨b, by simp, holds⟩
  obtain ⟨first, found⟩ := Option.isSome_iff_exists.mp matched
  refine ⟨first, List.mem_of_find?_eq_some found, ?_⟩
  rw [List.append_cons, List.find?_append, found]
  rfl

/-- The rows around a row are determined by its key. -/
theorem split_unique {κ : Type} {key : β → κ} {early late others rest : List β} {b other : β}
    (distinct : ((early ++ b :: late).map key).Nodup)
    (split : early ++ b :: late = others ++ other :: rest) (same : key b = key other) :
    b = other ∧ late = rest := by
  have here : b ∈ early ++ b :: late := by simp
  have there : other ∈ early ++ b :: late := by
    rw [split]
    simp
  have one : b = other := List.inj_on_of_nodup_map distinct here there same
  subst one
  have apart : b ∉ early ∧ b ∉ late := by
    have rows : (b :: (early ++ late)).Nodup :=
      List.perm_middle.nodup_iff.mp (List.Nodup.of_map key distinct)
    simpa using (List.nodup_cons.mp rows).1
  exact ⟨rfl, ((List.append_cons_inj_of_notMem apart.1 apart.2).mp split).2.2⟩

end Rows

/-! ## One zone -/

section Life

variable {τ ρ : Type} {rule : TrapRule τ ρ}

/-- Bars that do not trap leave an ACTIVE zone alone. -/
theorem follow_fresh {setup : Setup τ} {bars : List Bar}
    (spared : ∀ b ∈ bars, rule.traps b setup = false) :
    follow rule bars (fresh setup) = fresh setup := by
  induction bars using List.reverseRecOn with
  | nil => rfl
  | append_singleton bars b inductionHypothesis =>
    have last : rule.traps b setup = false := spared b (by simp)
    have before : follow rule bars (fresh setup) = fresh setup :=
      inductionHypothesis (fun b inside => spared b (List.mem_append_left _ inside))
    rw [follow_snoc, before]
    simp [advance, trap, finish, fires, ends, fresh, last]

/-- The bar that traps an ACTIVE zone dates the trap. -/
theorem advance_trapped {setup : Setup τ} {b : Bar} (traps : rule.traps b setup = true) :
    (advance rule b (fresh setup)).status ≠ .active ∧
      (advance rule b (fresh setup)).trappedOn = some b.datetime := by
  have fired : trap rule b (fresh setup) =
      { fresh setup with status := .trapped, trappedOn := some b.datetime } := by
    simp [trap, fires, fresh, traps]
  rw [advance, fired, finish]
  split <;> simp

/-- A zone leaves ACTIVE at the first bar that traps it, for good. -/
theorem follow_first (setup : Setup τ) (bars : List Bar) :
    match bars.find? (fun b => rule.traps b setup) with
    | none => (follow rule bars (fresh setup)).status = .active
    | some b => (follow rule bars (fresh setup)).status ≠ .active ∧
        (follow rule bars (fresh setup)).trappedOn = some b.datetime := by
  cases first : bars.find? (fun b => rule.traps b setup) with
  | none =>
    have spared : ∀ b ∈ bars, rule.traps b setup = false := by simpa using first
    dsimp only
    rw [follow_fresh spared]
    rfl
  | some b =>
    obtain ⟨traps, early, late, split, before⟩ := List.find?_eq_some_iff_append.mp first
    have spared : ∀ b ∈ early, rule.traps b setup = false := by simpa using before
    have shown : follow rule bars (fresh setup) =
        follow rule late (advance rule b (fresh setup)) := by
      rw [split, List.append_cons, follow_append, follow_snoc, follow_fresh spared]
    obtain ⟨left, dated⟩ := advance_trapped traps
    have further := follow_advances rule late (advance rule b (fresh setup))
    rw [shown]
    constructor
    · intro back
      have forward := further.forward
      cases status : (advance rule b (fresh setup)).status <;>
        simp [back, status, rank] at left forward
    · rw [further.trapKept left, dated]

end Life

/-! ## A filtered zone in the whole frame -/

/-- A setup without its tag. -/
def plain {τ : Type} (setup : Setup τ) : Setup Unit := { setup with tag := () }

/-- Where the reference bar and the setup bar of a filtered zone stand in the whole frame. -/
structure Site where
  early : List Bar
  reference : Bar
  between : List Bar
  setup : Bar
  late : List Bar

namespace Site

variable (site : Site)

def bars : List Bar :=
  site.early ++ site.reference :: (site.between ++ site.setup :: site.late)

/-- The bar right after the reference bar. -/
def next : Bar := site.between.headD site.setup

/-- The bars after that one, up to the setup bar. -/
def gap : List Bar := (site.between ++ [site.setup]).tail

theorem bars_eq :
    site.bars = site.early ++ site.reference :: site.next :: (site.gap ++ site.late) := by
  unfold bars next gap
  cases site.between with
  | nil => rfl
  | cons b rest => simp

end Site

/-- The zone is the setup of two bars that are neighbours among the kept ones. -/
structure Straddles {τ ρ υ : Type} (rule : TrapRule τ ρ) (keep : Bar → Bool) (bars : List Bar)
    (zone : Zone υ) (site : Site) : Prop where
  frame : bars = site.bars
  reference : keep site.reference = true
  setup : keep site.setup = true
  between : ∀ b ∈ site.between, keep b = false
  makes : rule.setup site.reference site.setup = true
  made : plain zone.toSetup = plain (rule.make site.reference site.setup)

/-- What the scan of the whole frame holds at the reference bar of a filtered zone: an entry
if the next bar makes a setup, and that entry trapped once the filtered zone is. -/
structure Foreseen {τ ρ σ υ : Type} (rule : TrapRule τ ρ) (bars : List Bar)
    (whole : List (Entry σ)) (zone : Zone υ) (site : Site) : Prop where
  listed : (∃ other ∈ whole, other.refTs = zone.refTs) ↔
    rule.setup site.reference site.next = true
  levels : ∀ other ∈ whole, other.refTs = zone.refTs →
    other.entry = zone.entry ∧ other.sl = zone.sl
  adjacent : site.between = [] → ∃ other ∈ whole, plain other.toSetup = plain zone.toSetup
  trapped : zone.status ≠ .active →
    ∃ before bar after, bars = before ++ bar :: after ∧ zone.trappedOn = some bar.datetime ∧
      ∀ other ∈ whole, other.refTs = zone.refTs → other.status ≠ .active ∧
        ∃ earlier ∈ before ++ [bar], other.trappedOn = some earlier.datetime

section Sides

variable {τ ρ σ κ : Type}

/-- Two rules that watch the same side of a reference bar, whatever bar follows it. -/
structure SameSide (inside : TrapRule τ ρ) (whole : TrapRule σ κ) : Prop where
  setup : inside.setup = whole.setup
  make : ∀ prev curr, plain (whole.make prev curr) = plain (inside.make prev curr)
  refTs : ∀ prev curr, (inside.make prev curr).refTs = prev.datetime
  entry : ∀ prev curr other, (whole.make prev other).entry = (inside.make prev curr).entry
  sl : ∀ prev curr other, (whole.make prev other).sl = (inside.make prev curr).sl
  traps : ∀ prev curr other b,
    whole.traps b (whole.make prev other) = inside.traps b (inside.make prev curr)

variable {inside : TrapRule τ ρ} {whole : TrapRule σ κ} {site : Site}

theorem SameSide.whole_refTs (side : SameSide inside whole) (prev curr : Bar) :
    (whole.make prev curr).refTs = prev.datetime := by
  rw [← side.refTs prev curr]
  exact congrArg Setup.refTs (side.make prev curr)

/-- The zone of the filtered frame here. -/
def Site.keptZone (site : Site) (rule : TrapRule τ ρ) (keep : Bar → Bool) : Zone τ :=
  follow rule (site.late.filter keep) (fresh (rule.make site.reference site.setup))

/-- The zone of the whole frame with this reference bar, if there is one. -/
def Site.wholeZone (site : Site) (rule : TrapRule τ ρ) : Zone τ :=
  follow rule (site.gap ++ site.late) (fresh (rule.make site.reference site.next))

@[simp] theorem Site.keptZone_setup (rule : TrapRule τ ρ) (keep : Bar → Bool) :
    (site.keptZone rule keep).toSetup = rule.make site.reference site.setup :=
  follow_setup rule _ _

@[simp] theorem Site.wholeZone_setup (rule : TrapRule τ ρ) :
    (site.wholeZone rule).toSetup = rule.make site.reference site.next :=
  follow_setup rule _ _

/-- Every zone of a filtered frame has a site. -/
theorem exists_site {keep : Bar → Bool} {bars : List Bar} {zone : Zone τ}
    (listed : zone ∈ zonesOf inside (bars.filter keep)) :
    ∃ site, Straddles inside keep bars zone site ∧ zone = site.keptZone inside keep := by
  obtain ⟨early, prev, curr, late, kept, makes, rfl⟩ := (mem_zonesOf inside).mp listed
  obtain ⟨before, between, after, split, prevKept, currKept, dropped, rfl⟩ := exists_gap kept
  refine ⟨⟨before, prev, between, curr, after⟩, ?_, rfl⟩
  exact ⟨split, prevKept, currKept, dropped, makes, by rw [follow_setup]⟩

/-- The whole frame opens at most one zone at the reference bar, and when. -/
theorem site_zone (side : SameSide inside whole) (distinct : (site.bars.map Bar.datetime).Nodup)
    {other : Zone σ} :
    other ∈ zonesOf whole site.bars ∧ other.refTs = site.reference.datetime ↔
      whole.setup site.reference site.next = true ∧ other = site.wholeZone whole := by
  rw [site.bars_eq] at distinct ⊢
  constructor
  · rintro ⟨listed, same⟩
    obtain ⟨early, prev, curr, late, split, makes, rfl⟩ := (mem_zonesOf whole).mp listed
    rw [follow_setup, side.whole_refTs] at same
    obtain ⟨rfl, rest⟩ := split_unique distinct split same.symm
    obtain ⟨rfl, rfl⟩ := List.cons_eq_cons.mp rest
    exact ⟨makes, rfl⟩
  · rintro ⟨makes, rfl⟩
    refine ⟨(mem_zonesOf whole).mpr ⟨_, _, _, _, rfl, makes, rfl⟩, ?_⟩
    rw [Site.wholeZone_setup, side.whole_refTs]

section Entries

variable {entries : List (Entry σ)} (side : SameSide inside whole)
  (distinct : (site.bars.map Bar.datetime).Nodup)
  (zones : entries.map Entry.toZone = zonesOf whole site.bars)
include side distinct zones

theorem entry_at_site {other : Entry σ} (member : other ∈ entries)
    (same : other.refTs = site.reference.datetime) :
    whole.setup site.reference site.next = true ∧ other.toZone = site.wholeZone whole :=
  (site_zone side distinct).mp ⟨zones ▸ List.mem_map_of_mem member, same⟩

theorem exists_entry_at_site (makes : whole.setup site.reference site.next = true) :
    ∃ other ∈ entries, other.toZone = site.wholeZone whole := by
  have found := ((site_zone side distinct).mpr ⟨makes, rfl⟩).1
  rw [← zones] at found
  exact List.mem_map.mp found

end Entries

/-- The whole frame shows every kept bar, so its zone is trapped no later. -/
theorem trap_foreseen (side : SameSide inside whole) {keep : Bar → Bool}
    (left : (site.keptZone inside keep).status ≠ .active) :
    ∃ before bar after, site.bars = before ++ bar :: after ∧
      (site.keptZone inside keep).trappedOn = some bar.datetime ∧
      (site.wholeZone whole).status ≠ .active ∧
      ∃ earlier ∈ before ++ [bar], (site.wholeZone whole).trappedOn = some earlier.datetime := by
  have seen := @follow_first τ ρ inside (inside.make site.reference site.setup)
    (site.late.filter keep)
  rw [List.find?_filter] at seen
  cases found : site.late.find? (fun b =>
      decide (keep b = true ∧ inside.traps b (inside.make site.reference site.setup) = true)) with
  | none =>
    rw [found] at seen
    exact (left seen).elim
  | some bar =>
    rw [found] at seen
    obtain ⟨matched, early, after, split, -⟩ := List.find?_eq_some_iff_append.mp found
    have traps : whole.traps bar (whole.make site.reference site.next) = true := by
      rw [side.traps site.reference site.setup]
      exact (of_decide_eq_true matched).2
    -- the bar that traps the filtered zone would trap the other one, if none did before
    obtain ⟨earlier, member, first⟩ := find?_within
      (fun b => whole.traps b (whole.make site.reference site.next)) traps (site.gap ++ early) after
    have life := @follow_first σ κ whole (whole.make site.reference site.next)
      (site.gap ++ site.late)
    rw [split, ← List.append_assoc, first, List.append_assoc, ← split] at life
    refine ⟨(site.early ++ [site.reference, site.next]) ++ (site.gap ++ early), bar, after, ?_,
      seen.2, life.1, earlier, ?_, life.2⟩
    · rw [site.bars_eq, split]
      simp
    · rw [List.append_assoc]
      exact List.mem_append_right _ member

/-- The zone of a site, against the entries of the whole frame. -/
theorem site_foreseen (side : SameSide inside whole) {keep : Bar → Bool}
    (distinct : (site.bars.map Bar.datetime).Nodup) {entries : List (Entry σ)}
    (zones : entries.map Entry.toZone = zonesOf whole site.bars)
    (makes : inside.setup site.reference site.setup = true) :
    Foreseen inside site.bars entries (site.keptZone inside keep) site := by
  constructor
  case listed =>
    rw [Site.keptZone_setup, side.refTs, side.setup]
    constructor
    · rintro ⟨other, member, same⟩
      exact (entry_at_site side distinct zones member same).1
    · intro next
      obtain ⟨other, member, life⟩ := exists_entry_at_site side distinct zones next
      refine ⟨other, member, ?_⟩
      rw [life, Site.wholeZone_setup, side.whole_refTs]
  case levels =>
    intro other member same
    rw [Site.keptZone_setup, side.refTs] at same
    rw [(entry_at_site side distinct zones member same).2, Site.wholeZone_setup,
      Site.keptZone_setup]
    exact ⟨side.entry _ _ _, side.sl _ _ _⟩
  case adjacent =>
    intro together
    have next : site.next = site.setup := by
      rw [Site.next, together]
      rfl
    rw [side.setup, ← next] at makes
    obtain ⟨other, member, life⟩ := exists_entry_at_site side distinct zones makes
    refine ⟨other, member, ?_⟩
    rw [life, Site.wholeZone_setup, Site.keptZone_setup, next, side.make]
  case trapped =>
    intro left
    obtain ⟨shown, bar, rest, cut, dated, gone, earlier, member, timed⟩ := trap_foreseen side left
    refine ⟨shown, bar, rest, cut, dated, ?_⟩
    intro other found same
    rw [Site.keptZone_setup, side.refTs] at same
    rw [(entry_at_site side distinct zones found same).2]
    exact ⟨gone, earlier, member, timed⟩

/-- The zones of a filtered frame, against the entries of the whole one. -/
theorem filtered_foreseen (side : SameSide inside whole) {keep : Bar → Bool} {bars : List Bar}
    (distinct : (bars.map Bar.datetime).Nodup) {entries : List (Entry σ)}
    (zones : entries.map Entry.toZone = zonesOf whole bars) {zone : Zone τ}
    (listed : zone ∈ zonesOf inside (bars.filter keep)) :
    ∃ site, Straddles inside keep bars zone site ∧ Foreseen inside bars entries zone site := by
  obtain ⟨site, straddles, rfl⟩ := exists_site listed
  refine ⟨site, straddles, ?_⟩
  rw [straddles.frame] at distinct zones ⊢
  exact site_foreseen side distinct zones straddles.makes

end Sides

/-! ## The scans of the source -/

/-- Whether `scan_ltf` keeps a bar. -/
def inBand (zone : HtfZone) (bar : Bar) : Bool :=
  bar.low ≤ zone.htfZoneHigh && bar.close ≥ zone.htfZoneLow * (95 / 100)

/-- Whether `scan_ltf_bull` keeps a bar. -/
def inBullBand (zone : HtfZone) (bar : Bar) : Bool :=
  bar.high ≥ zone.htfZoneLow && bar.close ≤ zone.htfZoneHigh * (105 / 100)

theorem htfRule_side : SameSide htfRule htfRule :=
  ⟨rfl, fun _ _ => rfl, fun _ _ => rfl, fun _ _ _ => rfl, fun _ _ _ => rfl, fun _ _ _ _ => rfl⟩

theorem bullRule_side (zone : HtfZone) : SameSide (ltfBullRule zone) bullRule :=
  ⟨rfl, fun _ _ => rfl, fun _ _ => rfl, fun _ _ _ => rfl, fun _ _ _ => rfl, fun _ _ _ _ => rfl⟩

/-- An entry of `scan_ltf` is a tagged entry of `scan_htf` on the kept bars. -/
theorem mem_scanLtf {zone : HtfZone} {bars : List Bar} {entry : Entry LtfTag}
    (member : entry ∈ (scanLtf zone bars).2) :
    ∃ bare ∈ (scanHtf (bars.filter (inBand zone))).2,
      entry = { bare with tag := ⟨bare.tag, zone⟩ } := by
  unfold scanLtf at member
  dsimp only at member
  split at member
  case isTrue short => cases member
  case isFalse enough =>
    obtain ⟨bare, listed, same⟩ := List.mem_map.mp member
    exact ⟨bare, listed, same.symm⟩

/-- The entries of the filtered scans come from neighbours among the kept bars, and a trap
they report is one that the scan of the whole frame has seen by then, wherever that scan
opened a zone at the same reference bar. -/
theorem filtered_scans_foreseen (zone : HtfZone) (bars : List Bar)
    (distinct : (bars.map Bar.datetime).Nodup) :
    (∀ entry ∈ (scanLtf zone bars).2, ∃ site,
      Straddles htfRule (inBand zone) bars entry.toZone site ∧
        Foreseen htfRule bars (scanHtf bars).2 entry.toZone site) ∧
      ∀ entry ∈ (scanLtfBull zone bars).2, ∃ site,
        Straddles (ltfBullRule zone) (inBullBand zone) bars entry.toZone site ∧
          Foreseen (ltfBullRule zone) bars (ofKind .bull (scanHtfSpot bars).2)
            entry.toZone site := by
  constructor
  · intro entry member
    obtain ⟨bare, listed, rfl⟩ := mem_scanLtf member
    have zones := scanBars_zones htfRule (bars.filter (inBand zone))
    have found : bare.toZone ∈ zonesOf htfRule (bars.filter (inBand zone)) :=
      zones ▸ List.mem_map_of_mem listed
    obtain ⟨site, straddles, foreseen⟩ := filtered_foreseen htfRule_side distinct
      (scanBars_zones htfRule bars) found
    -- no clause reads the tag
    exact ⟨site, ⟨straddles.frame, straddles.reference, straddles.setup, straddles.between,
      straddles.makes, straddles.made⟩, ⟨foreseen.listed, foreseen.levels, foreseen.adjacent,
      foreseen.trapped⟩⟩
  · intro entry member
    have found : entry.toZone ∈ zonesOf (ltfBullRule zone) (bars.filter (inBullBand zone)) :=
      TrapOrder.scanLtfBull_zones zone bars ▸ List.mem_map_of_mem member
    apply filtered_foreseen (bullRule_side zone) distinct _ found
    rw [(scanHtfSpot_kinds bars).2]
    exact (spotBars_zones bars).2

/-- The band of a parent zone. -/
def band : HtfZone := ⟨100, 90, "", "", 0⟩

/-- The bar below the band undercuts the first one, as the kept bar after it does. -/
def undercut : List Bar := [⟨0, 95, 90, 92⟩, ⟨1, 92, 80, 81⟩, ⟨2, 93, 88, 92⟩, ⟨3, 96, 90, 94⟩]

theorem filtered_scans_foreseen_below_the_band :
    ∃ entry ∈ (scanLtf band undercut).2, entry.status = .trapped ∧ ∃ site,
      Straddles htfRule (inBand band) undercut entry.toZone site ∧
        Foreseen htfRule undercut (scanHtf undercut).2 entry.toZone site := by
  have reported : ∃ entry ∈ (scanLtf band undercut).2, entry.status = .trapped := by
    decide +kernel
  obtain ⟨entry, member, trapped⟩ := reported
  exact ⟨entry, member, trapped,
    (filtered_scans_foreseen band undercut (by decide)).1 entry member⟩

/-- A bar above the band stands between the reference bar and the setup bar. -/
def straddled : List Bar := [⟨0, 95, 90, 92⟩, ⟨1, 110, 105, 107⟩, ⟨2, 93, 85, 88⟩, ⟨3, 96, 90, 94⟩]

/-- `scan_ltf` reports a trap of two bars that are no neighbours, and the scan of the whole
frame has no entry at that reference bar. -/
theorem scan_ltf_trap_across_a_dropped_bar :
    (straddled.map Bar.datetime).Nodup ∧ ∃ entry ∈ (scanLtf band straddled).2,
      entry.status = .trapped ∧
      (∀ i < straddled.length, 0 < i → plain entry.toSetup ≠
        plain (htfRule.make (barAt straddled (i - 1)) (barAt straddled i))) ∧
      ∀ other ∈ (scanHtf straddled).2, other.refTs ≠ entry.refTs := by
  decide +kernel

end OptionChain.FilteredScans
