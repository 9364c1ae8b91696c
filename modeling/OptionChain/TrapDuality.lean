import OptionChain.TrapGrowth

/-!
# Bears, bulls and `scan_htf`

The bear and the bull loop are one loop seen in a mirror: negate the prices and
exchange highs with lows. A translation of bars and zones that commutes with a
rule's setup, trap and return carries one loop's zones to the other's, whatever
the tags and the event rows are; the mirror is one such translation and dropping
the trigger of an HTF zone is another.
-/

namespace OptionChain.TrapDuality

open TrapScanner TrapZones TrapGrowth

/-- Rules that agree after translating bars and setups. -/
structure Translates {τ ρ τ' ρ' : Type} (rule : TrapRule τ ρ) (other : TrapRule τ' ρ')
    (bar : Bar → Bar) (setup : Setup τ → Setup τ') : Prop where
  datetime : ∀ b, (bar b).datetime = b.datetime
  setups : ∀ prev curr, other.setup (bar prev) (bar curr) = rule.setup prev curr
  makes : ∀ prev curr, other.make (bar prev) (bar curr) = setup (rule.make prev curr)
  traps : ∀ b s, other.traps (bar b) (setup s) = rule.traps b s
  returns : ∀ b s, other.returns (bar b) (setup s) = rule.returns b s
  excludes : other.excludesTrapBar = rule.excludesTrapBar

/-- A translation that undoes itself works in both directions. -/
theorem Translates.reverse {τ ρ ρ' : Type} {rule : TrapRule τ ρ} {other : TrapRule τ ρ'}
    {bar : Bar → Bar} {setup : Setup τ → Setup τ} (agree : Translates rule other bar setup)
    (bars : Function.Involutive bar) (setups : Function.Involutive setup) :
    Translates other rule bar setup := by
  constructor
  case datetime => exact agree.datetime
  case setups =>
    intro prev curr
    rw [← agree.setups, bars, bars]
  case makes =>
    intro prev curr
    rw [← setups (rule.make _ _), ← agree.makes, bars, bars]
  case traps =>
    intro b s
    rw [← agree.traps, bars, setups]
  case returns =>
    intro b s
    rw [← agree.returns, bars, setups]
  case excludes => exact agree.excludes.symm

/-- Translate what a setup fixed and keep the life. -/
def translate {τ τ' : Type} (setup : Setup τ → Setup τ') (zone : Zone τ) : Zone τ' where
  toSetup := setup zone.toSetup
  status := zone.status
  trappedOn := zone.trappedOn
  closedOn := zone.closedOn

theorem translate_toSetup {τ τ' : Type} (setup : Setup τ → Setup τ') (zone : Zone τ) :
    (translate setup zone).toSetup = setup zone.toSetup := rfl

section Translation

variable {τ ρ τ' ρ' : Type} {rule : TrapRule τ ρ} {other : TrapRule τ' ρ'} {bar : Bar → Bar}
  {setup : Setup τ → Setup τ'} (agree : Translates rule other bar setup)

include agree

/-- The translated loop body does what the original one does. -/
theorem advance_translate (b : Bar) (zone : Zone τ) :
    advance other (bar b) (translate setup zone) = translate setup (advance rule b zone) := by
  have trapped : trap other (bar b) (translate setup zone) =
      translate setup (trap rule b zone) := by
    have same : fires other (bar b) (translate setup zone) = fires rule b zone := by
      rw [fires, translate_toSetup, agree.traps]
      rfl
    unfold trap
    rw [same]
    split
    · simp [translate, agree.datetime]
    · rfl
  have finished : ∀ z, finish other (bar b) (translate setup z) =
      translate setup (finish rule b z) := by
    intro z
    have same : ends other (bar b) (translate setup z) = ends rule b z := by
      rw [ends, translate_toSetup, agree.returns, agree.excludes, agree.datetime]
      rfl
    unfold finish
    rw [same]
    split
    · simp [translate, agree.datetime]
    · rfl
  rw [advance, trapped, finished, advance]

theorem born_translate (prev curr : Bar) :
    born other (bar prev) (bar curr) = (born rule prev curr).map (translate setup) := by
  unfold born
  rw [agree.setups, agree.makes]
  split <;> rfl

/-- The zones of the translated frame are the translated zones. -/
theorem zonesOf_translate (bars : List Bar) :
    zonesOf other (bars.map bar) = (zonesOf rule bars).map (translate setup) := by
  induction bars using List.reverseRecOn with
  | nil => rfl
  | append_singleton bars b inductionHypothesis =>
    by_cases empty : bars = []
    · subst empty
      simp [zonesOf_singleton]
    · have positive : 0 < bars.length := List.length_pos_iff.mpr empty
      have mapped : barAt (bars.map bar) ((bars.map bar).length - 1) =
          bar (barAt bars (bars.length - 1)) := by
        have last : bars.length - 1 < bars.length := by omega
        simp [barAt, last]
      have advanced : advance other (bar b) ∘ translate setup =
          translate setup ∘ advance rule b := funext (advance_translate agree b)
      rw [List.map_append, List.map_singleton, zonesOf_snoc other _ _ (by simpa using empty),
        zonesOf_snoc rule bars b empty, inductionHypothesis, mapped, born_translate agree,
        List.map_append, List.map_map, List.map_map, advanced]

end Translation

/-- `low' = -high` and `high' = -low`. -/
def negate (b : Bar) : Bar where
  datetime := b.datetime
  high := -b.low
  low := -b.high
  close := -b.close

def otherKind : Kind → Kind
  | .bear => .bull
  | .bull => .bear

def otherDirection : Direction → Direction
  | .bullish => .bearish
  | .bearish => .bullish

/-- Negated prices, exchanged bounds, and the other kind. -/
def mirror (s : Setup SpotTag) : Setup SpotTag where
  refTs := s.refTs
  entry := -s.entry
  sl := -s.sl
  zoneHigh := -s.zoneLow
  zoneLow := -s.zoneHigh
  tag := ⟨otherKind s.tag.kind, otherDirection s.tag.direction⟩

/-- Every comparison of the bull loop is a bear comparison of negated prices. -/
theorem bull_mirrors_bear : Translates bearRule bullRule negate mirror := by
  constructor
  case datetime => exact fun _ => rfl
  case setups => simp [bearRule, bullRule, negate]
  case makes => simp [bearRule, bullRule, negate, mirror, otherKind, otherDirection]
  case traps => simp [bearRule, bullRule, negate, mirror]
  case returns => simp [bearRule, bullRule, negate, mirror]
  case excludes => rfl

theorem negate_involutive : Function.Involutive negate := by
  intro b
  simp [negate]

theorem mirror_involutive : Function.Involutive mirror := by
  rintro ⟨refTs, entry, sl, zoneHigh, zoneLow, kind, direction⟩
  cases kind <;> cases direction <;> simp [mirror, otherKind, otherDirection]

theorem bear_mirrors_bull : Translates bullRule bearRule negate mirror :=
  bull_mirrors_bear.reverse negate_involutive mirror_involutive

/-- An HTF setup as a bear setup of the spot scan. -/
def asBear (s : Setup Trigger) : Setup SpotTag :=
  { s with tag := ⟨.bear, .bullish⟩ }

/-- The bear loop of the spot scan is the loop of `scan_htf` without the trigger. -/
theorem bear_repeats_htf : Translates htfRule bearRule id asBear := by
  constructor
  case datetime => exact fun _ => rfl
  case setups => exact fun _ _ => rfl
  case makes => exact fun _ _ => rfl
  case traps => exact fun _ _ => rfl
  case returns => exact fun _ _ => rfl
  case excludes => rfl

/-- The zones of one kind in a spot scan. -/
def spotZones (kind : Kind) (bars : List Bar) : List (Zone SpotTag) :=
  (ofKind kind (scanHtfSpot bars).2).map Entry.toZone

theorem spotZones_bear (bars : List Bar) : spotZones .bear bars = zonesOf bearRule bars := by
  rw [spotZones, (scanHtfSpot_kinds bars).1, (spotBars_zones bars).1]

theorem spotZones_bull (bars : List Bar) : spotZones .bull bars = zonesOf bullRule bars := by
  rw [spotZones, (scanHtfSpot_kinds bars).2, (spotBars_zones bars).2]

/-- Negating prices exchanges the bear and the bull zones, negated and with their
bounds exchanged, and changes no status and no time; the bear zones are those of
`scan_htf`. -/
theorem spot_scan_duality (bars : List Bar) :
    spotZones .bull (bars.map negate) = (spotZones .bear bars).map (translate mirror) ∧
      spotZones .bear (bars.map negate) = (spotZones .bull bars).map (translate mirror) ∧
      spotZones .bear bars = ((scanHtf bars).2.map Entry.toZone).map (translate asBear) := by
  refine ⟨?_, ?_, ?_⟩
  · rw [spotZones_bull, spotZones_bear]
    exact zonesOf_translate bull_mirrors_bear bars
  · rw [spotZones_bear, spotZones_bull]
    exact zonesOf_translate bear_mirrors_bull bars
  · have zones : (scanHtf bars).2.map Entry.toZone = zonesOf htfRule bars :=
      scanBars_zones htfRule bars
    have same := zonesOf_translate bear_repeats_htf bars
    rw [List.map_id] at same
    rw [spotZones_bear, zones, same]

end OptionChain.TrapDuality
