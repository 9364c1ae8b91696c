import OptionChain.AlignedTails
import OptionChain.PoolSeeding
import OptionChain.Runs

/-!
# The minutes of a combined series

The combined series of a call and a put is added up by position from the tail, so
both legs must carry the same minutes there. A commit gives every leg that ever
ticked a bar, which keeps legs aligned that are; a leg that starts late and is
seeded afterwards has past closes where the other one has live bars.

`minutes_aligned` says which calls keep every pair aligned over a whole run.
-/

namespace OptionChain.MinuteAlignment

open Broker Buckets PoolIndicators PoolSeeding AlignedTails BoundedDeques Runs

/-- `seed_strike` on a key of the engine. -/
def seedKey (engine : Engine) (key : Key) (seeds : List Quote) : Engine :=
  { engine with
    series := Function.update engine.series key (seeded engine.maxlen (engine.series key) seeds) }

inductive Event where
  | tick (key : Key) (ltp atp : Rat)
  | commit (minute : Option Int)
  | seed (key : Key) (seeds : List Quote)

def step (engine : Engine) : Event → Engine
  | .tick key ltp atp => updateTick engine key ltp atp
  | .commit minute => commitBar engine minute
  | .seed key seeds => seedKey engine key seeds

/-- The bars of both legs whose closes are added up. -/
def legPairs (engine : Engine) (ceStrike peStrike : Int) : List (Bar × Bar) :=
  let ceBars := engine.series (ceStrike, .ce)
  let peBars := engine.series (peStrike, .pe)
  let n := min ceBars.length peBars.length
  (ceBars.rtake n).zip (peBars.rtake n)

/-- The RSI and the rate of change of a pair are those of the sums of its bars. -/
theorem pairIndicators_legPairs {engine : Engine} {ceStrike peStrike : Int} {ind : Indicators}
    (computed : pairIndicators engine ceStrike peStrike = some ind) :
    let combined := (legPairs engine ceStrike peStrike).map fun pair =>
      pair.1.close + pair.2.close
    ind.rsi = rsiOf engine combined ∧ ind.roc = rocOf engine combined := by
  simp only [pairIndicators] at computed
  split at computed
  case h_1 =>
    split at computed
    case isTrue => cases computed
    case isFalse =>
      cases computed
      simp only [legPairs, List.map_zip_eq_zipWith]
      exact ⟨rfl, rfl⟩
  case h_2 => cases computed

/-- Every combined close is of one minute. -/
def MinuteAligned (engine : Engine) : Prop :=
  ∀ ceStrike peStrike ind, pairIndicators engine ceStrike peStrike = some ind →
    ∀ pair ∈ legPairs engine ceStrike peStrike, pair.1.minute = pair.2.minute

def live (engine : Engine) (key : Key) : List Bar :=
  (engine.series key).filter (fun bar => 0 ≤ bar.minute)

/-- The legs of the other side that ever ticked. -/
def across (engine : Engine) (key : Key) : List Key :=
  engine.latest.keys.filter (fun other => other.2 ≠ key.2)

/-- A leg begins to tick before it has bars or before the other side has live ones; a
commit passes a minute of the day or finds the other side at the same minute; seeds fit,
and those of a ticking leg find on the other side as many live bars or no more bars. -/
def InStep (engine : Engine) : Event → Prop
  | .tick key _ _ =>
      key ∈ engine.latest ∨ engine.series key = [] ∨
        ∀ other ∈ across engine key, live engine other = []
  | .commit (some minute) => 0 ≤ minute
  | .commit none =>
      ∀ key ∈ engine.latest.keys, ∀ other ∈ across engine key,
        nextMinute none (engine.series key) = nextMinute none (engine.series other)
  | .seed key seeds =>
      seeds = [] ∨ seeds.length + (engine.series key).length ≤ engine.maxlen ∧
        (key ∈ engine.latest → ∀ other ∈ across engine key,
          (live engine other).length = (live engine key).length ∨
            (engine.series other).length ≤ (engine.series key).length)

/-! ## The minutes of a leg -/

def minutes (engine : Engine) (key : Key) : List Int := (engine.series key).map Bar.minute

/-- The last `n` minutes before the session. -/
def past : Nat → List Int
  | 0 => []
  | n + 1 => -((n : Int) + 1) :: past n

theorem past_suffix {m n : Nat} (le : m ≤ n) : past m <:+ past n := by
  induction n with
  | zero =>
    obtain rfl := Nat.le_zero.mp le
    exact List.suffix_refl _
  | succ n inductionHypothesis =>
    rcases Nat.le_succ_iff.mp le with below | same
    · exact (inductionHypothesis below).trans (List.suffix_cons _ _)
    · subst same
      exact List.suffix_refl _

theorem past_negative {n : Nat} {minute : Int} (member : minute ∈ past n) : minute < 0 := by
  induction n with
  | zero => cases member
  | succ n inductionHypothesis =>
    rcases List.mem_cons.mp member with same | earlier
    · omega
    · exact inductionHypothesis earlier

theorem past_drop (n k : Nat) : (past n).drop k = past (n - k) := by
  induction k generalizing n with
  | zero => rfl
  | succ k inductionHypothesis =>
    cases n with
    | zero =>
      rw [Nat.zero_sub]
      rfl
    | succ n => rw [past, List.drop_succ_cons, inductionHypothesis, Nat.add_sub_add_right]

theorem past_last {n : Nat} {minute : Int} (last : (past n).getLast? = some minute) :
    minute = -1 := by
  induction n with
  | zero => cases last
  | succ n inductionHypothesis =>
    cases n with
    | zero => exact (Option.some.inj last).symm
    | succ n => exact inductionHypothesis last

/-- Minutes that go up to the past ones continue them. -/
theorem past_append (n before : Nat) :
    (List.range n).map (fun i : Nat => -((before : Int) + n) + i) ++ past before =
      past (before + n) := by
  induction n with
  | zero => rfl
  | succ n inductionHypothesis =>
    rw [List.range_succ_eq_map, List.map_cons, List.map_map, ← Nat.add_assoc, past,
      ← inductionHypothesis, List.cons_append]
    refine List.cons_eq_cons.mpr ⟨by omega, ?_⟩
    congr 1
    apply List.map_congr_left
    intro i _
    simp only [Function.comp_apply]
    omega

/-- The minutes of live bars. -/
def liveMins (mins : List Int) : List Int := mins.filter (fun minute => 0 ≤ minute)

/-- Past minutes and then live ones. -/
def Shaped (mins : List Int) : Prop := ∃ before, mins = past before ++ liveMins mins

theorem liveMins_parts {before : Nat} {after : List Int} (nonneg : ∀ minute ∈ after, 0 ≤ minute) :
    liveMins (past before ++ after) = after := by
  rw [liveMins, List.filter_append, List.filter_eq_nil_iff.mpr, List.nil_append,
    List.filter_eq_self.mpr]
  · intro minute member
    exact decide_eq_true (nonneg minute member)
  · intro minute member
    have negative := past_negative member
    simp only [decide_eq_true_eq]
    omega

theorem liveMins_nonneg {mins : List Int} {minute : Int} (member : minute ∈ liveMins mins) :
    0 ≤ minute := of_decide_eq_true (List.mem_filter.mp member).2

theorem shaped_of_parts {before : Nat} {after : List Int}
    (nonneg : ∀ minute ∈ after, 0 ≤ minute) : Shaped (past before ++ after) :=
  ⟨before, by rw [liveMins_parts nonneg]⟩

theorem Shaped.append {mins : List Int} (shaped : Shaped mins) {minute : Int}
    (nonneg : 0 ≤ minute) : Shaped (mins ++ [minute]) := by
  obtain ⟨before, parts⟩ := shaped
  rw [parts, List.append_assoc]
  apply shaped_of_parts
  intro m member
  rcases List.mem_append.mp member with old | new
  · exact liveMins_nonneg old
  · rw [List.mem_singleton.mp new]
    exact nonneg

theorem Shaped.rtake {mins : List Int} (shaped : Shaped mins) (n : Nat) :
    Shaped (mins.rtake n) := by
  obtain ⟨before, parts⟩ := shaped
  rw [List.rtake, parts, List.drop_append, past_drop]
  apply shaped_of_parts
  intro m member
  exact liveMins_nonneg (List.mem_of_mem_drop member)

/-- The minute after the last one is live. -/
theorem Shaped.next {mins : List Int} (shaped : Shaped mins) :
    0 ≤ (mins.getLast?.map (· + 1)).getD 0 := by
  cases last : mins.getLast? with
  | none => exact le_rfl
  | some minute =>
    obtain ⟨before, parts⟩ := shaped
    have bound : -1 ≤ minute := by
      rw [parts] at last
      rcases List.eq_nil_or_concat (liveMins mins) with none | ⟨init, final, live⟩
      · rw [none, List.append_nil] at last
        rw [past_last last]
      · rw [live, List.concat_eq_append, ← List.append_assoc, List.getLast?_concat] at last
        have member : final ∈ liveMins mins := by
          rw [live, List.concat_eq_append]
          exact List.mem_concat_self
        have nonneg := liveMins_nonneg member
        have same := Option.some.inj last
        omega
    simp only [Option.map_some, Option.getD_some]
    omega

/-- Seeds begin right below the past minutes that are there. -/
theorem Shaped.base {before : Nat} {after : List Int} (nonneg : ∀ minute ∈ after, 0 ≤ minute)
    (n : Nat) : baseMinute (past before ++ after) n = -((before : Int) + n) := by
  rw [baseMinute]
  cases before with
  | zero =>
    cases after with
    | nil => simp [past]
    | cons first rest =>
      have positive := nonneg first List.mem_cons_self
      simp only [past, List.nil_append, List.head?_cons, Option.getD_some]
      omega
  | succ before =>
    simp only [past, List.cons_append, List.head?_cons, Option.getD_some]
    omega

theorem minutes_seeds {before : Nat} {bars : List Bar} (seeds : List Quote)
    (parts : bars.map Bar.minute = past before ++ liveMins (bars.map Bar.minute)) :
    (seedBars bars seeds).map Bar.minute ++ bars.map Bar.minute =
      past (before + seeds.length) ++ liveMins (bars.map Bar.minute) := by
  have base := @Shaped.base before (liveMins (bars.map Bar.minute))
    (fun m member => liveMins_nonneg member) seeds.length
  rw [← parts] at base
  have mins : (seedBars bars seeds).map Bar.minute =
      (List.range seeds.length).map (fun i : Nat => -((before : Int) + seeds.length) + i) := by
    rw [seedBars, base]
    apply List.ext_getElem
    · simp
    · intro i _ _
      simp
  rw [mins]
  conv_lhs => rw [parts]
  rw [← List.append_assoc, past_append]

theorem minutes_nil_iff {engine : Engine} {key : Key} :
    minutes engine key = [] ↔ engine.series key = [] := List.map_eq_nil_iff

theorem minutes_length (engine : Engine) (key : Key) :
    (minutes engine key).length = (engine.series key).length := List.length_map _

theorem live_map (engine : Engine) (key : Key) :
    (live engine key).map Bar.minute = liveMins (minutes engine key) := by
  rw [liveMins, minutes, List.filter_map]
  rfl

theorem live_length (engine : Engine) (key : Key) :
    (live engine key).length = (liveMins (minutes engine key)).length := by
  rw [← live_map, List.length_map]

theorem mem_across {engine : Engine} {key other : Key} :
    other ∈ across engine key ↔ other ∈ engine.latest ∧ other.2 ≠ key.2 := by
  rw [across, List.mem_filter, decide_eq_true_iff, ← AList.mem_keys]

/-! ## One call -/

/-- What every call keeps: legs that never ticked have past bars only, and ticking legs of
different sides agree from their ends on. -/
structure Kept (engine : Engine) : Prop where
  shaped : ∀ key, Shaped (minutes engine key)
  bounded : ∀ key, (engine.series key).length ≤ engine.maxlen
  silent : ∀ key, key ∉ engine.latest → liveMins (minutes engine key) = []
  aligned : ∀ key ∈ engine.latest, ∀ other ∈ engine.latest, other.2 ≠ key.2 →
    Aligned (minutes engine key) (minutes engine other)

theorem kept_fresh (rsiLen rocLen maxlen : Nat) :
    Kept { Engine.fresh with rsiLen := rsiLen, rocLen := rocLen, maxlen := maxlen } where
  shaped _ := ⟨0, rfl⟩
  bounded _ := Nat.zero_le _
  silent _ _ := rfl
  aligned _ ticked := absurd ticked (AList.notMem_empty _)

/-- Legs without live bars are aligned. -/
theorem aligned_past {a b : List Int} (left : Shaped a) (right : Shaped b)
    (quiet : liveMins a = []) (still : liveMins b = []) : Aligned a b := by
  obtain ⟨m, leftParts⟩ := left
  obtain ⟨n, rightParts⟩ := right
  rw [leftParts, rightParts, quiet, still, List.append_nil, List.append_nil]
  rcases Nat.le_total m n with le | le
  · exact .inl (past_suffix le)
  · exact .inr (past_suffix le)

variable {engine : Engine}

/-- A first tick meets legs that its own past bars agree with. -/
theorem Kept.first_tick (kept : Kept engine) {key : Key} {ltp atp : Rat}
    (inStep : InStep engine (.tick key ltp atp)) (new : key ∉ engine.latest) {other : Key}
    (ticked : other ∈ engine.latest) (side : other.2 ≠ key.2) :
    Aligned (minutes engine key) (minutes engine other) := by
  rcases inStep with old | none | quiet
  · exact absurd old new
  · rw [minutes_nil_iff.mpr none]
    exact .inl (List.nil_suffix)
  · have still := quiet other (mem_across.mpr ⟨ticked, side⟩)
    apply aligned_past (kept.shaped key) (kept.shaped other) (kept.silent key new)
    rw [← live_map, still]
    rfl

theorem Kept.tick (kept : Kept engine) {key : Key} {ltp atp : Rat}
    (inStep : InStep engine (.tick key ltp atp)) : Kept (updateTick engine key ltp atp) where
  shaped := kept.shaped
  bounded := kept.bounded
  silent other unticked := by
    apply kept.silent other
    intro ticked
    exact unticked (AList.mem_insert _ |>.mpr (.inr ticked))
  aligned := by
    intro a aTicked b bTicked side
    have mins (k : Key) : minutes (updateTick engine key ltp atp) k = minutes engine k := rfl
    rw [mins, mins]
    by_cases aOld : a ∈ engine.latest
    · by_cases bOld : b ∈ engine.latest
      · exact kept.aligned a aOld b bOld side
      · rcases (AList.mem_insert _).mp bTicked with rfl | old
        · exact (kept.first_tick inStep bOld aOld side.symm).symm
        · exact absurd old bOld
    · rcases (AList.mem_insert _).mp aTicked with rfl | old
      · rcases (AList.mem_insert _).mp bTicked with same | bOld
        · exact absurd (congrArg Prod.snd same) side
        · exact kept.first_tick inStep aOld bOld side
      · exact absurd old aOld

/-- The minute of a leg's next bar. -/
def nextMin (minute : Option Int) (mins : List Int) : Int :=
  minute.getD ((mins.getLast?.map (· + 1)).getD 0)

theorem nextMinute_minutes (minute : Option Int) (key : Key) :
    nextMinute minute (engine.series key) = nextMin minute (minutes engine key) := by
  rw [nextMinute, nextMin, minutes, List.getLast?_map, Option.map_map]
  rfl

/-- A commit gives a ticking leg one more minute and leaves the others. -/
theorem minutes_commit (minute : Option Int) (key : Key) :
    minutes (commitBar engine minute) key =
      if key ∈ engine.latest then
        (minutes engine key ++ [nextMin minute (minutes engine key)]).rtake engine.maxlen
      else minutes engine key := by
  rw [← nextMinute_minutes, minutes]
  simp only [commitBar]
  cases found : engine.latest.lookup key with
  | none =>
    have absent : key ∉ engine.latest := AList.lookup_eq_none.mp found
    rw [if_neg absent]
    rfl
  | some quote =>
    have present : key ∈ engine.latest := AList.lookup_isSome.mp (by rw [found]; rfl)
    rw [if_pos present]
    simp only [minutes, List.rtake, List.map_drop, List.map_append, List.length_append,
      List.length_map, List.map_cons, List.map_nil, List.length_cons, List.length_nil]

theorem Kept.commit (kept : Kept engine) {minute : Option Int}
    (inStep : InStep engine (.commit minute)) : Kept (commitBar engine minute) := by
  have nonneg (key : Key) : 0 ≤ nextMin minute (minutes engine key) := by
    cases minute with
    | none => exact (kept.shaped key).next
    | some minute => exact inStep
  refine ⟨fun key => ?_, fun key => ?_, fun key unticked => ?_, ?_⟩
  · rw [minutes_commit]
    split
    · exact ((kept.shaped key).append (nonneg key)).rtake _
    · exact kept.shaped key
  · rw [← minutes_length, minutes_commit]
    split
    · rw [List.rtake, List.length_drop]
      change _ ≤ engine.maxlen
      omega
    · rw [minutes_length]
      exact kept.bounded key
  · rw [minutes_commit, if_neg (show key ∉ engine.latest from unticked)]
    exact kept.silent key unticked
  · intro a aTicked b bTicked side
    have same : nextMin minute (minutes engine a) = nextMin minute (minutes engine b) := by
      cases minute with
      | none =>
        rw [← nextMinute_minutes, ← nextMinute_minutes]
        exact inStep a (AList.mem_keys.mpr aTicked) b (mem_across.mpr ⟨bTicked, side⟩)
      | some minute => rfl
    rw [minutes_commit, minutes_commit, if_pos (show a ∈ engine.latest from aTicked),
      if_pos (show b ∈ engine.latest from bTicked), same]
    exact ((kept.aligned a aTicked b bTicked side).append _).rtake _

/-- Seeds that fit stand in front of the minutes of their key. -/
theorem minutes_seed {key : Key} {seeds : List Quote}
    (fits : seeds.length + (engine.series key).length ≤ engine.maxlen) :
    minutes (seedKey engine key seeds) key =
      (seedBars (engine.series key) seeds).map Bar.minute ++ minutes engine key := by
  have bounded : (engine.series key).length ≤ engine.maxlen := by omega
  simp only [minutes, seedKey, Function.update_self, seeded]
  rw [extendLeft_eq bounded,
    List.take_of_length_le (by rw [List.length_append, seedBars_length]; exact fits),
    List.map_append]

theorem minutes_seed_other {key other : Key} (different : other ≠ key) (seeds : List Quote) :
    minutes (seedKey engine key seeds) other = minutes engine other := by
  simp only [minutes, seedKey, Function.update_of_ne different]

/-- Aligned legs with as many live minutes have the same ones. -/
theorem liveMins_eq {a b : List Int} (left : Shaped a) (right : Shaped b) (aligned : Aligned a b)
    (many : (liveMins b).length = (liveMins a).length) : liveMins a = liveMins b := by
  obtain ⟨m, leftParts⟩ := left
  obtain ⟨n, rightParts⟩ := right
  have ends := aligned.rtake (liveMins a).length
  have leftEnd : a.rtake (liveMins a).length = liveMins a :=
    rtake_of_suffix ⟨past m, leftParts.symm⟩
  have rightEnd : b.rtake (liveMins b).length = liveMins b :=
    rtake_of_suffix ⟨past n, rightParts.symm⟩
  rw [leftEnd, ← many, rightEnd] at ends
  exact (ends.suffix (le_of_eq many.symm)).eq_of_length many.symm

/-- Seeds in front of a ticking leg keep it aligned with the other side. -/
theorem Kept.seed_aligned (kept : Kept engine) {key other : Key} {seeds : List Quote}
    (fits : seeds.length + (engine.series key).length ≤ engine.maxlen)
    (aligned : Aligned (minutes engine key) (minutes engine other))
    (reach : (live engine other).length = (live engine key).length ∨
      (engine.series other).length ≤ (engine.series key).length) :
    Aligned (minutes (seedKey engine key seeds) key) (minutes engine other) := by
  rw [minutes_seed fits]
  rcases reach with many | shorter
  · rw [live_length, live_length] at many
    have same := liveMins_eq (kept.shaped key) (kept.shaped other) aligned many
    obtain ⟨before, parts⟩ := kept.shaped key
    obtain ⟨others, otherParts⟩ := kept.shaped other
    rw [otherParts, ← same]
    rw [minutes, minutes_seeds seeds parts]
    rcases Nat.le_total (before + seeds.length) others with le | le
    · exact Aligned.append (.inl (past_suffix le)) _
    · exact Aligned.append (.inr (past_suffix le)) _
  · rw [← minutes_length, ← minutes_length] at shorter
    exact .inr ((aligned.symm.suffix shorter).trans (List.suffix_append _ _))

theorem Kept.seed (kept : Kept engine) {key : Key} {seeds : List Quote}
    (inStep : InStep engine (.seed key seeds)) : Kept (seedKey engine key seeds) := by
  rcases inStep with rfl | ⟨fits, reach⟩
  · -- nothing to seed
    have same : seedKey engine key [] = engine := by
      rw [seedKey]
      have unchanged : seeded engine.maxlen (engine.series key) [] = engine.series key := rfl
      rw [unchanged, Function.update_eq_self]
    rw [same]
    exact kept
  · obtain ⟨before, parts⟩ := kept.shaped key
    have mins : minutes (seedKey engine key seeds) key =
        past (before + seeds.length) ++ liveMins (minutes engine key) := by
      rw [minutes_seed fits]
      exact minutes_seeds seeds parts
    refine ⟨fun k => ?_, fun k => ?_, fun k unticked => ?_, ?_⟩
    · by_cases same : k = key
      · rw [same, mins]
        exact shaped_of_parts (fun m member => liveMins_nonneg member)
      · rw [minutes_seed_other same]
        exact kept.shaped k
    · rw [← minutes_length]
      by_cases same : k = key
      · rw [same, minutes_seed fits, List.length_append, List.length_map, seedBars_length,
          minutes_length]
        exact fits
      · rw [minutes_seed_other same, minutes_length]
        exact kept.bounded k
    · by_cases same : k = key
      · rw [same, mins, liveMins_parts (fun m member => liveMins_nonneg member)]
        exact kept.silent key (same ▸ unticked)
      · rw [minutes_seed_other same]
        exact kept.silent k unticked
    · intro a aTicked b bTicked side
      by_cases aSame : a = key
      · subst aSame
        have bOther : b ≠ a := fun equal => side (congrArg Prod.snd equal)
        rw [minutes_seed_other bOther]
        exact kept.seed_aligned fits (kept.aligned a aTicked b bTicked side)
          (reach aTicked b (mem_across.mpr ⟨bTicked, side⟩))
      · rw [minutes_seed_other aSame]
        by_cases bSame : b = key
        · subst bSame
          exact (kept.seed_aligned fits (kept.aligned a aTicked b bTicked side).symm
            (reach bTicked a (mem_across.mpr ⟨aTicked, side.symm⟩))).symm
        · rw [minutes_seed_other bSame]
          exact kept.aligned a aTicked b bTicked side

/-- One call in step keeps the legs aligned. -/
theorem kept_step (engine : Engine) (event : Event) (kept : Kept engine)
    (inStep : InStep engine event) : Kept (step engine event) := by
  cases event with
  | tick key ltp atp => exact kept.tick inStep
  | commit minute => exact kept.commit inStep
  | seed key seeds => exact kept.seed inStep

/-! ## Runs -/

/-- Aligned legs are added up minute by minute. -/
theorem Kept.minuteAligned (kept : Kept engine) : MinuteAligned engine := by
  intro ceStrike peStrike ind computed pair member
  have ticked : (ceStrike, .ce) ∈ engine.latest ∧ (peStrike, .pe) ∈ engine.latest := by
    simp only [pairIndicators] at computed
    split at computed
    case h_1 ce pe =>
      exact ⟨AList.lookup_isSome.mp (by simp [ce]), AList.lookup_isSome.mp (by simp [pe])⟩
    case h_2 => cases computed
  have aligned := kept.aligned _ ticked.1 _ ticked.2 (by simp)
  have equal := aligned.zip (pair.1.minute, pair.2.minute)
  apply equal
  rw [minutes_length, minutes_length, minutes, minutes, List.rtake, List.rtake, List.length_map,
    List.length_map, ← List.map_drop, ← List.map_drop, List.zip_map]
  exact List.mem_map_of_mem member

/-- In every run whose calls are in step, the combined series of every pair is of one minute
throughout. -/
theorem minutes_aligned (rsiLen rocLen maxlen : Nat) (events : List Event)
    (inStep : Along step InStep
      { Engine.fresh with rsiLen := rsiLen, rocLen := rocLen, maxlen := maxlen } events) :
    ∀ before, before <+: events → MinuteAligned (run step
      { Engine.fresh with rsiLen := rsiLen, rocLen := rocLen, maxlen := maxlen } before) := by
  rintro before ⟨after, rfl⟩
  have first := ((along_append step InStep _ before after).mp inStep).1
  exact (along_invariant step kept_step _ before (kept_fresh rsiLen rocLen maxlen)
    first).minuteAligned

/-- A session in step: both legs are seeded before they tick, and the put once more while
it has as many live bars as the call. -/
def warmSession : List Event :=
  [.seed (100, .ce) [⟨9, 9⟩], .tick (100, .ce) 10 10, .tick (100, .pe) 20 20,
    .commit (some 555), .commit none, .seed (100, .pe) [⟨18, 18⟩, ⟨19, 19⟩], .commit (some 557)]

instance (engine : Engine) : ∀ event, Decidable (InStep engine event)
  | .tick .. => inferInstanceAs (Decidable (_ ∨ _ ∨ ∀ other ∈ across engine _, _))
  | .commit (some _) => inferInstanceAs (Decidable (_ ≤ _))
  | .commit none => inferInstanceAs (Decidable (∀ key ∈ engine.latest.keys, _))
  | .seed .. => inferInstanceAs (Decidable (_ ∨ _ ∧ (_ → ∀ other ∈ across engine _, _)))

theorem warmSession_aligned :
    Along step InStep { Engine.fresh with rsiLen := 14, rocLen := 10, maxlen := 240 } warmSession ∧
      ∀ before, before <+: warmSession → MinuteAligned (run step
        { Engine.fresh with rsiLen := 14, rocLen := 10, maxlen := 240 } before) :=
  ⟨by decide, minutes_aligned 14 10 240 warmSession (by decide)⟩

/-- The put begins to tick a minute after the call, and both are seeded at an entry. -/
def lateLeg : List Event :=
  [.tick (100, .ce) 10 10, .commit (some 555), .tick (100, .pe) 20 20, .commit (some 556),
    .seed (100, .ce) (List.replicate 20 ⟨9, 9⟩), .seed (100, .pe) (List.replicate 20 ⟨19, 19⟩)]

/-- The close of the call at 9:15 is added to a past close of the put. -/
theorem lateLeg_misaligned :
    ¬∀ before, before <+: lateLeg → MinuteAligned (run step
      { Engine.fresh with rsiLen := 14, rocLen := 10, maxlen := 240 } before) := by
  intro aligned
  have last := aligned lateLeg (List.prefix_refl _) 100 100
  have computed : (pairIndicators (run step
      { Engine.fresh with rsiLen := 14, rocLen := 10, maxlen := 240 } lateLeg) 100 100).isSome := by
    decide
  obtain ⟨ind, computed⟩ := Option.isSome_iff_exists.mp computed
  have pair := last ind computed (⟨555, 10, 10⟩, ⟨-1, 19, 19⟩) (by decide)
  exact absurd pair (by decide)

end OptionChain.MinuteAlignment
