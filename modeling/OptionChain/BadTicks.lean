import Mathlib.Algebra.Order.Ring.Abs
import Mathlib.Data.Finset.Card
import OptionChain.CandleCache
import OptionChain.Remembered
import OptionChain.SharedFeedCodec
import OptionChain.SpikeGates

/-!
# The guards against bad ticks

A feeder without a deduplication buffer publishes an index tick unless it jumps too far
from the last good price of its symbol, and an option tick unless it jumps too far from
that of its contract. The third jump in a row is taken for a new level. What the feeder
keeps of options is cut down when there are too many contracts.

Both guards are gates against spikes, one for each key.
-/

namespace OptionChain.BadTicks

open ContractSymbols Remembered Rounding Runs SharedFeedCodec SpikeGates Ticks

/-- Beyond `_BAD_TICK_PCT`. -/
def indexBeyond (last ltp : Rat) : Prop := 3 / 100 < |ltp - last| / last

instance : DecidableRel indexBeyond :=
  fun last ltp => inferInstanceAs (Decidable (3 / 100 < |ltp - last| / last))

/-- Beyond `_OPT_BAD_TICK_ABS` and `_OPT_BAD_TICK_PCT`. -/
def optionBeyond (last ltp : Rat) : Prop :=
  50 < |ltp - last| ∧ 60 / 100 < |ltp - last| / last

instance : DecidableRel optionBeyond :=
  fun last ltp => inferInstanceAs (Decidable (50 < |ltp - last| ∧ 60 / 100 < |ltp - last| / last))

/-- `_BAD_TICK_MAX` and `_OPT_BAD_TICK_MAX`. -/
def badTickMax : Nat := 3

/-- `_OPT_CACHE_MAX`. -/
def optCacheMax : Nat := 2000

/-- The last good price and the count of bad ticks by key, with the keys that have a last
good price, the oldest first. -/
structure Guards where
  keys : List String := []
  gates : String → Gate Rat := fun _ => {}

/-- A tick at the guard of its key. -/
def Guards.publish (beyond : Rat → Rat → Prop) [DecidableRel beyond] (guards : Guards)
    (key : String) (ltp : Rat) : Guards × Bool :=
  let offered := (guards.gates key).offer beyond badTickMax ltp
  ({ keys := remember guards.keys [key]
     gates := Function.update guards.gates key offered.1 }, offered.2)

/-- `_publish_index`. -/
def publishIndex (guards : Guards) (tick : IndexTick) : Guards × Bool :=
  guards.publish indexBeyond tick.symbol tick.ltp

/-- `_option_key`. -/
def optionKey (tick : OptionTick) : String :=
  tick.underlying ++ ":" ++ isoformat tick.expiry ++ ":" ++ toString (towardZero tick.strike) ++
    ":" ++ typeText tick.optionType

/-- The oldest quarter goes when there are too many keys. -/
def Guards.evict (guards : Guards) : Guards :=
  if optCacheMax < guards.keys.length then
    let evicted := guards.keys.take (optCacheMax / 4)
    { keys := guards.keys.drop (optCacheMax / 4)
      gates := fun key => if key ∈ evicted then {} else guards.gates key }
  else guards

/-- `_publish_option`. -/
def publishOption (guards : Guards) (tick : OptionTick) : Guards × Bool :=
  guards.evict.publish optionBeyond (optionKey tick) tick.ltp

/-- The guards with what came and what was published of each key. -/
structure Feed where
  guards : Guards := {}
  published : String → Option Rat := fun _ => none
  received : String → List Rat := fun _ => []

/-- One key of a feed. -/
def Feed.of (feed : Feed) (key : String) : Watched Rat where
  gate := feed.guards.gates key
  passed := feed.published key
  received := feed.received key

/-- The feed after a tick, given what its guard has made of it. -/
def Feed.after (feed : Feed) (outcome : Guards × Bool) (key : String) (ltp : Rat) : Feed where
  guards := outcome.1
  published :=
    if outcome.2 then Function.update feed.published key (some ltp) else feed.published
  received := Function.update feed.received key (ltp :: feed.received key)

def indexStep (feed : Feed) (tick : IndexTick) : Feed :=
  feed.after (publishIndex feed.guards tick) tick.symbol tick.ltp

def optionStep (feed : Feed) (tick : OptionTick) : Feed :=
  feed.after (publishOption feed.guards tick) (optionKey tick) tick.ltp

/-- A published price is positive, and it is the first one, within the limit of the one
published before, or the last of three in a row that are beyond it and within the limit of
one another. -/
def Justified (beyond : Rat → Rat → Prop) (feed : Feed) (key : String) (ltp : Rat)
    (published : Bool) : Prop :=
  published = true →
    0 < ltp ∧ ∀ before ∈ feed.published key,
      ¬ beyond before ltp ∨ NewLevel beyond badTickMax before (feed.received key) ltp

/-- The law of the index ticks of one symbol. -/
def IndexLawful (symbol : String) (feed : Feed) (tick : IndexTick) : Prop :=
  tick.symbol = symbol →
    Justified indexBeyond feed symbol tick.ltp (publishIndex feed.guards tick).2

/-- The law of the option ticks of one contract. -/
def OptionLawful (key : String) (feed : Feed) (tick : OptionTick) : Prop :=
  optionKey tick = key →
    Justified optionBeyond feed key tick.ltp (publishOption feed.guards tick).2

/-- A tick of the symbol has a positive price, and where it is the third in a row beyond the
limit of the last good one, the three are within the limit of one another. -/
def IndexSound (symbol : String) (feed : Feed) (tick : IndexTick) : Prop :=
  tick.symbol = symbol → Sound indexBeyond badTickMax (feed.of symbol) tick.ltp

def OptionSound (key : String) (feed : Feed) (tick : OptionTick) : Prop :=
  optionKey tick = key → Sound optionBeyond badTickMax (feed.of key) tick.ltp

section Guarding

variable {beyond : Rat → Rat → Prop} [DecidableRel beyond] {feed : Feed} {key other : String}
  {ltp : Rat}

/-- A tick moves the gate of its own key. -/
theorem of_after_self :
    (feed.after (feed.guards.publish beyond key ltp) key ltp).of key =
      step beyond badTickMax (feed.of key) ltp := by
  unfold Feed.of Feed.after Guards.publish step
  dsimp only
  split <;> simp_all

/-- It leaves the other keys alone. -/
theorem of_after_other (apart : other ≠ key) :
    (feed.after (feed.guards.publish beyond key ltp) key ltp).of other = feed.of other := by
  unfold Feed.of Feed.after Guards.publish
  dsimp only
  split <;> simp [apart]

/-- Every key stays on track if the ticks of its own have positive prices. -/
theorem tracks_after (tracks : Tracks beyond badTickMax (feed.of other))
    (positive : key = other → 0 < ltp) :
    Tracks beyond badTickMax
      ((feed.after (feed.guards.publish beyond key ltp) key ltp).of other) := by
  by_cases same : key = other
  · subst same
    rw [of_after_self]
    exact tracks_step (by decide) tracks (positive rfl)
  · rw [of_after_other (Ne.symm same)]
    exact tracks

/-- As long as the keys are few, none is evicted. -/
theorem evict_few {guards : Guards} (few : guards.keys.length ≤ optCacheMax) :
    guards.evict = guards := if_neg (Nat.not_lt.mpr few)

end Guarding

/-- The guard before the candles of an index is the gate of its symbol. -/
theorem guard_publish_eq (gate : Gate Rat) (ltp : Rat) :
    CandleCache.Guard.publish ⟨gate.last, gate.rejected⟩ ltp =
      (⟨(gate.offer indexBeyond badTickMax ltp).1.last,
        (gate.offer indexBeyond badTickMax ltp).1.rejected⟩,
        (gate.offer indexBeyond badTickMax ltp).2) := by
  unfold CandleCache.Guard.publish Gate.offer indexBeyond badTickMax
  split
  · split <;> rfl
  · rfl

/-- The keys of a feed are contracts of a given set, each once. -/
structure Within (contracts : Finset String) (feed : Feed) : Prop where
  nodup : feed.guards.keys.Nodup
  listed : ∀ key ∈ feed.guards.keys, key ∈ contracts

section Options

variable {contracts : Finset String} {feed : Feed}

theorem Within.few (within : Within contracts feed) (few : contracts.card ≤ optCacheMax) :
    feed.guards.keys.length ≤ optCacheMax := by
  have inside : feed.guards.keys.toFinset ⊆ contracts := by
    intro key member
    exact within.listed key (List.mem_toFinset.mp member)
  calc feed.guards.keys.length
      = feed.guards.keys.toFinset.card := (List.toFinset_card_of_nodup within.nodup).symm
    _ ≤ contracts.card := Finset.card_le_card inside
    _ ≤ optCacheMax := few

/-- Among few contracts a tick meets the guard of its own as it was left. -/
theorem optionStep_few (within : Within contracts feed) (few : contracts.card ≤ optCacheMax)
    (tick : OptionTick) :
    publishOption feed.guards tick =
      feed.guards.publish optionBeyond (optionKey tick) tick.ltp := by
  unfold publishOption
  rw [evict_few (within.few few)]

theorem within_step (within : Within contracts feed) (few : contracts.card ≤ optCacheMax)
    {tick : OptionTick} (member : optionKey tick ∈ contracts) :
    Within contracts (optionStep feed tick) := by
  have keys : (optionStep feed tick).guards.keys =
      remember feed.guards.keys [optionKey tick] := by
    unfold optionStep
    rw [optionStep_few within few]
    rfl
  constructor
  · rw [keys]
    exact nodup_remember within.nodup
  · intro key present
    rw [keys, mem_remember, List.mem_singleton] at present
    rcases present with old | rfl
    · exact within.listed key old
    · exact member

end Options

/-- The index ticks of a symbol obey the law exactly if they are sound, whatever other
symbols the feed has. -/
theorem index_guard_iff (symbol : String) (ticks : List IndexTick) :
    Along indexStep (IndexLawful symbol) {} ticks ↔
      Along indexStep (IndexSound symbol) {} ticks := by
  have agree : ∀ feed tick, Tracks indexBeyond badTickMax (feed.of symbol) →
      (IndexLawful symbol feed tick ↔ IndexSound symbol feed tick) := by
    intro feed tick tracks
    apply imp_congr_right
    rintro rfl
    exact lawful_iff_sound (by decide) tracks
  have kept : ∀ feed tick, Tracks indexBeyond badTickMax (feed.of symbol) →
      IndexLawful symbol feed tick →
        Tracks indexBeyond badTickMax ((indexStep feed tick).of symbol) := by
    intro feed tick tracks lawful
    have sound := (agree feed tick tracks).mp lawful
    exact tracks_after tracks (fun same => (sound same).1)
  exact along_agree indexStep kept agree {} ticks .fresh

/-- So do the option ticks of a contract, among at most as many contracts as the feeder
keeps. -/
theorem option_guard_iff (key : String) (ticks : List OptionTick) (contracts : Finset String)
    (few : contracts.card ≤ optCacheMax)
    (listed : ∀ tick ∈ ticks, optionKey tick ∈ contracts) :
    Along optionStep (OptionLawful key) {} ticks ↔
      Along optionStep (OptionSound key) {} ticks := by
  have agree : ∀ feed tick,
      Within contracts feed ∧ Tracks optionBeyond badTickMax (feed.of key) →
        (OptionLawful key feed tick ↔ OptionSound key feed tick) := by
    rintro feed tick ⟨within, tracks⟩
    apply imp_congr_right
    rintro rfl
    rw [optionStep_few within few]
    exact lawful_iff_sound (by decide) tracks
  have kept : ∀ feed tick,
      Within contracts feed ∧ Tracks optionBeyond badTickMax (feed.of key) →
        optionKey tick ∈ contracts → OptionLawful key feed tick →
          Within contracts (optionStep feed tick) ∧
            Tracks optionBeyond badTickMax ((optionStep feed tick).of key) := by
    rintro feed tick ⟨within, tracks⟩ member lawful
    have sound := (agree feed tick ⟨within, tracks⟩).mp lawful
    refine ⟨within_step within few member, ?_⟩
    unfold optionStep
    rw [optionStep_few within few]
    exact tracks_after tracks (fun same => (sound same).1)
  have start : Within contracts {} ∧ Tracks optionBeyond badTickMax (Feed.of {} key) :=
    ⟨⟨List.nodup_nil, fun _ absent => absurd absent List.not_mem_nil⟩, .fresh⟩
  exact along_iff optionStep kept (fun feed tick both _ => agree feed tick both) {} ticks start
    (along_always optionStep {} ticks (fun tick member _ => listed tick member))

/-- The guards do what they are for exactly on sound ticks: of an index symbol, and of a
contract among at most as many contracts as the feeder keeps. -/
theorem bad_tick_guards_iff (symbol : String) (ticks : List IndexTick) (key : String)
    (premiums : List OptionTick) (contracts : Finset String)
    (few : contracts.card ≤ optCacheMax)
    (listed : ∀ tick ∈ premiums, optionKey tick ∈ contracts) :
    (Along indexStep (IndexLawful symbol) {} ticks ↔
      Along indexStep (IndexSound symbol) {} ticks) ∧
    (Along optionStep (OptionLawful key) {} premiums ↔
      Along optionStep (OptionSound key) {} premiums) :=
  ⟨index_guard_iff symbol ticks, option_guard_iff key premiums contracts few listed⟩

def niftyTick (ltp : Rat) : IndexTick := ⟨"NIFTY", ltp, ltp, ltp, ltp, ltp, 0, 0⟩

def callTick (ltp : Rat) : OptionTick := { pricedCall with ltp := ltp, bid := ltp, ask := ltp }

def callKey : String := optionKey (callTick 262)

theorem optionKey_callTick (ltp : Rat) : optionKey (callTick ltp) = callKey := rfl

/-- A premium that doubles for one tick is kept off the bus. -/
theorem call_spike_dropped :
    Along optionStep (OptionLawful callKey) {} [callTick 262, callTick 600, callTick 264] := by
  refine (bad_tick_guards_iff "NIFTY" [] callKey _ {callKey} (by decide) ?_).2.mpr ?_
  · intro tick member
    rw [Finset.mem_singleton]
    simp only [List.mem_cons, List.not_mem_nil, or_false] at member
    rcases member with rfl | rfl | rfl <;> rfl
  · have ltp : ∀ ltp, (callTick ltp).ltp = ltp := fun _ => rfl
    norm_num [Along, OptionSound, Sound, Feed.of, optionStep, Feed.after, publishOption,
      Guards.publish, Guards.evict, optCacheMax, Gate.offer, optionBeyond, badTickMax,
      optionKey_callTick, ltp, remember]

/-- A zero price is published, and the spike behind it is compared with nothing; three
spikes in both directions are taken for a level. -/
theorem spikes_published :
    ¬ Along indexStep (IndexLawful "NIFTY") {} [niftyTick 23425, niftyTick 0, niftyTick 24497] ∧
      ¬ Along indexStep (IndexLawful "NIFTY") {}
        [niftyTick 23425, niftyTick 24497, niftyTick 22000, niftyTick 24600] := by
  constructor
  · rintro ⟨-, zero, -⟩
    exact absurd (zero rfl (by decide)).1 (lt_irrefl _)
  · intro lawful
    have sound := (index_guard_iff "NIFTY" _).mp lawful
    norm_num [Along, IndexSound, Sound, Feed.of, indexStep, Feed.after, publishIndex,
      Guards.publish, Gate.offer, indexBeyond, badTickMax, niftyTick, Close] at sound

end OptionChain.BadTicks
