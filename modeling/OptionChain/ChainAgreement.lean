import OptionChain.DeltaChain

/-!
# The crypto subscriptions after a pass

After a pass the feeder should be subscribed to the windows of all underlyings and to
nothing else. Two passes may be under way at a time, also at one underlying. That does no
harm as long as they see the same window: a pass that is sending holds its underlying,
and once both its sends are through the feeder has the window, whoever else was there.

A window takes up what the manager remembers. What it has forgotten after a rollover
stays with the feeder, so the windows have to cover it.
-/

namespace OptionChain.ChainAgreement

open Broker CivilDates ContractSymbols DeltaChain Runs SharedSets

section Statement

variable (cfg : Config) (state : Manager)

/-- The feeder is subscribed to the windows and to nothing else, and every symbol is a
listed contract of the active daily expiry. -/
structure Agreed : Prop where
  windows : state.subs = cfg.unds.toFinset.biUnion fun und => state.windowSymbols cfg und
  listed : state.subs ⊆ state.listing
  active : ∀ symbol ∈ state.subs, ∃ contract : InternalSymbol,
    contract.expiry = activeDailyExpiry state.now ∧ contract.toDeltaSymbol = symbol

/-- An event ends a pass over all underlyings. -/
def Completes (event : Event) : Prop :=
  ∃ who, state.passes who ≠ none ∧ (step cfg state event).passes who = none

/-- The feeder's symbols of one underlying. -/
def fed (und : Coin) : Finset String := part coinOf (some und) state.subs

/-- The window that is computed next is listed, and takes up every symbol of its
underlying that the manager does not remember; an empty window finds none at all. -/
def Covered (und : Coin) : Prop :=
  state.windowSymbols cfg und ⊆ state.listing ∧
    ∀ symbol ∈ fed state und, symbol ∈ state.windowSymbols cfg und ∨
      state.windowSymbols cfg und ≠ ∅ ∧ symbol ∈ state.subbed und

/-- The window that a pass is sending. -/
def wanted (pass : Pass) : Option (Finset String) :=
  match pass.phase with
  | .ready | .fetching => none
  | .subscribing want _ | .unsubscribing want => some want

/-- What a pass has still to unsubscribe. -/
def leftover (pass : Pass) : Finset String :=
  match pass.phase with
  | .ready | .fetching | .unsubscribing _ => ∅
  | .subscribing _ rem => rem

/-- The windows that the passes under way have computed are still the same, and listed. -/
def Undisturbed (later : Manager) : Prop :=
  ∀ who, ∀ pass ∈ state.passes who,
    ∀ und ∈ pass.done ++ (wanted pass).toList.map fun _ => pass.und,
      later.windowSymbols cfg und = state.windowSymbols cfg und ∧
        state.windowSymbols cfg und ⊆ later.listing

/-- The windows that are being sent for the underlying are still the same. -/
def Unmoved (und : Coin) (later : Manager) : Prop :=
  ∀ who, ∀ pass ∈ state.passes who, pass.und = und → wanted pass ≠ none →
    later.windowSymbols cfg und = state.windowSymbols cfg und

/-- The dictionaries after the fetch of a pass. -/
def learned (pass : Pass) (expiry : Date) (rows : Option (List Product)) (quote : Rat) : Manager :=
  state.learn pass.und (fetchChain pass.und expiry rows quote).1
    (fetchChain pass.und expiry rows quote).2

/-- Nothing changes the windows of a pass under way, and each window that a pass computes
covers what the manager does not remember. -/
def Orderly (event : Event) : Prop :=
  match event with
  | .spotTick _ _ | .clock _ | .lists _ => Undisturbed cfg state (step cfg state event)
  | .go who => ∀ pass ∈ state.passes who, pass.phase = .ready → pass.force = false →
      state.chain pass.und ≠ none → Covered cfg (state.forget who pass) pass.und
  | .fetched who expiry rows quote => ∀ pass ∈ state.passes who, pass.phase = .fetching →
      Covered cfg (learned state pass expiry rows quote) pass.und ∧
        Unmoved cfg state pass.und (learned state pass expiry rows quote)
  | .begin _ _ | .reconnect | .sent _ => True

instance (und : Coin) : Decidable (Covered cfg state und) := inferInstanceAs (Decidable (_ ∧ _))

instance (later : Manager) : Decidable (Undisturbed cfg state later) :=
  inferInstanceAs (Decidable (∀ who, ∀ pass ∈ state.passes who, ∀ und ∈ _, _))

instance (und : Coin) (later : Manager) : Decidable (Unmoved cfg state und later) :=
  inferInstanceAs (Decidable (∀ who, ∀ pass ∈ state.passes who, _ → _ → _))

instance (event : Event) : Decidable (Orderly cfg state event) :=
  match event with
  | .spotTick _ _ | .clock _ | .lists _ => inferInstanceAs (Decidable (Undisturbed _ _ _))
  | .go who => inferInstanceAs (Decidable (∀ pass ∈ state.passes who, _ → _ → _ → _))
  | .fetched who _ _ _ => inferInstanceAs (Decidable (∀ pass ∈ state.passes who, _ → _ ∧ _))
  | .begin _ _ | .reconnect | .sent _ => inferInstanceAs (Decidable True)

instance (event : Event) : Decidable (Completes cfg state event) :=
  inferInstanceAs
    (Decidable (∃ who, state.passes who ≠ none ∧ (step cfg state event).passes who = none))

/-- The event is orderly, and no pass ends while the other has yet to unsubscribe. -/
def Calm (event : Event) : Prop :=
  Orderly cfg state event ∧
    (Completes cfg state event →
      ∀ who, ∀ pass ∈ (step cfg state event).passes who, leftover pass = ∅)

instance (event : Event) : Decidable (Calm cfg state event) :=
  inferInstanceAs (Decidable (_ ∧ (_ → ∀ who, ∀ pass ∈ (step cfg state event).passes who, _)))

end Statement

section Invariant

variable (cfg : Config) (state : Manager)

/-- Some pass is sending for the underlying. -/
def Held (und : Coin) : Prop :=
  ∃ who, ∃ pass ∈ state.passes who, pass.und = und ∧ wanted pass ≠ none

/-- The feeder has the window of the underlying, and it is listed. -/
structure Settled (und : Coin) : Prop where
  window : fed state und = state.windowSymbols cfg und
  listed : state.windowSymbols cfg und ⊆ state.listing

/-- With the rest unsubscribed the underlying is settled. -/
structure Within (und : Coin) (want rem : Finset String) : Prop where
  window : state.windowSymbols cfg und = want
  listed : want ⊆ state.listing
  all : fed state und \ rem = want
  owned : Owned coinOf (some und) rem

/-- What holds at any time, also in the middle of a segment. -/
structure Sound : Prop where
  owned : ∀ und, Owned coinOf (some und) (state.subbed und)
  covered : ∀ symbol ∈ state.subs, ∃ und ∈ cfg.unds, coinOf symbol = some und
  order : ∀ who, ∀ pass ∈ state.passes who, pass.done ++ pass.und :: pass.rest = cfg.unds
  within : ∀ who, ∀ pass ∈ state.passes who, ∀ want ∈ wanted pass,
    Within cfg state pass.und want (leftover pass)

/-- An underlying that no pass is sending for: what the manager remembers is there, and a
pass that is through with it left it settled. -/
structure Tended (und : Coin) : Prop where
  known : Held state und ∨ state.subbed und ⊆ fed state und
  done : ∀ who, ∀ pass ∈ state.passes who, und ∈ pass.done →
    Held state und ∨ Settled cfg state und

end Invariant

section Windows

variable {cfg : Config} {state : Manager}

theorem coinOf_symbol (und : Coin) (strike : Int) (optType : OptType) (expiry : Date) :
    coinOf (InternalSymbol.toDeltaSymbol ⟨und.name, strike, optType, expiry⟩) = some und := by
  have upper : und.name.toUpper = und.name := by cases und <;> decide +kernel
  rw [coinOf, InternalSymbol.toDeltaSymbol, upper]
  cases und <;> cases optType <;> simp [Coin.name, toShortType]

theorem window_owned (und : Coin) : Owned coinOf (some und) (state.windowSymbols cfg und) := by
  intro symbol member
  simp only [Manager.windowSymbols, symbolsOf, List.mem_toFinset, List.mem_flatMap,
    List.mem_map] at member
  obtain ⟨strike, -, optType, -, rfl⟩ := member
  exact coinOf_symbol und strike optType _

theorem window_active {und : Coin} {symbol : String}
    (member : symbol ∈ state.windowSymbols cfg und) :
    ∃ contract : InternalSymbol, contract.expiry = activeDailyExpiry state.now ∧
      contract.toDeltaSymbol = symbol := by
  simp only [Manager.windowSymbols, symbolsOf, List.mem_toFinset, List.mem_flatMap,
    List.mem_map] at member
  obtain ⟨strike, -, optType, -, rfl⟩ := member
  exact ⟨_, rfl, rfl⟩

/-- Settled underlyings are in agreement. -/
theorem agreed_of_settled (sound : Sound cfg state)
    (settled : ∀ und ∈ cfg.unds, Settled cfg state und) : Agreed cfg state := by
  have windows : state.subs =
      cfg.unds.toFinset.biUnion fun und => state.windowSymbols cfg und := by
    ext symbol
    simp only [Finset.mem_biUnion, List.mem_toFinset]
    constructor
    · intro member
      obtain ⟨und, listed, own⟩ := sound.covered symbol member
      refine ⟨und, listed, ?_⟩
      rw [← (settled und listed).window]
      exact mem_part.mpr ⟨member, own⟩
    · rintro ⟨und, listed, member⟩
      rw [← (settled und listed).window] at member
      exact (mem_part.mp member).1
  refine ⟨windows, ?_, ?_⟩
  · intro symbol member
    obtain ⟨und, listed, inside⟩ := Finset.mem_biUnion.mp (windows ▸ member)
    exact (settled und (List.mem_toFinset.mp listed)).listed inside
  · intro symbol member
    obtain ⟨und, -, inside⟩ := Finset.mem_biUnion.mp (windows ▸ member)
    exact window_active inside

/-- A held underlying is settled once nothing is left to unsubscribe. -/
theorem Sound.settled {und : Coin} (sound : Sound cfg state)
    (finished : ∀ who, ∀ pass ∈ state.passes who, leftover pass = ∅) (held : Held state und) :
    Settled cfg state und := by
  obtain ⟨who, pass, here, rfl, sending⟩ := held
  obtain ⟨want, wants⟩ := Option.ne_none_iff_exists'.mp sending
  have within := sound.within who pass here want wants
  have all := within.all
  rw [finished who pass here, Finset.sdiff_empty] at all
  exact ⟨all.trans within.window.symm, within.window ▸ within.listed⟩

/-- The feeder has the window of a held underlying. -/
theorem Sound.fed_of_held {und : Coin} (sound : Sound cfg state) (held : Held state und) :
    state.windowSymbols cfg und ⊆ fed state und := by
  obtain ⟨who, pass, here, rfl, sending⟩ := held
  obtain ⟨want, wants⟩ := Option.ne_none_iff_exists'.mp sending
  have within := sound.within who pass here want wants
  rw [within.window, ← within.all]
  exact Finset.sdiff_subset

end Windows

section Frames

variable {cfg : Config} {state later : Manager} {und other : Coin} {who : Who} {pass : Pass}
  {after : Option Pass} {want rem change : Finset String}

/-- What is subscribed for a window leaves the windows that are being sent. -/
theorem Within.subscribe (within : Within cfg state other want rem)
    (owned : Owned coinOf (some und) change) (inside : change ⊆ state.windowSymbols cfg und) :
    Within cfg { state with subs := state.subs ∪ change } other want rem := by
  refine ⟨within.window, within.listed, ?_, within.owned⟩
  rw [← within.all]
  by_cases same : other = und
  · subst same
    change part coinOf (some other) (state.subs ∪ change) \ rem = fed state other \ rem
    rw [part_union owned, Finset.union_sdiff_distrib]
    refine Finset.union_eq_left.mpr (Finset.sdiff_subset.trans ?_)
    exact within.all.symm ▸ within.window ▸ inside
  · exact congrArg (· \ rem)
      (part_union_other owned fun equal => same (Option.some.inj equal))

/-- So does what is unsubscribed beside a window. -/
theorem Within.unsubscribe (within : Within cfg state other want rem)
    (owned : Owned coinOf (some und) change)
    (beside : Disjoint (state.windowSymbols cfg und) change) :
    Within cfg { state with subs := state.subs \ change } other want rem := by
  refine ⟨within.window, within.listed, ?_, within.owned⟩
  by_cases same : other = und
  · subst same
    change part coinOf (some other) (state.subs \ change) \ rem = want
    rw [part_sdiff, sdiff_right_comm]
    change (fed state other \ rem) \ change = want
    rw [within.all]
    exact sdiff_eq_left.mpr (within.window ▸ beside)
  · rw [← within.all]
    exact congrArg (· \ rem)
      (part_sdiff_other owned fun equal => same (Option.some.inj equal))

/-- Neither the feeder's set nor the window has changed. -/
theorem Within.carry (within : Within cfg state other want rem) (subs : later.subs = state.subs)
    (listing : later.listing = state.listing)
    (window : later.windowSymbols cfg other = state.windowSymbols cfg other) :
    Within cfg later other want rem := by
  refine ⟨window.trans within.window, ?_, ?_, within.owned⟩
  · rw [listing]
    exact within.listed
  · rw [fed, subs]
    exact within.all

theorem owned_update {subbed : Coin → Finset String}
    (owned : ∀ und, Owned coinOf (some und) (subbed und))
    (change_owned : Owned coinOf (some und) change) (other : Coin) :
    Owned coinOf (some other) (Function.update subbed und change other) := by
  by_cases same : other = und
  · subst same
    rw [Function.update_self]
    exact change_owned
  · rw [Function.update_of_ne same]
    exact owned other

/-- All but one underlying are left alone. -/
structure Aside (cfg : Config) (und : Coin) (state later : Manager) : Prop where
  fed : ∀ other ≠ und, fed later other = fed state other
  subbed : ∀ other ≠ und, later.subbed other = state.subbed other
  window : ∀ other ≠ und, later.windowSymbols cfg other = state.windowSymbols cfg other
  listing : later.listing = state.listing
  passes : later.passes = state.passes

theorem held_congr (passes : later.passes = state.passes) : Held later und ↔ Held state und := by
  simp only [Held, passes]

theorem Tended.aside (tended : Tended cfg state other) (aside : Aside cfg und state later)
    (unlike : other ≠ und) : Tended cfg later other := by
  refine ⟨?_, ?_⟩
  · rw [held_congr aside.passes, aside.subbed other unlike, aside.fed other unlike]
    exact tended.known
  · intro who pass here through
    rw [held_congr aside.passes]
    rw [aside.passes] at here
    refine (tended.done who pass here through).imp_right fun settled => ⟨?_, ?_⟩
    · rw [aside.fed other unlike, aside.window other unlike]
      exact settled.window
    · rw [aside.window other unlike, aside.listing]
      exact settled.listed

theorem set_passes_same : (state.set who after).passes who = after := Function.update_self ..

theorem set_passes_other {holder : Who} (unlike : holder ≠ who) :
    (state.set who after).passes holder = state.passes holder := Function.update_of_ne unlike _ _

/-- An underlying stays held if the pass that moves is not the one that holds it. -/
theorem Held.set (held : Held state und)
    (apart : ∀ old ∈ state.passes who, old.und = und → wanted old = none) :
    Held (state.set who after) und := by
  obtain ⟨holder, pass, here, place, sending⟩ := held
  have unlike : holder ≠ who := by
    rintro rfl
    exact sending (apart pass here place)
  exact ⟨holder, pass, by rwa [set_passes_other unlike], place, sending⟩

/-- An underlying that others hold stays held. -/
theorem Held.fill (held : Held (state.set who none) und) : Held (state.set who after) und := by
  obtain ⟨holder, pass, here, place, sending⟩ := held
  have unlike : holder ≠ who := by
    rintro rfl
    rw [set_passes_same] at here
    cases here
  rw [set_passes_other unlike] at here
  exact ⟨holder, pass, by rwa [set_passes_other unlike], place, sending⟩

theorem Tended.set (tended : Tended cfg state und)
    (apart : ∀ old ∈ state.passes who, old.und = und → wanted old = none)
    (before : ∀ new ∈ after, und ∈ new.done → ∃ old ∈ state.passes who, und ∈ old.done) :
    Tended cfg (state.set who after) und := by
  refine ⟨tended.known.imp_left fun held => held.set apart, ?_⟩
  intro holder pass here through
  have old : ∃ old ∈ state.passes holder, und ∈ old.done := by
    by_cases same : holder = who
    · subst same
      rw [set_passes_same] at here
      exact before pass here through
    · rw [set_passes_other same] at here
      exact ⟨pass, here, through⟩
  obtain ⟨old, there, earlier⟩ := old
  rcases tended.done holder old there earlier with held | settled
  · exact Or.inl (held.set apart)
  · exact Or.inr ⟨settled.window, settled.listed⟩

theorem Sound.set (sound : Sound cfg state)
    (order : ∀ new ∈ after, new.done ++ new.und :: new.rest = cfg.unds)
    (within : ∀ new ∈ after, ∀ want ∈ wanted new, Within cfg state new.und want (leftover new)) :
    Sound cfg (state.set who after) := by
  refine ⟨sound.owned, sound.covered, ?_, ?_⟩
  · intro holder new here
    by_cases same : holder = who
    · subst same
      rw [set_passes_same] at here
      exact order new here
    · rw [set_passes_other same] at here
      exact sound.order holder new here
  · intro holder new here want wants
    have fine : Within cfg state new.und want (leftover new) := by
      by_cases same : holder = who
      · subst same
        rw [set_passes_same] at here
        exact within new here want wants
      · rw [set_passes_other same] at here
        exact sound.within holder new here want wants
    exact fine.carry rfl rfl rfl

end Frames

section Passes

variable {cfg : Config} {state : Manager} {who : Who} {pass : Pass}

/-- What a pass leaves when it suspends or ends. -/
structure Landed (cfg : Config) (before : Who → Option Pass) (who : Who) (state : Manager) :
    Prop where
  sound : Sound cfg state
  tended : ∀ und, Tended cfg state und
  others : ∀ other ≠ who, state.passes other = before other
  finished : state.passes who = none → ∀ und ∈ cfg.unds, Held state und ∨ Settled cfg state und

/-- A pass waits for a send. -/
theorem sending_landed {phase : Phase} (sound : Sound cfg state)
    (here : state.passes who = some pass)
    (tended : ∀ und ≠ pass.und, Tended cfg state und)
    (sending : wanted { pass with phase := phase } ≠ none)
    (within : ∀ want ∈ wanted { pass with phase := phase },
      Within cfg state pass.und want (leftover { pass with phase := phase })) :
    Landed cfg state.passes who (state.set who (some { pass with phase := phase })) := by
  have held : Held (state.set who (some { pass with phase := phase })) pass.und :=
    ⟨who, _, set_passes_same, rfl, sending⟩
  refine ⟨sound.set ?_ ?_, ?_, fun other unlike => set_passes_other unlike, ?_⟩
  · rintro new ⟨⟩
    exact sound.order who pass here
  · rintro new ⟨⟩
    exact within
  · intro und
    by_cases same : und = pass.und
    · subst same
      exact ⟨Or.inl held, fun _ _ _ _ => Or.inl held⟩
    · refine (tended und same).set ?_ ?_
      · intro old there place
        rw [here] at there
        cases there
        exact absurd place.symm same
      · rintro new ⟨⟩ through
        exact ⟨pass, here, through⟩
  · intro none
    rw [set_passes_same] at none
    cases none

/-- A pass waits for a fetch. -/
theorem fetching_landed (sound : Sound cfg state) (here : state.passes who = some pass)
    (idle : wanted pass = none) (tended : ∀ und, Tended cfg state und) :
    Landed cfg state.passes who (state.set who (some { pass with phase := .fetching })) := by
  refine ⟨sound.set ?_ ?_, ?_, fun other unlike => set_passes_other unlike, ?_⟩
  · rintro new ⟨⟩
    exact sound.order who pass here
  · rintro new ⟨⟩ want ⟨⟩
  · intro und
    refine (tended und).set ?_ ?_
    · intro old there _
      rw [here] at there
      cases there
      exact idle
    · rintro new ⟨⟩ through
      exact ⟨pass, here, through⟩
  · intro none
    rw [set_passes_same] at none
    cases none

section Next

variable (here : state.passes who = some pass) (tended : ∀ und ≠ pass.und, Tended cfg state und)
  (mine : Held (state.set who none) pass.und ∨
    state.subbed pass.und ⊆ fed state pass.und ∧ Settled cfg state pass.und)

include here

/-- The pass asks for nothing of an underlying that is not its own. -/
theorem apart_of_here : ∀ und ≠ pass.und, ∀ old ∈ state.passes who, old.und = und →
    wanted old = none := by
  intro und unlike old there place
  rw [here] at there
  cases there
  exact absurd place.symm unlike

include tended mine

/-- The underlyings that the pass is now through with are held or settled, however it goes on. -/
theorem next_through (after : Option Pass) : ∀ und ∈ pass.done ++ [pass.und],
    Held (state.set who after) und ∨ Settled cfg (state.set who after) und := by
  intro und member
  by_cases same : und = pass.und
  · subst same
    rcases mine with held | ⟨-, settled⟩
    · exact Or.inl held.fill
    · exact Or.inr ⟨settled.window, settled.listed⟩
  · have before : und ∈ pass.done := by simpa [same] using member
    rcases (tended und same).done who pass here before with held | settled
    · exact Or.inl (held.set (apart_of_here here und same))
    · exact Or.inr ⟨settled.window, settled.listed⟩

theorem next_tended (after : Option Pass)
    (done : ∀ new ∈ after, new.done = pass.done ++ [pass.und]) (und : Coin) :
    Tended cfg (state.set who after) und := by
  by_cases same : und = pass.und
  · subst same
    have settled := next_through here tended mine after pass.und (by simp)
    refine ⟨?_, fun _ _ _ _ => settled⟩
    exact mine.imp Held.fill And.left
  · refine (tended und same).set (apart_of_here here und same) ?_
    intro new there member
    rw [done new there] at member
    exact ⟨pass, here, by simpa [same] using member⟩

end Next

/-- A pass leaves an underlying that is settled, or that the other pass holds. -/
theorem next_landed (sound : Sound cfg state) (here : state.passes who = some pass)
    (tended : ∀ und ≠ pass.und, Tended cfg state und)
    (mine : Held (state.set who none) pass.und ∨
      state.subbed pass.und ⊆ fed state pass.und ∧ Settled cfg state pass.und) :
    Landed cfg state.passes who (state.next who pass) := by
  have order := sound.order who pass here
  cases rest : pass.rest with
  | nil =>
    rw [rest] at order
    have result : state.next who pass = state.set who none := by rw [Manager.next, rest]
    rw [result]
    refine ⟨sound.set ?_ ?_, next_tended here tended mine none ?_,
      fun other unlike => set_passes_other unlike, ?_⟩
    · rintro new ⟨⟩
    · rintro new ⟨⟩
    · rintro new ⟨⟩
    · exact fun _ und member => next_through here tended mine none und (order ▸ member)
  | cons und later =>
    rw [rest] at order
    have result : state.next who pass =
        state.set who (some ⟨pass.force, pass.done ++ [pass.und], und, later, .ready⟩) := by
      rw [Manager.next, rest]
    rw [result]
    refine ⟨sound.set ?_ ?_, next_tended here tended mine _ ?_,
      fun other unlike => set_passes_other unlike, ?_⟩
    · rintro new ⟨⟩
      simpa using order
    · rintro new ⟨⟩ want ⟨⟩
    · rintro new ⟨⟩
      rfl
    · intro none
      rw [set_passes_same] at none
      cases none

theorem record_landed {want : Finset String} (sound : Sound cfg state)
    (here : state.passes who = some pass) (tended : ∀ und ≠ pass.und, Tended cfg state und)
    (within : Within cfg state pass.und want ∅) :
    Landed cfg state.passes who (state.record who pass want) := by
  have all : fed state pass.und = want := by simpa only [Finset.sdiff_empty] using within.all
  have mine : Function.update state.subbed pass.und want pass.und = want :=
    Function.update_self ..
  have aside : Aside cfg pass.und state
      { state with subbed := Function.update state.subbed pass.und want } :=
    ⟨fun _ _ => rfl, fun _ unlike => Function.update_of_ne unlike _ _, fun _ _ => rfl, rfl, rfl⟩
  have recorded : Sound cfg
      { state with subbed := Function.update state.subbed pass.und want } := by
    refine ⟨?_, sound.covered, sound.order, ?_⟩
    · refine owned_update sound.owned ?_
      rw [← within.window]
      exact window_owned pass.und
    · intro holder new there other wants
      exact (sound.within holder new there other wants).carry rfl rfl rfl
  refine next_landed recorded here (fun und unlike => (tended und unlike).aside aside unlike) ?_
  refine Or.inr ⟨?_, ⟨all.trans within.window.symm, within.window ▸ within.listed⟩⟩
  exact (mine.trans all.symm).subset

theorem remove_landed {want rem : Finset String} (sound : Sound cfg state)
    (here : state.passes who = some pass) (tended : ∀ und ≠ pass.und, Tended cfg state und)
    (within : Within cfg state pass.und want rem) :
    Landed cfg state.passes who (state.remove who pass want rem) := by
  rw [Manager.remove]
  split
  case isTrue nothing => exact record_landed sound here tended (nothing ▸ within)
  case isFalse =>
    have beside : Disjoint (state.windowSymbols cfg pass.und) rem := by
      rw [within.window, ← within.all]
      exact Finset.sdiff_disjoint
    have aside : Aside cfg pass.und state { state with subs := state.subs \ rem } :=
      ⟨fun _ unlike => part_sdiff_other within.owned fun same => unlike (Option.some.inj same),
        fun _ _ => rfl, fun _ _ => rfl, rfl, rfl⟩
    have removed : Sound cfg { state with subs := state.subs \ rem } := by
      refine ⟨sound.owned, ?_, sound.order, ?_⟩
      · exact fun symbol member => sound.covered symbol (Finset.mem_sdiff.mp member).1
      · intro holder new there other wants
        exact (sound.within holder new there other wants).unsubscribe within.owned beside
    refine sending_landed removed here (fun und unlike => (tended und unlike).aside aside unlike)
      (Option.some_ne_none want) ?_
    rintro other ⟨⟩
    refine ⟨within.window, within.listed, ?_, fun symbol member =>
      absurd member (Finset.notMem_empty symbol)⟩
    exact Finset.sdiff_empty.trans (part_sdiff.trans within.all)

/-- A pass subscribes what the window adds. -/
theorem subscribe_landed {want add rem : Finset String} (sound : Sound cfg state)
    (here : state.passes who = some pass) (tended : ∀ und ≠ pass.und, Tended cfg state und)
    (owned : Owned coinOf (some pass.und) add) (inside : add ⊆ state.windowSymbols cfg pass.und)
    (within : Within cfg { state with subs := state.subs ∪ add } pass.und want rem) :
    Landed cfg state.passes who
      ({ state with subs := state.subs ∪ add }.set who
        (some { pass with phase := .subscribing want rem })) := by
  have aside : Aside cfg pass.und state { state with subs := state.subs ∪ add } :=
    ⟨fun _ unlike => part_union_other owned fun same => unlike (Option.some.inj same),
      fun _ _ => rfl, fun _ _ => rfl, rfl, rfl⟩
  have added : Sound cfg { state with subs := state.subs ∪ add } := by
    refine ⟨sound.owned, ?_, sound.order, ?_⟩
    · intro symbol member
      rcases Finset.mem_union.mp member with old | new
      · exact sound.covered symbol old
      · refine ⟨pass.und, ?_, owned symbol new⟩
        simp [← sound.order who pass here]
    · intro holder new there other wants
      exact (sound.within holder new there other wants).subscribe owned inside
  refine sending_landed added here (fun und unlike => (tended und unlike).aside aside unlike)
    (Option.some_ne_none _) ?_
  rintro other ⟨⟩
  exact within

/-- To subscribe what the window has new and to unsubscribe what it has no more leaves the
window. -/
theorem plan_reconciled (sound : Sound cfg state)
    (known : Held state pass.und ∨ state.subbed pass.und ⊆ fed state pass.und)
    (covered : Covered cfg state pass.und) :
    (fed state pass.und ∪ (state.windowSymbols cfg pass.und \ state.subbed pass.und)) \
      (state.subbed pass.und \ state.windowSymbols cfg pass.und) =
        state.windowSymbols cfg pass.und := by
  obtain ⟨_, rest⟩ := covered
  have explained : fed state pass.und ⊆
      state.windowSymbols cfg pass.und ∪ state.subbed pass.und := by
    intro symbol member
    rcases rest symbol member with inside | ⟨-, remembered⟩
    · exact Finset.mem_union_left _ inside
    · exact Finset.mem_union_right _ remembered
  have remembered : state.windowSymbols cfg pass.und ∩ state.subbed pass.und ⊆
      fed state pass.und := by
    rcases known with held | inside
    · exact Finset.inter_subset_left.trans (sound.fed_of_held held)
    · exact Finset.inter_subset_right.trans inside
  exact reconciled remembered explained

/-- The window of an underlying takes up whatever is there. -/
theorem plan_landed (sound : Sound cfg state) (here : state.passes who = some pass)
    (idle : wanted pass = none) (tended : ∀ und ≠ pass.und, Tended cfg state und)
    (known : Held state pass.und ∨ state.subbed pass.und ⊆ fed state pass.und)
    (covered : Covered cfg state pass.und) :
    Landed cfg state.passes who (state.plan cfg who pass) := by
  obtain ⟨listed, rest⟩ := covered
  have elsewhere : Held state pass.und → Held (state.set who none) pass.und := by
    refine fun held => held.set fun old there _ => ?_
    rw [here] at there
    cases there
    exact idle
  have result := plan_reconciled sound known ⟨listed, rest⟩
  have owned : Owned coinOf (some pass.und) (state.windowSymbols cfg pass.und) :=
    window_owned pass.und
  have ownedAdd : Owned coinOf (some pass.und)
      (state.windowSymbols cfg pass.und \ state.subbed pass.und) :=
    fun symbol member => owned symbol (Finset.mem_sdiff.mp member).1
  have ownedRem : Owned coinOf (some pass.und)
      (state.subbed pass.und \ state.windowSymbols cfg pass.und) :=
    fun symbol member => sound.owned pass.und symbol (Finset.mem_sdiff.mp member).1
  simp only [Manager.plan]
  split
  case isTrue empty =>
    -- an empty window returns at once, and there is nothing that it would have to remove
    have nothing : fed state pass.und = ∅ := by
      apply Finset.eq_empty_of_forall_notMem
      intro symbol member
      rcases rest symbol member with inside | ⟨window, -⟩
      · rw [empty] at inside
        exact absurd inside (Finset.notMem_empty symbol)
      · exact window empty
    have settled : Settled cfg state pass.und := ⟨nothing.trans empty.symm, listed⟩
    exact next_landed sound here tended (known.imp elsewhere fun inside => ⟨inside, settled⟩)
  case isFalse window =>
    split
    case isTrue noAdd =>
      rw [noAdd, Finset.union_empty] at result
      split
      case isTrue noRem =>
        rw [noRem, Finset.sdiff_empty] at result
        exact next_landed sound here tended
          (known.imp elsewhere fun inside => ⟨inside, ⟨result, listed⟩⟩)
      case isFalse =>
        exact remove_landed sound here tended ⟨rfl, listed, result, ownedRem⟩
    case isFalse =>
      refine subscribe_landed sound here tended ownedAdd Finset.sdiff_subset ?_
      exact ⟨rfl, listed, (congrArg (· \ _) (part_union ownedAdd)).trans result, ownedRem⟩

/-- What a rollover forgets is no harm by itself. -/
theorem forget_sound (sound : Sound cfg state) : Sound cfg (state.forget who pass) := by
  rw [Manager.forget]
  split
  · refine ⟨?_, sound.covered, sound.order, ?_⟩
    · refine owned_update sound.owned ?_
      exact fun symbol member => absurd member (Finset.notMem_empty symbol)
    · intro holder new there want wants
      exact (sound.within holder new there want wants).carry rfl rfl rfl
  · exact sound

theorem forget_tended {und : Coin} (tended : Tended cfg state und) :
    Tended cfg (state.forget who pass) und := by
  rw [Manager.forget]
  split
  · refine ⟨?_, ?_⟩
    · change Held state und ∨ Function.update state.subbed pass.und ∅ und ⊆ fed state und
      by_cases same : und = pass.und
      · rw [same, Function.update_self]
        exact Or.inr (Finset.empty_subset _)
      · rw [Function.update_of_ne same]
        exact tended.known
    · intro holder new there through
      exact (tended.done holder new there through).imp_right fun settled =>
        ⟨settled.window, settled.listed⟩
  · exact tended

theorem forget_passes : (state.forget who pass).passes = state.passes := by
  rw [Manager.forget]
  split <;> rfl

theorem enter_landed (sound : Sound cfg state) (here : state.passes who = some pass)
    (idle : wanted pass = none) (tended : ∀ und, Tended cfg state und)
    (covered : pass.force = false → state.chain pass.und ≠ none →
      Covered cfg (state.forget who pass) pass.und) :
    Landed cfg state.passes who (state.enter cfg who pass) := by
  have same : (state.forget who pass).passes = state.passes := forget_passes
  have there : (state.forget who pass).passes who = some pass := by rw [same, here]
  rw [← same, Manager.enter]
  split
  case isTrue =>
    exact fetching_landed (forget_sound sound) there idle fun und => forget_tended (tended und)
  case isFalse unforced =>
    simp only [Bool.or_eq_true, Option.isNone_iff_eq_none, not_or, Bool.not_eq_true] at unforced
    exact plan_landed (forget_sound sound) there idle (fun und _ => forget_tended (tended und))
      (forget_tended (tended pass.und)).known (covered unforced.1 unforced.2)

/-- What a pass learns from a fetch concerns the underlying that it is at. -/
theorem learned_aside (expiry : Date) (rows : Option (List Product)) (quote : Rat) :
    Aside cfg pass.und state (learned state pass expiry rows quote) := by
  refine ⟨fun _ _ => rfl, fun _ _ => rfl, ?_, rfl, rfl⟩
  intro other unlike
  simp only [Manager.windowSymbols, learned, Manager.learn]
  split <;> split <;> simp only [Function.update_of_ne unlike]

theorem learned_sound {expiry : Date} {rows : Option (List Product)} {quote : Rat}
    (sound : Sound cfg state)
    (unmoved : Unmoved cfg state pass.und (learned state pass expiry rows quote)) :
    Sound cfg (learned state pass expiry rows quote) := by
  refine ⟨sound.owned, sound.covered, sound.order, ?_⟩
  intro holder new there want wants
  have fine := sound.within holder new there want wants
  have window : (learned state pass expiry rows quote).windowSymbols cfg new.und =
      state.windowSymbols cfg new.und := by
    by_cases same : new.und = pass.und
    · rw [same]
      exact unmoved holder new there same (Option.ne_none_iff_exists'.mpr ⟨want, wants⟩)
    · exact (learned_aside expiry rows quote).window new.und same
  exact fine.carry rfl rfl window

theorem fetched_landed {expiry : Date} {rows : Option (List Product)} {quote : Rat}
    (sound : Sound cfg state) (here : state.passes who = some pass) (idle : wanted pass = none)
    (tended : ∀ und, Tended cfg state und)
    (covered : Covered cfg (learned state pass expiry rows quote) pass.und)
    (unmoved : Unmoved cfg state pass.und (learned state pass expiry rows quote)) :
    Landed cfg state.passes who ((learned state pass expiry rows quote).plan cfg who pass) := by
  have aside : Aside cfg pass.und state (learned state pass expiry rows quote) :=
    learned_aside expiry rows quote
  rw [← aside.passes]
  exact plan_landed (learned_sound sound unmoved) here idle
    (fun und unlike => (tended und).aside aside unlike) (tended pass.und).known covered

end Passes

section Steps

variable {cfg : Config} {state : Manager} {who : Who} {pass : Pass} {event : Event}

/-- What a step keeps, and what it reaches when it ends a pass. -/
structure Fine (cfg : Config) (state : Manager) (event : Event) : Prop where
  sound : Sound cfg (step cfg state event)
  tended : ∀ und, Tended cfg (step cfg state event) und
  agreed : Completes cfg state event →
    (∀ who, ∀ pass ∈ (step cfg state event).passes who, leftover pass = ∅) →
    Agreed cfg (step cfg state event)

theorem fine_of_same (sound : Sound cfg state) (tended : ∀ und, Tended cfg state und)
    (same : step cfg state event = state) : Fine cfg state event := by
  refine ⟨same.symm ▸ sound, same.symm ▸ tended, ?_⟩
  rintro ⟨other, before, after⟩
  rw [same] at after
  exact absurd after before

theorem fine_of_landed (landed : Landed cfg state.passes who (step cfg state event)) :
    Fine cfg state event := by
  refine ⟨landed.sound, landed.tended, ?_⟩
  rintro ⟨other, before, after⟩ finished
  have same : other = who := by
    by_contra unlike
    exact before (landed.others other unlike ▸ after)
  subst same
  apply agreed_of_settled landed.sound
  intro und member
  rcases landed.finished after und member with held | settled
  · exact landed.sound.settled finished held
  · exact settled

theorem go_fine (sound : Sound cfg state) (tended : ∀ und, Tended cfg state und)
    (orderly : Orderly cfg state (.go who)) : Fine cfg state (.go who) := by
  cases here : state.passes who with
  | none => exact fine_of_same sound tended (by simp only [step, here])
  | some pass =>
    by_cases ready : pass.phase = .ready
    · have result : step cfg state (.go who) = state.enter cfg who pass := by
        simp only [step, here, if_pos ready]
      apply fine_of_landed
      rw [result]
      exact enter_landed sound here (by rw [wanted, ready]) tended (orderly pass here ready)
    · exact fine_of_same sound tended (by simp only [step, here, if_neg ready])

theorem fetched_fine {expiry : Date} {rows : Option (List Product)} {quote : Rat}
    (sound : Sound cfg state) (tended : ∀ und, Tended cfg state und)
    (orderly : Orderly cfg state (.fetched who expiry rows quote)) :
    Fine cfg state (.fetched who expiry rows quote) := by
  cases here : state.passes who with
  | none => exact fine_of_same sound tended (by simp only [step, here])
  | some pass =>
    by_cases free : (!state.busy && decide (pass.phase = .fetching)) = true
    · have fetching : pass.phase = .fetching := by
        simpa using (Bool.and_eq_true_iff.mp free).2
      have result : step cfg state (.fetched who expiry rows quote) =
          (learned state pass expiry rows quote).plan cfg who pass := by
        simp only [step, here, if_pos free, learned]
      obtain ⟨covered, unmoved⟩ := orderly pass here fetching
      apply fine_of_landed
      rw [result]
      exact fetched_landed sound here (by rw [wanted, fetching]) tended covered unmoved
    · exact fine_of_same sound tended (by simp only [step, here, if_neg free])

theorem sent_fine (sound : Sound cfg state) (tended : ∀ und, Tended cfg state und) :
    Fine cfg state (.sent who) := by
  cases here : state.passes who with
  | none => exact fine_of_same sound tended (by simp only [step, here])
  | some pass =>
    have within := sound.within who pass here
    have others : ∀ und ≠ pass.und, Tended cfg state und := fun und _ => tended und
    by_cases busy : state.busy = true
    · exact fine_of_same sound tended (by simp only [step, here, if_pos busy])
    · cases phase : pass.phase with
      | ready =>
        exact fine_of_same sound tended (by simp only [step, here, if_neg busy, phase])
      | fetching =>
        exact fine_of_same sound tended (by simp only [step, here, if_neg busy, phase])
      | subscribing want rem =>
        simp only [wanted, leftover, phase] at within
        apply fine_of_landed
        simp only [step, here, if_neg busy, phase]
        exact remove_landed sound here others (within want rfl)
      | unsubscribing want =>
        simp only [wanted, leftover, phase] at within
        apply fine_of_landed
        simp only [step, here, if_neg busy, phase]
        exact record_landed sound here others (within want rfl)

theorem begin_fine {force : Bool} (sound : Sound cfg state)
    (tended : ∀ und, Tended cfg state und) : Fine cfg state (.begin who force) := by
  by_cases held : (state.busy || (state.passes who).isSome) = true
  · exact fine_of_same sound tended (by simp only [step, if_pos held])
  · have free : state.passes who = none := by
      simp only [Bool.or_eq_true, Option.isSome_iff_ne_none, not_or, not_not] at held
      exact held.2
    cases unds : cfg.unds with
    | nil => exact fine_of_same sound tended (by simp only [step, if_neg held, unds])
    | cons und rest =>
      have result : step cfg state (.begin who force) =
          state.set who (some ⟨force || decide (who = .rollover), [], und, rest, .ready⟩) := by
        simp only [step, if_neg held, unds]
      have vacuous : ∀ old ∈ state.passes who, False := by
        intro old there
        rw [free] at there
        cases there
      apply fine_of_landed
      rw [result]
      refine ⟨sound.set ?_ ?_, ?_, fun other unlike => set_passes_other unlike, ?_⟩
      · rintro new ⟨⟩
        exact unds.symm
      · rintro new ⟨⟩ want ⟨⟩
      · intro other
        refine (tended other).set (fun old there => (vacuous old there).elim) ?_
        rintro new ⟨⟩ through
        exact absurd through List.not_mem_nil
      · intro none
        rw [set_passes_same] at none
        cases none

/-- What the world does leaves the bookkeeping alone. -/
theorem world_fine (sound : Sound cfg state) (tended : ∀ und, Tended cfg state und)
    (subs : (step cfg state event).subs = state.subs)
    (subbed : (step cfg state event).subbed = state.subbed)
    (passes : (step cfg state event).passes = state.passes)
    (orderly : Undisturbed cfg state (step cfg state event)) : Fine cfg state event := by
  have fed_same : ∀ und, fed (step cfg state event) und = fed state und := by
    intro und
    rw [fed, subs, fed]
  refine ⟨⟨?_, ?_, ?_, ?_⟩, ?_, ?_⟩
  · rw [subbed]
    exact sound.owned
  · rw [subs]
    exact sound.covered
  · rw [passes]
    exact sound.order
  · rw [passes]
    intro holder pass here want wants
    have fine := sound.within holder pass here want wants
    have place : pass.und ∈ pass.done ++ (wanted pass).toList.map fun _ => pass.und := by
      rw [Option.mem_def.mp wants]
      simp
    obtain ⟨window, listed⟩ := orderly holder pass here pass.und place
    exact ⟨window.trans fine.window, fine.window ▸ listed, by rw [fed_same, fine.all], fine.owned⟩
  · intro und
    refine ⟨?_, ?_⟩
    · rw [held_congr passes, subbed, fed_same]
      exact (tended und).known
    · rw [passes]
      intro holder pass here through
      obtain ⟨window, listed⟩ := orderly holder pass here und (List.mem_append_left _ through)
      rw [held_congr passes]
      refine ((tended und).done holder pass here through).imp_right fun settled => ⟨?_, ?_⟩
      · rw [fed_same, window, settled.window]
      · rw [window]
        exact listed
  · rintro ⟨other, before, after⟩
    rw [passes] at after
    exact absurd after before

theorem step_fine (sound : Sound cfg state) (tended : ∀ und, Tended cfg state und)
    (orderly : Orderly cfg state event) : Fine cfg state event := by
  cases event with
  | spotTick und price =>
    apply world_fine sound tended _ _ _ orderly <;> simp only [step] <;> split <;> rfl
  | clock now =>
    apply world_fine sound tended _ _ _ orderly <;> simp only [step] <;> split <;> rfl
  | lists symbols =>
    apply world_fine sound tended _ _ _ orderly <;> simp only [step] <;> split <;> rfl
  | reconnect => exact fine_of_same sound tended rfl
  | begin who force => exact begin_fine sound tended
  | go who => exact go_fine sound tended orderly
  | fetched who expiry rows quote => exact fetched_fine sound tended orderly
  | sent who => exact sent_fine sound tended

theorem opening_sound (now : Moment) (listing : Finset String) :
    Sound cfg (opening now listing) ∧ ∀ und, Tended cfg (opening now listing) und := by
  refine ⟨⟨?_, ?_, ?_, ?_⟩, fun und => ⟨Or.inr (Finset.empty_subset _), ?_⟩⟩
  · exact fun und symbol member => absurd member (Finset.notMem_empty symbol)
  · exact fun symbol member => absurd member (Finset.notMem_empty symbol)
  · rintro who pass ⟨⟩
  · rintro who pass ⟨⟩
  · rintro who pass ⟨⟩

/-- In a run whose steps are calm every pass ends in agreement. -/
theorem calm_passes_agree (cfg : Config) (now : Moment) (listing : Finset String)
    (events : List Event) (calm : Along (step cfg) (Calm cfg) (opening now listing) events) :
    Along (step cfg) (fun state event => Completes cfg state event →
      Agreed cfg (step cfg state event)) (opening now listing) events := by
  have preserved : ∀ state event, (Sound cfg state ∧ ∀ und, Tended cfg state und) →
      Calm cfg state event →
      Sound cfg (step cfg state event) ∧ ∀ und, Tended cfg (step cfg state event) und := by
    rintro state event ⟨sound, tended⟩ ⟨orderly, -⟩
    have result := step_fine sound tended orderly
    exact ⟨result.sound, result.tended⟩
  apply along_under (step cfg) preserved _ _ _ (opening_sound now listing) calm
  rintro state event ⟨sound, tended⟩ ⟨orderly, finished⟩ completes
  exact (step_fine sound tended orderly).agreed completes (finished completes)

/-- The rows of two strikes with one expiry. -/
def twoStrikes (expiry : String) : List Product :=
  [⟨"call_options", "BTC", "C-BTC-90000-" ++ expiry, some 90000⟩,
    ⟨"put_options", "BTC", "P-BTC-90000-" ++ expiry, some 90000⟩,
    ⟨"call_options", "BTC", "C-BTC-91000-" ++ expiry, some 91000⟩,
    ⟨"put_options", "BTC", "P-BTC-91000-" ++ expiry, some 91000⟩]

def twoListed (expiry : String) : Finset String :=
  ((twoStrikes expiry).map Product.symbol).toFinset

def fifth : Date := ⟨2026, 1, 5, by decide, by decide⟩

def morning : Moment := toLex (fifth, 36000000000)

/-- The first pass of a manager for both coins that finds products of one of them. -/
def firstPass : List Event :=
  [.begin .manager true, .go .manager,
    .fetched .manager fifth (some (twoStrikes "050126")) 90100, .sent .manager,
    .go .manager, .fetched .manager fifth (some (twoStrikes "050126")) 0]

/-- The spot price moves and the next pass follows it. -/
def movedPass : List Event :=
  [.spotTick .btc 91000, .begin .manager false, .go .manager, .sent .manager, .sent .manager,
    .go .manager, .fetched .manager fifth (some (twoStrikes "050126")) 0]

/-- Two passes are under way, and both send for the same coin. -/
def crossedPasses : List Event :=
  [.begin .rollover true, .go .rollover, .begin .manager false, .go .manager,
    .fetched .rollover fifth (some (twoStrikes "050126")) 91000, .sent .manager,
    .go .manager, .sent .rollover, .go .rollover,
    .fetched .manager fifth (some (twoStrikes "050126")) 0,
    .fetched .rollover fifth (some (twoStrikes "050126")) 0]

theorem calm_passes_agree_crossed :
    Along (step ⟨[.btc, .eth], 0⟩) (fun state event =>
      Completes ⟨[.btc, .eth], 0⟩ state event →
        Agreed ⟨[.btc, .eth], 0⟩ (step ⟨[.btc, .eth], 0⟩ state event))
      (opening morning (twoListed "050126")) (firstPass ++ movedPass ++ crossedPasses) :=
  calm_passes_agree _ _ _ _ (by decide +kernel)

/-- The contracts of the next day are listed at 17:30, and the rollover makes its pass up to
its last answer. -/
def rolledPass : List Event :=
  [.clock (toLex (fifth, dailyExpiry)), .lists (twoListed "060126"),
    .begin .rollover true, .go .rollover,
    .fetched .rollover (Order.succ fifth) (some (twoStrikes "060126")) 90100, .sent .rollover,
    .go .rollover]

/-- After a rollover the contracts that have expired are still subscribed. -/
theorem rollover_keeps_expired :
    ¬ ∀ (cfg : Config) (now : Moment) (listing : Finset String) (events : List Event),
      Along (step cfg) (fun state event => Completes cfg state event →
        Agreed cfg (step cfg state event)) (opening now listing) events := by
  intro always
  let cfg : Config := ⟨[.btc, .eth], 0⟩
  let last : Event := .fetched .rollover (Order.succ fifth) (some (twoStrikes "060126")) 0
  have whole := always cfg morning (twoListed "050126") (firstPass ++ rolledPass ++ [last])
  obtain ⟨-, here, -⟩ := (along_append _ _ _ _ _).mp whole
  have agreed := here (by decide +kernel)
  exact absurd agreed.listed (by decide +kernel)

end Steps

end OptionChain.ChainAgreement
