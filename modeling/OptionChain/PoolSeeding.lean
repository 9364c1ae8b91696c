import OptionChain.BoundedDeques
import OptionChain.PoolIndicators

/-!
# Seeding a strike with past bars

A freshly selected strike is warmed from history: the seeds come in on the left of
the deques of its key, below every minute that is there. The deques are bounded,
and what comes in on the left of a full deque drops its right end, which is the
live one. `seedStrike_lossless_iff` says that the seeding loses nothing exactly if
the seeds fit beside the bars that are there.
-/

namespace OptionChain.PoolSeeding

open Broker Buckets PoolIndicators BoundedDeques

/-- The three deques of a key. -/
structure Deques where
  closes : List Rat
  atps : List Rat
  mins : List Int
deriving DecidableEq

def Deques.ofBars (bars : List Bar) : Deques :=
  ⟨bars.map Bar.close, bars.map Bar.atp, bars.map Bar.minute⟩

inductive SeedError where
  | indexError
deriving DecidableEq

/-- The smallest minute of `n` seeds: below the first bar and below zero. -/
def baseMinute (mins : List Int) (n : Nat) : Int := min (mins.head?.getD 0) 0 - n

section Seeding

variable (maxlen : Nat)

/-- The loop of `seed_strike` over the first `n` seeds, from the last of them down. The
close of a round is in its deque when the ATP is missing. -/
def seedLoop (closes atps : List Rat) (base : Int) : Nat → Deques → Deques × Option SeedError
  | 0, deques => (deques, none)
  | i + 1, deques =>
      match closes[i]? with
      | none => (deques, some .indexError)
      | some close =>
          let closed := { deques with closes := appendLeft maxlen deques.closes close }
          match atps[i]? with
          | none => (closed, some .indexError)
          | some atp =>
              seedLoop closes atps base i
                { closed with
                  atps := appendLeft maxlen closed.atps atp
                  mins := appendLeft maxlen closed.mins (base + i) }

/-- `seed_strike` on the deques of its key. -/
def seedStrike (deques : Deques) (closes atps : List Rat) : Deques × Option SeedError :=
  if closes.length = 0 then (deques, none)
  else seedLoop maxlen closes atps (baseMinute deques.mins closes.length) closes.length deques

end Seeding

/-- The seeds with their minutes, oldest first. -/
def seedBars (bars : List Bar) (seeds : List Quote) : List Bar :=
  seeds.mapIdx fun i quote =>
    ⟨baseMinute (bars.map Bar.minute) seeds.length + i, quote.ltp, quote.atp⟩

@[simp] theorem seedBars_length (bars : List Bar) (seeds : List Quote) :
    (seedBars bars seeds).length = seeds.length := List.length_mapIdx

/-- What a bounded series holds after a seeding. -/
def seeded (maxlen : Nat) (bars : List Bar) (seeds : List Quote) : List Bar :=
  extendLeft maxlen bars (seedBars bars seeds)

theorem ofBars_appendLeft (maxlen : Nat) (bars : List Bar) (bar : Bar) :
    Deques.ofBars (appendLeft maxlen bars bar) =
      ⟨appendLeft maxlen (bars.map Bar.close) bar.close,
        appendLeft maxlen (bars.map Bar.atp) bar.atp,
        appendLeft maxlen (bars.map Bar.minute) bar.minute⟩ := by
  simp only [Deques.ofBars, appendLeft, List.map_take, List.map_cons]

/-- The loop keeps the deques aligned: it puts whole bars in front. -/
theorem seedLoop_ofBars (maxlen : Nat) (seeds : List Quote) (base : Int) {bars : List Bar}
    {n : Nat} (within : n ≤ seeds.length) :
    seedLoop maxlen (seeds.map Quote.ltp) (seeds.map Quote.atp) base n (Deques.ofBars bars) =
      (Deques.ofBars (extendLeft maxlen bars
        ((seeds.mapIdx fun i quote => (⟨base + i, quote.ltp, quote.atp⟩ : Bar)).take n)),
        none) := by
  induction n generalizing bars with
  | zero => rfl
  | succ n inductionHypothesis =>
    have inside : n < seeds.length := within
    -- the seed of the round, and the rounds after it over the series with it in front
    have round := @inductionHypothesis (appendLeft maxlen bars
      ⟨base + n, seeds[n].ltp, seeds[n].atp⟩) (Nat.le_of_lt inside)
    rw [ofBars_appendLeft] at round
    have taken : (seeds.mapIdx fun i quote => (⟨base + i, quote.ltp, quote.atp⟩ : Bar)).take
        (n + 1) = (seeds.mapIdx fun i quote => (⟨base + i, quote.ltp, quote.atp⟩ : Bar)).take n
          ++ [⟨base + n, seeds[n].ltp, seeds[n].atp⟩] := by
      rw [List.take_add_one, List.getElem?_mapIdx, List.getElem?_eq_getElem inside]
      rfl
    rw [seedLoop, List.getElem?_map, List.getElem?_map, List.getElem?_eq_getElem inside, taken,
      extendLeft, List.foldr_append]
    exact round

/-- `seed_strike` on aligned deques puts the seeds in front, bar by bar. -/
theorem seedStrike_ofBars (maxlen : Nat) (bars : List Bar) (seeds : List Quote) :
    seedStrike maxlen (Deques.ofBars bars) (seeds.map Quote.ltp) (seeds.map Quote.atp) =
      (Deques.ofBars (seeded maxlen bars seeds), none) := by
  rw [seedStrike, List.length_map]
  split
  case isTrue empty =>
    rw [List.length_eq_zero_iff] at empty
    rw [empty]
    rfl
  case isFalse =>
    rw [seedLoop_ofBars maxlen seeds _ le_rfl, List.take_of_length_le (by simp)]
    rfl

theorem ofBars_injective {a b : List Bar} (same : Deques.ofBars a = Deques.ofBars b) : a = b := by
  rw [Deques.ofBars, Deques.ofBars, Deques.mk.injEq] at same
  obtain ⟨closes, atps, mins⟩ := same
  apply List.ext_getElem?
  intro i
  have close := congrArg (·[i]?) closes
  have atp := congrArg (·[i]?) atps
  have minute := congrArg (·[i]?) mins
  simp only [List.getElem?_map] at close atp minute
  cases ha : a[i]? with
  | none =>
    cases hb : b[i]? with
    | none => rfl
    | some q => simp [ha, hb] at close
  | some p =>
    cases hb : b[i]? with
    | none => simp [ha, hb] at close
    | some q =>
      obtain ⟨⟩ := p
      obtain ⟨⟩ := q
      simp only [ha, hb, Option.map_some, Option.some.injEq] at close atp minute
      rw [close, atp, minute]

/-- The minutes of a series go up. -/
def Ascending (bars : List Bar) : Prop := bars.Pairwise (fun a b => a.minute < b.minute)

/-- The minutes of the seeds go up and end below zero and below the first bar. -/
theorem seedBars_below {bars : List Bar} {seeds : List Quote} {seed : Bar}
    (member : seed ∈ seedBars bars seeds) :
    seed.minute < 0 ∧ ∀ first ∈ bars.head?, seed.minute < first.minute := by
  obtain ⟨i, inside, at_⟩ := List.mem_mapIdx.mp member
  subst at_
  simp only [baseMinute]
  constructor
  · omega
  · intro first atHead
    rw [List.head?_map, Option.mem_def.mp atHead, Option.map_some, Option.getD_some]
    omega

theorem seedBars_ascending (bars : List Bar) (seeds : List Quote) :
    Ascending (seedBars bars seeds) := by
  rw [Ascending, seedBars, List.pairwise_iff_getElem]
  intro i j _ _ before
  simp only [List.getElem_mapIdx]
  omega

theorem ascending_append {bars : List Bar} (ascending : Ascending bars) (seeds : List Quote) :
    Ascending (seedBars bars seeds ++ bars) := by
  rw [Ascending, List.pairwise_append]
  refine ⟨seedBars_ascending bars seeds, ascending, fun seed member bar barMember => ?_⟩
  have below := (seedBars_below member).2
  cases bars with
  | nil => cases barMember
  | cons first rest =>
    have first_lt := below first rfl
    rcases List.mem_cons.mp barMember with same | later
    · rw [same]
      exact first_lt
    · exact lt_trans first_lt ((List.pairwise_cons.mp ascending).1 bar later)

/-- The bars of a key, within the bound of the deques. -/
structure Series (maxlen : Nat) where
  bars : List Bar
  bounded : bars.length ≤ maxlen

/-- A seeding that loses nothing: the three deques hold the last elements of the seeds
followed by the series, every bar that was there is still there in its place from the
end, and minutes that went up still do. -/
def Lossless (maxlen : Nat) (bars : List Bar) (seeds : List Quote)
    (result : Deques × Option SeedError) : Prop :=
  ∃ later, result = (Deques.ofBars later, none) ∧
    later = (seedBars bars seeds ++ bars).rtake maxlen ∧
    bars <:+ later ∧ (Ascending bars → Ascending later)

/-- The first seed stands neither at the head of the series nor a second time. -/
theorem seedBars_first {bars : List Bar} {seeds : List Quote} {first : Bar} {rest : List Bar}
    (parts : seedBars bars seeds = first :: rest) :
    first ∉ rest ∧ bars.head? ≠ some first := by
  constructor
  · intro again
    have ascending := seedBars_ascending bars seeds
    rw [parts] at ascending
    exact lt_irrefl _ ((List.pairwise_cons.mp ascending).1 first again)
  · intro atHead
    have member : first ∈ seedBars bars seeds := by
      rw [parts]
      exact List.mem_cons_self
    exact lt_irrefl _ ((seedBars_below member).2 first atHead)

/-- The seeded series is the last part of seeds and bars exactly if they fit. -/
theorem seeded_eq_rtake_iff {maxlen : Nat} (series : Series maxlen) (seeds : List Quote) :
    seeded maxlen series.bars seeds = (seedBars series.bars seeds ++ series.bars).rtake maxlen ↔
      seeds = [] ∨ maxlen = 0 ∨ seeds.length + series.bars.length ≤ maxlen := by
  cases parts : seedBars series.bars seeds with
  | nil =>
    have empty : seeds = [] := by
      rw [← List.length_eq_zero_iff, ← seedBars_length series.bars, parts]
      rfl
    rw [seeded, parts, extendLeft_eq series.bounded]
    exact iff_of_true (take_eq_rtake series.bounded) (.inl empty)
  | cons first rest =>
    obtain ⟨once, other⟩ := seedBars_first parts
    have nonempty : seeds ≠ [] := by
      rintro rfl
      cases parts
    have lengths : (first :: rest).length = seeds.length := by rw [← parts, seedBars_length]
    rw [seeded, parts, extendLeft_keeps_iff series.bounded once other, lengths]
    simp only [nonempty, false_or]

/-- Seeding a strike is lossless exactly if there is nothing to seed, the deques hold
nothing, or the seeds fit beside the bars that are there. -/
theorem seedStrike_lossless_iff (maxlen : Nat) (series : Series maxlen) (seeds : List Quote) :
    Lossless maxlen series.bars seeds
        (seedStrike maxlen (Deques.ofBars series.bars) (seeds.map Quote.ltp)
          (seeds.map Quote.atp)) ↔
      seeds = [] ∨ maxlen = 0 ∨ seeds.length + series.bars.length ≤ maxlen := by
  rw [seedStrike_ofBars, ← seeded_eq_rtake_iff]
  constructor
  · rintro ⟨later, same, last, -, -⟩
    have equal : seeded maxlen series.bars seeds = later :=
      ofBars_injective (congrArg Prod.fst same)
    rw [equal, last]
  · intro keeps
    refine ⟨_, rfl, keeps, ?_, ?_⟩
    · -- the last part is long enough for every bar
      rw [keeps]
      exact List.suffix_of_suffix_length_le (List.suffix_append _ _) (rtake_suffix _ _)
        (by
          have bound := series.bounded
          rw [List.rtake, List.length_drop, List.length_append]
          omega)
    · intro ascending
      rw [keeps]
      exact (ascending_append ascending seeds).sublist (rtake_suffix _ _).sublist

/-- Two hundred live minutes of a session. -/
def liveBars : List Bar := (List.range 200).map fun i : Nat => ⟨555 + (i : Int), 100, 100⟩

/-- Seventy-five seeds at an entry in the afternoon drop the last thirty-five minutes. -/
theorem seedStrike_drops_live :
    ¬Lossless 240 liveBars (List.replicate 75 ⟨90, 90⟩)
      (seedStrike 240 (Deques.ofBars liveBars) (List.replicate 75 90)
        (List.replicate 75 90)) := by
  have bounded : liveBars.length ≤ 240 := by
    rw [liveBars, List.length_map, List.length_range]
    decide
  have seeding := seedStrike_ofBars 240 liveBars (List.replicate 75 ⟨90, 90⟩)
  rw [List.map_replicate, List.map_replicate] at seeding
  rw [seeding]
  rintro ⟨later, same, last, -, -⟩
  have equal : seeded 240 liveBars (List.replicate 75 ⟨90, 90⟩) = later :=
    ofBars_injective (congrArg Prod.fst same)
  have fits := (seeded_eq_rtake_iff ⟨liveBars, bounded⟩ _).mp (equal.trans last)
  rw [List.length_replicate] at fits
  simp only [liveBars, List.length_map, List.length_range] at fits
  rcases fits with empty | zero | small
  · exact absurd (congrArg List.length empty) (by rw [List.length_replicate]; decide)
  · omega
  · omega

end OptionChain.PoolSeeding
