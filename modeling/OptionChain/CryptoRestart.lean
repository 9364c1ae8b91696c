import OptionChain.SessionRestart

/-!
# A session across midnight

Two layers decide what is stale. The store goes by the calendar date of the writing,
the strategy by its session day, which for a crypto book begins at `entry_start` and
runs past midnight. The position file carries no session day at all.

A restart is judged by what was saved last: within the session day of the save it has
to bring all of it back, in a later session day nothing.
-/

namespace OptionChain.CryptoRestart

open Runs StraddleEvents StraddleBook StraddleExits StraddleStore SessionRestart

/-- A snapshot, and the settings and clock it was written under. -/
structure Saved where
  settings : ExitSettings
  clock : Clock
  snapshot : Snapshot

def Saved.sessionDay (saved : Saved) : Int := StraddleExits.sessionDay saved.settings saved.clock

def Saved.files (saved : Saved) : Store := writeFiles saved.settings saved.clock saved.snapshot

/-- A machine, and what it persisted last. -/
structure Watched where
  machine : Machine
  saved : Option Saved

section Watching

variable (identity : Identity)

/-- What an event leaves in the files. -/
def savedBy (machine : Machine) (event : StraddleEvent) : Option Saved :=
  (latest (emitted identity machine event)).map (Saved.mk event.settings event.clock)

def watch (watched : Watched) (event : StraddleEvent) : Watched where
  machine := machineStep identity watched.machine event
  saved := (savedBy identity watched.machine event).or watched.saved

/-- A first start, with nothing saved. -/
def Watched.fresh (settings : ExitSettings) (clock : Clock) : Watched :=
  ⟨.fresh settings clock, none⟩

/-- The calendar does not go back. -/
def Forward (watched : Watched) (event : StraddleEvent) : Prop :=
  watched.machine.date ≤ event.clock.day

instance (watched : Watched) (event : StraddleEvent) : Decidable (Forward watched event) :=
  inferInstanceAs (Decidable (_ ≤ _))

end Watching

/-- The open position, the booked P&L, the trade count and the stop flag are those that
were saved. -/
structure Restores (snapshot : Snapshot) (strategy : Strategy) : Prop where
  position : strategy.book.position.map toDict = snapshot.position.map toDict
  pnl : strategy.book.sessionRealizedPnlPts = snapshot.sessionRealizedPnlPts
  trades : strategy.book.tradesToday = snapshot.tradesToday
  stop : strategy.book.stopForDay = snapshot.stopForDay

section Judging

variable (settings : ExitSettings) (clock : Clock)

/-- What a restart has to do with the state that was saved last: bring it back within
its session day, and leave it alone in a later one. -/
structure Faithful (saved : Saved) (started : Strategy) : Prop where
  within : sessionDay settings clock = saved.sessionDay → Restores saved.snapshot started
  later : saved.sessionDay < sessionDay settings clock → started = .fresh

/-- The snapshot of a book that has not traded. -/
def Idle (snapshot : Snapshot) : Prop :=
  snapshot.position = none ∧ snapshot.sessionRealizedPnlPts = 0 ∧ snapshot.tradesToday = 0 ∧
    snapshot.stopForDay = false

/-- An open position was saved with its trade counted and its lot size known. -/
def Complete (snapshot : Snapshot) : Prop :=
  ∀ pos ∈ snapshot.position, 1 ≤ snapshot.tradesToday ∧
    (pos.lotSize = 0 → settings.lotSize * settings.lotMultiplier = 0)

/-- The two notions of a day agree where it matters: a restart within the session day
falls on the date of the save, a restart in a later one does not. -/
structure Aligned (saved : Saved) : Prop where
  within : sessionDay settings clock = saved.sessionDay →
    if clock.day = saved.clock.day then Complete settings saved.snapshot else Idle saved.snapshot
  later : saved.sessionDay < sessionDay settings clock →
    clock.day = saved.clock.day → saved.snapshot.position = none

end Judging

/-! ## What a restart reads -/

section Reading

variable {settings : ExitSettings} {clock : Clock} {saved : Saved}

/-- Files of another date bring nothing back. -/
theorem start_otherDay (other : clock.day ≠ saved.clock.day) :
    (start settings clock .fresh saved.files).1 = .fresh := by
  have differs : saved.clock.day ≠ clock.day := fun same => other same.symm
  have position : load clock saved.files.position = none := by
    cases held : saved.snapshot.position with
    | none => simp [Saved.files, writeFiles, load, held]
    | some pos => simp [Saved.files, writeFiles, load, held, Option.filter, differs]
  have session : load clock saved.files.session = none := by
    simp [Saved.files, writeFiles, load, Option.filter, differs]
  rw [start]
  simp only [position, restoreSession, session]
  rfl

theorem load_position (sameDate : clock.day = saved.clock.day) :
    load clock saved.files.position = saved.files.position := by
  cases held : saved.files.position with
  | none => rfl
  | some file =>
    obtain ⟨pos, -, rfl⟩ := Option.map_eq_some_iff.mp held
    exact load_today sameDate.symm

/-- What is written back of a healed position. -/
theorem toDict_healLots (d : PositionDict) :
    toDict (healLots settings (fromDict d)) = d ↔
      (d.lotSize = 0 → settings.lotSize * settings.lotMultiplier = 0) := by
  by_cases missing : d.lotSize = 0
  · have healed : healLots settings (fromDict d) =
        { fromDict d with lotSize := settings.lotSize * settings.lotMultiplier } := if_pos missing
    rw [healed]
    constructor
    · intro same _
      exact (congrArg PositionDict.lotSize same).trans missing
    · intro zero
      cases d
      simp_all [toDict, fromDict, legToDict, legFromDict]
  · have kept : healLots settings (fromDict d) = fromDict d := if_neg missing
    rw [kept]
    exact ⟨fun _ zero => absurd zero missing, fun _ => rfl⟩

/-- A restart on the date and in the session of the save brings everything back, up to
what `start` repairs. -/
theorem restores_sameDay (sameDate : clock.day = saved.clock.day)
    (sameSession : sessionDay settings clock = saved.sessionDay) :
    Restores saved.snapshot (start settings clock .fresh saved.files).1 ↔
      Complete settings saved.snapshot := by
  have kept : load clock saved.files.session = saved.files.session := load_today sameDate.symm
  have read := start_sums kept sameSession.symm
  have position := load_position sameDate
  rw [position] at read
  cases held : saved.snapshot.position with
  | none =>
    have file : saved.files.position = none := by simp [Saved.files, writeFiles, held]
    rw [file] at position read
    have book : (start settings clock .fresh saved.files).1.book.position = none := by
      simp only [start, file, position, restoreSession, kept]
      split <;> rfl
    have sumsRead : sums (start settings clock .fresh saved.files).1.book =
        ⟨saved.snapshot.sessionRealizedPnlPts, saved.snapshot.tradesToday,
          saved.snapshot.stopForDay⟩ := read
    simp only [sums, Sums.mk.injEq] at sumsRead
    obtain ⟨pnl, trades, stop⟩ := sumsRead
    exact ⟨fun _ => by simp [Complete, held], fun _ => ⟨by rw [book, held], pnl, trades, stop⟩⟩
  | some pos =>
    have file : saved.files.position = some ⟨saved.clock.day, toDict pos⟩ := by
      simp [Saved.files, writeFiles, held]
    rw [file] at position read
    have book : (start settings clock .fresh saved.files).1.book.position =
        some (healLots settings (fromDict (toDict pos))) := by
      simp only [start, file, position, restorePosition_position]
    have sumsRead : sums (start settings clock .fresh saved.files).1.book =
        ⟨saved.snapshot.sessionRealizedPnlPts, max saved.snapshot.tradesToday 1,
          saved.snapshot.stopForDay⟩ := read
    simp only [sums, Sums.mk.injEq] at sumsRead
    obtain ⟨pnl, trades, stop⟩ := sumsRead
    constructor
    · intro restored other listed
      obtain rfl : pos = other := Option.some.inj (held.symm.trans listed)
      refine ⟨by have counted := trades.symm.trans restored.trades; omega, ?_⟩
      have same := restored.position
      rw [book, held] at same
      exact (toDict_healLots (toDict pos)).mp (Option.some.inj same)
    · intro complete
      obtain ⟨counted, sized⟩ := complete pos held
      refine ⟨?_, pnl, by rw [trades]; omega, stop⟩
      rw [book, held]
      exact congrArg some ((toDict_healLots (toDict pos)).mpr sized)

/-- In a later session of the same date the sums are left alone, the position is not. -/
theorem fresh_sameDay (sameDate : clock.day = saved.clock.day)
    (otherSession : sessionDay settings clock ≠ saved.sessionDay) :
    (start settings clock .fresh saved.files).1 = .fresh ↔ saved.snapshot.position = none := by
  have position := load_position sameDate
  have differs : saved.sessionDay ≠ sessionDay settings clock := fun same => otherSession same.symm
  have skipped : restoreSession settings clock .fresh saved.files = .fresh := by
    have kept : load clock saved.files.session = saved.files.session := load_today sameDate.symm
    rw [restoreSession, kept]
    have stale : saved.files.session.filter
        (fun stored => decide (stored.content.sessionDay = sessionDay settings clock)) = none :=
      if_neg (by simpa [Saved.sessionDay] using differs)
    rw [stale]
  cases held : saved.snapshot.position with
  | none =>
    have file : saved.files.position = none := by simp [Saved.files, writeFiles, held]
    rw [file] at position
    simp only [start, file, position, skipped]
  | some pos =>
    have file : saved.files.position = some ⟨saved.clock.day, toDict pos⟩ := by
      simp [Saved.files, writeFiles, held]
    rw [file] at position
    simp only [start, file, position, skipped, reduceCtorEq, iff_false]
    intro same
    have restored := congrArg (fun strategy => strategy.book.position) same
    simp [restorePosition_position, Strategy.fresh, Book.fresh] at restored

theorem restores_fresh (snapshot : Snapshot) : Restores snapshot .fresh ↔ Idle snapshot := by
  constructor
  · intro restored
    refine ⟨?_, restored.pnl.symm, restored.trades.symm, restored.stop.symm⟩
    have position := restored.position
    cases held : snapshot.position with
    | none => rfl
    | some pos => simp [held, Strategy.fresh, Book.fresh] at position
  · rintro ⟨position, pnl, trades, stop⟩
    exact ⟨by rw [position]; rfl, pnl.symm, trades.symm, stop.symm⟩

/-- A restart treats the last save as it should exactly where the two notions of a day
agree. -/
theorem faithful_files :
    Faithful settings clock saved (start settings clock .fresh saved.files).1 ↔
      Aligned settings clock saved := by
  by_cases sameDate : clock.day = saved.clock.day
  · constructor
    · intro faithful
      refine ⟨fun same => ?_, fun later _ => ?_⟩
      · rw [if_pos sameDate]
        exact (restores_sameDay sameDate same).mp (faithful.within same)
      · exact (fresh_sameDay sameDate (ne_of_gt later)).mp (faithful.later later)
    · intro aligned
      refine ⟨fun same => ?_, fun later => ?_⟩
      · have complete := aligned.within same
        rw [if_pos sameDate] at complete
        exact (restores_sameDay sameDate same).mpr complete
      · exact (fresh_sameDay sameDate (ne_of_gt later)).mpr (aligned.later later sameDate)
  · rw [start_otherDay sameDate]
    constructor
    · intro faithful
      refine ⟨fun same => ?_, fun _ again => absurd again sameDate⟩
      rw [if_neg sameDate]
      exact (restores_fresh _).mp (faithful.within same)
    · intro aligned
      refine ⟨fun same => ?_, fun _ => rfl⟩
      have idle := aligned.within same
      rw [if_neg sameDate] at idle
      exact (restores_fresh _).mpr idle

end Reading
/-! ## Runs -/

section Running

variable (identity : Identity)

/-- The files hold the last save, or an earlier restart has discarded it. -/
def Filed (watched : Watched) : Prop :=
  match watched.saved with
  | none => watched.machine.store = {}
  | some saved =>
      saved.clock.day ≤ watched.machine.date ∧
      (watched.machine.store = saved.files ∨
        (watched.machine.store = {} ∧ saved.clock.day < watched.machine.date))

theorem load_none {clock : Clock} {α : Type} : load clock (none : Option (Dated α)) = none := rfl

/-- The store discards both files, or neither. -/
theorem load_files (clock : Clock) (saved : Saved) :
    (⟨load clock saved.files.position, load clock saved.files.session⟩ : Store) =
      if clock.day = saved.clock.day then saved.files else {} := by
  split
  · rename_i sameDate
    rw [load_position sameDate, show load clock saved.files.session = saved.files.session from
      load_today sameDate.symm]
  · rename_i other
    have differs : saved.clock.day ≠ clock.day := fun same => other same.symm
    cases held : saved.snapshot.position with
    | none => simp [Saved.files, writeFiles, load, held, Option.filter, differs]
    | some pos => simp [Saved.files, writeFiles, load, held, Option.filter, differs]

/-- A restart finds the last save, whether an earlier one has discarded it or not. -/
theorem start_filed {watched : Watched} {saved : Saved} (filed : Filed watched)
    (last : watched.saved = some saved) (settings : ExitSettings) {clock : Clock}
    (forward : watched.machine.date ≤ clock.day) :
    start settings clock .fresh watched.machine.store =
      start settings clock .fresh saved.files ∨
    ((start settings clock .fresh watched.machine.store).1 = .fresh ∧
      (start settings clock .fresh saved.files).1 = .fresh) := by
  rw [Filed, last] at filed
  obtain ⟨-, stored | ⟨gone, passed⟩⟩ := filed
  · exact .inl (by rw [stored])
  · refine .inr ⟨?_, start_otherDay (by omega)⟩
    rw [gone]
    rfl

theorem filed_fresh (settings : ExitSettings) (clock : Clock) :
    Filed (Watched.fresh settings clock) := rfl

/-- One event that is not a restart leaves the files as they were, or saves. -/
theorem filed_handled {watched : Watched} {event : StraddleEvent} {strategy : Strategy}
    {effects : List Effect} (filed : Filed watched) (forward : Forward watched event) :
    Filed ⟨⟨strategy, effects.foldl (write event.settings event.clock) watched.machine.store,
        sessionDay event.settings event.clock, event.clock.day⟩,
      ((latest effects).map (Saved.mk event.settings event.clock)).or watched.saved⟩ := by
  rw [write_latest]
  cases saves : latest effects with
  | some snapshot => exact ⟨le_refl _, .inl rfl⟩
  | none =>
    simp only [Forward] at forward
    simp only [Filed, Option.map_none, Option.none_or, Option.getD_none] at filed ⊢
    cases last : watched.saved with
    | none =>
      rw [last] at filed
      exact filed
    | some saved =>
      rw [last] at filed
      obtain ⟨written, stored | ⟨gone, passed⟩⟩ := filed
      · exact ⟨written.trans forward, .inl stored⟩
      · exact ⟨written.trans forward, .inr ⟨gone, lt_of_lt_of_le passed forward⟩⟩

theorem filed_restart {watched : Watched} {settings : ExitSettings} {clock : Clock}
    (filed : Filed watched) (forward : watched.machine.date ≤ clock.day) :
    Filed (watch identity watched ⟨settings, clock, .restart⟩) := by
  have files : (start settings clock .fresh watched.machine.store).2 =
      ⟨load clock watched.machine.store.position, load clock watched.machine.store.session⟩ :=
    start_files .fresh
  simp only [Filed, watch, savedBy, emitted, handle, latest, Option.map_none, Option.none_or,
    machineStep, files] at filed ⊢
  cases last : watched.saved with
  | none =>
    rw [last] at filed
    simp only at filed
    simp only [filed, load_none]
  | some saved =>
    rw [last] at filed
    obtain ⟨written, stored | ⟨gone, passed⟩⟩ := filed
    · refine ⟨written.trans forward, ?_⟩
      simp only [stored, load_files]
      split
      · exact .inl rfl
      · rename_i other
        exact .inr ⟨rfl, by omega⟩
    · refine ⟨written.trans forward, .inr ⟨?_, lt_of_lt_of_le passed forward⟩⟩
      simp only [gone, load_none]

theorem watch_filed (watched : Watched) (event : StraddleEvent) (filed : Filed watched)
    (forward : Forward watched event) : Filed (watch identity watched event) := by
  obtain ⟨settings, clock, handled⟩ := event
  cases handled with
  | restart => exact filed_restart identity filed forward
  | candle => exact filed_handled filed forward
  | indexTick market ltp => exact filed_handled filed forward
  | optionTick optType strike ltp => exact filed_handled filed forward
  | fill ev => exact filed_handled filed forward
  | squareOff reason => exact filed_handled filed forward

/-- After any run of a book, a restart treats what was saved last as it should exactly
where the calendar of the store and the session day of the strategy agree on it. -/
theorem restart_faithful_iff (first : ExitSettings) (opened : Clock) (events : List StraddleEvent)
    (forward : Along (watch identity) Forward (Watched.fresh first opened) events)
    (saved : Saved) (settings : ExitSettings) (clock : Clock)
    (last : (run (watch identity) (Watched.fresh first opened) events).saved = some saved)
    (onward : (run (watch identity) (Watched.fresh first opened) events).machine.date ≤ clock.day) :
    Faithful settings clock saved
        (start settings clock .fresh
          (run (watch identity) (Watched.fresh first opened) events).machine.store).1 ↔
      Aligned settings clock saved := by
  have filed := along_invariant (watch identity) (watch_filed identity) _ events
    (filed_fresh first opened) forward
  rw [← faithful_files]
  rcases start_filed filed last settings onward with same | ⟨here, there⟩
  · rw [same]
  · rw [here, there]

end Running

/-! ## Two nights -/

def btc : Identity := ⟨"BTC", "c1", "b1"⟩

/-- A session from 18:30 to 16:30 of the next day. -/
def nightly : ExitSettings :=
  { targeted with isCrypto := true, entryStart := 66600, entryCutoff := 59400, forceExit := 59400 }

def onDay (day seconds : Int) (handled : Handled) : StraddleEvent :=
  ⟨nightly, { day := day, seconds := seconds, monotonic := day * 86400 + seconds }, handled⟩

/-- An entry, and its confirmation. -/
def entryAt (day seconds : Int) : List StraddleEvent :=
  [onDay day seconds .candle,
    onDay day (seconds + 1) (.indexTick pairOffered 24000),
    onDay day (seconds + 2) (.optionTick .ce 24000 100),
    onDay day (seconds + 2) (.optionTick .pe 24000 90),
    onDay day (seconds + 3) (.indexTick pairOffered 24000),
    onDay day (seconds + 4) (.fill { confirmed with underlying := "BTC" })]

/-- The state after a run from 18:30 on. -/
def after (events : List StraddleEvent) : Watched :=
  run (watch btc) (Watched.fresh nightly { day := 1, seconds := 66600 }) events

/-- What a restart makes of it. -/
def restarted (events : List StraddleEvent) (day seconds : Int) : Strategy :=
  (start nightly { day := day, seconds := seconds } .fresh (after events).machine.store).1

/-- What the confirmation of an entry at 19:00 saved. -/
def eveningSave : Saved := (after (entryAt 1 68400)).saved.get (by decide +kernel)

/-- What the confirmation of an entry at 10:00 of the next day saved. -/
def morningSave : Saved := (after (entryAt 2 36000)).saved.get (by decide +kernel)

/-- Entered at 19:00 and restarted at 20:00. -/
theorem evening_restart :
    Faithful nightly { day := 1, seconds := 72000 } eveningSave
      (restarted (entryAt 1 68400) 1 72000) :=
  (restart_faithful_iff btc nightly _ _ (by decide) eveningSave _ _
    (Option.some_get _).symm (by decide)).mpr
      ⟨fun _ => by
        rw [if_pos (by decide +kernel)]
        intro pos listed
        have counted : 1 ≤ eveningSave.snapshot.tradesToday := by decide +kernel
        have sized : ∀ held ∈ eveningSave.snapshot.position, held.lotSize ≠ 0 := by decide +kernel
        exact ⟨counted, fun missing => absurd missing (sized pos listed)⟩,
      fun later => absurd later (by decide +kernel)⟩

/-- Half an hour after midnight, in the session of the save, the position is gone; at
19:00 of the day of a save at 10:00, in the next session, it is back. -/
theorem midnight_discards :
    ¬Faithful nightly { day := 2, seconds := 1800 } eveningSave
      (restarted (entryAt 1 68400) 2 1800) ∧
    ¬Faithful nightly { day := 2, seconds := 68400 } morningSave
      (restarted (entryAt 2 36000) 2 68400) := by
  constructor
  · intro faithful
    have trades := (faithful.within (by decide +kernel)).trades
    exact absurd trades (by decide +kernel)
  · intro faithful
    have anew := faithful.later (by decide +kernel)
    exact absurd anew (by decide +kernel)

end OptionChain.CryptoRestart
