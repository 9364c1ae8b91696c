import OptionChain.DeltaFeed

/-!
# The stages of a socket

A connected socket goes through stages: the feeder is about to run, the watchdog has yet
to look, it watches, the socket is closed, the loop sleeps before it connects again. In a
run in which no send of the manager's own passes raises and the watchdog finds the running
flag at its first look, each stage lasts until the answer comes that it waits for, a tick
comes or the run is stopped.
-/

namespace OptionChain.FeedStages

open DeltaFeed

section Invariant

variable {feed : Feed}

/-- No send of the manager's own passes raises, and the watchdog's first look finds the
flag. -/
def Spared (feed : Feed) : Event → Prop
  | .asks .manager _ _ raised => feed.manager = .passing → raised = false
  | .watchdogStarts => feed.watchdog = .starting → feed.running = true
  | .opened _ _ | .refused _ | .resubscribed _ _ | .paused | .asks .rollover _ _ _ | .passDone
  | .managerWakes | .feederStarts | .receiveEnds | .slept | .watchdogWakes _ | .ticker _
  | .stop => True

instance (feed : Feed) (event : Event) : Decidable (Spared feed event) :=
  match event with
  | .asks .manager _ _ _ | .watchdogStarts => inferInstanceAs (Decidable (_ → _))
  | .opened _ _ | .refused _ | .resubscribed _ _ | .paused | .asks .rollover _ _ _ | .passDone
  | .managerWakes | .feederStarts | .receiveEnds | .slept | .watchdogWakes _ | .ticker _
  | .stop => .isTrue trivial

/-- What holds at any time in a run that is spared. -/
structure Wired (feed : Feed) : Prop where
  before : feed.reconnect = .absent →
    feed.subs = ∅ ∧ feed.ws = none ∧ (feed.manager = .connecting ∨ feed.manager = .pausing)
  manager : feed.reconnect ≠ .absent → feed.manager = .passing ∨ feed.manager = .sleeping
  flag : feed.running = true ↔ feed.reconnect = .running ∨ feed.reconnect = .sleeping
  watched : feed.watchdog = .sleeping → feed.running = true
  socket : feed.ws = some true →
    (feed.reconnect = .created ∨ feed.reconnect = .resubscribing) ∧ feed.watchdog = .starting ∨
      feed.reconnect = .running ∧ (feed.watchdog = .starting ∨ feed.watchdog = .sleeping)

theorem opening_wired : Wired opening :=
  ⟨fun _ => ⟨rfl, rfl, .inl rfl⟩, fun here => absurd rfl here, by simp [opening],
    by simp [opening], by simp [opening]⟩

/-- Nobody connects while somebody runs. -/
theorem Wired.idle (wired : Wired feed) (running : feed.reconnect ≠ .running)
    (sleeping : feed.reconnect ≠ .sleeping) : feed.running = false := by
  rw [← Bool.not_eq_true, wired.flag]
  exact fun either => either.elim running sleeping

theorem Wired.absent_of_manager (wired : Wired feed) (passing : feed.manager ≠ .passing)
    (sleeping : feed.manager ≠ .sleeping) : feed.reconnect = .absent := by
  by_contra there
  exact (wired.manager there).elim passing sleeping

/-- The loop is there once the manager makes its passes. -/
theorem Wired.there (wired : Wired feed)
    (started : feed.manager = .passing ∨ feed.manager = .sleeping) : feed.reconnect ≠ .absent := by
  intro absent
  have before := (wired.before absent).2.2
  rcases started with started | started <;> simp [started] at before

/-- The manager connects only before. -/
theorem Wired.connected (wired : Wired feed) (there : feed.reconnect ≠ .absent) :
    ¬ feed.connects .manager = true ∧ ¬ feed.resubscribes .manager = true := by
  rcases wired.manager there with started | started <;>
    simp [Feed.connects, Feed.resubscribes, started]

theorem run_wired (wired : Wired feed) (there : feed.reconnect ≠ .absent)
    (watchdog : feed.ws = some true → feed.watchdog = .starting ∨ feed.watchdog = .sleeping) :
    Wired feed.run := by
  refine ⟨?_, fun _ => wired.manager there, ?_, fun _ => rfl, fun live => ?_⟩
  · rintro ⟨⟩
  · exact iff_of_true rfl (Or.inl rfl)
  · exact Or.inr ⟨rfl, watchdog live⟩

theorem close_wired (wired : Wired feed) : Wired feed.close := by
  refine ⟨?_, wired.manager, wired.flag, wired.watched, ?_⟩
  · intro absent
    obtain ⟨subs, none, manager⟩ := wired.before absent
    exact ⟨subs, by rw [Feed.close, none]; rfl, manager⟩
  · intro live
    simp [Feed.close] at live

theorem opened_wired (wired : Wired feed) (caller : Caller) (now : Rat)
    (connects : feed.connects caller = true) : Wired (feed.opened caller now) := by
  cases caller with
  | manager =>
    have connecting : feed.manager = .connecting := by simpa [Feed.connects] using connects
    have absent : feed.reconnect = .absent :=
      wired.absent_of_manager (by simp [connecting]) (by simp [connecting])
    have idle : feed.running = false := wired.idle (by simp [absent]) (by simp [absent])
    have subs := (wired.before absent).1
    simp only [Feed.opened, subs, if_true, Feed.returns]
    refine ⟨?_, fun _ => Or.inl rfl, ?_, ?_, fun _ => Or.inl ⟨Or.inl rfl, rfl⟩⟩
    · rintro ⟨⟩
    · simp [idle]
    · rintro ⟨⟩
  | reconnect =>
    have connecting : feed.reconnect = .connecting := by simpa [Feed.connects] using connects
    have idle : feed.running = false := wired.idle (by simp [connecting]) (by simp [connecting])
    have manager := wired.manager (by simp [connecting])
    rw [Feed.opened]
    split
    · refine ⟨?_, fun _ => manager, ?_, fun _ => rfl, fun _ => Or.inr ⟨rfl, Or.inl rfl⟩⟩
      · rintro ⟨⟩
      · exact iff_of_true rfl (Or.inl rfl)
    · refine ⟨?_, fun _ => manager, ?_, ?_, fun _ => Or.inl ⟨Or.inr rfl, rfl⟩⟩
      · rintro ⟨⟩
      · simp [Feed.resubscribe, idle]
      · rintro ⟨⟩

theorem refused_wired (wired : Wired feed) (caller : Caller)
    (connects : feed.connects caller = true) : Wired (feed.returns caller false) := by
  cases caller with
  | manager =>
    have connecting : feed.manager = .connecting := by simpa [Feed.connects] using connects
    have absent : feed.reconnect = .absent :=
      wired.absent_of_manager (by simp [connecting]) (by simp [connecting])
    obtain ⟨subs, none, -⟩ := wired.before absent
    exact ⟨fun _ => ⟨subs, none, Or.inr rfl⟩, fun there => absurd absent there, wired.flag,
      wired.watched, wired.socket⟩
  | reconnect =>
    have connecting : feed.reconnect = .connecting := by simpa [Feed.connects] using connects
    refine run_wired wired (by simp [connecting]) fun live => ?_
    have socket := wired.socket live
    simp [connecting] at socket

theorem resubscribed_wired (wired : Wired feed) (caller : Caller) (ok : Bool)
    (resubscribes : feed.resubscribes caller = true) : Wired (feed.returns caller ok) := by
  cases caller with
  | manager =>
    have waits : feed.manager = .resubscribing := by
      simpa [Feed.resubscribes] using resubscribes
    have absent : feed.reconnect = .absent :=
      wired.absent_of_manager (by simp [waits]) (by simp [waits])
    have before := (wired.before absent).2.2
    simp [waits] at before
  | reconnect =>
    have waits : feed.reconnect = .resubscribing := by
      simpa [Feed.resubscribes] using resubscribes
    refine run_wired wired (by simp [waits]) fun live => ?_
    rcases wired.socket live with ⟨-, starting⟩ | ⟨running, -⟩
    · exact Or.inl starting
    · simp [waits] at running

theorem asks_wired (wired : Wired feed) (sender : Sender) (change : Change)
    (tokens : Finset String) (raised : Bool) (sends : feed.sends sender = true)
    (spared : Spared feed (.asks sender change tokens raised)) :
    Wired (feed.asks sender change tokens raised) := by
  have there : feed.reconnect ≠ .absent := by
    intro absent
    cases sender with
    | manager =>
      have passing : feed.manager = .passing := by simpa [Feed.sends] using sends
      exact wired.there (Or.inl passing) absent
    | rollover => simp [Feed.sends, absent] at sends
  have kept : (feed.asks sender change tokens raised).manager = feed.manager := by
    refine if_neg ?_
    rintro ⟨rfl, -, rfl⟩
    exact absurd (spared (by simpa [Feed.sends] using sends)) (by simp)
  refine ⟨fun absent => absurd absent there, fun _ => ?_, wired.flag, wired.watched,
    wired.socket⟩
  rw [kept]
  exact wired.manager there

theorem look_wired (wired : Wired feed) (running : feed.running = true) : Wired feed.look := by
  refine ⟨wired.before, wired.manager, wired.flag, fun _ => running, fun live => ?_⟩
  have watchdog : feed.look.watchdog = .sleeping := by
    have here : feed.ws ≠ none := by
      rw [show feed.ws = some true from live]
      exact Option.some_ne_none true
    exact if_pos ⟨running, here⟩
  rcases wired.socket live with ⟨waits, -⟩ | ⟨runs, -⟩
  · have either := wired.flag.mp running
    rcases waits with waits | waits <;> simp [waits] at either
  · exact Or.inr ⟨runs, Or.inr watchdog⟩

theorem watch_wired (wired : Wired feed) (now : Rat) (sleeping : feed.watchdog = .sleeping) :
    Wired (feed.watch now) := by
  have running := wired.watched sleeping
  rw [Feed.watch, if_neg (by simp [running])]
  split
  · have closed := close_wired wired
    refine ⟨closed.before, closed.manager, closed.flag, ?_, fun live => ?_⟩
    · rintro ⟨⟩
    · simp [Feed.close] at live
  · exact look_wired wired running

theorem wired_of_ite {guard : Prop} [Decidable guard] {after : Feed} (wired : Wired feed)
    (acts : guard → Wired after) : Wired (if guard then after else feed) := by
  split
  · exact acts ‹_›
  · exact wired

theorem step_stopped (stopped : feed.stopped = true) (event : Event) : step feed event = feed :=
  if_pos stopped

theorem step_wired (wired : Wired feed) (event : Event) (spared : Spared feed event) :
    Wired (step feed event) := by
  by_cases stopped : feed.stopped = true
  · rw [step_stopped stopped]
    exact wired
  cases event <;> simp only [step, if_neg stopped]
  case opened caller now => exact wired_of_ite wired (opened_wired wired caller now)
  case refused caller => exact wired_of_ite wired (refused_wired wired caller)
  case resubscribed caller ok => exact wired_of_ite wired (resubscribed_wired wired caller ok)
  case paused =>
    refine wired_of_ite wired fun pausing => ?_
    have absent : feed.reconnect = .absent :=
      wired.absent_of_manager (by simp [pausing]) (by simp [pausing])
    obtain ⟨subs, none, -⟩ := wired.before absent
    exact ⟨fun _ => ⟨subs, none, Or.inl rfl⟩, fun there => absurd absent there, wired.flag,
      wired.watched, wired.socket⟩
  case asks sender change tokens raised =>
    exact wired_of_ite wired fun sends =>
      asks_wired wired sender change tokens raised sends spared
  case passDone =>
    refine wired_of_ite wired fun passing => ?_
    have there := wired.there (Or.inl passing)
    exact ⟨fun absent => absurd absent there, fun _ => Or.inr rfl, wired.flag, wired.watched,
      wired.socket⟩
  case managerWakes =>
    refine wired_of_ite wired fun sleeping => ?_
    have there := wired.there (Or.inr sleeping)
    exact ⟨fun absent => absurd absent there, fun _ => Or.inl rfl, wired.flag, wired.watched,
      wired.socket⟩
  case feederStarts =>
    refine wired_of_ite wired fun created => run_wired wired (by simp [created]) fun live => ?_
    rcases wired.socket live with ⟨-, starting⟩ | ⟨running, -⟩
    · exact Or.inl starting
    · simp [created] at running
  case receiveEnds =>
    refine wired_of_ite wired fun running => ?_
    refine ⟨?_, fun _ => wired.manager (by simp [running]), ?_, wired.watched, fun live => ?_⟩
    · rintro ⟨⟩
    · exact iff_of_true (wired.flag.mpr (Or.inl running)) (Or.inr rfl)
    · simp [Feed.close] at live
  case slept =>
    refine wired_of_ite wired fun sleeping => ?_
    refine ⟨?_, fun _ => wired.manager (by simp [sleeping]), ?_, fun watchdog => ?_,
      fun live => ?_⟩
    · rintro ⟨⟩
    · simp [Feed.disconnect]
    · simp only [Feed.disconnect] at watchdog
      split at watchdog <;> cases watchdog
    · simp [Feed.disconnect, Feed.close] at live
  case watchdogStarts =>
    exact wired_of_ite wired fun starting => look_wired wired (spared starting)
  case watchdogWakes now => exact wired_of_ite wired (watch_wired wired now)
  case ticker now =>
    exact ⟨wired.before, wired.manager, wired.flag, wired.watched, wired.socket⟩
  case stop => exact ⟨wired.before, wired.manager, wired.flag, wired.watched, wired.socket⟩

end Invariant

section Progress

variable {feed : Feed} {event : Event}

/-- What the feeder's own tasks see of a state. -/
structure Same (feed later : Feed) : Prop where
  reconnect : later.reconnect = feed.reconnect
  ws : later.ws = feed.ws
  watchdog : later.watchdog = feed.watchdog
  lastTick : later.lastTick = feed.lastTick

/-- The event ends a wait of one of the feeder's own tasks. -/
def Acts (feed : Feed) : Event → Prop
  | .feederStarts => feed.reconnect = .created
  | .resubscribed .reconnect _ => feed.reconnect = .resubscribing
  | .receiveEnds => feed.reconnect = .running
  | .slept => feed.reconnect = .sleeping
  | .watchdogStarts => feed.watchdog = .starting
  | .watchdogWakes _ => feed.watchdog = .sleeping
  | _ => False

/-- All that a step can do to the feeder's tasks once they are there, unless the loop
connects. -/
inductive Moved (feed : Feed) : Event → Feed → Prop
  | stops {event : Event} {later : Feed} (stopped : later.stopped = true) :
      Moved feed event later
  | ticks (now : Rat) {later : Feed} : Moved feed (.ticker now) later
  | rests {event : Event} {later : Feed} (same : Same feed later) (idle : ¬ Acts feed event) :
      Moved feed event later
  | starts (created : feed.reconnect = .created) : Moved feed .feederStarts feed.run
  | resubscribes (ok : Bool) (waits : feed.reconnect = .resubscribing) :
      Moved feed (.resubscribed .reconnect ok) feed.run
  | ends (running : feed.reconnect = .running) :
      Moved feed .receiveEnds { feed.close with reconnect := .sleeping }
  | wakes (sleeping : feed.reconnect = .sleeping) :
      Moved feed .slept { feed.disconnect with reconnect := .connecting }
  | looks (starting : feed.watchdog = .starting) : Moved feed .watchdogStarts feed.look
  | watches (now : Rat) (sleeping : feed.watchdog = .sleeping) :
      Moved feed (.watchdogWakes now) (feed.watch now)

theorem moved_of_ite {guard : Prop} [Decidable guard] {after : Feed}
    (acts : guard → Moved feed event after) (idle : ¬ guard → ¬ Acts feed event) :
    Moved feed event (if guard then after else feed) := by
  split
  · exact acts ‹_›
  · exact .rests ⟨rfl, rfl, rfl, rfl⟩ (idle ‹_›)

theorem step_moved (wired : Wired feed) (there : feed.reconnect ≠ .absent)
    (connected : feed.reconnect ≠ .connecting) (event : Event) :
    Moved feed event (step feed event) := by
  by_cases stopped : feed.stopped = true
  · rw [step_stopped stopped]
    exact .stops stopped
  have connects : ∀ caller, ¬ feed.connects caller = true := by
    rintro ⟨⟩
    · exact (wired.connected there).1
    · simp [Feed.connects, connected]
  cases event <;> simp only [step, if_neg stopped]
  case opened caller now =>
    exact moved_of_ite (fun waits => absurd waits (connects caller)) (fun _ => not_false)
  case refused caller =>
    exact moved_of_ite (fun waits => absurd waits (connects caller)) (fun _ => not_false)
  case resubscribed caller ok =>
    cases caller with
    | manager =>
      exact moved_of_ite (fun waits => absurd waits (wired.connected there).2)
        (fun _ => not_false)
    | reconnect =>
      exact moved_of_ite (fun waits => .resubscribes ok (by simpa [Feed.resubscribes] using waits))
        (fun idle waits => idle (by simpa [Feed.resubscribes, Acts] using waits))
  case paused =>
    exact moved_of_ite (fun _ => .rests ⟨rfl, rfl, rfl, rfl⟩ not_false) (fun _ => not_false)
  case asks =>
    exact moved_of_ite (fun _ => .rests ⟨rfl, rfl, rfl, rfl⟩ not_false) (fun _ => not_false)
  case passDone =>
    exact moved_of_ite (fun _ => .rests ⟨rfl, rfl, rfl, rfl⟩ not_false) (fun _ => not_false)
  case managerWakes =>
    exact moved_of_ite (fun _ => .rests ⟨rfl, rfl, rfl, rfl⟩ not_false) (fun _ => not_false)
  case feederStarts => exact moved_of_ite .starts id
  case receiveEnds => exact moved_of_ite .ends id
  case slept => exact moved_of_ite .wakes id
  case watchdogStarts => exact moved_of_ite .looks id
  case watchdogWakes now => exact moved_of_ite (.watches now) id
  case ticker now => exact .ticks now
  case stop => exact .stops rfl

@[simp] theorem watch_reconnect (now : Rat) : (feed.watch now).reconnect = feed.reconnect := by
  rw [Feed.watch]
  split
  · rfl
  · split <;> rfl

/-- The run is over, or the loop connects again. -/
def Over (feed : Feed) : Prop := feed.stopped = true ∨ feed.reconnect = .connecting

/-- The loop sleeps before it connects again. -/
theorem sleeping_moves (wired : Wired feed) (sleeping : feed.reconnect = .sleeping)
    (silent : ∀ now, event ≠ .ticker now) :
    Over (step feed event) ∨ (step feed event).reconnect = .sleeping ∧ event ≠ .slept := by
  have moved := step_moved wired (by simp [sleeping]) (by simp [sleeping]) event
  generalize step feed event = later at moved
  cases moved with
  | stops stopped => exact Or.inl (Or.inl stopped)
  | ticks now => exact absurd rfl (silent now)
  | rests same idle =>
    refine Or.inr ⟨same.reconnect.trans sleeping, ?_⟩
    rintro rfl
    exact idle sleeping
  | wakes => exact Or.inl (Or.inr rfl)
  | looks => exact Or.inr ⟨sleeping, by simp⟩
  | watches now => exact Or.inr ⟨by simp [sleeping], by simp⟩
  | starts created => simp [sleeping] at created
  | resubscribes ok waits => simp [sleeping] at waits
  | ends running => simp [sleeping] at running

/-- The loop runs the feeder on a socket that is closed. -/
structure Lost (feed : Feed) : Prop where
  running : feed.reconnect = .running
  closed : feed.ws ≠ some true

theorem lost_moves (wired : Wired feed) (lost : Lost feed) (silent : ∀ now, event ≠ .ticker now) :
    (Over (step feed event) ∨ (step feed event).reconnect = .sleeping) ∨
      Lost (step feed event) ∧ event ≠ .receiveEnds := by
  obtain ⟨running, closed⟩ := lost
  have moved := step_moved wired (by simp [running]) (by simp [running]) event
  generalize step feed event = later at moved
  cases moved with
  | stops stopped => exact Or.inl (Or.inl (Or.inl stopped))
  | ticks now => exact absurd rfl (silent now)
  | rests same idle =>
    refine Or.inr ⟨⟨same.reconnect.trans running, by rwa [same.ws]⟩, ?_⟩
    rintro rfl
    exact idle running
  | ends => exact Or.inl (Or.inr rfl)
  | looks => exact Or.inr ⟨⟨running, closed⟩, by simp⟩
  | watches now =>
    refine Or.inr ⟨⟨by simp [running], ?_⟩, by simp⟩
    rw [Feed.watch]
    split
    · exact closed
    · split
      · simp [Feed.close]
      · exact closed
  | starts created => simp [running] at created
  | resubscribes ok waits => simp [running] at waits
  | wakes sleeping => simp [running] at sleeping

/-- The loop runs the feeder on a socket that the watchdog watches. -/
structure Watched (tick : Rat) (feed : Feed) : Prop where
  running : feed.reconnect = .running
  live : feed.ws = some true
  watchdog : feed.watchdog = .sleeping
  lastTick : feed.lastTick = tick

theorem watched_moves {tick : Rat} (wired : Wired feed) (watched : Watched tick feed)
    (silent : ∀ now, event ≠ .ticker now) :
    (Over (step feed event) ∨ Lost (step feed event) ∨ (step feed event).reconnect = .sleeping) ∨
      Watched tick (step feed event) ∧
        ¬ ∃ now, staleTickSec + tick < now ∧ event = .watchdogWakes now := by
  obtain ⟨running, live, watchdog, lastTick⟩ := watched
  have flag := wired.watched watchdog
  have moved := step_moved wired (by simp [running]) (by simp [running]) event
  generalize step feed event = later at moved
  cases moved with
  | stops stopped => exact Or.inl (Or.inl (Or.inl stopped))
  | ticks now => exact absurd rfl (silent now)
  | rests same idle =>
    refine Or.inr ⟨⟨same.reconnect.trans running, same.ws.trans live,
      same.watchdog.trans watchdog, same.lastTick.trans lastTick⟩, ?_⟩
    rintro ⟨now, -, rfl⟩
    exact idle watchdog
  | ends => exact Or.inl (Or.inr (Or.inr rfl))
  | watches now =>
    rw [Feed.watch, if_neg (by simp [flag])]
    split
    case isTrue stale => exact Or.inl (Or.inr (Or.inl ⟨running, by simp [Feed.close]⟩))
    case isFalse fresh =>
      have sleeps : feed.look.watchdog = .sleeping := if_pos ⟨flag, by simp [live]⟩
      refine Or.inr ⟨⟨running, live, sleeps, lastTick⟩, ?_⟩
      rintro ⟨late, after, same⟩
      cases same
      rw [lastTick] at fresh
      exact fresh (lt_sub_iff_add_lt.mpr after)
  | starts created => simp [running] at created
  | resubscribes ok waits => simp [running] at waits
  | wakes sleeping => simp [running] at sleeping
  | looks starting => simp [watchdog] at starting

/-- The loop runs the feeder, and the watchdog has yet to look. -/
structure Fresh (feed : Feed) : Prop where
  running : feed.reconnect = .running
  live : feed.ws = some true
  watchdog : feed.watchdog = .starting

theorem fresh_moves (wired : Wired feed) (fresh : Fresh feed)
    (silent : ∀ now, event ≠ .ticker now) :
    (Over (step feed event) ∨ Watched feed.lastTick (step feed event) ∨
        (step feed event).reconnect = .sleeping) ∨
      Fresh (step feed event) ∧ event ≠ .watchdogStarts := by
  obtain ⟨running, live, watchdog⟩ := fresh
  have moved := step_moved wired (by simp [running]) (by simp [running]) event
  generalize step feed event = later at moved
  cases moved with
  | stops stopped => exact Or.inl (Or.inl (Or.inl stopped))
  | ticks now => exact absurd rfl (silent now)
  | rests same idle =>
    refine Or.inr ⟨⟨same.reconnect.trans running, same.ws.trans live,
      same.watchdog.trans watchdog⟩, ?_⟩
    rintro rfl
    exact idle watchdog
  | ends => exact Or.inl (Or.inr (Or.inr rfl))
  | looks =>
    have sleeps : feed.look.watchdog = .sleeping :=
      if_pos ⟨wired.flag.mpr (Or.inl running), by simp [live]⟩
    exact Or.inl (Or.inr (Or.inl ⟨running, live, sleeps, rfl⟩))
  | starts created => simp [running] at created
  | resubscribes ok waits => simp [running] at waits
  | wakes sleeping => simp [running] at sleeping
  | watches now sleeping => simp [watchdog] at sleeping

/-- The feeder is about to run on a new socket. -/
structure Waiting (task : ReconnectTask) (feed : Feed) : Prop where
  task : feed.reconnect = task
  live : feed.ws = some true
  watchdog : feed.watchdog = .starting

/-- The watchdog's first look, which would find no flag, is spared. -/
theorem waiting_moves {task : ReconnectTask} (wired : Wired feed) (waiting : Waiting task feed)
    (waits : task = .created ∨ task = .resubscribing) (spared : Spared feed event)
    (silent : ∀ now, event ≠ .ticker now) :
    (Over (step feed event) ∨ Fresh (step feed event)) ∨
      Waiting task (step feed event) ∧ ¬ Acts feed event := by
  obtain ⟨rfl, live, watchdog⟩ := waiting
  have apart : ∀ other, other ≠ .created → other ≠ .resubscribing → feed.reconnect ≠ other := by
    rintro _ created resubscribing rfl
    exact waits.elim created resubscribing
  have moved := step_moved wired (apart _ (by simp) (by simp)) (apart _ (by simp) (by simp)) event
  have idle := wired.idle (apart _ (by simp) (by simp)) (apart _ (by simp) (by simp))
  generalize step feed event = later at moved
  cases moved with
  | stops stopped => exact Or.inl (Or.inl (Or.inl stopped))
  | ticks now => exact absurd rfl (silent now)
  | rests same rest =>
    exact Or.inr ⟨⟨same.reconnect, same.ws.trans live, same.watchdog.trans watchdog⟩, rest⟩
  | starts => exact Or.inl (Or.inr ⟨rfl, live, watchdog⟩)
  | resubscribes => exact Or.inl (Or.inr ⟨rfl, live, watchdog⟩)
  | looks starting =>
    have flag := spared starting
    rw [idle] at flag
    cases flag
  | ends running => exact absurd running (apart _ (by simp) (by simp))
  | wakes sleeping => exact absurd sleeping (apart _ (by simp) (by simp))
  | watches now sleeping => simp [watchdog] at sleeping

end Progress

end OptionChain.FeedStages
