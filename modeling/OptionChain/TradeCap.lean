import OptionChain.OrderDesk

/-!
# The daily cap on trades

`trades_today` counts the two-leg entries of a session, and an abort takes one back. It
takes one back for the ENTRY of a rolled leg as well, which was never counted, and the book
may then enter once more than its cap.
-/

namespace OptionChain.TradeCap

open Broker Runs StraddleEvents StraddleBook StraddleExits SessionRestart StraddleRuns
  OrderStream BookMoves OrderDesk

/-- An ENTRY that opens both legs. -/
def twoLegs (ev : StraddleOrderEvent) : Bool :=
  decide (ev.action = .entry ∧ OptType.ce ∈ ev.legs ∧ OptType.pe ∈ ev.legs)

/-- A two-leg ENTRY that was not answered by an abort. -/
def stands (placed : Placed) : Bool :=
  twoLegs placed.order && !placed.reply.any Reply.isAbort

/-- The trades of a desk: the two-leg ENTRY orders published and not aborted. -/
def trades (desk : Desk) : Nat := desk.placed.countP stands

/-- The event leaves no more trades than the cap. -/
def Capped (identity : Identity) (cap : Nat) (desk : Desk) (event : DeskEvent) : Prop :=
  trades (deskStep identity desk event) ≤ cap

/-- One session with one cap: no candle resets it, and `max_trades` is no more. -/
def OneSession (cap : Nat) (desk : Desk) (event : DeskEvent) : Prop :=
  renews desk event = false ∧ event.settings.maxTrades ≤ cap

/-- An abort answers an order that was counted, or finds nothing counted. -/
def AbortsCounted (desk : Desk) (event : DeskEvent) : Prop :=
  match event.incident with
  | .answer reply => reply.isAbort = true →
      desk.waiting.head?.all twoLegs = true ∨ desk.strategy.book.tradesToday = 0
  | .candle | .indexTick _ _ | .optionTick _ _ _ | .squareOff _ | .unanswered => True

instance (identity : Identity) (cap : Nat) (desk : Desk) (event : DeskEvent) :
    Decidable (Capped identity cap desk event) :=
  inferInstanceAs (Decidable (_ ≤ cap))

instance (cap : Nat) (desk : Desk) (event : DeskEvent) : Decidable (OneSession cap desk event) :=
  inferInstanceAs (Decidable (_ ∧ _))

instance (desk : Desk) : ∀ event, Decidable (AbortsCounted desk event)
  | ⟨_, _, .answer reply⟩ => inferInstanceAs (Decidable (reply.isAbort = true →
      desk.waiting.head?.all twoLegs = true ∨ desk.strategy.book.tradesToday = 0))
  | ⟨_, _, .candle⟩ | ⟨_, _, .indexTick _ _⟩ | ⟨_, _, .optionTick _ _ _⟩
  | ⟨_, _, .squareOff _⟩ | ⟨_, _, .unanswered⟩ => .isTrue trivial

section Counting

variable {identity : Identity} {desk : Desk} {event : DeskEvent} {cap : Nat}

/-- Every trade that stands is counted, and the count is within the cap. -/
def Counted (cap : Nat) (book : Book) (dealt : List Placed) (waiting : List StraddleOrderEvent) :
    Prop :=
  dealt.countP stands + waiting.countP twoLegs ≤ book.tradesToday ∧ book.tradesToday ≤ cap

theorem trades_eq (desk : Desk) :
    trades desk = desk.dealt.countP stands + desk.waiting.countP twoLegs := by
  have waiting : (pending desk.waiting).countP stands = desk.waiting.countP twoLegs := by
    rw [pending, List.countP_map]
    congr 1
    funext ev
    simp [stands]
  rw [trades, Desk.placed, List.countP_append, waiting]

theorem ordered_twoLegs {settings : Settings} {ev : StraddleOrderEvent} {pos : StraddlePosition}
    {action : Action} {legs : List OptType}
    (ordered : Ordered identity settings ev pos action legs) :
    twoLegs ev = decide (action = .entry ∧ OptType.ce ∈ legs ∧ OptType.pe ∈ legs) := by
  rw [twoLegs, ordered.action, ordered.legs]

/-- Within a session the count grows with each two-leg ENTRY, and with nothing else. -/
theorem did_counted {book after : Book} {dealt : List Placed}
    {waiting orders : List StraddleOrderEvent} (counted : Counted cap book dealt waiting)
    (did : Did identity event.settings false book after orders)
    (limit : event.settings.maxTrades ≤ cap) : Counted cap after dealt (waiting ++ orders) := by
  obtain ⟨covered, bounded⟩ := counted
  cases did with
  | kept trades points held => simp [Counted, trades, covered, bounded]
  | opened pos ev free trades points held fresh credit order =>
    have one : twoLegs ev = true := by simp [ordered_twoLegs order]
    constructor
    · simp [trades, one]
      omega
    · omega
  | closed pos ev trades points held flat order =>
    have none : twoLegs ev = false := by simp [ordered_twoLegs order.toOrdered]
    simp [Counted, trades, none, covered, bounded]
  | rolled pos moved side exit entry trades points held now fresh other credit leaves enters =>
    have left : twoLegs exit = false := by simp [ordered_twoLegs leaves.toOrdered]
    have entered : twoLegs entry = false := by
      cases side <;> simp [ordered_twoLegs enters]
    simp [Counted, trades, left, entered, covered, bounded]
  | cleared pos side first second trades points held flat one two =>
    have left : twoLegs first = false := by simp [ordered_twoLegs one.toOrdered]
    have right : twoLegs second = false := by simp [ordered_twoLegs two.toOrdered]
    simp [Counted, trades, left, right, covered, bounded]
  | reset renewed trades points flat => simp at renewed

/-- Only an abort takes something from the count of the book, and no more than one. -/
theorem fillLoop_tradesToday (settings : Settings) (now : Int) (book : Book)
    (ev : StraddleOrderEvent) (reply : Reply) :
    (fillLoop identity settings now book (answerFill ev reply)).1.tradesToday =
        book.tradesToday ∨
      (reply.isAbort = true ∧
        (fillLoop identity settings now book (answerFill ev reply)).1.tradesToday =
          book.tradesToday - 1) := by
  rw [fillLoop]
  split
  · exact .inl rfl
  · cases reply with
    | aborted paperMode =>
      rw [onFill]
      cases kind : ev.action with
      | entry => exact .inr ⟨rfl, by simp [answerFill, kind]⟩
      | exit => exact .inl (by simp [answerFill, kind])
    | filled paperMode ceFill peFill ceSymbol peSymbol =>
      left
      rw [onFill]
      cases kind : ev.action with
      | exit => simp [answerFill, kind]
      | entry =>
        cases held : book.position with
        | none => simp [answerFill, kind]
        | some pos =>
          simp only [answerFill, kind, Bool.false_eq_true, if_false]
          split <;> rfl

/-- An answer keeps what stands counted, if an abort takes back what was counted. -/
theorem answered_counted {reply : Reply} {ev : StraddleOrderEvent}
    {rest : List StraddleOrderEvent} (next : desk.waiting = ev :: rest)
    (counted : Counted cap desk.strategy.book desk.dealt desk.waiting)
    (aborts : reply.isAbort = true → twoLegs ev = true ∨ desk.strategy.book.tradesToday = 0) :
    Counted cap (fillLoop identity event.settings.toSettings event.clock.now desk.strategy.book
      (answerFill ev reply)).1 (desk.dealt ++ [⟨ev, some reply⟩]) rest := by
  obtain ⟨covered, bounded⟩ := counted
  have after := @fillLoop_tradesToday identity event.settings.toSettings event.clock.now
    desk.strategy.book ev reply
  rw [next, List.countP_cons] at covered
  have split : (desk.dealt ++ [(⟨ev, some reply⟩ : Placed)]).countP stands =
      desk.dealt.countP stands + if stands ⟨ev, some reply⟩ then 1 else 0 := by
    simp [List.countP_append, List.countP_cons]
  rw [Counted, split]
  cases abort : reply.isAbort with
  | false =>
    have same : stands ⟨ev, some reply⟩ = twoLegs ev := by simp [stands, abort]
    rw [abort] at after
    rw [same]
    simp only [Bool.false_eq_true, false_and, or_false] at after
    omega
  | true =>
    have gone : stands ⟨ev, some reply⟩ = false := by simp [stands, abort]
    rw [gone, if_neg (by simp)]
    rcases aborts abort with counts | zero
    · rw [if_pos counts] at covered
      omega
    · omega

theorem deskStep_counted (counted : Counted cap desk.strategy.book desk.dealt desk.waiting)
    (session : OneSession cap desk event) (aborts : AbortsCounted desk event) :
    Counted cap (deskStep identity desk event).strategy.book (deskStep identity desk event).dealt
      (deskStep identity desk event).waiting := by
  obtain ⟨within, limit⟩ := session
  apply deskStep_invariant event _ _ _ counted
  · intro book after waiting orders holds did
    rw [within] at did
    exact did_counted holds did limit
  · intro reply ev rest answers next
    apply answered_counted next counted
    simpa [AbortsCounted, answers, next] using aborts
  · intro ev rest next
    obtain ⟨covered, bounded⟩ := counted
    rw [next, List.countP_cons] at covered
    constructor
    · simp only [List.countP_append, List.countP_cons, List.countP_nil, stands, Option.any_none,
        Bool.not_false, Bool.and_true]
      omega
    · exact bounded

end Counting

/-- In every run within one session from a start without trades, the two-leg ENTRY orders
published and not aborted stay within the cap, if each abort answers a two-leg ENTRY or
finds nothing counted. -/
theorem trades_capped (identity : Identity) (cap : Nat) (strategy : Strategy)
    (started : strategy.book.tradesToday = 0) (events : List DeskEvent)
    (session : Along (deskStep identity)
      (fun desk event => OneSession cap desk event ∧ AbortsCounted desk event)
      (Desk.of strategy) events) :
    Along (deskStep identity) (Capped identity cap) (Desk.of strategy) events := by
  have kept (desk : Desk) (event : DeskEvent)
      (counted : Counted cap desk.strategy.book desk.dealt desk.waiting)
      (ok : OneSession cap desk event ∧ AbortsCounted desk event) :
      Counted cap (deskStep identity desk event).strategy.book (deskStep identity desk event).dealt
        (deskStep identity desk event).waiting := deskStep_counted counted ok.1 ok.2
  have initially : Counted cap (Desk.of strategy).strategy.book (Desk.of strategy).dealt
      (Desk.of strategy).waiting := by
    simp [Counted, Desk.of, started]
  apply along_under (deskStep identity) kept _ (Desk.of strategy) events initially session
  intro desk event counted ok
  obtain ⟨covered, bounded⟩ := kept desk event counted ok
  rw [Capped, trades_eq]
  omega

/-! ## A session with a cap of one -/

/-- A pair is entered, and its put rolled. What follows is the answer to the ENTRY of the
new leg, and a tick on which a pair is offered. -/
def rolledWith (reply : Reply) : List DeskEvent :=
  entering ++ [entryFilled] ++ rollingPut ++
    [exitFilled, happens 33803 (.answer reply), happens 33804 (.indexTick partnerOffered 24000)]

/-- A filled roll keeps the session at its one trade. -/
theorem trades_capped_after_a_roll :
    Along (deskStep nifty) (Capped nifty 1) (Desk.of .fresh)
      (rolledWith (.filled false 100 60 (some "") (some "PE"))) :=
  trades_capped nifty 1 .fresh rfl _ (by decide)

/-- An aborted roll takes back the trade, and the book enters a second time. -/
theorem aborted_roll_trades_again :
    ¬Along (deskStep nifty) (Capped nifty 1) (Desk.of .fresh) (rolledWith (.aborted false)) ∧
      trades (run (deskStep nifty) (Desk.of .fresh) (rolledWith (.aborted false))) = 2 := by
  decide +kernel

end OptionChain.TradeCap
