import OptionChain.Buckets
import OptionChain.OrderDesk

/-!
# Fills and the legs they are credited to

A fill says which legs it lists, and the handler writes its prices into the legs that the
position has when it arrives. The order that opened such a leg may be a later one: the leg
was rolled, or the position was closed and another one opened, while the fill was under way.
-/

namespace OptionChain.FillCredit

open Broker Runs Buckets StraddleEvents StraddleBook StraddleExits SessionRestart StraddleRuns
  OrderStream BookMoves OrderDesk

/-- An ENTRY order that opens a leg. -/
def opens (side : OptType) (ev : StraddleOrderEvent) : Bool :=
  decide (ev.action = .entry ∧ side ∈ ev.legs)

/-- The order that opened the current leg of a side: the last ENTRY that lists it. -/
def opener (side : OptType) (placed : List Placed) : Option Placed :=
  lastIn (fun placed => opens side placed.order) placed true

/-- A leg was sold at its strike by an order, for the price of the order or of its fill. -/
structure SoldBy (placed : Placed) (side : OptType) (leg : StraddleLeg) : Prop where
  strike : leg.strike = placed.order.strike side
  price : leg.entryPrice = placed.order.ltp side ∨
    ∃ reply, placed.reply = some reply ∧ reply.isAbort = false ∧ leg.entryPrice = reply.fill side

/-- Each leg of the position was sold by its opener. -/
def Credited (position : Option StraddlePosition) (placed : List Placed) : Prop :=
  ∀ pos, position = some pos → ∀ side, ∃ sale, opener side placed = some sale ∧
    SoldBy sale side (pos.leg side)

/-- A leg is what it was, but for its strike and the reason of its opening. -/
def SameLeg (leg after : StraddleLeg) : Prop :=
  after.entryPrice = leg.entryPrice ∧ after.ltp = leg.ltp ∧ after.symbol = leg.symbol

instance (leg after : StraddleLeg) : Decidable (SameLeg leg after) :=
  inferInstanceAs (Decidable (_ ∧ _))

/-- The fill of an order leaves alone the legs that later orders opened, and the credit of
a position that later orders opened. -/
def Undisturbed (identity : Identity) (desk : Desk) (event : DeskEvent) : Prop :=
  ∀ reply ev rest, event.incident = .answer reply → desk.waiting = ev :: rest →
    reply.isAbort = false → ev.action = .entry →
    ∀ pos, desk.strategy.book.position = some pos →
      ∃ after, (deskStep identity desk event).strategy.book.position = some after ∧
        (∀ side, rest.any (opens side) = true → SameLeg (pos.leg side) (after.leg side)) ∧
        ((∀ side, rest.any (opens side) = true) → after.netCredit = pos.netCredit)

/-- A priced leg of an ENTRY fill was not opened again while the fill was under way, or
there is no position to adopt it. -/
def InTime (desk : Desk) (event : DeskEvent) : Prop :=
  match event.incident, desk.waiting with
  | .answer reply, ev :: rest => ev.action = .entry → desk.strategy.book.position = none ∨
      ∀ side ∈ ev.legs, 0 < reply.fill side → rest.any (opens side) = false
  | _, _ => True

section Crediting

variable {identity : Identity} {desk : Desk} {event : DeskEvent}

theorem ordered_opens {settings : Settings} {ev : StraddleOrderEvent} {pos : StraddlePosition}
    {action : Action} {legs : List OptType} (ordered : Ordered identity settings ev pos action legs)
    (side : OptType) : opens side ev = decide (action = .entry ∧ side ∈ legs) := by
  rw [opens, ordered.action, ordered.legs]

/-- The opener after one more order. -/
theorem opener_snoc (side : OptType) (placed : List Placed) (last : Placed) :
    opener side (placed ++ [last]) =
      if opens side last.order = true then some last else opener side placed :=
  lastIn_snoc _ placed last true

/-- The legs are credited, and the credit of the position is theirs. -/
structure Tied (book : Book) (placed : List Placed) : Prop where
  credited : Credited book.position placed
  credit : ∀ pos, book.position = some pos → Credit pos

theorem tied_flat {book : Book} (flat : book.position = none) (placed : List Placed) :
    Tied book placed :=
  ⟨by simp [Credited, flat], by simp [flat]⟩

/-- An order to come sells its legs at its own prices. -/
theorem soldBy_order {settings : Settings} {ev : StraddleOrderEvent} {pos : StraddlePosition}
    {legs : List OptType} (ordered : Ordered identity settings ev pos .entry legs) {side : OptType}
    (fresh : (pos.leg side).ltp = (pos.leg side).entryPrice) :
    SoldBy ⟨ev, none⟩ side (pos.leg side) :=
  ⟨(ordered.strike side).symm, .inl (by rw [← fresh]; exact (ordered.ltp side).symm)⟩

/-- A position that is kept is sold as before. -/
theorem kept_tied {book after : Book} {placed : List Placed} (tied : Tied book placed)
    (held : SameHeld book.position after.position) : Tied after placed := by
  constructor
  · intro moved now side
    obtain ⟨pos, before, same⟩ := held.sale now
    obtain ⟨sale, found, sold⟩ := tied.credited pos before side
    refine ⟨sale, found, ?_, ?_⟩
    · rw [same.strike]
      exact sold.strike
    · rw [same.entryPrice]
      exact sold.price
  · intro moved now
    obtain ⟨pos, before, same⟩ := held.sale now
    have ce : moved.ceLeg.entryPrice = pos.ceLeg.entryPrice := same.entryPrice .ce
    have pe : moved.peLeg.entryPrice = pos.peLeg.entryPrice := same.entryPrice .pe
    rw [Credit, same.netCredit, ce, pe]
    exact tied.credit pos before

/-- A rolled leg is credited to the order that entered it, the other leg as before. -/
theorem rolled_tied {settings : Settings} {book after : Book} {placed : List Placed}
    {pos moved : StraddlePosition} {side : OptType} {exit entry : StraddleOrderEvent}
    (tied : Tied book placed) (held : book.position = some pos)
    (now : after.position = some moved)
    (fresh : (moved.leg side).ltp = (moved.leg side).entryPrice)
    (other : moved.leg side.other = pos.leg side.other) (credit : Credit moved)
    (leaves : Exits identity settings exit pos [side])
    (enters : Ordered identity settings entry moved .entry [side]) :
    Tied after (placed ++ pending [exit, entry]) := by
  have orders : placed ++ pending [exit, entry] =
      (placed ++ [⟨exit, none⟩]) ++ [⟨entry, none⟩] := by
    simp [pending]
  have left (optType : OptType) : opens optType exit = false := by
    simp [ordered_opens leaves.toOrdered]
  rw [orders]
  constructor
  · intro later after optType
    obtain rfl : moved = later := Option.some.inj (now.symm.trans after)
    by_cases same : optType = side
    · subst same
      have last : opens optType entry = true := by simp [ordered_opens enters]
      refine ⟨⟨entry, none⟩, ?_, soldBy_order enters fresh⟩
      rw [opener_snoc, if_pos last]
    · have kept : optType = side.other := by
        cases optType <;> cases side <;> simp_all [OptType.other]
      have leg : moved.leg optType = pos.leg optType := by rw [kept, other]
      obtain ⟨sale, found, sold⟩ := tied.credited pos held optType
      refine ⟨sale, ?_, leg ▸ sold⟩
      rw [opener_snoc, if_neg (by simp [ordered_opens enters, same]), opener_snoc,
        if_neg (by simp [left]), found]
  · intro later after
    obtain rfl : moved = later := Option.some.inj (now.symm.trans after)
    exact credit

theorem did_tied {anew : Bool} {book after : Book} {dealt : List Placed}
    {waiting orders : List StraddleOrderEvent} (tied : Tied book (dealt ++ pending waiting))
    (did : Did identity event.settings anew book after orders) :
    Tied after (dealt ++ pending (waiting ++ orders)) := by
  have split : dealt ++ pending (waiting ++ orders) =
      (dealt ++ pending waiting) ++ pending orders := by
    simp [pending]
  rw [split]
  generalize dealt ++ pending waiting = placed at tied
  cases did with
  | kept trades points held =>
    rw [pending, List.map_nil, List.append_nil]
    exact kept_tied tied held
  | opened pos ev free trades points held fresh credit order =>
    constructor
    · intro other now side
      obtain rfl : pos = other := Option.some.inj (held.symm.trans now)
      have last : opens side ev = true := by
        cases side <;> simp [ordered_opens order]
      refine ⟨⟨ev, none⟩, ?_, soldBy_order order (fresh side)⟩
      rw [pending, List.map_singleton, opener_snoc, if_pos last]
    · intro other now
      obtain rfl : pos = other := Option.some.inj (held.symm.trans now)
      exact credit
  | closed pos ev trades points held flat order => exact tied_flat flat _
  | rolled pos moved side exit entry trades points held now fresh other credit leaves enters =>
    exact rolled_tied tied held now fresh other credit leaves enters
  | cleared pos side first second trades points held flat one two => exact tied_flat flat _
  | reset renewed trades points flat => exact tied_flat flat _

/-- What an answer does to the position. -/
theorem fillLoop_position (settings : Settings) (now : Int) (book : Book)
    (ev : StraddleOrderEvent) (reply : Reply) :
    (reply.isAbort = true ∧
      (fillLoop identity settings now book (answerFill ev reply)).1.position = none) ∨
    (fillLoop identity settings now book (answerFill ev reply)).1.position = book.position ∨
    ∃ pos, book.position = some pos ∧ ev.action = .entry ∧ reply.isAbort = false ∧
      (fillLoop identity settings now book (answerFill ev reply)).1.position =
        some (adoptFill (answerFill ev reply) pos) := by
  rw [fillLoop]
  split
  · exact .inr (.inl rfl)
  · cases reply with
    | aborted paperMode =>
      rw [onFill]
      cases kind : ev.action with
      | entry => exact .inl ⟨rfl, by simp [answerFill, kind]⟩
      | exit => exact .inr (.inl (by simp [answerFill, kind]))
    | filled paperMode ceFill peFill ceSymbol peSymbol =>
      rw [onFill]
      cases kind : ev.action with
      | exit => exact .inr (.inl (by simp [answerFill, kind]))
      | entry =>
        cases held : book.position with
        | none => exact .inr (.inl (by simp [answerFill, kind]))
        | some pos =>
          by_cases live : pos.status = .open
          · exact .inr (.inr ⟨pos, rfl, rfl, rfl, by simp [answerFill, kind, live]⟩)
          · exact .inr (.inl (by simp [answerFill, kind, live]))

/-- A leg of a position that adopts a fill: the fill's price for a leg that it lists with a
price, and otherwise the leg as it was. -/
theorem adoptFill_leg (ev : StraddleOrderEvent) (reply : Reply) (pos : StraddlePosition)
    (side : OptType) :
    ((adoptFill (answerFill ev reply) pos).leg side).strike = (pos.leg side).strike ∧
      ((side ∈ ev.legs ∧ 0 < reply.fill side ∧
          ((adoptFill (answerFill ev reply) pos).leg side).entryPrice = reply.fill side) ∨
        (¬(side ∈ ev.legs ∧ 0 < reply.fill side) ∧
          (adoptFill (answerFill ev reply) pos).leg side = pos.leg side)) := by
  have listed : (answerFill ev reply).legs = ev.legs := by cases reply <;> rfl
  have price : (answerFill ev reply).fill side = reply.fill side := by
    cases reply <;> cases side <;> rfl
  have leg : (adoptFill (answerFill ev reply) pos).leg side =
      adoptLeg (answerFill ev reply) side (pos.leg side) := by
    cases side <;> rfl
  rw [leg, adoptLeg, listed, price]
  split
  case isTrue adopts => exact ⟨rfl, .inl ⟨adopts.1, adopts.2, rfl⟩⟩
  case isFalse stays => exact ⟨rfl, .inr ⟨stays, rfl⟩⟩

theorem pending_cons (dealt : List Placed) (ev : StraddleOrderEvent)
    (rest : List StraddleOrderEvent) :
    dealt ++ pending (ev :: rest) = dealt ++ [⟨ev, none⟩] ++ pending rest := by
  simp [pending]

/-- The opener of a side, whatever became of the next order. -/
theorem opener_next (side : OptType) (dealt : List Placed) (next : Placed)
    (rest : List StraddleOrderEvent) :
    opener side (dealt ++ [next] ++ pending rest) =
      if rest.any (opens side) = true then opener side (pending rest)
      else if opens side next.order = true then some next else opener side dealt := by
  by_cases later : rest.any (opens side) = true
  · obtain ⟨order, listed, opened⟩ := List.any_eq_true.mp later
    have met : (⟨order, none⟩ : Placed) ∈ pending rest := List.mem_map_of_mem listed
    have last (earlier : List Placed) := @lastIn_append _ _ _
      (fun placed : Placed => opens side placed.order) earlier _ _ met
    rw [opened] at last
    rw [if_pos later, opener, last, opener]
  · have unmet : ∀ placed ∈ pending rest, opens side placed.order ≠ true := by
      intro placed listed opened
      obtain ⟨order, member, rfl⟩ := List.mem_map.mp listed
      exact later (List.any_eq_true.mpr ⟨order, member, opened⟩)
    have drop : opener side (dealt ++ [next] ++ pending rest) = opener side (dealt ++ [next]) :=
      lastIn_append_unmet _ unmet
    rw [if_neg later, drop, opener_snoc]

/-- A leg that keeps its price stays credited: nothing had answered its order before. -/
theorem unchanged_soldBy {dealt : List Placed} {ev : StraddleOrderEvent}
    {rest : List StraddleOrderEvent} {side : OptType} {sale : Placed} {leg : StraddleLeg}
    (found : opener side (dealt ++ pending (ev :: rest)) = some sale) (sold : SoldBy sale side leg)
    (reply : Option Reply) :
    ∃ later, opener side (dealt ++ [⟨ev, reply⟩] ++ pending rest) = some later ∧
      SoldBy later side leg := by
  rw [pending_cons, opener_next] at found
  rw [opener_next]
  by_cases again : rest.any (opens side) = true
  · rw [if_pos again] at found ⊢
    exact ⟨sale, found, sold⟩
  · rw [if_neg again] at found ⊢
    by_cases opened : opens side ev = true
    · rw [if_pos opened] at found ⊢
      obtain rfl := Option.some.inj found
      refine ⟨_, rfl, sold.strike, .inl ?_⟩
      exact sold.price.resolve_right (by simp)
    · rw [if_neg opened] at found ⊢
      exact ⟨sale, found, sold⟩

/-- An answer in time keeps the legs credited. -/
theorem answered_tied {reply : Reply} {ev : StraddleOrderEvent} {rest : List StraddleOrderEvent}
    (tied : Tied desk.strategy.book (desk.dealt ++ pending (ev :: rest)))
    (timely : ev.action = .entry → desk.strategy.book.position = none ∨
      ∀ side ∈ ev.legs, 0 < reply.fill side → rest.any (opens side) = false) :
    Tied (fillLoop identity event.settings.toSettings event.clock.now desk.strategy.book
      (answerFill ev reply)).1 (desk.dealt ++ [⟨ev, some reply⟩] ++ pending rest) := by
  obtain ⟨credited, credit⟩ := tied
  rcases @fillLoop_position identity event.settings.toSettings event.clock.now desk.strategy.book
    ev reply with ⟨_, flat⟩ | same | ⟨pos, held, entry, kept, adopted⟩
  · exact tied_flat flat _
  · constructor
    · intro pos now side
      rw [same] at now
      obtain ⟨sale, found, sold⟩ := credited pos now side
      exact unchanged_soldBy found sold (some reply)
    · rw [same]
      exact credit
  · constructor
    · intro after now side
      obtain rfl : adoptFill (answerFill ev reply) pos = after :=
        Option.some.inj (adopted.symm.trans now)
      obtain ⟨sale, found, sold⟩ := credited pos held side
      obtain ⟨strike, ⟨listed, priced, price⟩ | ⟨_, leg⟩⟩ := adoptFill_leg ev reply pos side
      · have opened : opens side ev = true := by simp [opens, entry, listed]
        have last : rest.any (opens side) = false := by
          rcases timely entry with flat | once
          · rw [held] at flat
            cases flat
          · exact once side listed priced
        rw [pending_cons, opener_next, last, if_neg (by simp), if_pos opened] at found
        obtain rfl := Option.some.inj found
        refine ⟨⟨ev, some reply⟩, ?_, ?_, .inr ⟨reply, rfl, kept, price⟩⟩
        · rw [opener_next, last, if_neg (by simp), if_pos opened]
        · rw [strike]
          exact sold.strike
      · rw [leg]
        exact unchanged_soldBy found sold (some reply)
    · intro after now
      obtain rfl : adoptFill (answerFill ev reply) pos = after :=
        Option.some.inj (adopted.symm.trans now)
      rfl

theorem deskStep_tied (tied : Tied desk.strategy.book desk.placed) (timely : InTime desk event) :
    Tied (deskStep identity desk event).strategy.book (deskStep identity desk event).placed := by
  apply @deskStep_invariant identity desk
    (fun book dealt waiting => Tied book (dealt ++ pending waiting)) event _ _ _ tied
  · intro book after waiting orders holds did
    exact did_tied holds did
  · intro reply ev rest answers next
    rw [Desk.placed, next] at tied
    apply answered_tied tied
    simpa [InTime, answers, next] using timely
  · intro ev rest next
    rw [Desk.placed, next, pending_cons] at tied
    exact tied

/-- A fill in time leaves alone what later orders opened. -/
theorem answered_undisturbed (tied : Tied desk.strategy.book desk.placed)
    (timely : InTime desk event) : Undisturbed identity desk event := by
  obtain ⟨settings, clock, incident⟩ := event
  rintro reply ev rest rfl next kept entry pos held
  have stays (side : OptType) (again : rest.any (opens side) = true) :
      (adoptFill (answerFill ev reply) pos).leg side = pos.leg side := by
    simp only [InTime, next, held] at timely
    rcases (adoptFill_leg ev reply pos side).2 with ⟨listed, priced, _⟩ | ⟨_, leg⟩
    · have last := (timely entry).resolve_left (by simp) side listed priced
      rw [again] at last
      cases last
    · exact leg
  rw [deskStep_answer next]
  rcases @fillLoop_position identity settings.toSettings clock.now desk.strategy.book ev reply with
    ⟨aborted, _⟩ | same | ⟨other, here, _, _, adopted⟩
  · rw [kept] at aborted
    cases aborted
  · exact ⟨pos, same.trans held, fun _ _ => ⟨rfl, rfl, rfl⟩, fun _ => rfl⟩
  · obtain rfl : pos = other := Option.some.inj (held.symm.trans here)
    refine ⟨_, adopted, ?_, ?_⟩
    · intro side again
      rw [stays side again]
      exact ⟨rfl, rfl, rfl⟩
    · intro both
      have ce : (adoptFill (answerFill ev reply) pos).ceLeg = pos.ceLeg := stays .ce (both .ce)
      have pe : (adoptFill (answerFill ev reply) pos).peLeg = pos.peLeg := stays .pe (both .pe)
      have sum : (adoptFill (answerFill ev reply) pos).netCredit =
          (adoptFill (answerFill ev reply) pos).ceLeg.entryPrice +
            (adoptFill (answerFill ev reply) pos).peLeg.entryPrice := rfl
      rw [sum, ce, pe]
      exact (tied.credit pos held).symm

end Crediting

/-- In every run of a book from a flat start, with fills after any delays: if no leg that a
fill prices was opened again while the fill was under way, each leg of the position is
credited with its own order, and no fill disturbs what later orders opened. -/
theorem fills_credited (identity : Identity) (strategy : Strategy)
    (flat : strategy.book.position = none) (events : List DeskEvent)
    (timely : Along (deskStep identity) InTime (Desk.of strategy) events) :
    Along (deskStep identity)
      (fun desk event =>
        Credited (deskStep identity desk event).strategy.book.position
          (deskStep identity desk event).placed ∧ Undisturbed identity desk event)
      (Desk.of strategy) events := by
  have initially : Tied (Desk.of strategy).strategy.book (Desk.of strategy).placed :=
    tied_flat flat _
  apply @along_under _ _ (deskStep identity) _ _
    (fun desk => Tied desk.strategy.book desk.placed) _ _ (Desk.of strategy) events initially timely
  · exact fun desk event => deskStep_tied
  · intro desk event tied timely
    exact ⟨(deskStep_tied tied timely).credited, answered_undisturbed tied timely⟩

/-! ## A roll before the fill is back -/

instance (desk : Desk) (event : DeskEvent) : Decidable (InTime desk event) := by
  unfold InTime
  split <;> infer_instance

/-- The fill of the entry comes before the roll. -/
theorem fills_credited_before_a_roll :
    Along (deskStep nifty)
      (fun desk event =>
        Credited (deskStep nifty desk event).strategy.book.position
          (deskStep nifty desk event).placed ∧ Undisturbed nifty desk event)
      (Desk.of .fresh) (entering ++ [entryFilled] ++ rollingPut ++ [exitFilled]) :=
  fills_credited nifty .fresh rfl _ (by decide +kernel)

/-- The put has been rolled when the fill of the entry comes. -/
def overtaken : Desk := run (deskStep nifty) (Desk.of .fresh) (entering ++ rollingPut)

/-- The new put was sold at 60 and is booked at the 90 of the old one. -/
theorem late_fill_credited_to_the_new_leg :
    ¬Along (deskStep nifty)
      (fun desk event =>
        Credited (deskStep nifty desk event).strategy.book.position
          (deskStep nifty desk event).placed ∧ Undisturbed nifty desk event)
      (Desk.of .fresh) (entering ++ rollingPut ++ [entryFilled]) ∧
    (deskStep nifty overtaken entryFilled).strategy.book.position.map
      (fun pos => (pos.peLeg.strike, pos.peLeg.entryPrice, pos.netCredit)) =
        some (23900, 90, 191) := by
  have booked : (deskStep nifty overtaken entryFilled).strategy.book.position.map
      (fun pos => (pos.peLeg.strike, pos.peLeg.entryPrice, pos.netCredit)) =
        some (23900, 90, 191) := by decide +kernel
  have sold : (opener .pe (deskStep nifty overtaken entryFilled).placed).map
      (fun sale => (sale.order.ltp .pe, sale.reply)) = some (60, none) := by decide +kernel
  refine ⟨?_, booked⟩
  intro holds
  obtain ⟨_, ⟨credited, _⟩, _⟩ := (along_append _ _ _ _ _).mp holds
  obtain ⟨pos, held, same⟩ := Option.map_eq_some_iff.mp booked
  obtain ⟨sale, found, _, price⟩ := credited pos held .pe
  have order : (opener .pe (deskStep nifty overtaken entryFilled).placed).map
      (fun sale => (sale.order.ltp .pe, sale.reply)) = some (sale.order.ltp .pe, sale.reply) := by
    have here : opener .pe (deskStep nifty overtaken entryFilled).placed = some sale := found
    rw [here, Option.map_some]
  rw [sold, Option.some.injEq, Prod.mk.injEq] at order
  have entry : pos.peLeg.entryPrice = 90 := (Prod.mk.inj (Prod.mk.inj same).2).1
  have leg : (pos.leg .pe).entryPrice = 90 := entry
  rcases price with signal | ⟨reply, answered, _⟩
  · rw [leg, ← order.1] at signal
    norm_num at signal
  · rw [answered] at order
    exact absurd order.2 (by simp)

end OptionChain.FillCredit
