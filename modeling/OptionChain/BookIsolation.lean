import OptionChain.StraddleBook

/-!
# Fills of another binding

All books of an underlying read one fill topic, and the fill loop compares the
underlying only. A fill of another client or binding is therefore handled as the
book's own. `Inert` says for which fills that happens to change nothing, and the
main result says it along every run, in any order of the two books' events: the
book is isolated exactly when every foreign fill is inert where it is handled.
Such fills may then be deleted from the run.
-/

namespace OptionChain.BookIsolation

open Broker Runs StraddleEvents StraddleBook

/-- A fill of the same underlying published for another client or binding. -/
def Foreign (identity : Identity) (ev : StraddleFillEvent) : Prop :=
  ev.underlying = identity.underlying ∧
    (ev.clientId, ev.bindingId) ≠ (identity.clientId, identity.bindingId)

instance foreignDecidable (identity : Identity) (ev : StraddleFillEvent) :
    Decidable (Foreign identity ev) :=
  inferInstanceAs (Decidable (_ ∧ _))

/-- The protected part of a book: the position with its prices and net credit,
the trade count, the pending flag and the cooldown. -/
structure Unchanged (before after : Book) : Prop where
  position : after.position = before.position
  tradesToday : after.tradesToday = before.tradesToday
  orderPending : after.orderPending = before.orderPending
  slCooldownUntil : after.slCooldownUntil = before.slCooldownUntil

/-- A leg already stands where a fill would put it. -/
def LegMatches (fill : StraddleFillEvent) (optType : OptType) (leg : StraddleLeg) : Prop :=
  optType ∈ fill.legs → 0 < fill.fill optType →
    leg.ltp = fill.fill optType ∧ leg.entryPrice = fill.fill optType ∧
      ∀ symbol, (fill.symbol optType).filter (· ≠ "") = some symbol → leg.symbol = symbol

/-- The cooldown already ends where a new one would. -/
def CooldownMatches (settings : Settings) (now : Int) (book : Book) : Prop :=
  0 < truncate settings.slCooldownMinutes →
    book.slCooldownUntil = some (now + 60 * truncate settings.slCooldownMinutes)

/-- A fill that changes nothing in a book: a normal one meets no pending order and
no price it could replace; an abort meets an idle book without a trade today. -/
def Inert (settings : Settings) (now : Int) (book : Book) (fill : StraddleFillEvent) : Prop :=
  book.orderPending = false ∧
    match fill.action with
    | .exit => True
    | .entry =>
        if fill.entryAborted then
          book.position = none ∧ book.tradesToday = 0 ∧ CooldownMatches settings now book
        else
          ∀ pos, book.position = some pos →
            LegMatches fill .ce pos.ceLeg ∧ LegMatches fill .pe pos.peLeg

/-- Every position a book holds is open and its net credit is the sum of its
entry prices. -/
def Consistent (book : Book) : Prop :=
  ∀ pos, book.position = some pos →
    pos.status = .open ∧ pos.netCredit = pos.ceLeg.entryPrice + pos.peLeg.entryPrice

section Invariant

variable (identity : Identity) (settings : Settings) (now : Int)

theorem consistent_none {book : Book} (flat : book.position = none) : Consistent book := by
  intro pos held
  rw [flat] at held
  cases held

theorem consistent_position {before after : Book} (consistent : Consistent before)
    (same : after.position = before.position) : Consistent after := by
  intro pos held
  exact consistent pos (same ▸ held)

theorem openPosition_consistent (book : Book) (ceStrike peStrike : Int) (ceLtp peLtp : Rat)
    (ruleKey : String) :
    Consistent (openPosition identity settings book ceStrike peStrike ceLtp peLtp ruleKey).1 := by
  rintro pos ⟨⟩
  exact ⟨rfl, rfl⟩

theorem closePosition_consistent {book : Book} (consistent : Consistent book) (reason : String) :
    Consistent (closePosition identity settings now book reason).1 := by
  unfold closePosition
  cases held : book.position with
  | none => exact consistent
  | some pos =>
    apply consistent_none
    simp only [applySlCooldown_position]

theorem singleSideRoll_consistent {book : Book} (consistent : Consistent book) (side : OptType)
    (reason : String) (sel : Option (Int × Rat)) :
    Consistent (singleSideRoll identity settings now book side reason sel).1 := by
  unfold singleSideRoll
  cases held : book.position with
  | none => exact consistent
  | some pos =>
    have opened : pos.status = .open := (consistent pos held).1
    cases sel with
    | none =>
      apply consistent_none
      simp only [applySlCooldown_position]
    | some partner =>
      obtain ⟨strike, ltp⟩ := partner
      by_cases same : strike = truncate (pos.leg side).strike
      · simp only [if_pos same]
        exact consistent
      · simp only [if_neg same]
        rintro moved ⟨⟩
        constructor
        · simp only [replacedLeg, setLeg_status, opened]
        · rfl

theorem onFill_consistent {book : Book} (consistent : Consistent book)
    (fill : StraddleFillEvent) : Consistent (onFill settings now book fill).1 := by
  cases action : fill.action with
  | exit =>
    rw [onFill_exit settings now book action]
    exact consistent_position consistent rfl
  | entry =>
    cases aborted : fill.entryAborted with
    | true =>
      rw [onFill_abort settings now book action aborted]
      apply consistent_none
      rw [applySlCooldown_position]
    | false =>
      cases held : book.position with
      | none =>
        rw [onFill_idle settings now book action aborted held]
        exact consistent_position consistent rfl
      | some pos =>
        have opened : pos.status = .open := (consistent pos held).1
        rw [onFill_confirm settings now book action aborted held opened]
        rintro adopted ⟨⟩
        exact ⟨opened, rfl⟩

theorem optionTick_consistent {book : Book} (consistent : Consistent book) (optType : OptType)
    (strike ltp : Rat) : Consistent (optionTick book optType strike ltp) := by
  unfold optionTick
  cases held : book.position with
  | none => exact consistent
  | some pos =>
    obtain ⟨opened, credit⟩ := consistent pos held
    simp only []
    split
    · rintro ticked ⟨⟩
      cases optType <;> exact ⟨opened, credit⟩
    · exact consistent

/-- Every operation keeps the positions consistent. -/
theorem bookStep_consistent (book : Book) (event : BookEvent) (consistent : Consistent book) :
    Consistent (bookStep identity book event) := by
  obtain ⟨settings, now, op⟩ := event
  cases op with
  | openPosition ceStrike peStrike ceLtp peLtp ruleKey =>
    exact openPosition_consistent identity settings book ceStrike peStrike ceLtp peLtp ruleKey
  | closePosition reason => exact closePosition_consistent identity settings now consistent reason
  | singleSideRoll side reason sel =>
    exact singleSideRoll_consistent identity settings now consistent side reason sel
  | fill ev =>
    simp only [bookStep, operate, fillLoop]
    split
    · exact consistent
    · exact onFill_consistent settings now consistent ev
  | resetSession => exact consistent_none rfl
  | optionTick optType strike ltp => exact optionTick_consistent consistent optType strike ltp
  | indexTick ltp => exact consistent_position consistent rfl

end Invariant

/-- A leg keeps its place under a fill exactly when it already stands there. -/
theorem adoptLeg_eq_iff (fill : StraddleFillEvent) (optType : OptType) (leg : StraddleLeg) :
    adoptLeg fill optType leg = leg ↔ LegMatches fill optType leg := by
  unfold adoptLeg LegMatches
  by_cases adopted : optType ∈ fill.legs ∧ 0 < fill.fill optType
  · rw [if_pos adopted]
    obtain ⟨listed, positive⟩ := adopted
    obtain ⟨strike, entryPrice, ltp, openReason, symbol⟩ := leg
    simp only [StraddleLeg.mk.injEq, true_and, listed, positive, forall_const]
    constructor
    · rintro ⟨price, last, shown⟩
      refine ⟨last.symm, price.symm, ?_⟩
      intro usable found
      rw [found] at shown
      exact shown.symm
    · rintro ⟨last, price, shown⟩
      refine ⟨price.symm, last.symm, ?_⟩
      cases found : (fill.symbol optType).filter (· ≠ "") with
      | none => rfl
      | some usable => exact (shown usable found).symm
  · rw [if_neg adopted]
    constructor
    · intro _ listed positive
      exact (adopted ⟨listed, positive⟩).elim
    · intro _
      rfl

/-- A consistent position keeps its place exactly when both legs do. -/
theorem adoptFill_eq_iff (fill : StraddleFillEvent) {pos : StraddlePosition}
    (credit : pos.netCredit = pos.ceLeg.entryPrice + pos.peLeg.entryPrice) :
    adoptFill fill pos = pos ↔ LegMatches fill .ce pos.ceLeg ∧ LegMatches fill .pe pos.peLeg := by
  rw [← adoptLeg_eq_iff, ← adoptLeg_eq_iff]
  constructor
  · intro same
    constructor
    · exact congrArg StraddlePosition.ceLeg same
    · exact congrArg StraddlePosition.peLeg same
  · rintro ⟨ce, pe⟩
    simp only [adoptFill, ce, pe, ← credit]

/-- Starting a cooldown changes nothing exactly when it already runs. -/
theorem applySlCooldown_eq_iff (settings : Settings) (now : Int) (book : Book) :
    (applySlCooldown settings now book).slCooldownUntil = book.slCooldownUntil ↔
      CooldownMatches settings now book := by
  unfold applySlCooldown CooldownMatches
  by_cases applies : 0 < truncate settings.slCooldownMinutes
  · simp only [applies, forall_const]
    exact eq_comm
  · simp [applies]

section Handling

variable (identity : Identity) (settings : Settings) (now : Int)

/-- An abort leaves a book alone when it was idle, without a trade, and cooling
down until the same moment. -/
theorem abort_unchanged_iff (book : Book) :
    Unchanged book
        (applySlCooldown settings now
          { book with
            position := none
            tradesToday := book.tradesToday - 1
            orderPending := false }) ↔
      book.orderPending = false ∧ book.position = none ∧ book.tradesToday = 0 ∧
        CooldownMatches settings now book := by
  have cooldown := applySlCooldown_eq_iff settings now
    { book with position := none, tradesToday := book.tradesToday - 1, orderPending := false }
  have matching : CooldownMatches settings now
      { book with position := none, tradesToday := book.tradesToday - 1, orderPending := false } ↔
      CooldownMatches settings now book := Iff.rfl
  rw [← matching, ← cooldown]
  constructor
  · rintro ⟨position, trades, pending, until_⟩
    simp only [applySlCooldown_position] at position
    simp only [applySlCooldown_tradesToday] at trades
    simp only [applySlCooldown_orderPending] at pending
    exact ⟨pending.symm, position.symm, by omega, until_⟩
  · rintro ⟨pending, position, trades, until_⟩
    constructor
    · rw [applySlCooldown_position, position]
    · rw [applySlCooldown_tradesToday, trades]
    · rw [applySlCooldown_orderPending, pending]
    · exact until_

/-- On a consistent book exactly the inert fills leave the protected part alone. -/
theorem onFill_unchanged_iff {book : Book} (consistent : Consistent book)
    (fill : StraddleFillEvent) :
    Unchanged book (onFill settings now book fill).1 ↔ Inert settings now book fill := by
  unfold Inert
  cases action : fill.action with
  | exit =>
    rw [onFill_exit settings now book action]
    constructor
    · intro unchanged
      exact ⟨unchanged.orderPending.symm, trivial⟩
    · rintro ⟨pending, _⟩
      exact ⟨rfl, rfl, pending.symm, rfl⟩
  | entry =>
    cases aborted : fill.entryAborted with
    | true =>
      rw [onFill_abort settings now book action aborted, abort_unchanged_iff]
      rfl
    | false =>
      cases held : book.position with
      | none =>
        rw [onFill_idle settings now book action aborted held]
        constructor
        · intro unchanged
          refine ⟨unchanged.orderPending.symm, ?_⟩
          simp
        · rintro ⟨pending, _⟩
          exact ⟨rfl, rfl, pending.symm, rfl⟩
      | some pos =>
        obtain ⟨opened, credit⟩ := consistent pos held
        rw [onFill_confirm settings now book action aborted held opened]
        have adopted := adoptFill_eq_iff fill credit
        constructor
        · intro unchanged
          refine ⟨unchanged.orderPending.symm, ?_⟩
          have same : adoptFill fill pos = pos :=
            Option.some.inj (unchanged.position.trans held)
          simpa using adopted.mp same
        · rintro ⟨pending, legs⟩
          have same : adoptFill fill pos = pos := adopted.mpr (by simpa using legs)
          exact ⟨by rw [same, held], rfl, pending.symm, rfl⟩

/-- Nothing but the protected part of a book can change under a fill. -/
theorem onFill_frame (book : Book) (fill : StraddleFillEvent) :
    { (onFill settings now book fill).1 with
      position := book.position
      tradesToday := book.tradesToday
      orderPending := book.orderPending
      slCooldownUntil := book.slCooldownUntil } = book := by
  cases action : fill.action with
  | exit => rw [onFill_exit settings now book action]
  | entry =>
    cases aborted : fill.entryAborted with
    | true =>
      rw [onFill_abort settings now book action aborted]
      unfold applySlCooldown
      simp only []
      split <;> rfl
    | false =>
      unfold onFill
      simp only [action, aborted, Bool.false_eq_true, if_false]
      split
      · split <;> rfl
      · rfl

theorem onFill_eq_of_unchanged {book : Book} {fill : StraddleFillEvent}
    (unchanged : Unchanged book (onFill settings now book fill).1) :
    (onFill settings now book fill).1 = book := by
  have frame := onFill_frame settings now book fill
  rw [← unchanged.position, ← unchanged.tradesToday, ← unchanged.orderPending,
    ← unchanged.slCooldownUntil] at frame
  exact frame

end Handling

/-- An event that is not a foreign fill. -/
def own (identity : Identity) (event : BookEvent) : Bool :=
  match event.op with
  | .fill ev => !decide (Foreign identity ev)
  | _ => true

/-- A foreign fill handled by a step leaves the protected part alone. -/
def Isolated (identity : Identity) (book : Book) (event : BookEvent) : Prop :=
  ∀ ev, event.op = .fill ev → Foreign identity ev →
    Unchanged book (bookStep identity book event)

/-- A foreign fill handled by a step is inert. -/
def MeetsInert (identity : Identity) (book : Book) (event : BookEvent) : Prop :=
  ∀ ev, event.op = .fill ev → Foreign identity ev → Inert event.settings event.now book ev

theorem isolated_iff {identity : Identity} {book : Book} (consistent : Consistent book)
    (event : BookEvent) : Isolated identity book event ↔ MeetsInert identity book event := by
  obtain ⟨settings, now, op⟩ := event
  apply forall_congr'
  intro ev
  apply forall_congr'
  rintro rfl
  apply forall_congr'
  intro foreign
  have handled : bookStep identity book ⟨settings, now, .fill ev⟩ =
      (onFill settings now book ev).1 := by
    simp [bookStep, operate, fillLoop, foreign.1]
  rw [handled]
  exact onFill_unchanged_iff settings now consistent ev

/-- Both conditions agree along a run from any consistent book. -/
theorem along_isolated_iff (identity : Identity) {start : Book} (consistent : Consistent start)
    (events : List BookEvent) :
    Along (bookStep identity) (Isolated identity) start events ↔
      Along (bookStep identity) (MeetsInert identity) start events :=
  along_congr (bookStep identity) (bookStep_consistent identity)
    (fun _ event consistent => isolated_iff consistent event) start events consistent

/-- Along every run of a book, with foreign fills anywhere in it, every foreign
fill leaves the protected part alone exactly when every one is inert where it is
handled. -/
theorem books_isolated_iff (identity : Identity) (events : List BookEvent) :
    Along (bookStep identity) (Isolated identity) Book.fresh events ↔
      Along (bookStep identity) (MeetsInert identity) Book.fresh events :=
  along_isolated_iff identity (consistent_none rfl) events

/-- When all of them are inert, the book ends as if it had never seen them. -/
theorem foreign_fills_erased (identity : Identity) {start : Book} (consistent : Consistent start)
    (events : List BookEvent)
    (inert : Along (bookStep identity) (MeetsInert identity) start events) :
    run (bookStep identity) start events =
      run (bookStep identity) start (events.filter (own identity)) := by
  apply run_erase
  have isolated := (along_isolated_iff identity consistent events).mpr inert
  refine along_imp (bookStep identity) ?_ start events isolated
  rintro book ⟨settings, now, op⟩ unchanged foreign
  cases op with
  | fill ev =>
    have other : Foreign identity ev := by simpa [own] using foreign
    have handled : bookStep identity book ⟨settings, now, .fill ev⟩ =
        (onFill settings now book ev).1 := by
      simp [bookStep, operate, fillLoop, other.1]
    have kept := unchanged ev rfl other
    rw [handled] at kept ⊢
    exact onFill_eq_of_unchanged settings now kept
  | _ => simp [own] at foreign

/-- A book that has just opened a straddle loses it to the aborted ENTRY of
another client. -/
theorem foreign_abort_discards_the_position :
    ¬ Along (bookStep ⟨"NIFTY", "c1", "b1"⟩) (Isolated ⟨"NIFTY", "c1", "b1"⟩) Book.fresh
      [⟨⟨50, 65, 1, 5⟩, 0, .openPosition 24600 24600 100 90 "entry_rules_beginning"⟩,
        ⟨⟨50, 65, 1, 5⟩, 1, .fill
          { action := .entry, underlying := "NIFTY", atm := 24600, ceStrike := 24600,
            peStrike := 24600, ceFill := 0, peFill := 0, clientId := "c2", bindingId := "b2",
            eventId := ⟨"NIFTY", .entry, 1⟩, paperMode := false, entryAborted := true }⟩] := by
  rintro ⟨_, isolated, _⟩
  have kept := (isolated _ rfl (by decide)).position
  revert kept
  decide

end OptionChain.BookIsolation
