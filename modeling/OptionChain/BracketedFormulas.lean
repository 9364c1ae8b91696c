import Mathlib.Data.List.Forall2

/-!
# Formulas of truth values in brackets

The text of a formula is a list of tokens: truth values, the two connectives and
round brackets; a conjunction binds tighter than a disjunction. The grammar says
which texts are formulas and what they amount to, the reader computes it from left to
right with one frame for each open bracket. Truth values that only rise let the whole
only rise.
-/

namespace OptionChain.BracketedFormulas

inductive Token where
  | opening
  | closing
  | value (holds : Bool)
  | conj
  | disj
deriving DecidableEq

inductive Level where
  | atom
  | conjunction
  | disjunction

/-- A text of some level and its truth value. -/
inductive Formula : Level → List Token → Bool → Prop where
  | value (holds : Bool) : Formula .atom [.value holds] holds
  | group {text holds} (inner : Formula .disjunction text holds) :
      Formula .atom (.opening :: text ++ [.closing]) holds
  | single {text holds} (only : Formula .atom text holds) : Formula .conjunction text holds
  | conj {left right a b} (first : Formula .conjunction left a) (last : Formula .atom right b) :
      Formula .conjunction (left ++ .conj :: right) (a && b)
  | whole {text holds} (only : Formula .conjunction text holds) : Formula .disjunction text holds
  | disj {left right a b} (first : Formula .disjunction left a)
      (last : Formula .conjunction right b) :
      Formula .disjunction (left ++ .disj :: right) (a || b)

/-- What stands in a bracket so far: the disjunction before the current conjunction, and
that conjunction. -/
structure Frame where
  disj : Bool := false
  conj : Bool := true
deriving DecidableEq

def Frame.holds (frame : Frame) : Bool := frame.disj || frame.conj

def Frame.meet (frame : Frame) (holds : Bool) : Frame :=
  { frame with conj := frame.conj && holds }

inductive Expects where
  | operand
  | operator

/-- The reader, in the innermost bracket `top`. -/
def read : Expects → Frame → List Frame → List Token → Option Bool
  | expects, top, below, [] =>
      match expects, below with
      | .operator, [] => some top.holds
      | _, _ => none
  | expects, top, below, token :: rest =>
      match expects, token with
      | .operand, .opening => read .operand {} (top :: below) rest
      | .operand, .value holds => read .operator (top.meet holds) below rest
      | .operator, .closing =>
          match below with
          | [] => none
          | outer :: around => read .operator (outer.meet top.holds) around rest
      | .operator, .conj => read .operand top below rest
      | .operator, .disj => read .operand { disj := top.holds } below rest
      | _, _ => none

/-- The truth value of a text, if it is a formula. -/
def evaluate (text : List Token) : Option Bool := read .operand {} [] text

/-! ## The reader reads the grammar -/

/-- Where the reader stands behind a text: at the end of a conjunction it is in the frame
that met it, at the end of a disjunction in one that holds as it does. -/
def Behind (top : Frame) (holds : Bool) : Level → Frame → Prop
  | .atom, after => after = top.meet holds
  | .conjunction, after => after = top.meet holds
  | .disjunction, after => top.conj = true → after.holds = (top.disj || holds)

theorem read_formula {level : Level} {text : List Token} {holds : Bool}
    (formula : Formula level text holds) :
    ∀ (top : Frame) (below : List Frame) (rest : List Token), ∃ after,
      Behind top holds level after ∧
        read .operand top below (text ++ rest) = read .operator after below rest := by
  induction formula with
  | value holds => exact fun top below rest => ⟨_, rfl, rfl⟩
  | @group text holds _ inductionHypothesis =>
    intro top below rest
    obtain ⟨after, behind, reads⟩ := inductionHypothesis {} (top :: below) (.closing :: rest)
    refine ⟨top.meet holds, rfl, ?_⟩
    have value : after.holds = holds := (behind rfl).trans (Bool.false_or holds)
    rw [List.cons_append, List.cons_append, List.append_assoc, List.singleton_append]
    calc read .operand top below (.opening :: (text ++ .closing :: rest))
        = read .operand {} (top :: below) (text ++ .closing :: rest) := rfl
      _ = read .operator after (top :: below) (.closing :: rest) := reads
      _ = read .operator (top.meet holds) below rest := by rw [← value]; rfl
  | single _ inductionHypothesis => exact inductionHypothesis
  | @conj left right a b _ _ first last =>
    intro top below rest
    obtain ⟨_, rfl, leftReads⟩ := first top below (.conj :: right ++ rest)
    obtain ⟨_, rfl, rightReads⟩ := last (top.meet a) below rest
    refine ⟨(top.meet a).meet b, ?_, ?_⟩
    · simp only [Behind, Frame.meet, Bool.and_assoc]
    · rw [List.append_assoc, leftReads]
      exact rightReads
  | whole _ inductionHypothesis =>
    intro top below rest
    obtain ⟨after, rfl, reads⟩ := inductionHypothesis top below rest
    refine ⟨_, fun fresh => ?_, reads⟩
    rw [Frame.holds, Frame.meet, fresh, Bool.true_and]
  | @disj left right a b _ _ first last =>
    intro top below rest
    obtain ⟨after, leftBehind, leftReads⟩ := first top below (.disj :: right ++ rest)
    obtain ⟨_, rfl, rightReads⟩ := last { disj := after.holds } below rest
    refine ⟨Frame.meet { disj := after.holds } b, fun fresh => ?_, ?_⟩
    · rw [Frame.holds, Frame.meet, leftBehind fresh, Bool.true_and, Bool.or_assoc]
    · rw [List.append_assoc, leftReads]
      exact rightReads

/-- Every formula evaluates to its truth value. -/
theorem evaluate_formula {text : List Token} {holds : Bool}
    (formula : Formula .disjunction text holds) : evaluate text = some holds := by
  obtain ⟨after, behind, reads⟩ := read_formula formula {} [] []
  rw [List.append_nil] at reads
  rw [evaluate, reads, ← (behind rfl).trans (Bool.false_or holds)]
  rfl

/-! ## What the reader accepts -/

/-- The text before the current conjunction. -/
inductive Begun : Frame → List Token → Prop where
  | fresh {conj} : Begun { disj := false, conj } []
  | turned {left a conj} (first : Formula .disjunction left a) :
      Begun { disj := a, conj } (left ++ [.disj])

/-- The text of an open bracket, as far as it is read. -/
inductive Inside : Expects → Frame → List Token → Prop where
  | start {disj before} (begun : Begun { disj } before) : Inside .operand { disj } before
  | joined {top text} (first : Inside .operator top text) :
      Inside .operand top (text ++ [.conj])
  | read {top before text} (begun : Begun top before)
      (conjunction : Formula .conjunction text top.conj) : Inside .operator top (before ++ text)

/-- The text before the innermost bracket. -/
inductive Around : List Frame → List Token → Prop where
  | outermost : Around [] []
  | bracket {outer below before text} (around : Around below before)
      (inside : Inside .operand outer text) :
      Around (outer :: below) (before ++ text ++ [.opening])

theorem Begun.meet {top : Frame} {before : List Token} (begun : Begun top before) (holds : Bool) :
    Begun (top.meet holds) before := by
  cases begun with
  | fresh => exact .fresh
  | turned first => exact .turned first

/-- A bracket may close where an operator may stand. -/
theorem Inside.formula {top : Frame} {text : List Token} (inside : Inside .operator top text) :
    Formula .disjunction text top.holds := by
  cases inside with
  | read begun conjunction =>
    cases begun with
    | fresh => simpa [Frame.holds] using Formula.whole conjunction
    | turned first => simpa [Frame.holds] using Formula.disj first conjunction

/-- An operand is met by the current conjunction. -/
theorem Inside.atom {top : Frame} {text operand : List Token} {holds : Bool}
    (inside : Inside .operand top text) (atom : Formula .atom operand holds) :
    Inside .operator (top.meet holds) (text ++ operand) := by
  cases inside with
  | start begun =>
    exact .read (begun.meet holds) (by simpa [Frame.meet] using Formula.single atom)
  | joined first =>
    cases first with
    | @read _ before conjunction begun formula =>
      have joined := Formula.conj formula atom
      simpa [List.append_assoc] using Inside.read (begun.meet holds) joined

/-- What is read to its end is a formula, with what stands around it. -/
theorem formula_read {rest : List Token} :
    ∀ {expects : Expects} {top : Frame} {below : List Frame} {before text : List Token}
      {holds : Bool}, Around below before → Inside expects top text →
        read expects top below rest = some holds →
          Formula .disjunction (before ++ text ++ rest) holds := by
  induction rest with
  | nil =>
    intro expects top below before text holds around inside reads
    cases expects with
    | operand => cases reads
    | operator =>
      cases around with
      | outermost =>
        cases reads
        simpa using inside.formula
      | bracket => cases reads
  | cons token rest inductionHypothesis =>
    intro expects top below before text holds around inside reads
    cases expects with
    | operand =>
      cases token with
      | opening =>
        simpa using inductionHypothesis (.bracket around inside) (.start .fresh) reads
      | value b =>
        simpa using inductionHypothesis around (inside.atom (.value b)) reads
      | closing => cases reads
      | conj => cases reads
      | disj => cases reads
    | operator =>
      cases token with
      | closing =>
        cases around with
        | outermost => cases reads
        | bracket outside outer =>
          have atom := Formula.group inside.formula
          simpa using inductionHypothesis outside (outer.atom atom) reads
      | conj => simpa using inductionHypothesis around inside.joined reads
      | disj =>
        simpa using inductionHypothesis around (.start (.turned inside.formula)) reads
      | opening => cases reads
      | value b => cases reads

/-- The reader accepts the formulas, and gives each its truth value. -/
theorem evaluate_iff {text : List Token} {holds : Bool} :
    evaluate text = some holds ↔ Formula .disjunction text holds :=
  ⟨formula_read .outermost (.start .fresh), evaluate_formula⟩

/-! ## Rising truth values -/

/-- The same token, with a truth value that may rise. -/
def Token.Rises : Token → Token → Prop
  | .value a, .value b => a = true → b = true
  | a, b => a = b

structure Frame.Rises (a b : Frame) : Prop where
  disj : a.disj = true → b.disj = true
  conj : a.conj = true → b.conj = true

theorem Frame.Rises.holds {a b : Frame} (rises : a.Rises b) (holds : a.holds = true) :
    b.holds = true := by
  rw [Frame.holds, Bool.or_eq_true] at holds ⊢
  exact holds.imp rises.disj rises.conj

theorem Frame.Rises.meet {a b : Frame} (rises : a.Rises b) {x y : Bool}
    (values : x = true → y = true) : (a.meet x).Rises (b.meet y) where
  disj := rises.disj
  conj both := by
    rw [Frame.meet, Bool.and_eq_true] at both ⊢
    exact both.imp rises.conj values

/-- A disjunction begins its next conjunction no lower. -/
theorem Frame.Rises.turn {a b : Frame} (rises : a.Rises b) :
    Frame.Rises { disj := a.holds } { disj := b.holds } := ⟨rises.holds, id⟩

/-- The reader keeps up with truth values that rise. -/
theorem read_rises {text higher : List Token} (tokens : List.Forall₂ Token.Rises text higher) :
    ∀ {expects : Expects} {top top' : Frame} {below below' : List Frame},
      top.Rises top' → List.Forall₂ Frame.Rises below below' →
        read expects top below text = some true → read expects top' below' higher = some true := by
  induction tokens with
  | nil =>
    intro expects top top' below below' here around reads
    cases expects with
    | operand => cases reads
    | operator =>
      cases around with
      | nil => exact congrArg some (here.holds (Option.some.inj reads))
      | cons _ _ => cases reads
  | @cons token token' text higher rises _ inductionHypothesis =>
    intro expects top top' below below' here around reads
    cases token with
    | value a =>
      cases token' with
      | value b =>
        cases expects with
        | operand => exact inductionHypothesis (here.meet rises) around reads
        | operator => cases reads
      | _ => cases rises
    | opening =>
      cases rises
      cases expects with
      | operand =>
        exact inductionHypothesis ⟨id, id⟩ (List.Forall₂.cons here around) reads
      | operator => cases reads
    | closing =>
      cases rises
      cases expects with
      | operand => cases reads
      | operator =>
        cases around with
        | nil => cases reads
        | cons outer around => exact inductionHypothesis (outer.meet here.holds) around reads
    | conj =>
      cases rises
      cases expects with
      | operand => cases reads
      | operator => exact inductionHypothesis here around reads
    | disj =>
      cases rises
      cases expects with
      | operand => cases reads
      | operator => exact inductionHypothesis here.turn around reads

/-- A formula that holds still holds when truth values in it rise. -/
theorem evaluate_rises {text higher : List Token}
    (tokens : List.Forall₂ Token.Rises text higher) (holds : evaluate text = some true) :
    evaluate higher = some true :=
  read_rises tokens ⟨id, id⟩ List.Forall₂.nil holds

end OptionChain.BracketedFormulas
