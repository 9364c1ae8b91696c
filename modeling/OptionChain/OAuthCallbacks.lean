import OptionChain.BookManagers
import OptionChain.CredentialStore
import OptionChain.JoinedKeys
import OptionChain.PastTime

/-!
# Where a broker's answer goes

A login at a broker begins with a request for the address of its login page, and ends when the
broker sends the browser back with a code. In between the dashboard keeps no session. The
address carries a state, which names the binding, and the answer is routed by what the state
says. Zerodha does not send the state back; its answer is routed to the login that was started
last.

`parseState_buildState_iff` says which names a state gives back. `terminal_routed_iff` says what
follows for the answers of the other brokers, and `zerodha_routed_iff` for those of Zerodha.
-/

namespace OptionChain.OAuthCallbacks

open BookManagers CredentialStore JoinedKeys PastTime Runs

/-! ## States -/

/-- What a state says. -/
structure Parsed where
  role : String
  clientId : String
  bindingId : String
  ts : Int
deriving DecidableEq

/-- The digits of a number, with single underscores between them. -/
def digitRun (afterDigit : Bool) : List Char → Option (List Char)
  | [] => if afterDigit then some [] else none
  | c :: rest =>
      if c.isDigit then (digitRun true rest).map (c :: ·)
      else if c = '_' ∧ afterDigit = true then digitRun false rest
      else none

/-- `int` of a text. -/
def readInt (text : List Char) : Option Int :=
  let number (digits : List Char) : Option Int :=
    (digitRun false digits).map fun run => (Nat.ofDigitChars 10 run 0 : Int)
  match (strip (String.ofList text)).toList with
  | '-' :: digits => (number digits).map fun value => -value
  | '+' :: digits => number digits
  | digits => number digits

/-- The parts of a state, with the time at which it was made. -/
def stateParts (role clientId bindingId : String) (now : Nat) : List (List Char) :=
  [role.toList, clientId.toList, bindingId.toList, (toString now).toList]

/-- `build_state`. -/
def buildState (role clientId bindingId : String) (now : Nat) : String :=
  String.ofList
    (Base64.unpadded (utf8 (String.ofList (joined '|' (stateParts role clientId bindingId now)))))

/-- `parse_state`. A state that cannot be read is empty. -/
def parseState (state : String) : Option Parsed :=
  let pad := 4 - state.toList.length % 4
  match Base64.urlDecode (state.toList ++ List.replicate pad '=') with
  | none => none
  | some bytes =>
      match ofUtf8 bytes with
      | none => none
      | some decoded =>
          match decoded.toList.splitOn '|' with
          | role :: clientId :: bindingId :: rest =>
              (match rest with
                | [] => some 0
                | ts :: _ => readInt ts).map fun ts =>
                  ⟨String.ofList role, String.ofList clientId, String.ofList bindingId, ts⟩
          | _ => none

theorem digitRun_digits {digits : List Char} (all : ∀ digit ∈ digits, digit.isDigit = true) :
    digitRun true digits = some digits := by
  induction digits with
  | nil => rfl
  | cons digit rest inductionHypothesis =>
    rw [digitRun, if_pos (all digit List.mem_cons_self),
      inductionHypothesis fun other member => all other (List.mem_cons_of_mem _ member)]
    rfl

theorem digit_not_space {digit : Char} (isDigit : digit.isDigit = true) :
    isSpace digit = false := by
  simp only [Char.isDigit, Bool.and_eq_true, decide_eq_true_eq] at isDigit
  have low : 48 ≤ digit.toNat := isDigit.1
  have high : digit.toNat ≤ 57 := isDigit.2
  simp only [isSpace, List.contains_eq_mem, List.mem_cons, List.not_mem_nil, or_false,
    Bool.or_eq_false_iff, Bool.and_eq_false_iff, decide_eq_false_iff_not]
  omega

theorem dropWhile_digits {digits : List Char} (all : ∀ digit ∈ digits, digit.isDigit = true) :
    digits.dropWhile isSpace = digits := by
  cases digits with
  | nil => rfl
  | cons digit rest =>
    exact List.dropWhile_cons_of_neg (by simp [digit_not_space (all digit List.mem_cons_self)])

/-- The time of a state is read back. -/
theorem readInt_toString (now : Nat) : readInt (toString now).toList = some (now : Int) := by
  have text : (toString now).toList = Nat.toDigits 10 now := Nat.toList_repr
  have all : ∀ digit ∈ Nat.toDigits 10 now, digit.isDigit = true := fun digit member =>
    Nat.isDigit_of_mem_toDigits (by decide) (by decide) member
  have reversed : ∀ digit ∈ (Nat.toDigits 10 now).reverse, digit.isDigit = true :=
    fun digit member => all digit (List.mem_reverse.mp member)
  have whole : Nat.ofDigitChars 10 (Nat.toDigits 10 now) 0 = now := Nat.ofDigitChars_ten_toDigits
  rw [readInt, text, strip, String.toList_ofList, String.toList_ofList, dropWhile_digits all,
    dropWhile_digits reversed, List.reverse_reverse]
  obtain ⟨first, rest, shape⟩ := List.exists_cons_of_ne_nil (@Nat.toDigits_ne_nil now 10)
  rw [shape] at all whole ⊢
  have digit := all first List.mem_cons_self
  have run : digitRun false (first :: rest) = some (first :: rest) := by
    rw [digitRun, if_pos digit, digitRun_digits fun other member =>
      all other (List.mem_cons_of_mem _ member)]
    rfl
  split
  case h_1 same =>
    obtain ⟨rfl, -⟩ := List.cons.inj same
    exact absurd digit (by decide)
  case h_2 same =>
    obtain ⟨rfl, -⟩ := List.cons.inj same
    exact absurd digit (by decide)
  case h_3 =>
    dsimp only
    rw [run, Option.map_some, whole]

/-- What is parsed of a state are the first words of its parts. -/
theorem parseState_words (role clientId bindingId : String) (now : Nat) :
    parseState (buildState role clientId bindingId now) =
      match words '|' (stateParts role clientId bindingId now) with
      | role :: clientId :: bindingId :: rest =>
          (match rest with
            | [] => some 0
            | ts :: _ => readInt ts).map fun ts =>
              ⟨String.ofList role, String.ofList clientId, String.ofList bindingId, ts⟩
      | _ => none := by
  rw [parseState, buildState, String.toList_ofList]
  simp only [Base64.urlDecode_unpadded, ofUtf8_utf8, String.toList_ofList]
  rw [splitOn_joined (by simp [stateParts])]

/-- Names that are read back have no bar in them. -/
theorem names_free {role clientId bindingId : String} {now : Nat} {parsed : Parsed}
    (read : parseState (buildState role clientId bindingId now) = some parsed) :
    '|' ∉ parsed.role.toList ∧ '|' ∉ parsed.clientId.toList ∧ '|' ∉ parsed.bindingId.toList := by
  rw [parseState_words] at read
  have free : ∀ word ∈ words '|' (stateParts role clientId bindingId now), '|' ∉ word := by
    intro word member
    obtain ⟨part, -, piece⟩ := List.mem_flatMap.mp member
    exact not_mem_piece piece
  split at read
  case h_2 => cases read
  case h_1 first second third rest cut =>
    rw [cut] at free
    obtain ⟨ts, -, rfl⟩ := Option.map_eq_some_iff.mp read
    simp only [String.toList_ofList]
    exact ⟨free first (by simp), free second (by simp), free third (by simp)⟩

theorem splitOn_free {part : List Char} (free : '|' ∉ part) : part.splitOn '|' = [part] := by
  apply List.splitOnP_eq_singleton
  intro char member
  have other : char ≠ '|' := fun same => free (same ▸ member)
  simpa using other

/-- A state gives back the names exactly if none of them has a bar in it. -/
theorem parseState_buildState_iff (role clientId bindingId : String) (now : Nat) :
    parseState (buildState role clientId bindingId now) = some ⟨role, clientId, bindingId, now⟩ ↔
      '|' ∉ role.toList ∧ '|' ∉ clientId.toList ∧ '|' ∉ bindingId.toList := by
  constructor
  · exact names_free
  · rintro ⟨roleFree, clientFree, bindingFree⟩
    have digits : '|' ∉ (toString now).toList := by
      intro bar
      have text : (toString now).toList = Nat.toDigits 10 now := Nat.toList_repr
      rw [text] at bar
      exact absurd (Nat.isDigit_of_mem_toDigits (by decide) (by decide) bar) (by decide)
    have cut : words '|' (stateParts role clientId bindingId now) =
        stateParts role clientId bindingId now := by
      rw [words, stateParts, List.flatMap_cons, List.flatMap_cons, List.flatMap_cons,
        List.flatMap_cons, splitOn_free roleFree, splitOn_free clientFree,
        splitOn_free bindingFree, splitOn_free digits]
      rfl
    rw [parseState_words, cut]
    simp only [stateParts, readInt_toString, Option.map_some, String.ofList_toList]

/-! ## Answers -/

/-- Who started a login: the data feed of the administrator, or the terminal of a binding. -/
inductive Login where
  | feeder
  | terminal (clientId bindingId : String)
deriving DecidableEq

/-- What an answer is routed by. -/
structure Names where
  role : String
  clientId : String
  bindingId : String
deriving DecidableEq

/-- The entry that a login leaves in `_pending_auth`. -/
def Login.names (provider : String) : Login → Names
  | .feeder => ⟨"admin", "feeder", provider⟩
  | .terminal clientId bindingId => ⟨"client", clientId, bindingId⟩

/-- `_pending_auth`, by provider. -/
abbrev Pending := String → Option Names

def noPending : Pending := fun _ => none

inductive Outcome where
  | refused
  | byBrokerUser
  | noPending
  | routed (login : Login)
  | invalidState
deriving DecidableEq

/-- The names in a state, all empty if there is no state or it cannot be read. -/
def stateNames (state : String) : Names :=
  if state = "" then ⟨"", "", ""⟩
  else
    match parseState state with
    | none => ⟨"", "", ""⟩
    | some parsed => ⟨parsed.role, parsed.clientId, parsed.bindingId⟩

/-- The last branches of `_handle_oauth_callback`. -/
def destination (names : Names) : Outcome :=
  if names.role = "admin" then .routed .feeder
  else if names.role = "client" ∧ names.clientId ≠ "" ∧ names.bindingId ≠ "" then
    .routed (.terminal names.clientId names.bindingId)
  else .invalidState

/-- `_handle_oauth_callback`. An answer without a code goes nowhere. -/
def handleOauthCallback (pending : Pending) (provider : String) (code : Bool) (state : String) :
    Pending × Outcome :=
  if code = false then (pending, .refused)
  else if provider = "dhan" ∨ provider = "aliceblue" then (pending, .byBrokerUser)
  else if (stateNames state).role = "" ∧ provider = "zerodha" then
    match pending "zerodha" with
    | some names => (Function.update pending "zerodha" none, destination names)
    | none => (pending, .noPending)
  else (pending, destination (stateNames state))

inductive Event where
  | connect (provider : String) (login : Login)
  | callback (provider : String) (code : Bool) (state : String)
deriving DecidableEq

def step (pending : Pending) : Event → Pending
  | .connect provider login => Function.update pending provider (some (login.names provider))
  | .callback provider code state => (handleOauthCallback pending provider code state).1

/-- The routes give the binding two names, and both have to be there. -/
def Login.Named : Login → Prop
  | .feeder => True
  | .terminal clientId bindingId => clientId ≠ "" ∧ bindingId ≠ ""

theorem destination_names {login : Login} (named : login.Named) (provider : String) :
    destination (login.names provider) = .routed login := by
  cases login with
  | feeder => rfl
  | terminal clientId bindingId =>
    rw [destination, if_neg (by simp [Login.names])]
    exact if_pos ⟨rfl, named⟩

/-- An answer is routed to a login by the names that the login has. -/
theorem names_of_destination {names : Names} {clientId bindingId : String}
    (routed : destination names = .routed (.terminal clientId bindingId)) :
    names = ⟨"client", clientId, bindingId⟩ := by
  rw [destination] at routed
  split at routed
  case isTrue => cases routed
  case isFalse =>
    split at routed
    case isTrue client =>
      obtain ⟨rfl, rfl⟩ := Login.terminal.inj (Outcome.routed.inj routed)
      exact congrArg (fun role => Names.mk role names.clientId names.bindingId) client.1
    case isFalse => cases routed

/-- An empty state cannot be read either. -/
theorem stateNames_eq (state : String) :
    stateNames state =
      match parseState state with
      | none => ⟨"", "", ""⟩
      | some parsed => ⟨parsed.role, parsed.clientId, parsed.bindingId⟩ := by
  rw [stateNames]
  split
  case isTrue blank =>
    have unread : parseState "" = none := by decide +kernel
    rw [blank, unread]
  case isFalse => rfl

/-- Whatever other logins are under way, the answer to a terminal comes back to it exactly if
its two names have no bar in them. -/
theorem terminal_routed_iff {provider clientId bindingId : String}
    (withState : provider ≠ "dhan" ∧ provider ≠ "aliceblue" ∧ provider ≠ "zerodha")
    (named : (Login.terminal clientId bindingId).Named) (history : List Event) (now : Nat) :
    (handleOauthCallback (run step noPending history) provider true
        (buildState "client" clientId bindingId now)).2 = .routed (.terminal clientId bindingId) ↔
      '|' ∉ clientId.toList ∧ '|' ∉ bindingId.toList := by
  obtain ⟨notDhan, notAliceblue, notZerodha⟩ := withState
  have answer (pending : Pending) (state : String) :
      (handleOauthCallback pending provider true state).2 = destination (stateNames state) := by
    rw [handleOauthCallback, if_neg Bool.noConfusion, if_neg (by simp [notDhan, notAliceblue]),
      if_neg (by simp [notZerodha])]
  rw [answer, stateNames_eq]
  constructor
  · intro routed
    have names := names_of_destination routed
    split at names
    case h_1 => exact absurd (congrArg Names.role names) (by simp)
    case h_2 parsed read =>
      obtain ⟨-, client, binding⟩ := Names.mk.inj names
      obtain ⟨-, clientFree, bindingFree⟩ := names_free read
      exact ⟨client ▸ clientFree, binding ▸ bindingFree⟩
  · rintro ⟨clientFree, bindingFree⟩
    have read := (parseState_buildState_iff "client" clientId bindingId now).mpr
      ⟨by decide, clientFree, bindingFree⟩
    rw [read]
    exact destination_names named provider

/-- The answers to a binding with a bar in its name, and to one without. -/
theorem terminal_routed_bar :
    (handleOauthCallback (run step noPending []) "upstox" true
        (buildState "client" "asha" "main|old" 0)).2 ≠ .routed (.terminal "asha" "main|old") ∧
      (handleOauthCallback (run step noPending []) "upstox" true
        (buildState "client" "asha" "main" 0)).2 = .routed (.terminal "asha" "main") :=
  ⟨fun routed =>
      absurd ((terminal_routed_iff ⟨by decide, by decide, by decide⟩ ⟨by decide, by decide⟩ [] 0).mp
        routed).2 (by decide),
    (terminal_routed_iff ⟨by decide, by decide, by decide⟩ ⟨by decide, by decide⟩ [] 0).mpr
      ⟨by decide, by decide⟩⟩

/-! ## Answers without a state -/

/-- The login was started at Zerodha. -/
def started (login : Login) (event : Event) : Bool := decide (event = .connect "zerodha" login)

/-- The event replaces or takes the login that Zerodha's next answer is for. -/
def superseded : Event → Bool
  | .connect provider _ => decide (provider = "zerodha")
  | .callback provider code state =>
      decide (provider = "zerodha") && code && decide ((stateNames state).role = "")

theorem names_injective {provider : String} {first second : Login}
    (same : first.names provider = second.names provider) : first = second := by
  cases first <;> cases second <;> simp_all [Login.names]

/-- An answer takes the pending login of Zerodha, or leaves it alone. -/
theorem pending_callback (pending : Pending) (provider : String) (code : Bool) (state : String) :
    step pending (.callback provider code state) "zerodha" =
      if superseded (.callback provider code state) = true then none else pending "zerodha" := by
  rw [step, handleOauthCallback]
  split
  case isTrue refused => rw [refused, if_neg (by simp [superseded])]
  case isFalse answered =>
    split
    case isTrue byUser =>
      have other : provider ≠ "zerodha" := by
        rcases byUser with rfl | rfl <;> decide
      rw [if_neg (by simp [superseded, other])]
    case isFalse =>
      split
      case isTrue blank =>
        have taken : superseded (.callback provider code state) = true := by
          simp [superseded, blank, Bool.not_eq_false _ ▸ answered]
        rw [if_pos taken]
        split
        case h_1 => exact Function.update_self "zerodha" none pending
        case h_2 nothing => exact nothing
      case isFalse stated =>
        rw [if_neg]
        simp only [superseded, Bool.and_eq_true, decide_eq_true_eq]
        exact fun taken => stated ⟨taken.2, taken.1.1⟩

/-- What one event does to the pending login of Zerodha. -/
theorem step_pending (pending : Pending) (event : Event) (login : Login) :
    step pending event "zerodha" = some (login.names "zerodha") ↔
      started login event = true ∨
        (superseded event = false ∧ pending "zerodha" = some (login.names "zerodha")) := by
  cases event with
  | connect provider other =>
    by_cases same : provider = "zerodha"
    · subst same
      rw [step, Function.update_self, Option.some_inj]
      simp only [started, superseded, decide_eq_true_eq, decide_true, Bool.true_eq_false,
        false_and, or_false, Event.connect.injEq, true_and]
      exact ⟨names_injective, fun same => same ▸ rfl⟩
    · rw [step, Function.update_of_ne (Ne.symm same)]
      simp [started, superseded, same]
  | callback provider code state =>
    rw [pending_callback]
    cases superseded (.callback provider code state) <;> simp [started]

/-- The pending login of Zerodha is the one that was started last, unless it has been taken. -/
theorem pending_iff (history : List Event) (login : Login) :
    run step noPending history "zerodha" = some (login.names "zerodha") ↔
      Since (started login) superseded history := by
  induction history using List.reverseRecOn with
  | nil =>
    rw [run_nil]
    exact iff_of_false nofun (not_since_nil _ _)
  | append_singleton history event inductionHypothesis =>
    rw [since_concat, ← inductionHypothesis, run_append]
    exact step_pending _ event login

/-- What is pending was left by a login. -/
theorem pending_login (history : List Event) {names : Names}
    (waiting : run step noPending history "zerodha" = some names) :
    ∃ login : Login, names = login.names "zerodha" := by
  induction history using List.reverseRecOn with
  | nil => cases waiting
  | append_singleton history event inductionHypothesis =>
    rw [run_append, run_cons, run_nil] at waiting
    cases event with
    | connect provider login =>
      by_cases same : provider = "zerodha"
      · subst same
        rw [step, Function.update_self] at waiting
        exact ⟨login, (Option.some.inj waiting).symm⟩
      · rw [step, Function.update_of_ne (Ne.symm same)] at waiting
        exact inductionHypothesis waiting
    | callback provider code state =>
      rw [pending_callback] at waiting
      split at waiting
      case isTrue => cases waiting
      case isFalse => exact inductionHypothesis waiting

theorem login_of_destination {provider : String} {waiting login : Login}
    (routed : destination (waiting.names provider) = .routed login) : waiting = login := by
  cases login with
  | feeder =>
    cases waiting with
    | feeder => rfl
    | terminal clientId bindingId =>
      rw [destination, if_neg (by simp [Login.names])] at routed
      split at routed <;> cases routed
  | terminal clientId bindingId =>
    exact @names_injective provider _ _ (names_of_destination routed)

/-- Zerodha's answer goes to a login exactly if, since this was started, no other login at Zerodha
has been started and no answer without a state has come from there. -/
theorem zerodha_routed_iff {login : Login} (named : login.Named) {state : String}
    (blank : (stateNames state).role = "") (history : List Event) :
    (handleOauthCallback (run step noPending history) "zerodha" true state).2 = .routed login ↔
      Since (started login) superseded history := by
  rw [← pending_iff, handleOauthCallback, if_neg Bool.noConfusion, if_neg (by decide),
    if_pos ⟨blank, rfl⟩]
  cases waiting : run step noPending history "zerodha" with
  | none => exact iff_of_false nofun nofun
  | some names =>
    obtain ⟨other, rfl⟩ := pending_login history waiting
    rw [Option.some_inj]
    constructor
    · intro routed
      rw [login_of_destination routed]
    · intro same
      rw [names_injective same]
      exact destination_names named "zerodha"

/-- Of two customers at Zerodha's login page at once, whoever answers first is taken for the one
who came last. -/
theorem zerodha_routed_crossed :
    ((Login.terminal "ravi" "main").Named ∧ (stateNames "").role = "") ∧
      (handleOauthCallback
        (run step noPending
          [.connect "zerodha" (.terminal "asha" "main"),
            .connect "zerodha" (.terminal "ravi" "main")])
        "zerodha" true "").2 = .routed (.terminal "ravi" "main") := by
  have named : (Login.terminal "ravi" "main").Named := ⟨by decide, by decide⟩
  exact ⟨⟨named, rfl⟩, (zerodha_routed_iff named rfl _).mpr (by decide +kernel)⟩

end OptionChain.OAuthCallbacks
