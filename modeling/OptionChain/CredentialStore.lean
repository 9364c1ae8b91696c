import Mathlib.Data.List.GetD
import OptionChain.Base64
import OptionChain.BookManagers
import OptionChain.KeyedTables

/-!
# The credentials of the bindings

`ClientDB` keeps the credentials of a binding, and those of a feeder, in columns that are
obfuscated: the bytes of the text are masked with a key and written in base64. A statement
that comes without one of them leaves the one that is stored.

`bindings_remembered` says that this is a store of plain text. A binding is returned if it was
given since it was last deleted, and each of its credentials is the last one that was given
since. `unmasked_iff` says what a credential is worth under another key.
-/

namespace OptionChain.CredentialStore

open KeyedTables Runs

/-! ## Obfuscation -/

/-- `_CIPHER_KEY`, a digest. -/
structure CipherKey where
  bytes : List UInt8
  size : bytes.length = 32

section Obfuscation

variable (key : CipherKey)

/-- The key, repeated to a length. -/
def keyFor (length : Nat) : List UInt8 :=
  (List.replicate (length / key.bytes.length + 1) key.bytes).flatten.take length

def mask (bytes : List UInt8) : List UInt8 :=
  List.zipWith (· ^^^ ·) bytes (keyFor key bytes.length)

def utf8 (text : String) : List UInt8 := text.toUTF8.data.toList

def ofUtf8 (bytes : List UInt8) : Option String := String.fromUTF8? ⟨bytes.toArray⟩

/-- `_encode_cred`. -/
def encodeCred (plaintext : String) : String :=
  if plaintext = "" then "" else String.ofList (Base64.encode (mask key (utf8 plaintext)))

/-- `_decode_cred`. -/
def decodeCred (encoded : String) : String :=
  if encoded = "" then ""
  else
    match Base64.decode encoded.toList with
    | none => ""
    | some bytes => (ofUtf8 (mask key bytes)).getD ""

/-- The byte of the key that masks the byte at an index. -/
def CipherKey.byteAt (index : Nat) : UInt8 := key.bytes.getD (index % 32) 0

theorem repeated_get (count : Nat) {index : Nat} (inside : index < count * 32) :
    (List.replicate count key.bytes).flatten.getD index 0 = key.byteAt index := by
  induction count generalizing index with
  | zero => omega
  | succ count inductionHypothesis =>
    rw [List.replicate_succ, List.flatten_cons]
    by_cases early : index < 32
    · rw [List.getD_append _ _ _ _ (key.size ▸ early), CipherKey.byteAt, Nat.mod_eq_of_lt early]
    · rw [List.getD_append_right _ _ _ _ (by rw [key.size]; omega), key.size,
        inductionHypothesis (by omega), CipherKey.byteAt, CipherKey.byteAt,
        ← Nat.mod_eq_sub_mod (by omega)]

theorem length_repeated (count : Nat) :
    (List.replicate count key.bytes).flatten.length = count * 32 := by
  simp [List.length_flatten, key.size]

theorem length_keyFor (length : Nat) : (keyFor key length).length = length := by
  rw [keyFor, List.length_take, length_repeated, key.size]
  omega

theorem keyFor_get {length index : Nat} (inside : index < length) :
    (keyFor key length).getD index 0 = key.byteAt index := by
  rw [keyFor, List.getD_eq_getElem?_getD, List.getElem?_take_of_lt inside,
    ← List.getD_eq_getElem?_getD, repeated_get]
  rw [key.size]
  omega

theorem length_mask (bytes : List UInt8) : (mask key bytes).length = bytes.length := by
  rw [mask, List.length_zipWith, length_keyFor, min_self]

theorem mask_get (bytes : List UInt8) {index : Nat} (inside : index < bytes.length) :
    (mask key bytes).getD index 0 = bytes.getD index 0 ^^^ key.byteAt index := by
  rw [← keyFor_get key inside, List.getD_eq_getElem _ _ (by rwa [length_mask]),
    List.getD_eq_getElem _ _ inside, List.getD_eq_getElem _ _ (by rwa [length_keyFor])]
  exact List.getElem_zipWith

/-- Masking with one key and then with another leaves the bytes on which they agree. -/
theorem mask_mask_iff (other : CipherKey) (bytes : List UInt8) :
    mask other (mask key bytes) = bytes ↔
      ∀ index < bytes.length, key.byteAt index = other.byteAt index := by
  have twice : ∀ index < bytes.length, (mask other (mask key bytes)).getD index 0 =
      bytes.getD index 0 ^^^ key.byteAt index ^^^ other.byteAt index := fun index inside => by
    rw [mask_get other _ (by rwa [length_mask]), mask_get key bytes inside]
  have cancels : ∀ byte one two : UInt8, byte ^^^ one ^^^ two = byte ↔ one = two := by
    intro byte one two
    rw [UInt8.xor_assoc]
    constructor
    · intro same
      have : one ^^^ two = 0 := by
        have shifted := congrArg (byte ^^^ ·) same
        simpa [← UInt8.xor_assoc] using shifted
      have shifted := congrArg (one ^^^ ·) this
      simpa [← UInt8.xor_assoc] using shifted.symm
    · rintro rfl
      simp
  constructor
  · intro same index inside
    rw [← cancels (bytes.getD index 0), ← twice index inside, same]
  · intro agree
    refine List.ext_getElem (by rw [length_mask, length_mask]) fun index masked inside => ?_
    have here := (cancels (bytes.getD index 0) _ _).mpr (agree index inside)
    rwa [← twice index inside, List.getD_eq_getElem _ _ masked,
      List.getD_eq_getElem _ _ inside] at here

theorem ofUtf8_utf8 (text : String) : ofUtf8 (utf8 text) = some text := by
  have back : (⟨(utf8 text).toArray⟩ : ByteArray) = text.toByteArray := by
    rw [utf8, Array.toArray_toList]
    rfl
  rw [ofUtf8, back, String.fromUTF8?, dif_pos text.isValidUTF8]
  rfl

theorem utf8_of_ofUtf8 {bytes : List UInt8} {text : String} (read : ofUtf8 bytes = some text) :
    utf8 text = bytes := by
  rw [ofUtf8, String.fromUTF8?] at read
  split at read
  · obtain rfl := Option.some.inj read
    exact List.toList_toArray
  · cases read

theorem utf8_eq_nil_iff {text : String} : utf8 text = [] ↔ text = "" := by
  constructor
  · intro empty
    have read := ofUtf8_utf8 text
    rw [empty] at read
    exact (Option.some.inj read).symm
  · rintro rfl
    rfl

theorem encodeCred_eq_empty_iff {plaintext : String} :
    encodeCred key plaintext = "" ↔ plaintext = "" := by
  rw [encodeCred]
  split
  case isTrue empty => simp [empty]
  case isFalse given =>
    simp only [given, iff_false]
    intro empty
    have nothing : Base64.encode (mask key (utf8 plaintext)) = [] := by
      have chars := congrArg String.toList empty
      rwa [String.toList_ofList] at chars
    have bytes := Base64.encode_eq_nil_iff.mp nothing
    have length := length_mask key (utf8 plaintext)
    rw [bytes, List.length_nil] at length
    exact given (utf8_eq_nil_iff.mp (List.length_eq_zero_iff.mp length.symm))

/-- What is read of a stored credential is what the two masks make of its bytes. -/
theorem decodeCred_iff (other : CipherKey) (plaintext : String) :
    decodeCred other (encodeCred key plaintext) = plaintext ↔
      mask other (mask key (utf8 plaintext)) = utf8 plaintext := by
  by_cases empty : plaintext = ""
  · subst empty
    simp [encodeCred, decodeCred, utf8, mask]
  · have stored : encodeCred key plaintext ≠ "" := fun blank =>
      empty ((encodeCred_eq_empty_iff key).mp blank)
    rw [decodeCred, if_neg stored, encodeCred, if_neg empty, String.toList_ofList,
      Base64.decode_encode]
    simp only
    constructor
    · intro read
      cases masked : ofUtf8 (mask other (mask key (utf8 plaintext))) with
      | none =>
        rw [masked] at read
        exact absurd read.symm empty
      | some text =>
        rw [masked] at read
        obtain rfl : text = plaintext := read
        exact (utf8_of_ofUtf8 masked).symm
    · intro same
      rw [same, ofUtf8_utf8]
      rfl

theorem decodeCred_encodeCred (plaintext : String) :
    decodeCred key (encodeCred key plaintext) = plaintext :=
  (decodeCred_iff key key plaintext).mpr ((mask_mask_iff key key _).mpr fun _ _ => rfl)

/-- A credential is read under another key exactly if that agrees with the first one on the
bytes that the credential takes. -/
theorem unmasked_iff (other : CipherKey) (plaintext : String) :
    decodeCred other (encodeCred key plaintext) = plaintext ↔
      ∀ index < (utf8 plaintext).length, key.byteAt index = other.byteAt index := by
  rw [decodeCred_iff, mask_mask_iff]

/-- A key of zeros leaves the text as it is in base64. -/
def zeroKey : CipherKey := ⟨List.replicate 32 0, List.length_replicate⟩

example : encodeCred zeroKey "secret" = "c2VjcmV0" := by decide +kernel

end Obfuscation

/-! ## The tables -/

/-- The obfuscated columns of `broker_bindings`. -/
inductive Secret where
  | userId
  | apiKey
  | apiSecret
  | password
  | totpSecret
deriving DecidableEq

/-- A row of `broker_bindings`, or with its credentials decoded what is returned of it. -/
structure Binding where
  clientId : String
  bindingId : String
  provider : String
  label : String
  secrets : Secret → String
  accessToken : String
  tokenGeneratedAt : String := ""
  tokenExpiryAt : String := ""
  lotMultiplier : Rat
  tradingMode : String
  productType : String
  assignedStrategy : String
  assignedInstrument : String
  sourceIp : String
  whitelistIp : String := ""
  createdAt : String

def Binding.key (row : Binding) : String × String := (row.clientId, row.bindingId)

/-- The arguments of `upsert_binding`. -/
structure BindingForm where
  clientId : String
  bindingId : String
  provider : String
  label : String := ""
  secrets : Secret → String := fun _ => ""
  accessToken : String := ""
  lotMultiplier : Rat := 1
  tradingMode : String := "paper"
  productType : String := "MIS"
  assignedStrategy : String := ""
  assignedInstrument : String := "NIFTY"
  sourceIp : String := ""

/-- The obfuscated columns of `system_feeder_creds`. -/
inductive FeederSecret where
  | clientId
  | apiKey
  | secret
deriving DecidableEq

structure Feeder where
  provider : String
  secrets : FeederSecret → String
  accessToken : String := ""
  tokenGeneratedAt : String := ""
  tokenExpiryAt : String := ""
  updatedAt : String

inductive Event where
  | upsertBinding (form : BindingForm) (now : String)
  | setAssignedStrategy (clientId bindingId strategy : String)
  | updateAccessToken (clientId bindingId token generatedAt expiryAt now : String)
  | setBindingIps (clientId bindingId sourceIp whitelistIp : String)
  | deleteBinding (clientId bindingId : String)
  | upsertFeederCreds (provider : String) (secrets : FeederSecret → String) (now : String)
  | updateFeederToken (provider token generatedAt expiryAt now : String)

structure Db where
  bindings : List Binding
  feeders : List Feeder

/-- `CASE WHEN excluded.c != '' THEN excluded.c ELSE c END`. -/
def keep (given held : String) : String := if given ≠ "" then given else held

section Store

variable (key : CipherKey)

/-- The row of `INSERT … VALUES`. -/
def insertedBinding (form : BindingForm) (now : String) : Binding :=
  { clientId := form.clientId
    bindingId := form.bindingId
    provider := form.provider
    label := form.label
    secrets := fun column => encodeCred key (form.secrets column)
    accessToken := form.accessToken
    lotMultiplier := form.lotMultiplier
    tradingMode := form.tradingMode
    productType := form.productType
    assignedStrategy := form.assignedStrategy
    assignedInstrument := form.assignedInstrument
    sourceIp := form.sourceIp
    createdAt := now }

/-- `ON CONFLICT DO UPDATE` of `upsert_binding`. -/
def mergedBinding (form : BindingForm) (held : Binding) : Binding :=
  { held with
    provider := form.provider
    label := form.label
    secrets := fun column => keep (encodeCred key (form.secrets column)) (held.secrets column)
    accessToken := keep form.accessToken held.accessToken
    lotMultiplier := form.lotMultiplier
    tradingMode := form.tradingMode
    productType := form.productType
    sourceIp := keep form.sourceIp held.sourceIp
    assignedStrategy := keep form.assignedStrategy held.assignedStrategy
    assignedInstrument := keep form.assignedInstrument held.assignedInstrument }

def insertedFeeder (provider : String) (secrets : FeederSecret → String) (now : String) : Feeder :=
  { provider := provider
    secrets := fun column => encodeCred key (secrets column)
    updatedAt := now }

def mergedFeeder (secrets : FeederSecret → String) (now : String) (held : Feeder) : Feeder :=
  { held with
    secrets := fun column => keep (encodeCred key (secrets column)) (held.secrets column)
    updatedAt := now }

/-- The statement of an event about `broker_bindings`. -/
def Event.onBindings : Event → List (Statement Binding.key)
  | .upsertBinding form now =>
      [.upsert (insertedBinding key form now) ⟨mergedBinding key form, fun _ => rfl⟩]
  | .setAssignedStrategy clientId bindingId strategy =>
      [.update (clientId, bindingId)
        ⟨fun held => { held with assignedStrategy := strategy }, fun _ => rfl⟩]
  | .updateAccessToken clientId bindingId token generatedAt expiryAt now =>
      [.update (clientId, bindingId)
        ⟨fun held =>
          { held with
            accessToken := token
            tokenGeneratedAt := if generatedAt = "" then now else generatedAt
            tokenExpiryAt := expiryAt }, fun _ => rfl⟩]
  | .setBindingIps clientId bindingId sourceIp whitelistIp =>
      [.update (clientId, bindingId)
        ⟨fun held =>
          { held with
            sourceIp := BookManagers.strip sourceIp
            whitelistIp := BookManagers.strip whitelistIp }, fun _ => rfl⟩]
  | .deleteBinding clientId bindingId => [.delete (clientId, bindingId)]
  | _ => []

/-- The statement of an event about `system_feeder_creds`. -/
def Event.onFeeders : Event → List (Statement Feeder.provider)
  | .upsertFeederCreds provider secrets now =>
      [.upsert (insertedFeeder key provider secrets now)
        ⟨mergedFeeder key secrets now, fun _ => rfl⟩]
  | .updateFeederToken provider token generatedAt expiryAt now =>
      [.update provider
        ⟨fun held =>
          { held with
            accessToken := token
            tokenGeneratedAt := if generatedAt = "" then now else generatedAt
            tokenExpiryAt := expiryAt
            updatedAt := now }, fun _ => rfl⟩]
  | _ => []

def step (db : Db) (event : Event) : Db :=
  { bindings := run (KeyedTables.step Binding.key) db.bindings (event.onBindings key)
    feeders := run (KeyedTables.step Feeder.provider) db.feeders (event.onFeeders key) }

def start : Db := ⟨[], []⟩

def Binding.decoded (row : Binding) : Binding :=
  { row with secrets := fun column => decodeCred key (row.secrets column) }

def Feeder.decoded (row : Feeder) : Feeder :=
  { row with secrets := fun column => decodeCred key (row.secrets column) }

/-- `get_bindings_sync`. -/
def getBindingsSync (db : Db) (clientId : String) : List Binding :=
  ((db.bindings.filter fun row => row.clientId = clientId).mergeSort fun one other =>
    decide (one.createdAt ≤ other.createdAt)).map (Binding.decoded key)

/-- `get_feeder_creds_sync`. -/
def getFeederCredsSync (db : Db) (provider : String) : Option Feeder :=
  (find Feeder.provider provider db.feeders).map (Feeder.decoded key)

/-- Whose credentials have been found. -/
inductive Scope where
  | feeder
  | binding
deriving DecidableEq

structure Found where
  scope : Scope
  clientId : String
  bindingId : String
  apiKey : String
  apiSecret : String
deriving DecidableEq

/-- `find_by_broker_user_id_sync`. -/
def findByBrokerUserIdSync (db : Db) (provider brokerUserId : String) : Option Found :=
  let p := provider.toLower
  let known := fun stored : String => decide (stored ≠ "") && decide (stored = brokerUserId)
  match (getFeederCredsSync key db p).filter fun row => known (row.secrets .clientId) with
  | some row => some ⟨.feeder, "feeder", p, row.secrets .apiKey, row.secrets .secret⟩
  | none =>
      (((db.bindings.filter fun row => row.provider = p).map (Binding.decoded key)).find? fun row =>
        known (row.secrets .userId)).map fun row =>
          ⟨.binding, row.clientId, row.bindingId, row.secrets .apiKey, row.secrets .apiSecret⟩

end Store

/-! ## What the tables remember -/

section Memory

variable (key : CipherKey)

/-- An event as a binding sees it. -/
def bindingTouch (target : String × String) : Event → Touch Secret String
  | .upsertBinding form _ =>
      if (form.clientId, form.bindingId) = target then .give form.secrets else .pass
  | .deleteBinding clientId bindingId => if (clientId, bindingId) = target then .drop else .pass
  | _ => .pass

/-- An event as a feeder sees it. -/
def feederTouch (target : String) : Event → Touch FeederSecret String
  | .upsertFeederCreds provider secrets _ => if provider = target then .give secrets else .pass
  | _ => .pass

theorem decodeCred_keep (given held : String) :
    decodeCred key (keep (encodeCred key given) held) =
      if given ≠ "" then given else decodeCred key held := by
  rw [keep]
  by_cases blank : given = ""
  · rw [if_neg (not_not.mpr ((encodeCred_eq_empty_iff key).mpr blank)), if_neg (not_not.mpr blank)]
  · rw [if_pos fun empty => blank ((encodeCred_eq_empty_iff key).mp empty), if_pos blank,
      decodeCred_encodeCred]

/-- The decoded columns of a row that is given are the given ones, or those that it had. -/
theorem given_secrets {ι ρ : Type} (columns : ρ → ι → String) (given : ι → String) (merge : ρ → ρ)
    (inserted : ρ) (merges : ∀ row, columns (merge row) =
      fun column => keep (encodeCred key (given column)) (columns row column))
    (inserts : columns inserted = fun column => encodeCred key (given column)) (held : Option ρ) :
    (fun column => decodeCred key (columns ((held.map merge).getD inserted) column)) =
      fun column => if given column ≠ "" then given column
        else ((held.map fun row column => decodeCred key (columns row column)).map
          fun decoded => decoded column).getD "" := by
  funext column
  cases held with
  | none =>
    simp only [Option.map_none, Option.getD_none, inserts, decodeCred_encodeCred]
    split
    · rfl
    · exact not_not.mp ‹_›
  | some row =>
    simp only [Option.map_some, Option.getD_some, merges]
    exact decodeCred_keep key _ _

def bindingSecrets (target : String × String) (db : Db) : Option (Secret → String) :=
  (find Binding.key target db.bindings).map fun row => (row.decoded key).secrets

theorem bindingSecrets_step (target : String × String) (db : Db) (event : Event) :
    bindingSecrets key target (step key db event) =
      kept "" (bindingSecrets key target db) (bindingTouch target event) := by
  have other : ∀ (place : String × String) (change : Change Binding.key),
      (∀ row, (change.apply row).secrets = row.secrets) →
      bindingSecrets key target
        { db with bindings := KeyedTables.step Binding.key db.bindings (.update place change) } =
          bindingSecrets key target db := by
    intro place change keeps
    rw [bindingSecrets, find_step, effect, bindingSecrets]
    split
    · rw [Option.map_map]
      congr 1
      funext row
      simp only [Function.comp_apply, Binding.decoded, keeps]
    · rfl
  cases event with
  | upsertBinding form now =>
    simp only [bindingSecrets, step, Event.onBindings, run_cons, run_nil, find_step, effect,
      bindingTouch]
    have named : Binding.key (insertedBinding key form now) = (form.clientId, form.bindingId) := rfl
    rw [named]
    split
    case isTrue =>
      rw [kept, Option.map_some]
      exact congrArg some (given_secrets key Binding.secrets form.secrets
        (mergedBinding key form) _ (fun _ => rfl) rfl _)
    case isFalse => rfl
  | setAssignedStrategy clientId bindingId strategy => exact other _ _ fun _ => rfl
  | updateAccessToken clientId bindingId token generatedAt expiryAt now =>
    exact other _ _ fun _ => rfl
  | setBindingIps clientId bindingId sourceIp whitelistIp => exact other _ _ fun _ => rfl
  | deleteBinding clientId bindingId =>
    simp only [bindingSecrets, step, Event.onBindings, run_cons, run_nil, find_step, effect,
      bindingTouch]
    split <;> rfl
  | upsertFeederCreds provider secrets now => rfl
  | updateFeederToken provider token generatedAt expiryAt now => rfl

def feederSecrets (target : String) (db : Db) : Option (FeederSecret → String) :=
  (find Feeder.provider target db.feeders).map fun row => (row.decoded key).secrets

theorem feederSecrets_step (target : String) (db : Db) (event : Event) :
    feederSecrets key target (step key db event) =
      kept "" (feederSecrets key target db) (feederTouch target event) := by
  cases event with
  | upsertFeederCreds provider secrets now =>
    simp only [feederSecrets, step, Event.onFeeders, run_cons, run_nil, find_step, effect,
      feederTouch]
    have named : Feeder.provider (insertedFeeder key provider secrets now) = provider := rfl
    rw [named]
    split
    case isTrue =>
      rw [kept, Option.map_some]
      exact congrArg some (given_secrets key Feeder.secrets secrets
        (mergedFeeder key secrets now) _ (fun _ => rfl) rfl _)
    case isFalse => rfl
  | updateFeederToken provider token generatedAt expiryAt now =>
    simp only [feederSecrets, step, Event.onFeeders, run_cons, run_nil, find_step, effect,
      feederTouch, kept]
    split
    · rw [Option.map_map]
      rfl
    · rfl
  | _ => rfl

theorem bindingSecrets_run (target : String × String) (events : List Event) :
    bindingSecrets key target (run (step key) start events) =
      remembered "" (events.map (bindingTouch target)) := by
  rw [← kept_run]
  have seen := @run_part _ _ (step key) _
    (fun held event => kept "" held (bindingTouch target event)) (bindingSecrets key target)
    (bindingSecrets_step key target) start events
  rw [seen, run, run, List.foldl_map]
  rfl

theorem feederSecrets_run (target : String) (events : List Event) :
    feederSecrets key target (run (step key) start events) =
      remembered "" (events.map (feederTouch target)) := by
  rw [← kept_run]
  have seen := @run_part _ _ (step key) _
    (fun held event => kept "" held (feederTouch target event)) (feederSecrets key target)
    (feederSecrets_step key target) start events
  rw [seen, run, run, List.foldl_map]
  rfl

theorem bindings_distinct (events : List Event) :
    ((run (step key) start events).bindings.map Binding.key).Nodup := by
  induction events using List.reverseRecOn with
  | nil => exact List.nodup_nil
  | append_singleton events event inductionHypothesis =>
    rw [run_append, run_cons, run_nil]
    exact nodup_run inductionHypothesis _

/-- A client gets each binding that was given since it was last deleted, once, and with each
credential as it was last given since. -/
theorem bindings_remembered (events : List Event) (clientId bindingId : String) :
    ((getBindingsSync key (run (step key) start events) clientId).filter fun row =>
        row.bindingId = bindingId).map Binding.secrets =
      (remembered "" (events.map (bindingTouch (clientId, bindingId)))).toList := by
  have distinct := bindings_distinct key events
  have rows := @filter_key _ _ _ _ _ (clientId, bindingId) distinct
  rw [← bindingSecrets_run key, bindingSecrets, getBindingsSync]
  generalize (run (step key) start events).bindings = table at distinct rows ⊢
  have sorted := ((table.filter fun row => row.clientId = clientId).mergeSort_perm fun one other =>
    decide (one.createdAt ≤ other.createdAt)).filter fun row => row.bindingId = bindingId
  have same : ((table.filter fun row => row.clientId = clientId).filter fun row =>
      row.bindingId = bindingId) = (find Binding.key (clientId, bindingId) table).toList := by
    rw [← rows, List.filter_filter]
    refine List.filter_congr fun row _ => ?_
    rw [Binding.key, ← Bool.decide_and]
    exact decide_eq_decide.mpr ⟨fun both => Prod.ext both.2 both.1, fun pair =>
      ⟨(Prod.ext_iff.mp pair).2, (Prod.ext_iff.mp pair).1⟩⟩
  rw [same] at sorted
  rw [List.filter_map, List.map_map]
  cases held : find Binding.key (clientId, bindingId) table with
  | none =>
    rw [held] at sorted
    exact congrArg (List.map _) sorted.eq_nil
  | some row =>
    rw [held] at sorted
    exact congrArg (List.map _) (List.perm_singleton.mp sorted)

/-- What is remembered of a row of the table. -/
theorem row_remembered {events : List Event} {row : Binding}
    (listed : row ∈ (run (step key) start events).bindings) :
    remembered "" (events.map (bindingTouch row.key)) = some (row.decoded key).secrets := by
  rw [← bindingSecrets_run key, bindingSecrets,
    (mem_iff_find (bindings_distinct key events)).mp listed]
  rfl

theorem feeder_remembered (events : List Event) (provider : String) :
    (getFeederCredsSync key (run (step key) start events) provider).map Feeder.secrets =
      remembered "" (events.map (feederTouch provider)) := by
  rw [← feederSecrets_run key, feederSecrets, getFeederCredsSync, Option.map_map]
  rfl

/-- The user id of a feeder or of a binding, as it was last given. -/
def HasUserId (events : List Event) (p userId : String) : Found → Prop
  | ⟨.feeder, _, _, apiKey, apiSecret⟩ =>
      ∃ secrets, remembered "" (events.map (feederTouch p)) = some secrets ∧
        secrets .clientId = userId ∧ secrets .apiKey = apiKey ∧ secrets .secret = apiSecret
  | ⟨.binding, clientId, bindingId, apiKey, apiSecret⟩ =>
      ∃ secrets, remembered "" (events.map (bindingTouch (clientId, bindingId))) = some secrets ∧
        secrets .userId = userId ∧ secrets .apiKey = apiKey ∧ secrets .apiSecret = apiSecret

/-- A callback of a broker finds somebody exactly if its user id was last given to the feeder or
to a binding of that provider, and it finds the credentials that were last given with it. -/
theorem found_exact (events : List Event) (provider userId : String) :
    (∀ found, findByBrokerUserIdSync key (run (step key) start events) provider userId =
        some found → userId ≠ "" ∧ HasUserId events provider.toLower userId found) ∧
      ((findByBrokerUserIdSync key (run (step key) start events) provider userId).isSome ↔
        userId ≠ "" ∧
          ((∃ secrets, remembered "" (events.map (feederTouch provider.toLower)) = some secrets ∧
              secrets .clientId = userId) ∨
            ∃ row ∈ (run (step key) start events).bindings, row.provider = provider.toLower ∧
              ∃ secrets, remembered "" (events.map (bindingTouch row.key)) = some secrets ∧
                secrets .userId = userId)) := by
  have known : ∀ stored, (decide (stored ≠ "") && decide (stored = userId)) = true ↔
      userId ≠ "" ∧ stored = userId := by
    intro stored
    rw [Bool.and_eq_true, decide_eq_true_iff, decide_eq_true_iff]
    constructor
    · rintro ⟨given, rfl⟩
      exact ⟨given, rfl⟩
    · rintro ⟨given, rfl⟩
      exact ⟨given, rfl⟩
  have feeders := feeder_remembered key events provider.toLower
  have rows := fun row => @row_remembered key events row
  generalize (run (step key) start events) = db at feeders rows ⊢
  rw [← feeders, findByBrokerUserIdSync]
  simp only
  generalize feeder_found : getFeederCredsSync key db provider.toLower = feeder at feeders ⊢
  cases owner : feeder.filter fun row =>
      decide (row.secrets .clientId ≠ "") && decide (row.secrets .clientId = userId) with
  | some row =>
    obtain ⟨here, holds⟩ := Option.filter_eq_some_iff.mp owner
    obtain ⟨given, same⟩ := (known _).mp holds
    subst here
    constructor
    · rintro found ⟨⟩
      exact ⟨given, row.secrets, feeders.symm, same, rfl, rfl⟩
    · exact ⟨fun _ => ⟨given, .inl ⟨row.secrets, rfl, same⟩⟩, fun _ => rfl⟩
  | none =>
    have unfed : ∀ secrets, feeder.map Feeder.secrets = some secrets →
        ¬(userId ≠ "" ∧ secrets .clientId = userId) := by
      intro secrets held both
      obtain ⟨row, rfl, rfl⟩ := Option.map_eq_some_iff.mp held
      rw [Option.filter_some, if_pos ((known _).mpr both)] at owner
      cases owner
    constructor
    · intro found matched
      obtain ⟨row, first, rfl⟩ := Option.map_eq_some_iff.mp matched
      have holds := List.find?_some first
      obtain ⟨given, same⟩ := (known _).mp holds
      obtain ⟨stored, listed, rfl⟩ := List.mem_map.mp (List.mem_of_find?_eq_some first)
      exact ⟨given, _, rows stored (List.mem_filter.mp listed).1, same, rfl, rfl⟩
    · rw [Option.isSome_map, List.find?_isSome]
      constructor
      · rintro ⟨row, listed, holds⟩
        obtain ⟨given, same⟩ := (known _).mp holds
        obtain ⟨stored, member, rfl⟩ := List.mem_map.mp listed
        obtain ⟨inside, named⟩ := List.mem_filter.mp member
        exact ⟨given, .inr ⟨stored, inside, of_decide_eq_true named, _, rows stored inside, same⟩⟩
      · rintro ⟨given, ⟨secrets, held, same⟩ | ⟨stored, inside, named, secrets, held, same⟩⟩
        · exact absurd ⟨given, same⟩ (unfed secrets held)
        · rw [rows stored inside] at held
          obtain rfl := Option.some.inj held
          exact ⟨stored.decoded key, List.mem_map_of_mem (List.mem_filter.mpr
            ⟨inside, decide_eq_true named⟩), (known _).mpr ⟨given, same⟩⟩

end Memory

end OptionChain.CredentialStore
