import OptionChain.BookManagers
import OptionChain.CredentialStore

/-!
# Accounts of the dashboard

The dashboard knows an administrator and clients. They log in with a password and get a session
token, which says who they are and until when. A client registers itself; a password is changed
by whoever knows it, or by whoever holds a reset token. Handlers check first and then wait for
one write to the database, so the writes of several requests come in any order.

`change-password` and `reset-token` of the administrator call the check of the session without
awaiting it, so nothing is checked there.
-/

namespace OptionChain.Accounts

open BookManagers CredentialStore Runs

/-! ## Passwords -/

/-- What `hashlib` computes: the derived key of a password and a salt, and a digest. -/
structure Hashes where
  pbkdf2 : List UInt8 → List UInt8 → List UInt8
  sha256 : List UInt8 → List UInt8

def hexDigits (byte : UInt8) : List Char :=
  [Nat.digitChar (byte.toNat / 16), Nat.digitChar (byte.toNat % 16)]

/-- `bytes.hex`. -/
def hex (bytes : List UInt8) : String := String.ofList (bytes.flatMap hexDigits)

section Passwords

variable (hashes : Hashes)

/-- `hash_password`, with the salt that is drawn. -/
def hashPassword (salt : List UInt8) (password : String) : String :=
  hex salt ++ ":" ++ hex (hashes.pbkdf2 (utf8 password) (utf8 (hex salt)))

/-- `verify_password`. A text without a colon is no hash. -/
def verifyPassword (password stored : String) : Bool :=
  match stored.toList.dropWhile (· ≠ ':') with
  | [] => false
  | _ :: rest =>
      let salt := String.ofList (stored.toList.takeWhile (· ≠ ':'))
      hex (hashes.pbkdf2 (utf8 password) (utf8 salt)) == String.ofList rest

theorem hexDigits_spec (byte : UInt8) : ':' ∉ hexDigits byte := by
  have all : ∀ digit < 16, Nat.digitChar digit ≠ ':' := by decide
  have small := Base64.byte_small byte
  have high := all (byte.toNat / 16) (by omega)
  have low := all (byte.toNat % 16) (by omega)
  simp [hexDigits, high.symm, low.symm]

theorem hexDigits_inj {one other : UInt8} (same : hexDigits one = hexDigits other) :
    one = other := by
  have all : ∀ digit < 16, ∀ second < 16, Nat.digitChar digit = Nat.digitChar second →
      digit = second := by decide
  have small := Base64.byte_small one
  have others := Base64.byte_small other
  simp only [hexDigits, List.cons.injEq, and_true] at same
  have high := all (one.toNat / 16) (by omega) (other.toNat / 16) (by omega) same.1
  have low := all (one.toNat % 16) (by omega) (other.toNat % 16) (by omega) same.2
  exact UInt8.toNat_inj.mp (by omega)

theorem hex_inj {bytes others : List UInt8} (same : hex bytes = hex others) : bytes = others := by
  have digits : bytes.flatMap hexDigits = others.flatMap hexDigits := by
    have texts := congrArg String.toList same
    rwa [hex, hex, String.toList_ofList, String.toList_ofList] at texts
  clear same
  induction bytes generalizing others with
  | nil =>
    cases others with
    | nil => rfl
    | cons other rest => simp [hexDigits] at digits
  | cons byte bytes inductionHypothesis =>
    cases others with
    | nil => simp [hexDigits] at digits
    | cons other rest =>
      rw [List.flatMap_cons, List.flatMap_cons] at digits
      obtain ⟨first, later⟩ := List.append_inj digits rfl
      rw [hexDigits_inj first, inductionHypothesis later]

/-- A password passes against the hash of another exactly if the derived keys agree. -/
theorem verifyPassword_iff (salt : List UInt8) (password other : String) :
    verifyPassword hashes password (hashPassword hashes salt other) = true ↔
      hashes.pbkdf2 (utf8 password) (utf8 (hex salt)) =
        hashes.pbkdf2 (utf8 other) (utf8 (hex salt)) := by
  have digits : ∀ char ∈ (hex salt).toList, decide (char ≠ ':') = true := by
    intro char member
    rw [hex, String.toList_ofList] at member
    obtain ⟨byte, -, here⟩ := List.mem_flatMap.mp member
    exact decide_eq_true fun colon => hexDigits_spec byte (colon ▸ here)
  have text : (hashPassword hashes salt other).toList =
      (hex salt).toList ++
        ':' :: (hex (hashes.pbkdf2 (utf8 other) (utf8 (hex salt)))).toList := by
    simp [hashPassword]
  rw [verifyPassword, text, List.dropWhile_append_of_pos digits,
    List.takeWhile_append_of_pos digits]
  simp only [ne_eq, not_true_eq_false, decide_false, Bool.false_eq_true, not_false_eq_true,
    List.dropWhile_cons_of_neg, List.takeWhile_cons_of_neg, List.append_nil, String.ofList_toList,
    beq_iff_eq]
  exact ⟨hex_inj, congrArg hex⟩

end Passwords

/-! ## The server -/

/-- What a session token says. -/
structure Claims where
  sub : String
  role : String
  clientId : String
  exp : Int
deriving DecidableEq

/-- A row of `clients`. -/
structure Account where
  clientId : String
  passwordHash : String
deriving DecidableEq

/-- A row of `system_settings`. -/
structure Setting where
  key : String
  value : String
deriving DecidableEq

/-- A row of `password_resets`. -/
structure Reset where
  tokenHash : String
  targetRole : String
  targetId : String
  expiresAt : Rat
  used : Bool
deriving DecidableEq

/-- What a handler waits for. -/
inductive Write where
  | registerClient (clientId passwordHash : String)
  | setClientPassword (clientId hashed : String)
  | setSetting (key value : String)
  | createResetToken (row : Reset)

inductive Reply where
  | token (claims : Claims)
  | resetToken (token : String)
  | ok
  | refused (status : Nat) (detail : String)
  | raised
deriving DecidableEq

/-- The tables, the clients that are registered and active, and the writes that are waited for,
each with the reply that comes when it is done. -/
structure Server where
  clients : List Account
  settings : List Setting
  resets : List Reset
  registry : List String
  pending : List (Write × Reply)

def boot : Server := ⟨[], [], [], [], []⟩

/-- `AuthConfig`. The variable of a PIN may be unset. -/
structure AuthConfig where
  adminUsername : String
  adminPassword : String
  pinVariable : String → Option String

/-- `client_pin`. -/
def AuthConfig.clientPin (config : AuthConfig) (clientId : String) : String :=
  (config.pinVariable clientId).getD clientId

/-- What a request has in its header. Only the server signs. -/
inductive Credentials where
  | missing
  | invalid (detail : String)
  | signed (claims : Claims)

/-- Requests, with what is drawn at random for them. -/
inductive Request where
  | register (clientId password : String) (salt : List UInt8)
  | login (role username password : String)
  | changeAdminPassword (current new : String) (salt : List UInt8)
  | setSystemSetting (key value : String)
  | generateResetToken (clientId token : String)
  | resetPassword (token new : String) (salt : List UInt8)

inductive Event where
  | request (now : Rat) (credentials : Credentials) (request : Request)
  | commit (index : Nat) (works : Bool)
  | registered (active : List String)

inductive Failure where
  | http (status : Nat) (detail : String)
  | raised
deriving DecidableEq

def Failure.reply : Failure → Reply
  | .http status detail => .refused status detail
  | .raised => .raised

/-- What a handler does: it replies, or it waits for a write. -/
inductive Answer where
  | reply (reply : Reply)
  | write (write : Write) (reply : Reply)

/-- `hmac.compare_digest` of two texts, which must be ASCII. -/
def compareDigest (one other : String) : Except Failure Bool :=
  if (one ++ other).toList.all fun char => char.toNat < 128 then .ok (one = other)
  else .error .raised

def adminKey : String := "admin_password_hash"

/-- Thirty days. -/
def ttl : Int := 30 * 24 * 3600

def createToken (now : Rat) (sub role clientId : String) : Claims :=
  ⟨sub, role, clientId, ⌊now⌋ + ttl⟩

/-- `_current_user`. -/
def currentUser (now : Rat) : Credentials → Except Failure Claims
  | .missing => .error (.http 401 "Authorization required.")
  | .invalid detail => .error (.http 401 detail)
  | .signed claims =>
      if claims.exp < now then .error (.http 401 "Token has expired.") else .ok claims

def requireAdmin (now : Rat) (credentials : Credentials) : Except Failure Claims :=
  match currentUser now credentials with
  | .error failure => .error failure
  | .ok user =>
      if user.role = "admin" then .ok user else .error (.http 403 "Admin access required.")

section Handlers

variable (hashes : Hashes) (config : AuthConfig)

def digest (token : String) : String := hex (hashes.sha256 (utf8 token))

namespace Server

variable (server : Server)

/-- `get_admin_password_hash_sync`. -/
def adminPasswordHash : String :=
  ((KeyedTables.find Setting.key adminKey server.settings).map Setting.value).getD ""

def account (clientId : String) : Option Account :=
  KeyedTables.find Account.clientId clientId server.clients

def verifyClientPassword (clientId password : String) : Bool :=
  match server.account clientId with
  | none => false
  | some row => verifyPassword hashes password row.passwordHash

/-- Whether a password is that of the administrator: by its hash, or without one by the
configuration. -/
def adminAccepts (password : String) : Except Failure Bool :=
  if server.adminPasswordHash ≠ "" then
    .ok (verifyPassword hashes password server.adminPasswordHash)
  else compareDigest password config.adminPassword

def loginAdmin (now : Rat) (username password : String) : Except Failure Claims :=
  match compareDigest username config.adminUsername with
  | .error failure => .error failure
  | .ok false => .error (.http 401 "Invalid admin credentials.")
  | .ok true =>
      match server.adminAccepts hashes config password with
      | .error failure => .error failure
      | .ok false => .error (.http 401 "Invalid admin credentials.")
      | .ok true => .ok (createToken now username "admin" "")

def loginClient (now : Rat) (username password : String) : Except Failure Claims :=
  let token := createToken now username "client" username
  if username ∈ server.registry then
    if server.verifyClientPassword hashes username password then .ok token
    else
      match compareDigest password (config.clientPin username) with
      | .error failure => .error failure
      | .ok false => .error (.http 401 "Invalid client credentials.")
      | .ok true => .ok token
  else if (server.account username).isNone then .error (.http 401 "Client not found.")
  else if server.verifyClientPassword hashes username password then .ok token
  else .error (.http 401 "Invalid client credentials.")

def login (now : Rat) (role username password : String) : Except Failure Claims :=
  if strip role = "" ∨ strip username = "" ∨ password = "" then
    .error (.http 400 "username and password are required.")
  else if strip role = "admin" then
    server.loginAdmin hashes config now (strip username) password
  else if strip role = "client" then
    server.loginClient hashes config now (strip username) password
  else .error (.http 400 "role must be 'admin' or 'client'.")

end Server

/-- `consume_reset_token_sync`: the account of the first row of a digest, and the rows with that
one used. -/
def consume (now : Rat) (hash : String) : List Reset → Option (Reset × List Reset)
  | [] => none
  | row :: rest =>
      if row.tokenHash = hash then
        if row.used = true ∨ row.expiresAt < now then none
        else some (row, { row with used := true } :: rest)
      else (consume now hash rest).map fun (found, rows) => (found, row :: rows)

/-- A handler up to its reply or its write, with the reset tokens that it leaves. -/
def handle (server : Server) (now : Rat) (credentials : Credentials) :
    Request → List Reset × Answer
  | .register clientId password salt =>
      (server.resets,
        if (server.account clientId).isSome then
          .reply (.refused 409 s!"Client ID '{clientId}' already exists.")
        else if password.length < 6 then
          .reply (.refused 400 "Password must be at least 6 characters.")
        else .write (.registerClient clientId (hashPassword hashes salt password)) .ok)
  | .login role username password =>
      (server.resets,
        match server.login hashes config now role username password with
        | .error failure => .reply failure.reply
        | .ok claims => .reply (.token claims))
  | .changeAdminPassword current new salt =>
      (server.resets,
        -- `_require_admin(request)` is not awaited.
        if current = "" ∨ new = "" then
          .reply (.refused 400 "current_password and new_password required.")
        else if new.length < 8 then
          .reply (.refused 400 "new_password must be at least 8 characters.")
        else
          match server.adminAccepts hashes config current with
          | .error failure => .reply failure.reply
          | .ok false => .reply (.refused 401 "Current password is incorrect.")
          | .ok true => .write (.setSetting adminKey (hashPassword hashes salt new)) .ok)
  | .setSystemSetting key value =>
      (server.resets,
        match requireAdmin now credentials with
        | .error failure => .reply failure.reply
        | .ok _ => .write (.setSetting key value) .ok)
  | .generateResetToken clientId token =>
      (server.resets,
        -- `_require_admin(request)` is not awaited here either.
        .write (.createResetToken
          ⟨digest hashes token, "client", clientId, now + 24 * 3600, false⟩) (.resetToken token))
  | .resetPassword token new salt =>
      if strip token = "" ∨ new = "" then
        (server.resets, .reply (.refused 400 "token and new_password are required."))
      else if new.length < 8 then
        (server.resets, .reply (.refused 400 "new_password must be at least 8 characters."))
      else
        match consume now (digest hashes (strip token)) server.resets with
        | none => (server.resets, .reply (.refused 400 "Invalid or expired reset token."))
        | some (row, rest) =>
            (rest,
              if row.targetRole = "admin" then
                .write (.setSetting adminKey (hashPassword hashes salt new)) .ok
              else .write (.setClientPassword row.targetId (hashPassword hashes salt new)) .ok)

def Account.unchanged : KeyedTables.Change Account.clientId := ⟨id, fun _ => rfl⟩

def Account.setHash (hashed : String) : KeyedTables.Change Account.clientId :=
  ⟨fun row => { row with passwordHash := hashed }, fun _ => rfl⟩

def Setting.setValue (value : String) : KeyedTables.Change Setting.key :=
  ⟨fun row => { row with value }, fun _ => rfl⟩

/-- The insert of a client that is there raises and changes nothing. -/
def Write.apply (server : Server) : Write → Server
  | .registerClient clientId passwordHash =>
      { server with
        clients := KeyedTables.step Account.clientId server.clients
          (.upsert ⟨clientId, passwordHash⟩ Account.unchanged) }
  | .setClientPassword clientId hashed =>
      { server with
        clients := KeyedTables.step Account.clientId server.clients
          (.update clientId (Account.setHash hashed)) }
  | .setSetting key value =>
      { server with
        settings := KeyedTables.step Setting.key server.settings
          (.upsert ⟨key, value⟩ (Setting.setValue value)) }
  | .createResetToken row => { server with resets := server.resets ++ [row] }

def Write.raises (server : Server) : Write → Bool
  | .registerClient clientId _ => (server.account clientId).isSome
  | _ => false

def step (server : Server) : Event → Server
  | .request now credentials request =>
      let (resets, answer) := handle hashes config server now credentials request
      match answer with
      | .reply _ => { server with resets }
      | .write write reply => { server with resets, pending := server.pending ++ [(write, reply)] }
  | .commit index works =>
      match server.pending[index]? with
      | none => server
      | some (write, _) =>
          let rest := { server with pending := server.pending.eraseIdx index }
          if works then write.apply rest else rest
  | .registered active => { server with registry := active }

/-- The replies that a step sends. -/
def replies (server : Server) : Event → List Reply
  | .request now credentials request =>
      match (handle hashes config server now credentials request).2 with
      | .reply reply => [reply]
      | .write _ _ => []
  | .commit index works =>
      match server.pending[index]? with
      | none => []
      | some (write, reply) => [if works && !write.raises server then reply else .raised]
  | .registered _ => []

end Handlers

end OptionChain.Accounts
