import OptionChain.DeltaBroker

/-!
# What the Delta adapter signs and sends

`_request_sync` signs the method, the path and the body it is given. It then posts a POST,
and sends every other method as a GET without the body.

A request is sent as it was signed exactly if it is a POST, or a GET without a payload.
`cancel_order` asks for a DELETE, so what it sends is covered by no signature of its own,
and an exchange that checks signatures cancels nothing.
-/

namespace OptionChain.DeltaRequests

open Broker DeltaBroker

/-! ## Payloads -/

/-- The values of a payload. -/
inductive Value where
  | int (value : Int)
  | text (value : String)
deriving DecidableEq

/-- A dict in its order of insertion. The empty one stands for no payload too. -/
abbrev Payload := List (String × Value)

/-- Four hexadecimal digits. -/
def hex (code : Nat) : String :=
  String.ofList ((Nat.toDigits 16 code).leftpad 4 '0')

/-- A character in the text of `json.dumps`, which is plain ASCII. -/
def escape (char : Char) : String :=
  if char = '"' then "\\\""
  else if char = '\\' then "\\\\"
  else if char = '\n' then "\\n"
  else if char = '\r' then "\\r"
  else if char = '\t' then "\\t"
  else if char = Char.ofNat 8 then "\\b"
  else if char = Char.ofNat 12 then "\\f"
  else if 32 ≤ char.toNat ∧ char.toNat ≤ 126 then char.toString
  else if char.toNat < 65536 then "\\u" ++ hex char.toNat
  else
    -- a surrogate pair
    let offset := char.toNat - 65536
    "\\u" ++ hex (55296 + offset / 1024) ++ "\\u" ++ hex (56320 + offset % 1024)

def quote (text : String) : String :=
  "\"" ++ String.join (text.toList.map escape) ++ "\""

def Value.dumps : Value → String
  | .int value => toString value
  | .text value => quote value

/-- `json.dumps` of a payload. -/
def dumps (payload : Payload) : String :=
  "\x7b" ++ ", ".intercalate (payload.map fun entry => quote entry.1 ++ ": " ++ entry.2.dumps) ++
    "\x7d"

theorem dumps_ne_empty (payload : Payload) : dumps payload ≠ "" := by
  intro empty
  have letters := congrArg String.toList empty
  simp [dumps, String.toList_append] at letters

/-! ## Requests -/

/-- The methods that the adapter asks for. -/
inductive Method where
  | get
  | post
  | delete
deriving DecidableEq

def Method.text : Method → String
  | .get => "GET"
  | .post => "POST"
  | .delete => "DELETE"

/-- The arguments of `_request`. -/
structure Call where
  method : Method
  path : String
  payload : Payload := []
deriving DecidableEq

/-- `payload` as a text. -/
def Call.body (call : Call) : String :=
  if call.payload = [] then "" else dumps call.payload

/-- What a signature covers, and what a request consists of besides its headers. -/
structure Content where
  method : Method
  path : String
  body : String
deriving DecidableEq

/-- A request as it leaves the process. -/
structure Transmission extends Content where
  apiKey : String
  timestamp : String
  signature : String
deriving DecidableEq

/-- The adapter: its credentials, the products by symbol, and the products of the orders
that it has placed. -/
structure Adapter where
  key : String
  secret : String
  symbolToPid : String → Option Int
  orderPid : String → Option Int

/-- What lies outside the adapter. The exchange answers with the product of an order, if its
result has one. -/
structure Surroundings where
  /-- The HMAC-SHA256 of a text under a secret, in hexadecimal. -/
  hmac : String → String → String
  /-- The path that goes out for one in a URL. -/
  written : String → String
  /-- The text of a float. -/
  decimal : Rat → String
  clock : Call → String
  exchange : Transmission → Http (Option Int)

/-- `delta_signature`. -/
def deltaSignature (hmac : String → String → String) (apiSecret : String) (content : Content)
    (timestamp : String) (queryString : String) : String :=
  hmac apiSecret
    (content.method.text ++ timestamp ++ content.path ++ queryString ++ content.body)

/-- What `_request_sync` hands to `delta_signature`. -/
def Call.covered (call : Call) : Content where
  method := call.method
  path := call.path
  body := call.body

/-- What `_request_sync` hands to the transport: `requests.post` with the body, or else
`requests.get`. -/
def Call.sent (written : String → String) (call : Call) : Content :=
  if call.method = .post then ⟨.post, written call.path, call.body⟩
  else ⟨.get, written call.path, ""⟩

section Requests

variable (outside : Surroundings) (adapter : Adapter)

/-- A signed request of `_request_sync`. -/
def transmit (call : Call) : Transmission where
  toContent := call.sent outside.written
  apiKey := adapter.key
  timestamp := outside.clock call
  signature :=
    deltaSignature outside.hmac adapter.secret call.covered (outside.clock call) ""

/-- `_request_sync`, with the answer of the exchange. -/
def answer (call : Call) : Body (Option Int) :=
  requestSync (outside.exchange (transmit outside adapter call))

/-! ## The operations -/

/-- The operations of the adapter that sign their requests. -/
inductive Operation where
  | placeOrder (request : OrderRequest)
  | cancelOrder (orderId : String)
  | getOrderStatus (orderId : String)
  | getPositions
  | getFunds
  | getProfile
  | getLeverage (productId : Int)
  | setLeverage (productId : Int) (leverage : Rat)
deriving DecidableEq

/-- The payload of `place_order`. -/
def orderPayload (body : OrderBody) : Payload :=
  [("product_id", .int body.productId), ("size", .int body.size), ("side", .text body.side),
    ("order_type", .text body.orderType)] ++
    (match body.limitPrice with
      | some price => [("limit_price", .text (outside.decimal price))]
      | none => []) ++
    (match body.timeInForce with
      | some timeInForce => [("time_in_force", .text timeInForce)]
      | none => [])

def statusCall (orderId : String) : Call where
  method := .get
  path := "/v2/orders/" ++ orderId

/-- The DELETE of an order, which names its product if that is known. -/
def cancelCall (orderId : String) (productId : Option Int) : Call where
  method := .delete
  path := "/v2/orders"
  payload := ("id", .text orderId) ::
    match productId with
    | some productId => [("product_id", .int productId)]
    | none => []

/-- The product of an order: remembered, or read back from the exchange. -/
def productOf (orderId : String) : Option Int :=
  match adapter.orderPid orderId with
  | some productId => some productId
  | none => (answer outside adapter (statusCall orderId)).result.join

/-- `cancel_order`. -/
def cancelOrder (orderId : String) : Bool :=
  (answer outside adapter
    (cancelCall orderId (productOf outside adapter orderId))).success

/-- The requests of an operation. -/
def calls : Operation → List Call
  | .placeOrder request =>
      match adapter.symbolToPid request.brokerSymbol.toUpper with
      | none => []
      | some productId =>
          [⟨.post, "/v2/orders", orderPayload outside (orderBody productId request)⟩]
  | .cancelOrder orderId =>
      (match adapter.orderPid orderId with
        | some _ => []
        | none => [statusCall orderId]) ++
        [cancelCall orderId (productOf outside adapter orderId)]
  | .getOrderStatus orderId => [statusCall orderId]
  | .getPositions => [⟨.get, "/v2/positions/margined", []⟩]
  | .getFunds => [⟨.get, "/v2/wallet/balances", []⟩]
  | .getProfile => [⟨.get, "/v2/users/profile", []⟩]
  | .getLeverage productId =>
      [⟨.get, "/v2/products/" ++ toString productId ++ "/orders/leverage", []⟩]
  | .setLeverage productId leverage =>
      [⟨.post, "/v2/products/change_leverage",
        [("product_id", .int productId), ("leverage", .text (outside.decimal leverage))]⟩]

/-! ## Sent as signed -/

/-- The request that goes out is the one that the signature covers. -/
def SentAsSigned (call : Call) : Prop :=
  call.sent outside.written = call.covered

/-- The law of an operation: its requests go out as they were signed, and an order counts as
cancelled only after a DELETE of it. -/
structure Lawful (operation : Operation) : Prop where
  covered : ∀ call ∈ calls outside adapter operation, SentAsSigned outside call
  deletes : ∀ orderId, operation = .cancelOrder orderId →
    cancelOrder outside adapter orderId = true →
      ∃ call ∈ calls outside adapter operation, ∃ productId,
        call.sent outside.written =
          ⟨.delete, "/v2/orders", dumps [("id", .text orderId), ("product_id", .int productId)]⟩

/-- The exchange carries out no request whose signature does not fit what it received. -/
def ChecksSignatures : Prop :=
  ∀ request, (requestSync (outside.exchange request)).success = true →
    request.signature =
      deltaSignature outside.hmac adapter.secret request.toContent request.timestamp ""

variable {outside adapter}

theorem sent_of_post {call : Call} (post : call.method = .post) :
    call.sent outside.written = ⟨.post, outside.written call.path, call.body⟩ := by
  simp [Call.sent, post]

theorem sent_of_not_post {call : Call} (other : call.method ≠ .post) :
    call.sent outside.written = ⟨.get, outside.written call.path, ""⟩ := by
  simp [Call.sent, other]

theorem body_eq_empty_iff (call : Call) : call.body = "" ↔ call.payload = [] := by
  unfold Call.body
  split
  · rename_i empty
    exact ⟨fun _ => empty, fun _ => rfl⟩
  · rename_i nonempty
    exact ⟨fun empty => absurd empty (dumps_ne_empty _), fun empty => absurd empty nonempty⟩

/-- A request is sent as it was signed exactly if it is a POST, or a GET without a payload,
and its path goes out as it is. -/
theorem sentAsSigned_iff (call : Call) :
    SentAsSigned outside call ↔
      outside.written call.path = call.path ∧
        (call.method = .post ∨ call.method = .get ∧ call.payload = []) := by
  unfold SentAsSigned Call.covered
  by_cases post : call.method = .post
  · rw [sent_of_post post]
    simp [post]
  · rw [sent_of_not_post post]
    constructor
    · intro same
      obtain ⟨method, path, body⟩ := Content.mk.injEq .. ▸ same
      exact ⟨path, .inr ⟨method.symm, (body_eq_empty_iff call).mp body.symm⟩⟩
    · rintro ⟨path, isPost | ⟨method, payload⟩⟩
      · exact absurd isPost post
      · rw [method, path, (body_eq_empty_iff call).mpr payload]

/-- A DELETE is never sent as it was signed. -/
theorem not_sentAsSigned_of_delete {call : Call} (delete : call.method = .delete) :
    ¬ SentAsSigned outside call := by
  rw [sentAsSigned_iff, delete]
  simp

/-- The requests of an operation other than a cancel are POSTs, or GETs without a payload. -/
theorem calls_plain {operation : Operation} (other : ∀ orderId, operation ≠ .cancelOrder orderId)
    {call : Call} (made : call ∈ calls outside adapter operation) :
    call.method = .post ∨ call.method = .get ∧ call.payload = [] := by
  cases operation with
  | cancelOrder orderId => exact absurd rfl (other orderId)
  | placeOrder request =>
      simp only [calls] at made
      split at made
      · cases made
      · rw [List.mem_singleton] at made
        exact .inl (by rw [made])
  | setLeverage productId leverage =>
      rw [calls, List.mem_singleton] at made
      exact .inl (by rw [made])
  | getOrderStatus orderId =>
      rw [calls, List.mem_singleton] at made
      exact .inr (by rw [made]; exact ⟨rfl, rfl⟩)
  | getPositions | getFunds | getProfile =>
      rw [calls, List.mem_singleton] at made
      exact .inr (by rw [made]; exact ⟨rfl, rfl⟩)
  | getLeverage productId =>
      rw [calls, List.mem_singleton] at made
      exact .inr (by rw [made]; exact ⟨rfl, rfl⟩)

/-- A cancel asks for a DELETE. -/
theorem cancelCall_mem_calls (orderId : String) :
    cancelCall orderId (productOf outside adapter orderId) ∈
      calls outside adapter (.cancelOrder orderId) := by
  simp [calls]

variable (outside adapter)

/-- An operation is lawful exactly if it is no cancel and its paths go out as they are. -/
theorem lawful_iff (operation : Operation) :
    Lawful outside adapter operation ↔
      (∀ orderId, operation ≠ .cancelOrder orderId) ∧
        ∀ call ∈ calls outside adapter operation, outside.written call.path = call.path := by
  constructor
  · intro lawful
    constructor
    · rintro orderId rfl
      have signed := lawful.covered _ (cancelCall_mem_calls orderId)
      exact not_sentAsSigned_of_delete rfl signed
    · intro call made
      exact ((sentAsSigned_iff call).mp (lawful.covered call made)).1
  · rintro ⟨other, written⟩
    constructor
    · intro call made
      exact (sentAsSigned_iff call).mpr ⟨written call made, calls_plain other made⟩
    · intro orderId cancel
      exact absurd cancel (other orderId)

/-- The HMACs of two texts at one time: the DELETE of an order, and a GET without a body. -/
def digest (_ text : String) : String :=
  if text = "GET1700000000/v2/orders" then
    "b11c3da86619bc91cddc81eab127ac1ea4c02409aff68e2b915cf40ffc547ab7"
  else "ed86f9e0c81b13c9ddfacf67b86f2e23df38941bad7966873e1dc313eb3baee8"

/-- Surroundings that leave paths alone, with an exchange that checks signatures. -/
def checking : Surroundings where
  hmac := digest
  written := id
  decimal := fun _ => "1.0"
  clock := fun _ => "1700000000"
  exchange := fun request =>
    if request.signature =
        deltaSignature digest "secret" request.toContent request.timestamp "" then
      .response ⟨true, some (some 27), none⟩
    else .response ⟨false, none, some (.coded "Signature Mismatch" "")⟩

/-- An adapter that remembers the product of each order. -/
def remembering : Adapter where
  key := "key"
  secret := "secret"
  symbolToPid := fun _ => some 27
  orderPid := fun _ => some 27

/-- A cancel signs a DELETE with a body and sends a GET without one. -/
theorem cancel_unlawful : ¬ Lawful checking remembering (.cancelOrder "13452112") := by
  intro lawful
  have signed := lawful.covered _ (cancelCall_mem_calls "13452112")
  exact not_sentAsSigned_of_delete rfl signed

/-- An exchange that checks signatures refuses every cancel, unless two texts have one HMAC. -/
theorem cancelOrder_refused (checks : ChecksSignatures outside adapter) (orderId : String)
    (cancelled : cancelOrder outside adapter orderId = true) :
    ∃ signed received, signed ≠ received ∧
      outside.hmac adapter.secret signed = outside.hmac adapter.secret received := by
  let call := cancelCall orderId (productOf outside adapter orderId)
  have sent : call.sent outside.written = ⟨.get, outside.written "/v2/orders", ""⟩ :=
    sent_of_not_post (by simp [call, cancelCall])
  have fits := checks (transmit outside adapter call) cancelled
  simp only [transmit, deltaSignature, sent] at fits
  refine ⟨_, _, ?_, fits⟩
  intro same
  have letters := congrArg String.toList same
  simp [call, cancelCall, Call.covered, Method.text, String.toList_append] at letters

end Requests

end OptionChain.DeltaRequests
