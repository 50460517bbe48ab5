import ArqmaStorage.Connection.Respond

/-!
# Requests from clients

`process_client_req` serves `/storage_rpc/v1`: a client that is not rate limited sends a body
encrypted under its `X-Arqma-EphemKey`, holding a JSON `method` and `params`. `store` checks the
fields, the key's length, the body's length, that the key belongs to this swarm, the TTL, the
timestamp and the proof of work before it calls `ServiceNode::process_store`. `retrieve` checks
the fields, the key's length and the swarm, sets `delay_response_` and polls the database; when
nothing is there and the client asked for a long poll, the connection registers as a listener and
waits up to 20 s for a notification.
-/

namespace ArqmaStorage

/-- `params[key]` on an object known to hold `key`. -/
def Json.index (j : Json) (key : String) : Json := (j.find key).getD .null

/-- `snodes_to_json(snodes)`. -/
def snodes_to_json (snodes : List sn_record_t) : Json :=
  .object [("snodes", .array (snodes.map fun sn =>
    .object [("address", .string sn.sn_address), ("pubkey_x25519", .string sn.pubkey_x25519_hex),
      ("pubkey_ed25519", .string sn.pubkey_ed25519_hex), ("port", .string (toString sn.port.toNat)),
      ("ip", .string sn.ip)]))]

/-- `handle_wrong_swarm(pubKey)`: 421 with the swarm that owns the key. -/
def handle_wrong_swarm (env : Env) (pubKey : String) (c : connection_t) : Outcome := do
  let c := (c.result status.misdirected_request).set "Content-Type" "application/json"
  let s ← lift (env.dump (snodes_to_json (env.get_snodes_by_pk pubKey))) c
  .ok (c.out s)

/-- The first of `fields` that `params` lacks. -/
def missing_field (params : Json) (fields : List String) : Option String :=
  fields.find? fun f => !params.contains f

/-- The answer to a field `params` lacks. -/
def no_field (field : String) (c : connection_t) : connection_t :=
  (c.result status.bad_request).out ("invalid json: no `" ++ field ++ "` field\n")

/-- The answer to a key of the wrong length. -/
def bad_pubkey (env : Env) (what : String) (c : connection_t) : connection_t :=
  (c.result status.bad_request).out
    (what ++ " must be " ++ toString (get_user_pubkey_size env.is_mainnet) ++ " characters long\n")

/-- `{"difficulty": ...}`. -/
def difficulty_json (env : Env) : Json :=
  .object [("difficulty", .number env.get_curr_pow_difficulty)]

/-- The part of `process_store` after the checks on the key and the body's length. -/
def store_checked (env : Env) (pk ttl nonce timestamp data : String) (c : connection_t) :
    Outcome :=
  match env.parseTTL ttl with
  | none => .ok (((c.result status.forbidden).set "Content-Type" "text/plain").out
      "Provided TTL is not valid.\n")
  | some ttlInt =>
  match env.parseTimestamp timestamp ttlInt with
  | none => .ok (((c.result status.not_acceptable).set "Content-Type" "text/plain").out
      "Timestamp error: check your clock\n")
  | some timestampInt =>
  let (valid_pow, messageHash) := env.checkPoW nonce timestamp ttl pk data
    env.get_curr_pow_difficulty
  if !valid_pow then do
    let c := (c.result 432).set "Content-Type" "application/json"
    let s ← lift (env.dump (difficulty_json env)) c
    .ok (c.out s)
  else
  let msg : message_t := ⟨pk, data, messageHash, ttlInt, timestampInt, nonce⟩
  let c := c.call (.process_store msg)
  match env.process_store msg with
  | .error e =>
    if e.caught then do
      let c := (((c.result status.internal_server_error).set "Content-Type" "text/plain").out
        (e.what ++ "\n"))
      let _ ← lift (obfuscate_pubkey pk) c
      .ok c
    else .error (e, c)
  | .ok false => .ok (((c.result status.service_unavailable).set "Content-Type" "text/plain").out
      "Service node is initializing\n")
  | .ok true => do
    let c := (c.result status.ok).set "Content-Type" "application/json"
    let s ← lift (env.dump (difficulty_json env)) c
    let c := c.out s
    let _ ← lift (obfuscate_pubkey pk) c
    .ok c

/-- `process_store(params)`. -/
def process_store (env : Env) (params : Json) (c : connection_t) : Outcome :=
  match missing_field params ["pubKey", "ttl", "nonce", "timestamp", "data"] with
  | some field => .ok (no_field field c)
  | none => do
    let ttl ← lift (params.index "ttl").get_string c
    let nonce ← lift (params.index "nonce").get_string c
    let timestamp ← lift (params.index "timestamp").get_string c
    let data ← lift (params.index "data").get_string c
    let pk ← lift (params.index "pubKey").get_string c
    if size pk ≠ get_user_pubkey_size env.is_mainnet then .ok (bad_pubkey env "Pubkey" c)
    else if MAX_MESSAGE_BODY < size data then
      .ok ((c.result status.bad_request).out
        ("Message body exceeds maximum allowed length of " ++ toString MAX_MESSAGE_BODY ++ "\n"))
    else if !env.is_pubkey_for_us pk then handle_wrong_swarm env pk c
    else store_checked env pk ttl nonce timestamp data c

/-- `process_snodes_by_pk(params)`. -/
def process_snodes_by_pk (env : Env) (params : Json) (c : connection_t) : Outcome :=
  if !params.contains "pubKey" then
    .ok ((c.result status.bad_request).out "invalid json: no `pubKey` field\n")
  else do
    let pk ← lift (params.index "pubKey").get_string c
    if size pk ≠ get_user_pubkey_size env.is_mainnet then .ok (bad_pubkey env "Pubkey" c)
    else do
      let c := (c.result status.ok).set "Content-Type" "application/json"
      let s ← lift (env.dump (snodes_to_json (env.get_snodes_by_pk pk))) c
      .ok (c.out s)

/-- Register for notifications and arm the 20 s long-poll timer. -/
def wait_for_notification (pk : String) (c : connection_t) : connection_t :=
  { c.call (.register_listener pk) with
    notification_ctx_ := some ⟨none, pk⟩,
    notification_timer := some (⟨c.clock + LONG_POLL_TIMEOUT, .waiting⟩, pk) }

/-- `poll_db(pk, last_hash)`. -/
def poll_db (env : Env) (pk last_hash : String) (c : connection_t) : Outcome :=
  let c := c.call (.retrieve pk last_hash)
  match env.retrieve pk last_hash with
  | none => do
    let c := (c.result status.internal_server_error).set "Content-Type" "text/plain"
    let _ ← lift (obfuscate_pubkey pk) c
    .ok c
  | some items => do
    let lp_requested := (c.request_.find ARQMA_LONG_POLL_HEADER).isSome
    if !items.isEmpty then
      let _ ← lift (obfuscate_pubkey pk) c
    if items.isEmpty && lp_requested then .ok (wait_for_notification pk c)
    else respond_with_messages env items c

/-- `process_retrieve(params)`. -/
def process_retrieve (env : Env) (params : Json) (c : connection_t) : Outcome :=
  let c := c.call .bump_retrieve_requests
  match missing_field params ["pubKey", "lastHash"] with
  | some field => .ok (no_field field c)
  | none => do
    let pk ← lift (params.index "pubKey").get_string c
    if size pk ≠ get_user_pubkey_size env.is_mainnet then .ok (bad_pubkey env "PubKey" c)
    else if !env.is_pubkey_for_us pk then handle_wrong_swarm env pk c
    else do
      let last_hash ← lift (params.index "lastHash").get_string c
      poll_db env pk last_hash { c with delay_response_ := true }

/-- The method dispatch of `process_client_req`. -/
def dispatch_method (env : Env) (method_name : String) (params : Json) (c : connection_t) :
    Outcome :=
  if method_name = "store" then process_store env params c
  else if method_name = "retrieve" then process_retrieve env params c
  else if method_name = "get_snodes_for_pubkey" then process_snodes_by_pk env params c
  else .ok ((c.result status.bad_request).out ("no method" ++ method_name ++ "\n"))

/-- `process_client_req()` after the body is decrypted. -/
def process_plain_text (env : Env) (plain_text : String) (c : connection_t) : Outcome :=
  match env.parse plain_text with
  | none => .ok ((c.result status.bad_request).out "invalid json\n")
  | some body =>
    match body.find "method" with
    | some (.string method_name) =>
      match body.find "params" with
      | some (.object kvs) => dispatch_method env method_name (.object kvs) c
      | _ => .ok ((c.result status.bad_request).out "invalid json: no `params` field\n")
    | _ => .ok ((c.result status.bad_request).out "invalid json: no `method` field\n")

/-- `process_client_req()`. -/
def process_client_req (env : Env) (c : connection_t) : Outcome := do
  let client_ip ← lift env.remote_address c
  if env.should_rate_limit_client client_ip then
    .ok ((c.out "too many requests\n").result status.too_many_requests)
  else
  let (found, c) := c.parse_header ARQMA_EPHEMKEY_HEADER
  if !found then .ok c else
  let key := (c.header_.lookup ARQMA_EPHEMKEY_HEADER).getD ""
  match env.decrypt (env.base64_decode c.request_.body) key with
  | .error e =>
    if e.caught then
      .ok ((((c.result status.bad_request).set "Content-Type" "text/plain").out
        "Could not decode/decrypt body: ").out (e.what ++ "\n"))
    else .error (e, c)
  | .ok plain_text => process_plain_text env plain_text c

theorem process_client_req_undecryptable (env : Env) (c : connection_t) {ip k : String} {e : Exn}
    (hip : env.remote_address = .ok ip) (hlimit : env.should_rate_limit_client ip = false)
    (hkey : c.request_.find ARQMA_EPHEMKEY_HEADER = some k)
    (hde : env.decrypt (env.base64_decode c.request_.body) k = .error e)
    (hcaught : e.caught = true) :
    process_client_req env c =
      .ok (((({ c with header_ := header_insert c.header_ ARQMA_EPHEMKEY_HEADER k }.result
        status.bad_request).set "Content-Type" "text/plain").out
          "Could not decode/decrypt body: ").out (e.what ++ "\n")) := by
  simp only [process_client_req, lift, hip, hlimit, connection_t.parse_header, hkey, bind,
    Except.bind, Bool.false_eq_true, reduceIte, Bool.not_true, lookup_header_insert,
    Option.getD_some, hde, hcaught]

theorem process_client_req_decrypted (env : Env) (c : connection_t) {ip k plain : String}
    (hip : env.remote_address = .ok ip) (hlimit : env.should_rate_limit_client ip = false)
    (hkey : c.request_.find ARQMA_EPHEMKEY_HEADER = some k)
    (hdec : env.decrypt (env.base64_decode c.request_.body) k = .ok plain) :
    process_client_req env c = process_plain_text env plain
      { c with header_ := header_insert c.header_ ARQMA_EPHEMKEY_HEADER k } := by
  simp only [process_client_req, lift, hip, hlimit, connection_t.parse_header, hkey, bind,
    Except.bind, Bool.false_eq_true, reduceIte, Bool.not_true, lookup_header_insert,
    Option.getD_some, hdec]

theorem poll_db_retrieve_failed (env : Env) (pk last_hash : String) (c : connection_t)
    (hret : env.retrieve pk last_hash = none)
    (hsize : size pk = get_user_pubkey_size env.is_mainnet) :
    poll_db env pk last_hash c = .ok (((c.call (.retrieve pk last_hash)).result
      status.internal_server_error).set "Content-Type" "text/plain") := by
  rw [get_user_pubkey_size_eq] at hsize
  obtain ⟨s, hs⟩ := @obfuscate_pubkey_ok pk (by omega) (by omega)
  simp [poll_db, hret, lift, hs, bind, Except.bind]

theorem process_retrieve_retrieve_failed (env : Env) (params : Json) (c : connection_t)
    {pk last_hash : String} (hfields : missing_field params ["pubKey", "lastHash"] = none)
    (hpk : (params.index "pubKey").get_string = .ok pk)
    (hsize : size pk = get_user_pubkey_size env.is_mainnet) (hours : env.is_pubkey_for_us pk)
    (hlast : (params.index "lastHash").get_string = .ok last_hash)
    (hret : env.retrieve pk last_hash = none) :
    process_retrieve env params c = .ok ((({ c.call .bump_retrieve_requests with
      delay_response_ := true }.call (.retrieve pk last_hash)).result
        status.internal_server_error).set "Content-Type" "text/plain") := by
  simp only [process_retrieve, hfields, lift, hpk, hsize, ne_eq, not_true_eq_false, reduceIte,
    hours, Bool.not_true, Bool.false_eq_true, hlast, bind, Except.bind,
    poll_db_retrieve_failed env pk last_hash _ hret hsize]

end ArqmaStorage
