import ArqmaStorage.Basic

/-!
# The state of a `connection_t`

One accepted HTTPS connection of `http_connection.cpp`: the request it read, the parsed signature
and key headers (`header_`), the response it fills, `body_stream_`, `delay_response_`, the
storage-test `repetition_count_`, `start_timestamp_` and the long-poll `notification_ctx_`.

Beside the members, the state records what the `io_context` holds for the connection: which
completion handlers are pending (TLS handshake, read, writes, shutdowns, the session deadline, the
storage-test `repeat_timer_`, the long-poll timer, the blockchain-test callback), whether the
socket is open, and the steady clock. It also records what the connection has done: the
`ServiceNode` operations it called (`calls`), the writes it started (`writes`), its `clean_up`
runs and the `record_socket_open`/`record_socket_close` calls. Those counters are what the
lifecycle theorems are about.

A handler is a function `connection_t → Outcome`: it returns with a new state or throws an
exception, and a thrown exception keeps the state as the throw left it, as in C++. The answers of
the collaborators during one handler (the `ServiceNode`, the rate limiter, the channel cipher, the
signature checker, `nlohmann::json`) are an `Env`.
-/

namespace ArqmaStorage

/-! ## Requests and responses -/

/-- `http::verb`, as far as `process_request` tells verbs apart. -/
inductive verb where
  | post
  | get
  | other (name : String)
  deriving Repr, DecidableEq

/-- `request_t`: method, target, header fields and body. -/
structure request_t where
  method : verb
  target : String
  fields : List (String × String)
  body : String
  deriving Repr, DecidableEq

/-- `request_.find(key)`: the first field whose name equals `key` up to ASCII case. -/
def request_t.find (r : request_t) (key : String) : Option String :=
  (r.fields.find? fun f => iequals f.1 key).map Prod.snd

/-- `response_t`: status, header fields and body. -/
structure response_t where
  result : Nat
  fields : List (String × String)
  body : String
  deriving Repr, DecidableEq

/-- `response_.set(name, value)`: replaces the fields of that name. -/
def response_t.set (r : response_t) (name value : String) : response_t :=
  { r with fields := r.fields.filter (fun f => !iequals f.1 name) ++ [(name, value)] }

/-- `header_[key] = value` on the `std::map` of parsed headers. -/
def header_insert (h : List (String × String)) (key value : String) : List (String × String) :=
  (key, value) :: h.filter (fun f => f.1 != key)

@[simp] theorem lookup_header_insert (h : List (String × String)) (k v : String) :
    (header_insert h k v).lookup k = some v := by
  simp [header_insert, List.lookup]

theorem lookup_header_insert_ne (h : List (String × String)) {k k' : String} (v : String)
    (hk : k' ≠ k) : (header_insert h k v).lookup k' = h.lookup k' := by
  have hne : (k' == k) = false := beq_false_of_ne hk
  simp only [header_insert, List.lookup, hne]
  induction h with
  | nil => rfl
  | cons f h ih =>
    obtain ⟨a, b⟩ := f
    by_cases ha : a = k
    · subst ha
      simpa [List.lookup, hne] using ih
    · simp only [List.filter_cons, bne_iff_ne, ne_eq, ha, not_false_eq_true, decide_True,
        if_true, List.lookup]
      split <;> simp_all

/-! ## Header names and status codes -/

def ARQMA_EPHEMKEY_HEADER : String := "X-Arqma-EphemKey"

/-- Modelled from the spec: `ARQMA_SENDER_SNODE_PUBKEY_HEADER` (declared in the missing
`http_connection.h`); the spec names it `X-*-Sender-Snode-PubKey`. -/
def ARQMA_SENDER_SNODE_PUBKEY_HEADER : String := "X-Arqma-Sender-Snode-PubKey"

/-- Modelled from the spec: `ARQMA_SNODE_SIGNATURE_HEADER` (declared in the missing
`http_connection.h`); the spec names it `X-*-Snode-Signature`. -/
def ARQMA_SNODE_SIGNATURE_HEADER : String := "X-Arqma-Snode-Signature"

def ARQMA_LONG_POLL_HEADER : String := "X-Arqma-Long-Poll"

namespace status

def ok : Nat := 200
def bad_request : Nat := 400
def unauthorized : Nat := 401
def forbidden : Nat := 403
def not_found : Nat := 404
def not_acceptable : Nat := 406
def misdirected_request : Nat := 421
def too_many_requests : Nat := 429
def internal_server_error : Nat := 500
def not_implemented : Nat := 501
def service_unavailable : Nat := 503

end status

/-! ## Collaborators -/

/-- What the collaborators of a connection answer while one of its handlers runs. -/
structure Env where
  /-- `service_node_.snode_ready(reason)` and the reason it gives. -/
  snode_ready : Bool
  ready_reason : String
  is_snode_address_known : String → Bool
  is_pubkey_for_us : String → Bool
  get_snodes_by_pk : String → List sn_record_t
  get_curr_pow_difficulty : Nat
  get_stats : String
  /-- `service_node_.process_storage_test_req(height, tester_pk, msg_hash, answer)`. -/
  process_storage_test_req : UInt64 → String → String → MessageTestStatus × String
  /-- `service_node_.process_store(msg)`; it may throw. -/
  process_store : message_t → Except Exn Bool
  /-- `service_node_.retrieve(pk, last_hash, items)`: the items, or `none` when it fails. -/
  retrieve : String → String → Option (List Item)
  /-- `hash_data` and `check_signature(signature, hash, public_key_b32z)` of `signature.h`. -/
  hash_data : String → String
  check_signature : String → String → String → Bool
  /-- `rate_limiter_.should_rate_limit` (peers) and `should_rate_limit_client` (clients). -/
  should_rate_limit : String → Bool
  should_rate_limit_client : String → Bool
  /-- `socket_.remote_endpoint().address().to_string()`; it throws once the peer is gone. -/
  remote_address : Except Exn String
  base64_decode : String → String
  base64_encode : String → String
  /-- `channel_cipher_.decrypt(ciphertext, key)` and `encrypt(plaintext, key)`; both may throw. -/
  decrypt : String → String → Except Exn String
  encrypt : String → String → Except Exn String
  /-- `security_.get_cert_signature()`. -/
  cert_signature : String
  /-- `util::parseTTL` and `util::parseTimestamp`. -/
  parseTTL : String → Option UInt64
  parseTimestamp : String → UInt64 → Option UInt64
  /-- `checkPoW(nonce, timestamp, ttl, pubkey, data, messageHash, difficulty)`: validity and
  the message hash it computes. -/
  checkPoW : String → String → String → String → String → Nat → Bool × String
  /-- `json::parse(s, nullptr, false)`, `none` standing for `discarded`. -/
  parse : String → Option Json
  /-- `j.dump()`: it throws on strings that are not UTF-8. -/
  dump : Json → Except Exn String
  /-- The process-wide network flag read by `get_user_pubkey_size()`. -/
  is_mainnet : Bool
  /-- Whether `on_get_logs` is within a second of the previous call (its `static` timestamp),
  and the entries of the developer sink, `none` when sink #3 is not one. -/
  logs_too_soon : Bool
  dev_sink : Option (List String)

/-- Collaborators that accept every peer and every client, read every body as the storage test
of message `h` at height 5 and answer it with `status`, find nothing to retrieve, and whose
cipher fails on every key: the environment the concrete runs are played in. -/
def Env.lenient (status : MessageTestStatus) : Env where
  snode_ready := true
  ready_reason := ""
  is_snode_address_known := fun _ => true
  is_pubkey_for_us := fun _ => true
  get_snodes_by_pk := fun _ => []
  get_curr_pow_difficulty := 1
  get_stats := "{}"
  process_storage_test_req := fun _ _ _ => (status, "")
  process_store := fun _ => .ok true
  retrieve := fun _ _ => none
  hash_data := id
  check_signature := fun _ _ _ => true
  should_rate_limit := fun _ => false
  should_rate_limit_client := fun _ => false
  remote_address := .ok "127.0.0.1"
  base64_decode := id
  base64_encode := id
  decrypt := fun _ _ => .error (.runtime_error "decryption failed")
  encrypt := fun _ _ => .error (.runtime_error "encryption failed")
  cert_signature := ""
  parseTTL := fun _ => some 1
  parseTimestamp := fun _ _ => some 1
  checkPoW := fun _ _ _ _ _ _ => (true, "")
  parse := fun _ => some (.object [("height", .number 5), ("hash", .string "h")])
  dump := fun _ => .ok "{}"
  is_mainnet := true
  logs_too_soon := false
  dev_sink := none

/-! ## The connection -/

/-- The wait of `repeat_timer_` with what its handler captured. -/
structure repeat_wait_t where
  wait : timer_wait_t
  height : UInt64
  tester_pk : String
  msg_hash : String
  deriving Repr, DecidableEq

/-- `notification_context_t`: the message a notification brought, and the recipient. -/
structure notification_context_t where
  message : Option message_t
  pubkey : String
  deriving Repr, DecidableEq

/-- A `ServiceNode` operation a connection calls. -/
inductive SnCall where
  | process_push (m : message_t)
  | process_push_batch (blob : String)
  | process_storage_test_req (height : UInt64) (tester_pk msg_hash : String)
  | perform_blockchain_test (params : bc_test_params_t)
  | process_store (m : message_t)
  | retrieve (pk last_hash : String)
  | register_listener (pk : String)
  | remove_listener (pk : String)
  | bump_retrieve_requests
  deriving Repr, DecidableEq

structure connection_t where
  request_ : request_t
  header_ : List (String × String)
  response_ : response_t
  body_stream_ : String
  delay_response_ : Bool
  repetition_count_ : Nat
  start_timestamp_ : Nat
  notification_ctx_ : Option notification_context_t
  /-- The steady clock. -/
  clock : Nat
  handshake_pending : Bool
  read_pending : Bool
  writes_pending : Nat
  shutdowns_pending : Nat
  deadline_ : Option timer_wait_t
  repeat_timer_ : Option repeat_wait_t
  /-- The long-poll wait of `notification_ctx_->timer`, with the key its handler captured. -/
  notification_timer : Option (timer_wait_t × String)
  bc_callback_pending : Bool
  socket_open : Bool
  calls : List SnCall
  writes : Nat
  clean_ups : Nat
  sockets_opened : Nat
  sockets_closed : Nat
  deriving Repr, DecidableEq

/-- What a member function leaves: the state it returned with, or the exception it threw and
the state at the throw. -/
abbrev Outcome := Except (Exn × connection_t) connection_t

namespace Outcome

/-- The connection after the call, whether it returned or threw. -/
def conn : Outcome → connection_t
  | .ok c => c
  | .error (_, c) => c

@[simp] theorem conn_ok (c : connection_t) : conn (.ok c) = c := rfl
@[simp] theorem conn_error (e : Exn) (c : connection_t) : conn (.error (e, c)) = c := rfl

theorem conn_bind {α : Type} (x : Except (Exn × connection_t) α) (f : α → Outcome) :
    conn (x >>= f) = match x with
      | .ok a => (f a).conn
      | .error (_, c) => c := by
  rcases x with ⟨e, c⟩ | a <;> rfl

end Outcome

/-- `try { r } catch (const std::exception& e) { handler(e) }`. -/
def try_catch (r : Outcome) (handler : Exn → connection_t → Outcome) : Outcome :=
  match r with
  | .ok c => .ok c
  | .error (e, c) => if e.caught then handler e c else .error (e, c)

/-- Run a computation of the collaborators that may throw, in state `c`. -/
def lift {α : Type} (x : Except Exn α) (c : connection_t) : Except (Exn × connection_t) α :=
  match x with
  | .ok a => .ok a
  | .error e => .error (e, c)

@[simp] theorem conn_lift_bind {α : Type} (x : Except Exn α) (c : connection_t)
    (f : α → Outcome) : Outcome.conn (lift x c >>= f) = match x with
      | .ok a => (f a).conn
      | .error _ => c := by
  cases x <;> rfl

namespace connection_t

variable (c : connection_t)

/-- `body_stream_ << s`. -/
def out (s : String) : connection_t := { c with body_stream_ := c.body_stream_ ++ s }

/-- `response_.result(n)`. -/
def result (n : Nat) : connection_t := { c with response_ := { c.response_ with result := n } }

/-- `response_.set(name, value)`. -/
def set (name value : String) : connection_t := { c with response_ := c.response_.set name value }

/-- A call of a `ServiceNode` operation. -/
def call (x : SnCall) : connection_t := { c with calls := c.calls ++ [x] }

/-- `parse_header(key)`. -/
def parse_header (key : String) : Bool × connection_t :=
  match c.request_.find key with
  | none => (false, c.out ("Missing field in header : " ++ key ++ "\n"))
  | some v => (true, { c with header_ := header_insert c.header_ key v })

/-- `do_close()`: start the TLS shutdown. -/
def do_close : connection_t := { c with shutdowns_pending := c.shutdowns_pending + 1 }

/-- `clean_up()`: close, and leave the long-poll listeners. -/
def clean_up : connection_t :=
  let c := { c.do_close with clean_ups := c.clean_ups + 1 }
  match c.notification_ctx_ with
  | some ctx => c.call (.remove_listener ctx.pubkey)
  | none => c

theorem clean_up_eq :
    c.clean_up = { c with
      shutdowns_pending := c.shutdowns_pending + 1, clean_ups := c.clean_ups + 1,
      calls := c.calls ++ (c.notification_ctx_.map fun ctx => .remove_listener ctx.pubkey).toList } := by
  unfold clean_up do_close
  dsimp only
  split <;> rename_i h <;> simp [h, call]

/-- `deadline_.cancel()`: a waiting deadline is aborted. -/
def cancel_deadline : connection_t :=
  match c.deadline_ with
  | some ⟨e, .waiting⟩ => { c with deadline_ := some ⟨e, .aborted⟩ }
  | _ => c

/-- `http::async_write(stream_, response_, ...)`. -/
def async_write : connection_t :=
  { c with writes := c.writes + 1, writes_pending := c.writes_pending + 1 }

@[simp] theorem out_calls (s : String) : (c.out s).calls = c.calls := rfl
@[simp] theorem result_calls (n : Nat) : (c.result n).calls = c.calls := rfl
@[simp] theorem set_calls (n v : String) : (c.set n v).calls = c.calls := rfl
@[simp] theorem call_calls (x : SnCall) : (c.call x).calls = c.calls ++ [x] := rfl
@[simp] theorem async_write_calls : c.async_write.calls = c.calls := rfl
@[simp] theorem cancel_deadline_calls : c.cancel_deadline.calls = c.calls := by
  unfold cancel_deadline; split <;> rfl
@[simp] theorem parse_header_calls (key : String) : (c.parse_header key).2.calls = c.calls := by
  unfold parse_header; split <;> rfl

@[simp] theorem out_request (s : String) : (c.out s).request_ = c.request_ := rfl
@[simp] theorem result_request (n : Nat) : (c.result n).request_ = c.request_ := rfl
@[simp] theorem set_request (n v : String) : (c.set n v).request_ = c.request_ := rfl
@[simp] theorem call_request (x : SnCall) : (c.call x).request_ = c.request_ := rfl
@[simp] theorem parse_header_request (key : String) :
    (c.parse_header key).2.request_ = c.request_ := by
  unfold parse_header; split <;> rfl

end connection_t

/-- Modelled from the spec: the member initialisers of `http_connection.h` are not among the
sources; a fresh connection has not delayed its response, has made no storage-test attempt and
has no notification context. `start()` then arms the session deadline and starts the
handshake. -/
def connection_t.init (t : Nat) : connection_t where
  request_ := ⟨.other "", "", [], ""⟩
  header_ := []
  response_ := ⟨status.ok, [], ""⟩
  body_stream_ := ""
  delay_response_ := false
  repetition_count_ := 0
  start_timestamp_ := t
  notification_ctx_ := none
  clock := t
  handshake_pending := true
  read_pending := false
  writes_pending := 0
  shutdowns_pending := 0
  deadline_ := some ⟨t + SESSION_TIME_LIMIT, .waiting⟩
  repeat_timer_ := none
  notification_timer := none
  bc_callback_pending := false
  socket_open := true
  calls := []
  writes := 0
  clean_ups := 0
  sockets_opened := 0
  sockets_closed := 0

end ArqmaStorage
