import ArqmaStorage.Connection.Respond
import ArqmaStorage.Serialization

/-!
# Requests from other service nodes

`process_swarm_req` serves the `/swarms/...` targets. Every target but `ping_test` is refused
unless `validate_snode_request` accepts the request: both signature headers present, the sender
a known service node, the signature good over the body's hash, and the sender not rate limited.
A storage test goes through `process_storage_test_req`, which retries every 50 ms while the
`ServiceNode` answers `RETRY` and less than a minute has passed since the connection started;
any other answer but `SUCCESS` sets the body and writes nothing
(`process_storage_test_req_unanswered`). A push asserts that its body holds exactly one
message, and an accepted push that does not aborts the process
(`push_aborts_unless_one_message`).
-/

namespace ArqmaStorage

/-- `verify_signature(signature, public_key_b32z)`. -/
def verify_signature (env : Env) (c : connection_t) (signature public_key_b32z : String) : Bool :=
  env.check_signature signature (env.hash_data c.request_.body) public_key_b32z

/-- `validate_snode_request()`. -/
def validate_snode_request (env : Env) (c : connection_t) : Bool × connection_t :=
  let (ok1, c) := c.parse_header ARQMA_SENDER_SNODE_PUBKEY_HEADER
  if !ok1 then (false, c) else
  let (ok2, c) := c.parse_header ARQMA_SNODE_SIGNATURE_HEADER
  if !ok2 then (false, c) else
  let signature := (c.header_.lookup ARQMA_SNODE_SIGNATURE_HEADER).getD ""
  let public_key_b32z := (c.header_.lookup ARQMA_SENDER_SNODE_PUBKEY_HEADER).getD ""
  if !env.is_snode_address_known (public_key_b32z ++ ".snode") then
    (false, (c.out "Unknown service node\n").result status.unauthorized)
  else if !verify_signature env c signature public_key_b32z then
    (false, (c.out "Could not verify batch signature").result status.unauthorized)
  else if env.should_rate_limit public_key_b32z then
    (false, (c.out "Too many requests\n").result status.too_many_requests)
  else (true, c)

theorem validate_snode_request_request (env : Env) (c : connection_t) :
    (validate_snode_request env c).2.request_ = c.request_ := by
  have h₁ := c.parse_header_request ARQMA_SENDER_SNODE_PUBKEY_HEADER
  unfold validate_snode_request
  generalize c.parse_header ARQMA_SENDER_SNODE_PUBKEY_HEADER = p₁ at h₁ ⊢
  obtain ⟨ok1, c₁⟩ := p₁
  have h₂ := c₁.parse_header_request ARQMA_SNODE_SIGNATURE_HEADER
  generalize c₁.parse_header ARQMA_SNODE_SIGNATURE_HEADER = p₂ at h₂ ⊢
  obtain ⟨ok2, c₂⟩ := p₂
  dsimp only at h₁ h₂ ⊢
  split_ifs <;> simp [h₁, h₂]

/-- The storage-test retry armed by `repeat_timer_.expires_after(TEST_RETRY_PERIOD)`. -/
def arm_retry (c : connection_t) (height : UInt64) (tester_pk msg_hash : String) :
    connection_t :=
  { c with delay_response_ := true, repetition_count_ := c.repetition_count_ + 1,
           repeat_timer_ := some ⟨⟨c.clock + TEST_RETRY_PERIOD, .waiting⟩, height, tester_pk,
             msg_hash⟩ }

/-- `process_storage_test_req(height, tester_pk, msg_hash)`. -/
def process_storage_test_req (env : Env) (height : UInt64) (tester_pk msg_hash : String)
    (c : connection_t) : Outcome :=
  let (test_status, answer) := env.process_storage_test_req height tester_pk msg_hash
  let c := c.call (.process_storage_test_req height tester_pk msg_hash)
  let elapsed_time := c.clock - c.start_timestamp_
  if test_status = .SUCCESS then do
    let c := { c with delay_response_ := true }
    let s ← lift (env.dump (.object [("status", .string "OK"), ("value", .string answer)])) c
    write_response env ((c.out s).result status.ok)
  else if test_status = .RETRY ∧ elapsed_time < ONE_MINUTE then
    .ok (arm_retry c height tester_pk msg_hash)
  else if test_status = .WRONG_REQ then do
    let s ← lift (env.dump (.object [("status", .string "wrong request")])) c
    .ok ((c.out s).result status.ok)
  else do
    let s ← lift (env.dump (.object [("status", .string "other")])) c
    .ok ((c.out s).result status.ok)

theorem process_storage_test_req_unanswered (env : Env) (height : UInt64)
    (tester_pk msg_hash : String) (c : connection_t)
    (hst : (env.process_storage_test_req height tester_pk msg_hash).1 ≠ .SUCCESS)
    (hretry : (env.process_storage_test_req height tester_pk msg_hash).1 = .RETRY →
      ONE_MINUTE ≤ c.clock - c.start_timestamp_)
    (hdump : ∀ j, ∃ s, env.dump j = .ok s) :
    ∃ s, process_storage_test_req env height tester_pk msg_hash c =
      .ok (((c.call (.process_storage_test_req height tester_pk msg_hash)).out s).result
        status.ok) := by
  unfold process_storage_test_req
  rcases hp : env.process_storage_test_req height tester_pk msg_hash with ⟨st, answer⟩
  simp only [hp] at hst hretry ⊢
  obtain ⟨s₁, h₁⟩ := hdump (.object [("status", .string "wrong request")])
  obtain ⟨s₂, h₂⟩ := hdump (.object [("status", .string "other")])
  split_ifs with h1 h2 h3
  · exact absurd h1 hst
  · exact absurd h2.2 (Nat.not_lt.2 (hretry h2.1))
  · exact ⟨s₁, by simp [h₁, lift, bind, Except.bind]⟩
  · exact ⟨s₂, by simp [h₂, lift, bind, Except.bind]⟩

/-- `process_blockchain_test_req(height, tester_pk, params)`: the callback is left with the
`ServiceNode`. -/
def process_blockchain_test_req (params : bc_test_params_t) (c : connection_t) : connection_t :=
  { c.call (.perform_blockchain_test params) with bc_callback_pending := true }

/-- The blockchain-test callback, run with the answer's `res_height`. -/
def blockchain_test_callback (env : Env) (res_height : UInt64) (c : connection_t) : Outcome := do
  let c := c.result status.ok
  let s ← lift (env.dump (.object [("res_height", .number res_height.toNat)])) c
  write_response env (c.out s)

/-- The fields of a storage-test body: `height` and `hash`. -/
def storage_test_fields (body : Json) : Except Exn (UInt64 × String) := do
  let blk_height ← body.at_ "height" >>= Json.get_uint64
  let msg_hash ← body.at_ "hash" >>= Json.get_string
  pure (blk_height, msg_hash)

/-- The fields of a blockchain-test body: `max_height`, `seed` and the optional `height`. -/
def blockchain_test_fields (body : Json) : Except Exn (bc_test_params_t × UInt64) := do
  let max_height ← body.at_ "max_height" >>= Json.get_uint64
  let seed ← body.at_ "seed" >>= Json.get_uint64
  let height ← if body.contains "height" then body.at_ "height" >>= Json.get_uint64 else pure 0
  pure (⟨max_height, seed⟩, height)

/-- `process_swarm_req(target)`. -/
def process_swarm_req (env : Env) (target : String) (c : connection_t) : Outcome :=
  let (valid, c) := validate_snode_request env c
  if !valid && target != "/swarms/ping_test/v1" then .ok c else
  let c := c.set ARQMA_SNODE_SIGNATURE_HEADER env.cert_signature
  if target = "/swarms/push_batch/v1" then
    .ok ((c.result status.ok).call (.process_push_batch c.request_.body))
  else if target = "/swarms/storage_test/v1" then
    let c := c.result status.bad_request
    match env.parse c.request_.body with
    | none => .ok ((c.out "invalid json\n").result status.bad_request)
    | some body =>
      match storage_test_fields body with
      | .error _ =>
        .ok ((c.out "Bad snode test request: missing fields in json").result status.bad_request)
      | .ok (blk_height, msg_hash) =>
        match c.header_.lookup ARQMA_SENDER_SNODE_PUBKEY_HEADER with
        | some tester_pk => process_storage_test_req env blk_height tester_pk msg_hash c
        | none => .ok c
  else if target = "/swarms/blockchain_test/v1" then
    match env.parse c.request_.body with
    | none => .ok (c.result status.bad_request)
    | some body =>
      match blockchain_test_fields body with
      | .error _ => .ok (c.result status.bad_request)
      | .ok (params, _) =>
        match c.header_.lookup ARQMA_SENDER_SNODE_PUBKEY_HEADER with
        | some _ => .ok (process_blockchain_test_req params { c with delay_response_ := true })
        | none => .ok c
  else if target = "/swarms/ping_test/v1" then .ok (c.result status.ok)
  else if target = "/swarms/push/v1" then
    match deserialize_messages c.request_.body with
    | [m] => .ok ((c.call (.process_push m)).result status.ok)
    | _ => .error (.abort "messages.size() == 1", c)
  else .ok c

/-- A push that `validate_snode_request` accepts but whose body does not hold exactly one message
fails the assertion `messages.size() == 1`: `assert` aborts the process. -/
theorem push_aborts_unless_one_message (env : Env) (c : connection_t)
    (hvalid : (validate_snode_request env c).1 = true)
    (hmsgs : (deserialize_messages c.request_.body).length ≠ 1) :
    ∃ c', process_swarm_req env "/swarms/push/v1" c = .error (.abort "messages.size() == 1", c') := by
  have hreq := validate_snode_request_request env c
  unfold process_swarm_req
  rcases hv : validate_snode_request env c with ⟨valid, c₁⟩
  simp only [hv] at hvalid hreq
  subst hvalid
  simp only [Bool.not_true, Bool.false_and, Bool.false_eq_true, reduceIte,
    show ("/swarms/push/v1" = "/swarms/push_batch/v1") = False by decide,
    show ("/swarms/push/v1" = "/swarms/storage_test/v1") = False by decide,
    show ("/swarms/push/v1" = "/swarms/blockchain_test/v1") = False by decide,
    show ("/swarms/push/v1" = "/swarms/ping_test/v1") = False by decide]
  split
  · rename_i m hm
    rw [connection_t.set_request, hreq] at hm
    simp [hm] at hmsgs
  · exact ⟨_, rfl⟩

theorem empty_push_aborts :
    ∃ c', process_swarm_req (Env.lenient .SUCCESS) "/swarms/push/v1"
      { connection_t.init 0 with request_ := ⟨.post, "/swarms/push/v1",
        [(ARQMA_SENDER_SNODE_PUBKEY_HEADER, "pk"), (ARQMA_SNODE_SIGNATURE_HEADER, "sig")], ""⟩ } =
      .error (.abort "messages.size() == 1", c') :=
  push_aborts_unless_one_message _ _ (by decide) (by decide)

end ArqmaStorage
