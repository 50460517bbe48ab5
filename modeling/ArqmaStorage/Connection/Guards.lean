import ArqmaStorage.Connection.Request

/-!
# Every `ServiceNode` operation runs under its guard

`process_request` reaches the `ServiceNode` along two roads. A peer's request goes through
`validate_snode_request`, so `process_push`, `process_push_batch`, `process_storage_test_req`
and `perform_blockchain_test` run only for a known service node whose signature over the body's
hash checks and who is not rate limited; the storage test is run for that very node. A client's
request goes through `process_client_req`, so `process_store`, `retrieve` and
`register_listener` run only for a client that is not rate limited, whose body decrypted under
its `X-Arqma-EphemKey`, and whose `pubKey` has the right length and belongs to this swarm;
`process_store` moreover only for a body within `MAX_MESSAGE_BODY`, a valid TTL and timestamp
and a proof of work. Every one of those calls needs the node to be ready, and a `POST` other than
`ping_test` to a node that is not ready is answered 503 and calls nothing
(`process_request_guarded`).

`CallsWithin P c o` says that the calls `o` made after those of `c` all satisfy `P`. Each
function gets one lemma of that form, and its callers cite the lemma.
-/

namespace ArqmaStorage

/-- The calls `o` made after those of `c` all satisfy `P`. -/
def CallsWithin (P : SnCall → Prop) (c : connection_t) (o : Outcome) : Prop :=
  ∃ new, o.conn.calls = c.calls ++ new ∧ ∀ x ∈ new, P x

namespace CallsWithin

variable {P Q : SnCall → Prop} {c c₁ : connection_t} {o : Outcome}

theorem of_calls (h : o.conn.calls = c.calls) : CallsWithin P c o :=
  ⟨[], by simp [h], by simp⟩

theorem call (h : c₁.calls = c.calls) {x : SnCall} (hx : P x) :
    CallsWithin P c (.ok (c₁.call x)) :=
  ⟨[x], by simp [h], by simpa using hx⟩

theorem trans (h₁ : CallsWithin P c (.ok c₁)) (h₂ : CallsWithin P c₁ o) : CallsWithin P c o := by
  obtain ⟨n₁, e₁, p₁⟩ := h₁
  obtain ⟨n₂, e₂, p₂⟩ := h₂
  refine ⟨n₁ ++ n₂, by simp_all, fun x hx => ?_⟩
  rcases List.mem_append.1 hx with hx | hx
  exacts [p₁ x hx, p₂ x hx]

theorem mono (h : CallsWithin P c o) (hPQ : ∀ x, P x → Q x) : CallsWithin Q c o :=
  let ⟨n, e, p⟩ := h
  ⟨n, e, fun x hx => hPQ x (p x hx)⟩

theorem lift_bind {α : Type} {x : Except Exn α} {f : α → Outcome}
    (h₁ : CallsWithin P c (.ok c₁)) (h : ∀ a, x = .ok a → CallsWithin P c (f a)) :
    CallsWithin P c (lift x c₁ >>= f) := by
  cases x with
  | error e => obtain ⟨n, e₁, p⟩ := h₁; exact ⟨n, e₁, p⟩
  | ok a => exact h a rfl

theorem try_catch {x : Outcome} {handler : Exn → connection_t → Outcome}
    (h₁ : CallsWithin P c x) (h : ∀ e c₁, (handler e c₁).conn.calls = c₁.calls) :
    CallsWithin P c (ArqmaStorage.try_catch x handler) := by
  obtain ⟨n, e₁, p⟩ := h₁
  rcases x with ⟨e, c₁⟩ | c₁
  · dsimp only [ArqmaStorage.try_catch]
    split_ifs
    · exact ⟨n, by rw [h]; exact e₁, p⟩
    · exact ⟨n, e₁, p⟩
  · exact ⟨n, e₁, p⟩

theorem bind {x : Outcome} {f : connection_t → Outcome} (h₁ : CallsWithin P c x)
    (h : ∀ c₁, x = .ok c₁ → CallsWithin P c (f c₁)) : CallsWithin P c (x >>= f) := by
  rcases x with ⟨e, c₁⟩ | c₁
  · exact h₁
  · exact h c₁ rfl

end CallsWithin

open CallsWithin

/-! ## Writing a response calls nothing -/

section Respond

variable (env : Env) (c : connection_t)

@[simp] theorem encrypt_response_calls : (encrypt_response env c).conn.calls = c.calls := by
  unfold encrypt_response
  split
  · rfl
  · split
    · rfl
    · split <;> rfl

@[simp] theorem write_response_calls : (write_response env c).conn.calls = c.calls := by
  simp only [write_response, Outcome.conn_bind]
  split <;> simp_all [← encrypt_response_calls env c]

@[simp] theorem respond_with_messages_calls (items : List Item) :
    (respond_with_messages env items c).conn.calls = c.calls := by
  simp only [respond_with_messages, conn_lift_bind]
  split <;> simp

@[simp] theorem handle_wrong_swarm_calls (pk : String) :
    (handle_wrong_swarm env pk c).conn.calls = c.calls := by
  simp only [handle_wrong_swarm, conn_lift_bind]
  split <;> simp

@[simp] theorem process_snodes_by_pk_calls (params : Json) :
    (process_snodes_by_pk env params c).conn.calls = c.calls := by
  unfold process_snodes_by_pk
  split
  · rfl
  · simp only [conn_lift_bind]
    split
    · split
      · rfl
      · simp only [conn_lift_bind]
        split <;> simp
    · rfl

end Respond

/-! ## Peers -/

/-- The sender `pk` passes `validate_snode_request` on request `r`: both signature headers are
there, the sender is a known service node, its signature over the body's hash checks, and it is
not rate limited. -/
def snode_verified (env : Env) (r : request_t) (pk : String) : Prop :=
  r.find ARQMA_SENDER_SNODE_PUBKEY_HEADER = some pk ∧
  (∃ signature, r.find ARQMA_SNODE_SIGNATURE_HEADER = some signature ∧
    env.check_signature signature (env.hash_data r.body) pk = true) ∧
  env.is_snode_address_known (pk ++ ".snode") = true ∧ env.should_rate_limit pk = false

theorem validate_snode_request_spec (env : Env) (c : connection_t) :
    (validate_snode_request env c).2.calls = c.calls ∧
    (validate_snode_request env c).2.request_ = c.request_ ∧
    ((validate_snode_request env c).1 = true → ∃ pk, snode_verified env c.request_ pk ∧
      (validate_snode_request env c).2.header_.lookup ARQMA_SENDER_SNODE_PUBKEY_HEADER =
        some pk) := by
  have hne : ARQMA_SENDER_SNODE_PUBKEY_HEADER ≠ ARQMA_SNODE_SIGNATURE_HEADER := by decide
  unfold validate_snode_request connection_t.parse_header
  cases hpk : c.request_.find ARQMA_SENDER_SNODE_PUBKEY_HEADER with
  | none => simp
  | some pk =>
    cases hsig : c.request_.find ARQMA_SNODE_SIGNATURE_HEADER with
    | none => simp [hpk, hsig]
    | some sig =>
      simp only [hpk, hsig, Bool.not_true, Bool.false_eq_true, reduceIte, lookup_header_insert,
        lookup_header_insert_ne _ _ hne, Option.getD_some, verify_signature]
      split_ifs with h1 h2 h3
      · simp
      · simp
      · simp
      · simp only [Bool.not_eq_true', Bool.not_eq_false, Bool.not_eq_true] at h1 h2 h3
        exact ⟨rfl, rfl, fun _ => ⟨pk, ⟨hpk, ⟨sig, hsig, h2⟩, h1, h3⟩, by
          rw [lookup_header_insert_ne _ _ hne, lookup_header_insert]⟩⟩

/-- What a peer's request may make the `ServiceNode` do on `target`: each operation of its own
target only, for a verified sender, and the storage test for that sender. -/
def swarm_guard (env : Env) (r : request_t) (target : String) : SnCall → Prop
  | .process_push m => target = "/swarms/push/v1" ∧ (∃ pk, snode_verified env r pk) ∧
      deserialize_messages r.body = [m]
  | .process_push_batch blob => target = "/swarms/push_batch/v1" ∧
      (∃ pk, snode_verified env r pk) ∧ blob = r.body
  | .process_storage_test_req _ tester_pk _ => target = "/swarms/storage_test/v1" ∧
      snode_verified env r tester_pk
  | .perform_blockchain_test _ => target = "/swarms/blockchain_test/v1" ∧
      ∃ pk, snode_verified env r pk
  | _ => False

theorem process_storage_test_req_calls (env : Env) (height : UInt64) (tester_pk msg_hash : String)
    (c : connection_t) :
    (process_storage_test_req env height tester_pk msg_hash c).conn.calls =
      c.calls ++ [.process_storage_test_req height tester_pk msg_hash] := by
  unfold process_storage_test_req
  obtain ⟨st, answer⟩ := env.process_storage_test_req height tester_pk msg_hash
  simp only
  split_ifs <;> simp only [conn_lift_bind, Outcome.conn_ok]
  · split <;> simp
  · rfl
  all_goals split <;> simp

theorem calls_storage_test {P : SnCall → Prop} {env : Env} {c c₁ : connection_t}
    {height : UInt64} {tester_pk msg_hash : String} (h : c₁.calls = c.calls)
    (hx : P (.process_storage_test_req height tester_pk msg_hash)) :
    CallsWithin P c (process_storage_test_req env height tester_pk msg_hash c₁) :=
  ⟨[.process_storage_test_req height tester_pk msg_hash],
    by rw [process_storage_test_req_calls, h], by simpa using hx⟩

theorem process_swarm_req_calls (env : Env) (target : String) (c : connection_t) :
    CallsWithin (swarm_guard env c.request_ target) c (process_swarm_req env target c) := by
  obtain ⟨hcalls, hreq, hvalid⟩ := validate_snode_request_spec env c
  unfold process_swarm_req
  generalize validate_snode_request env c = v at hcalls hreq hvalid
  obtain ⟨valid, c'⟩ := v
  simp only at hcalls hreq hvalid ⊢
  by_cases hgo : (!valid && target != "/swarms/ping_test/v1") = true
  · rw [if_pos hgo]
    exact of_calls hcalls
  · rw [if_neg hgo]
    have hv : target ≠ "/swarms/ping_test/v1" → ∃ pk, snode_verified env c.request_ pk ∧
        c'.header_.lookup ARQMA_SENDER_SNODE_PUBKEY_HEADER = some pk := fun hp =>
      hvalid (by simpa [hp] using hgo)
    split_ifs with h1 h2 h3 h4 h5
    · subst h1
      exact call (by simpa using hcalls) ⟨rfl, (hv (by decide)).imp fun _ h => h.1, by
        simp [hreq]⟩
    · subst h2
      obtain ⟨pk, hpk, hl⟩ := hv (by decide)
      split
      · exact of_calls (by simpa using hcalls)
      · split
        · exact of_calls (by simpa using hcalls)
        · split
          · rename_i tester_pk ht
            simp only [connection_t.set, connection_t.result] at ht
            rw [hl] at ht
            cases ht
            exact calls_storage_test (by simpa using hcalls) ⟨rfl, hpk⟩
          · exact of_calls (by simpa using hcalls)
    · subst h3
      obtain ⟨pk, hpk, -⟩ := hv (by decide)
      split
      · exact of_calls (by simpa using hcalls)
      · split
        · exact of_calls (by simpa using hcalls)
        · split
          · rename_i params _ _ _ _ _
            exact ⟨[.perform_blockchain_test params], by simp [process_blockchain_test_req, hcalls],
              by simpa using ⟨rfl, pk, hpk⟩⟩
          · exact of_calls (by simpa using hcalls)
    · exact of_calls (by simpa using hcalls)
    · subst h5
      split
      · rename_i m hm
        exact call (by simpa using hcalls) ⟨rfl, (hv (by decide)).imp fun _ h => h.1, by
          simpa [hreq] using hm⟩
      · exact of_calls (by simpa using hcalls)
    · exact of_calls (by simpa using hcalls)

/-! ## Clients -/

/-- The key checks of `store` and `retrieve` on `params`: `pubKey` is a string of
`get_user_pubkey_size()` bytes that belongs to this swarm. -/
def key_accepted (env : Env) (params : Json) (pk : String) : Prop :=
  params.index "pubKey" = .string pk ∧ size pk = get_user_pubkey_size env.is_mainnet ∧
    env.is_pubkey_for_us pk = true

/-- What `store` may make the `ServiceNode` do with `params`: store the message it describes,
once its key, length, TTL, timestamp and proof of work have passed. -/
def store_guard (env : Env) (params : Json) : SnCall → Prop
  | .process_store m => key_accepted env params m.pub_key ∧
      params.index "data" = .string m.data ∧ size m.data ≤ MAX_MESSAGE_BODY ∧
      params.index "nonce" = .string m.nonce ∧
      ∃ ttl timestamp, params.index "ttl" = .string ttl ∧
        params.index "timestamp" = .string timestamp ∧
        env.parseTTL ttl = some m.ttl ∧ env.parseTimestamp timestamp m.ttl = some m.timestamp ∧
        env.checkPoW m.nonce timestamp ttl m.pub_key m.data env.get_curr_pow_difficulty =
          (true, m.hash)
  | _ => False

/-- What `retrieve` may make the `ServiceNode` do with `params`. -/
def retrieve_guard (env : Env) (params : Json) : SnCall → Prop
  | .bump_retrieve_requests => True
  | .retrieve pk last_hash => key_accepted env params pk ∧
      params.index "lastHash" = .string last_hash
  | .register_listener pk => key_accepted env params pk
  | _ => False

theorem store_checked_calls {env : Env} {params : Json} {pk ttl nonce timestamp data : String}
    (c : connection_t) (hk : key_accepted env params pk)
    (hdata : params.index "data" = .string data) (hsize : size data ≤ MAX_MESSAGE_BODY)
    (hnonce : params.index "nonce" = .string nonce) (httl : params.index "ttl" = .string ttl)
    (hts : params.index "timestamp" = .string timestamp) :
    CallsWithin (store_guard env params) c (store_checked env pk ttl nonce timestamp data c) := by
  unfold store_checked
  split
  · exact of_calls rfl
  rename_i ttlInt hTTL
  split
  · exact of_calls rfl
  rename_i timestampInt hTS
  rcases hpow : env.checkPoW nonce timestamp ttl pk data env.get_curr_pow_difficulty with
    ⟨_ | _, messageHash⟩
  · exact of_calls (by simp only [Bool.not_false, reduceIte, conn_lift_bind]; split <;> rfl)
  · refine ⟨[.process_store ⟨pk, data, messageHash, ttlInt, timestampInt, nonce⟩], ?_,
      by simpa using ⟨hk, hdata, hsize, hnonce, ttl, timestamp, httl, hts, hTTL, hTS, hpow⟩⟩
    simp only [Bool.not_true, Bool.false_eq_true, reduceIte]
    split <;> (try split_ifs) <;> simp only [conn_lift_bind, Outcome.conn_ok, Outcome.conn_error] <;>
      (repeat' split) <;> simp

theorem process_store_calls (env : Env) (params : Json) (c : connection_t) :
    CallsWithin (store_guard env params) c (process_store env params c) := by
  unfold process_store
  split
  · exact of_calls rfl
  · refine lift_bind (of_calls rfl) fun ttl httl => lift_bind (of_calls rfl) fun nonce hnonce =>
      lift_bind (of_calls rfl) fun timestamp hts => lift_bind (of_calls rfl) fun data hdata =>
      lift_bind (of_calls rfl) fun pk hpk => ?_
    split_ifs with hsz hbody hus
    · exact of_calls rfl
    · exact of_calls rfl
    · exact of_calls (handle_wrong_swarm_calls env c pk)
    · exact store_checked_calls c ⟨Json.get_string_eq_ok.1 hpk, not_not.1 hsz, by simpa using hus⟩
        (Json.get_string_eq_ok.1 hdata) (not_lt.1 hbody) (Json.get_string_eq_ok.1 hnonce)
        (Json.get_string_eq_ok.1 httl) (Json.get_string_eq_ok.1 hts)

theorem poll_db_calls (env : Env) (pk last_hash : String) (c : connection_t) :
    CallsWithin (fun x => x = .retrieve pk last_hash ∨ x = .register_listener pk) c
      (poll_db env pk last_hash c) := by
  have base : CallsWithin (fun x => x = .retrieve pk last_hash ∨ x = .register_listener pk) c
      (.ok (c.call (.retrieve pk last_hash))) := call rfl (.inl rfl)
  unfold poll_db
  refine base.trans ?_
  split
  · exact of_calls (by simp only [conn_lift_bind]; split <;> rfl)
  · have hwait : CallsWithin (fun x => x = .retrieve pk last_hash ∨ x = .register_listener pk)
        (c.call (.retrieve pk last_hash))
        (.ok (wait_for_notification pk (c.call (.retrieve pk last_hash)))) :=
      ⟨[.register_listener pk], by simp [wait_for_notification], by simp⟩
    split_ifs
    · exact of_calls (by simp only [conn_lift_bind, pure_bind]; split <;> simp_all)
    · simp only [pure_bind]
      split_ifs
      exacts [hwait, of_calls (by simp)]

theorem process_retrieve_calls (env : Env) (params : Json) (c : connection_t) :
    CallsWithin (retrieve_guard env params) c (process_retrieve env params c) := by
  unfold process_retrieve
  refine (@call _ c c rfl .bump_retrieve_requests trivial).trans ?_
  split
  · exact of_calls rfl
  · refine lift_bind (of_calls rfl) fun pk hpk => ?_
    split_ifs with hsz hus
    · exact of_calls rfl
    · exact of_calls (handle_wrong_swarm_calls env _ pk)
    · have hk : key_accepted env params pk :=
        ⟨Json.get_string_eq_ok.1 hpk, not_not.1 hsz, by simpa using hus⟩
      refine lift_bind (of_calls rfl) fun last_hash hlh => ?_
      refine (poll_db_calls env pk last_hash _).mono ?_
      rintro x (rfl | rfl)
      exacts [⟨hk, Json.get_string_eq_ok.1 hlh⟩, hk]

/-- What a client's `method` may make the `ServiceNode` do with `params`. -/
def method_guard (env : Env) (method_name : String) (params : Json) (x : SnCall) : Prop :=
  method_name = "store" ∧ store_guard env params x ∨
    method_name = "retrieve" ∧ retrieve_guard env params x

theorem dispatch_method_calls (env : Env) (method_name : String) (params : Json)
    (c : connection_t) :
    CallsWithin (method_guard env method_name params) c
      (dispatch_method env method_name params c) := by
  unfold dispatch_method
  split_ifs with hs hr
  · exact (process_store_calls env params c).mono fun x hx => .inl ⟨hs, hx⟩
  · exact (process_retrieve_calls env params c).mono fun x hx => .inr ⟨hr, hx⟩
  · exact of_calls (process_snodes_by_pk_calls env c params)
  · exact of_calls rfl

/-- What a client's request `r` may make the `ServiceNode` do: the client is not rate limited,
and the body decrypted under its `X-Arqma-EphemKey` names a method and its parameters, under
whose guard the call is. -/
def client_guard (env : Env) (r : request_t) (x : SnCall) : Prop :=
  ∃ ip key plain_text body method_name kvs, env.remote_address = .ok ip ∧
    env.should_rate_limit_client ip = false ∧ r.find ARQMA_EPHEMKEY_HEADER = some key ∧
    env.decrypt (env.base64_decode r.body) key = .ok plain_text ∧
    env.parse plain_text = some body ∧ body.find "method" = some (.string method_name) ∧
    body.find "params" = some (.object kvs) ∧ method_guard env method_name (.object kvs) x

theorem process_client_req_calls (env : Env) (c : connection_t) :
    CallsWithin (client_guard env c.request_) c (process_client_req env c) := by
  unfold process_client_req
  refine lift_bind (of_calls rfl) fun ip hip => ?_
  split_ifs with hrl
  · exact of_calls rfl
  unfold connection_t.parse_header
  cases hkey : c.request_.find ARQMA_EPHEMKEY_HEADER with
  | none => exact of_calls rfl
  | some key =>
    simp only [Bool.not_true, Bool.false_eq_true, reduceIte, lookup_header_insert,
      Option.getD_some]
    split
    · split_ifs <;> exact of_calls rfl
    · rename_i plain_text hplain
      unfold process_plain_text
      split
      · exact of_calls rfl
      · rename_i body hbody
        split
        · rename_i method_name hm
          split
          · rename_i kvs hp
            refine (dispatch_method_calls env method_name _ _).mono fun x hx =>
              ⟨ip, key, plain_text, body, method_name, kvs, hip, by simpa using hrl, hkey, hplain,
                hbody, hm, hp, hx⟩
          · exact of_calls rfl
        · exact of_calls rfl

/-! ## `process_request` -/

theorem on_get_logs_calls (env : Env) (c : connection_t) :
    (on_get_logs env c).conn.calls = c.calls := by
  unfold on_get_logs
  split_ifs
  · rfl
  · split
    · rfl
    · simp only [conn_lift_bind]
      split <;> rfl

theorem swarm_guard_ping {env : Env} {r : request_t} {x : SnCall} :
    ¬swarm_guard env r "/swarms/ping_test/v1" x := by
  cases x <;> simp [swarm_guard]

/-- What request `r` may make the `ServiceNode` do: nothing unless the node is ready and `r` is a
`POST`, then a client's operations on `/storage_rpc/v1` and a peer's on its own target. -/
def request_guard (env : Env) (r : request_t) (x : SnCall) : Prop :=
  env.snode_ready = true ∧ r.method = .post ∧
    (r.target = "/storage_rpc/v1" ∧ client_guard env r x ∨ swarm_guard env r r.target x)

theorem process_request_calls (env : Env) (c : connection_t) :
    CallsWithin (request_guard env c.request_) c (process_request env c) := by
  unfold process_request
  dsimp only
  split
  · rename_i hpost
    split_ifs with hping hready hrpc hswarm
    · simp only [connection_t.result_request] at hping
      exact (process_swarm_req_calls env _ _).mono fun x hx => absurd (hping ▸ hx) swarm_guard_ping
    · exact of_calls rfl
    · refine (CallsWithin.try_catch (process_client_req_calls env _) ?_).mono
        fun x hx => ⟨by simpa using hready, hpost, .inl ⟨hrpc, hx⟩⟩
      exact fun _ _ => rfl
    · exact (process_swarm_req_calls env _ _).mono fun x hx =>
        ⟨by simpa using hready, hpost, .inr hx⟩
    · exact of_calls rfl
  · split_ifs
    · exact of_calls rfl
    · exact of_calls (on_get_logs_calls env _)
    · exact of_calls rfl
  · exact of_calls rfl

/-- **`process_request` calls a state-changing `ServiceNode` operation only under its guard.**
A `POST` other than `ping_test` to a node that is not ready is answered 503 and calls nothing;
every call needs a ready node and a `POST`; a peer's operations need `validate_snode_request`
to pass, and the storage test is run for the verified sender; a client's operations need the
client not to be rate limited, its body to decrypt, and its key to pass the checks of the
method, which for `store` include the body's length, the TTL, the timestamp and the proof of
work. -/
theorem process_request_guarded (env : Env) (c : connection_t) :
    (c.request_.method = .post → c.request_.target ≠ "/swarms/ping_test/v1" →
      env.snode_ready = false →
      ∃ c', process_request env c = .ok c' ∧
        c'.response_.result = status.service_unavailable ∧ c'.calls = c.calls) ∧
    CallsWithin (request_guard env c.request_) c (process_request env c) := by
  refine ⟨fun hpost hping hready => ?_, process_request_calls env c⟩
  simp only [process_request, connection_t.result_request, hpost, hping, hready, reduceIte,
    Bool.not_false]
  exact ⟨_, rfl, rfl, rfl⟩

end ArqmaStorage
