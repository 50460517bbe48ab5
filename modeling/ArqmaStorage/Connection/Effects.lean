import ArqmaStorage.Connection.Lifecycle

/-!
# What each handler does to the lifecycle state

The run invariants of a connection read little of it: whether the response is delayed, the
storage-test retry state (`repetition_count_`, `start_timestamp_`, `repeat_timer_`), the clock, the
pending handlers that can write a response (the read, the repeat timer, the long-poll timer, the
blockchain-test callback), the writes made, the storage tests called, and the long-poll
listeners registered and removed. `sched c` is that part.

Most of request processing fills the response and leaves `sched` alone. The rest is said once
per function here: a write adds one write (`wrote`), `poll_db` may register a listener and arm
the long-poll timer, `process_storage_test_req` calls the storage test and may arm a retry, and
`process_blockchain_test_req` leaves the callback pending. `process_request_sched` sums them up
in `request_effect`. `clean_up` removes the listener of `notification_ctx_` (`left`), and the
long-poll timer's handler removes its listener once it has answered, so `sched_step` says
whether the handler returned.
-/

namespace ArqmaStorage

/-- Whether a call is `process_storage_test_req`. -/
def SnCall.is_storage_test : SnCall → Bool
  | .process_storage_test_req .. => true
  | _ => false

/-- Whether a call registers or removes a long-poll listener. -/
def SnCall.is_listener : SnCall → Bool
  | .register_listener _ | .remove_listener _ => true
  | _ => false

/-- The part of a connection the lifecycle invariants read. -/
structure sched_t where
  delay_response_ : Bool
  repetition_count_ : Nat
  start_timestamp_ : Nat
  clock : Nat
  handshake_pending : Bool
  read_pending : Bool
  writes : Nat
  repeat_timer_ : Option repeat_wait_t
  notification_timer : Option (timer_wait_t × String)
  bc_callback_pending : Bool
  /-- The `process_storage_test_req` calls made. -/
  storage_tests : Nat
  /-- The recipient of `notification_ctx_`, whose listener `clean_up` removes. -/
  listening : Option String
  /-- The `register_listener` and `remove_listener` calls made. -/
  listener_calls : List SnCall
  deriving DecidableEq

/-- One more write. -/
@[simps] def sched_t.wrote (s : sched_t) : sched_t := { s with writes := s.writes + 1 }

/-- One more `remove_listener(pk)`. -/
@[simps] def sched_t.removed (s : sched_t) (pk : String) : sched_t :=
  { s with listener_calls := s.listener_calls ++ [.remove_listener pk] }

/-- What `clean_up` does: remove the listener of `notification_ctx_`, if there is one. -/
@[simps] def sched_t.left (s : sched_t) : sched_t :=
  { s with listener_calls := s.listener_calls ++ (s.listening.map .remove_listener).toList }

namespace connection_t

variable (c : connection_t)

def sched : sched_t :=
  ⟨c.delay_response_, c.repetition_count_, c.start_timestamp_, c.clock, c.handshake_pending,
    c.read_pending, c.writes, c.repeat_timer_, c.notification_timer, c.bc_callback_pending,
    c.calls.countP SnCall.is_storage_test, c.notification_ctx_.map notification_context_t.pubkey,
    c.calls.filter SnCall.is_listener⟩

@[simp] theorem out_sched (s : String) : (c.out s).sched = c.sched := rfl
@[simp] theorem result_sched (n : Nat) : (c.result n).sched = c.sched := rfl
@[simp] theorem set_sched (n v : String) : (c.set n v).sched = c.sched := rfl
@[simp] theorem with_body_sched (s : String) : (c.with_body s).sched = c.sched := rfl
@[simp] theorem async_write_sched : c.async_write.sched = c.sched.wrote := rfl

@[simp] theorem parse_header_sched (key : String) : (c.parse_header key).2.sched = c.sched := by
  unfold parse_header; split <;> rfl

theorem call_sched {x : SnCall} (h : x.is_storage_test = false) (h' : x.is_listener = false) :
    (c.call x).sched = c.sched := by
  simp [sched, call, List.countP_append, h, h']

@[simp] theorem call_storage_test_sched (height : UInt64) (tester_pk msg_hash : String) :
    (c.call (.process_storage_test_req height tester_pk msg_hash)).sched =
      { c.sched with storage_tests := c.sched.storage_tests + 1 } := by
  simp [sched, call, List.countP_append, SnCall.is_storage_test, SnCall.is_listener]

@[simp] theorem clean_up_sched : c.clean_up.sched = c.sched.left := by
  rw [clean_up_eq]
  rcases h : c.notification_ctx_ with _ | ctx <;>
    simp [sched, sched_t.left, SnCall.is_storage_test, SnCall.is_listener, h]

@[simp] theorem cancel_deadline_sched : c.cancel_deadline.sched = c.sched := by
  unfold cancel_deadline; split <;> rfl

@[simp] theorem delay_sched :
    ({ c with delay_response_ := true }).sched = { c.sched with delay_response_ := true } := rfl

end connection_t

open connection_t

/-! ## Responding -/

section Respond

variable (env : Env) (c : connection_t)

@[simp] theorem encrypt_response_sched : (encrypt_response env c).conn.sched = c.sched := by
  unfold encrypt_response
  repeat' split
  all_goals simp only [Outcome.conn_ok, Outcome.conn_error, set_sched, with_body_sched, out_sched,
    result_sched]

theorem write_response_sched :
    (write_response env c).conn.sched = c.sched ∨ (write_response env c).conn.sched = c.sched.wrote := by
  simp only [write_response, Outcome.conn_bind]
  split
  · rename_i c₁ h
    have := encrypt_response_sched env c
    rw [h] at this
    exact .inr (by simp_all)
  · rename_i c₁ h
    have := encrypt_response_sched env c
    rw [h] at this
    exact .inl this

theorem respond_with_messages_sched (items : List Item) :
    (respond_with_messages env items c).conn.sched = c.sched ∨
      (respond_with_messages env items c).conn.sched = c.sched.wrote := by
  simp only [respond_with_messages, conn_lift_bind]
  split
  · simpa using write_response_sched env _
  · exact .inl rfl

@[simp] theorem handle_wrong_swarm_sched (pk : String) :
    (handle_wrong_swarm env pk c).conn.sched = c.sched := by
  simp only [handle_wrong_swarm, conn_lift_bind]
  split <;> rfl

@[simp] theorem process_snodes_by_pk_sched (params : Json) :
    (process_snodes_by_pk env params c).conn.sched = c.sched := by
  unfold process_snodes_by_pk
  split
  · rfl
  · simp only [conn_lift_bind]
    split
    · split
      · rfl
      · simp only [conn_lift_bind]
        split <;> rfl
    · rfl

@[simp] theorem bad_pubkey_sched (what : String) : (bad_pubkey env what c).sched = c.sched := rfl
@[simp] theorem no_field_sched (field : String) : (no_field field c).sched = c.sched := rfl

end Respond

/-! ## Clients -/

section Client

variable (env : Env) (c : connection_t)

@[simp] theorem store_checked_sched (pk ttl nonce timestamp data : String) :
    (store_checked env pk ttl nonce timestamp data c).conn.sched = c.sched := by
  have hc : ∀ m, (c.call (.process_store m)).sched = c.sched := fun _ => call_sched _ rfl rfl
  unfold store_checked
  split
  · rfl
  split
  · rfl
  obtain ⟨_ | _, messageHash⟩ := env.checkPoW nonce timestamp ttl pk data env.get_curr_pow_difficulty
  · simp only [Bool.not_false, reduceIte, conn_lift_bind]
    split <;> rfl
  · simp only [Bool.not_true, Bool.false_eq_true, reduceIte]
    split <;> (try split_ifs) <;> simp only [conn_lift_bind, Outcome.conn_ok, Outcome.conn_error] <;>
      (repeat' split) <;> simp [hc]

@[simp] theorem process_store_sched (params : Json) :
    (process_store env params c).conn.sched = c.sched := by
  unfold process_store
  split
  · rfl
  · simp only [conn_lift_bind]
    repeat' split
    all_goals simp

/-- What `poll_db` may do from `s`: nothing, write the messages, or register a listener and arm
the long-poll timer. -/
def poll_effect (s s' : sched_t) : Prop :=
  s' = s ∨ s' = s.wrote ∨
    ∃ pk, s' = { s with
      notification_timer := some (⟨s.clock + LONG_POLL_TIMEOUT, .waiting⟩, pk),
      listening := some pk, listener_calls := s.listener_calls ++ [.register_listener pk] }

theorem poll_db_sched (pk last_hash : String) :
    poll_effect c.sched (poll_db env pk last_hash c).conn.sched := by
  have hc : (c.call (.retrieve pk last_hash)).sched = c.sched := call_sched _ rfl rfl
  have hrespond : ∀ items, poll_effect c.sched
      (respond_with_messages env items (c.call (.retrieve pk last_hash))).conn.sched := fun items =>
    (respond_with_messages_sched env _ items).imp (fun h => h.trans hc)
      fun h => .inl (h.trans (by rw [hc]))
  unfold poll_db
  split
  · exact .inl (by simp only [conn_lift_bind]; split <;> exact hc)
  · split_ifs
    · simp only [conn_lift_bind, pure_bind]
      split
      · simp_all
      · exact .inl hc
    · simp only [pure_bind]
      split_ifs
      · exact .inr (.inr ⟨pk, by simp [wait_for_notification, sched, call, List.countP_append,
          SnCall.is_storage_test, SnCall.is_listener]⟩)
      · exact hrespond _

theorem process_retrieve_sched (params : Json) :
    (process_retrieve env params c).conn.sched = c.sched ∨
      poll_effect { c.sched with delay_response_ := true }
        (process_retrieve env params c).conn.sched := by
  have hc : (c.call .bump_retrieve_requests).sched = c.sched := call_sched _ rfl rfl
  have hpoll : ∀ pk last_hash, poll_effect { c.sched with delay_response_ := true }
      (poll_db env pk last_hash { c.call .bump_retrieve_requests with delay_response_ := true }).conn.sched :=
    fun pk last_hash => by
      simpa only [delay_sched, hc] using poll_db_sched env
        { c.call .bump_retrieve_requests with delay_response_ := true } pk last_hash
  unfold process_retrieve
  split
  · exact .inl hc
  · simp only [conn_lift_bind]
    split
    · split_ifs
      · exact .inl hc
      · exact .inl (by simpa using hc)
      · simp only [conn_lift_bind]
        split
        · exact .inr (hpoll _ _)
        · exact .inl hc
    · exact .inl hc

theorem process_plain_text_sched (plain_text : String) :
    (process_plain_text env plain_text c).conn.sched = c.sched ∨
      poll_effect { c.sched with delay_response_ := true }
        (process_plain_text env plain_text c).conn.sched := by
  unfold process_plain_text
  split
  · exact .inl rfl
  · split
    · split
      · unfold dispatch_method
        split_ifs
        · exact .inl (process_store_sched env c _)
        · exact process_retrieve_sched env c _
        · exact .inl (process_snodes_by_pk_sched env c _)
        · exact .inl rfl
      · exact .inl rfl
    · exact .inl rfl

theorem process_client_req_sched :
    (process_client_req env c).conn.sched = c.sched ∨
      poll_effect { c.sched with delay_response_ := true } (process_client_req env c).conn.sched := by
  have h₁ := parse_header_sched c ARQMA_EPHEMKEY_HEADER
  unfold process_client_req
  simp only [conn_lift_bind]
  split
  · split_ifs
    · exact .inl rfl
    · exact .inl h₁
    · generalize (c.parse_header ARQMA_EPHEMKEY_HEADER).2 = c₁ at h₁ ⊢
      split
      · split_ifs <;> exact .inl h₁
      · rw [← h₁]
        exact process_plain_text_sched env c₁ _
  · exact .inl rfl

end Client

/-! ## Peers -/

section Swarm

variable (env : Env) (c : connection_t)

/-- What one `process_storage_test_req` may do from `s`: call the storage test, then answer
without writing, delay and write the answer, or, within a minute of the start, delay and arm a
retry 50 ms on. -/
def storage_test_effect (s s' : sched_t) : Prop :=
  let s₁ := { s with storage_tests := s.storage_tests + 1 }
  s' = s₁ ∨ s' = { s₁ with delay_response_ := true } ∨ s' = { s₁ with delay_response_ := true }.wrote ∨
    s.clock - s.start_timestamp_ < ONE_MINUTE ∧ ∃ w : repeat_wait_t,
      w.wait = ⟨s.clock + TEST_RETRY_PERIOD, .waiting⟩ ∧
      s' = { s₁ with delay_response_ := true, repetition_count_ := s.repetition_count_ + 1,
                     repeat_timer_ := some w }

theorem process_storage_test_req_sched (height : UInt64) (tester_pk msg_hash : String) :
    storage_test_effect c.sched (process_storage_test_req env height tester_pk msg_hash c).conn.sched := by
  unfold process_storage_test_req
  obtain ⟨st, answer⟩ := env.process_storage_test_req height tester_pk msg_hash
  simp only
  split_ifs with h1 h2 h3
  · simp only [conn_lift_bind]
    split
    · rcases write_response_sched env (((({ c.call (.process_storage_test_req height tester_pk
        msg_hash) with delay_response_ := true }).out _).result status.ok)) with h | h <;> rw [h]
      · exact .inr (.inl (by simp [connection_t.sched, connection_t.call, connection_t.out,
          connection_t.result, List.countP_append, SnCall.is_storage_test, SnCall.is_listener]))
      · exact .inr (.inr (.inl (by simp [connection_t.sched, connection_t.call, connection_t.out,
          connection_t.result, List.countP_append, SnCall.is_storage_test, SnCall.is_listener,
          sched_t.wrote])))
    · exact .inr (.inl (by simp [connection_t.sched, connection_t.call, List.countP_append,
          SnCall.is_storage_test, SnCall.is_listener]))
  · exact .inr (.inr (.inr ⟨by simpa [connection_t.call] using h2.2,
      ⟨⟨c.clock + TEST_RETRY_PERIOD, .waiting⟩, height, tester_pk, msg_hash⟩, rfl, by
      simp [arm_retry, connection_t.sched, connection_t.call, List.countP_append,
        SnCall.is_storage_test, SnCall.is_listener]⟩))
  · exact .inl (by simp only [conn_lift_bind]; split <;> simp)
  · exact .inl (by simp only [conn_lift_bind]; split <;> simp)

@[simp] theorem validate_snode_request_sched : (validate_snode_request env c).2.sched = c.sched := by
  unfold validate_snode_request connection_t.parse_header
  cases c.request_.find ARQMA_SENDER_SNODE_PUBKEY_HEADER with
  | none => rfl
  | some pk =>
    cases hsig : c.request_.find ARQMA_SNODE_SIGNATURE_HEADER with
    | none => simp only [hsig]; rfl
    | some sig =>
      simp only [hsig, Bool.not_true, Bool.false_eq_true, reduceIte]
      split_ifs <;> rfl

@[simp] theorem process_blockchain_test_req_sched (params : bc_test_params_t) :
    (process_blockchain_test_req params c).sched = { c.sched with bc_callback_pending := true } := by
  simp [process_blockchain_test_req, connection_t.sched, connection_t.call, List.countP_append,
    SnCall.is_storage_test, SnCall.is_listener]

theorem process_swarm_req_sched (target : String) :
    (process_swarm_req env target c).conn.sched = c.sched ∨
      storage_test_effect c.sched (process_swarm_req env target c).conn.sched ∨
      (process_swarm_req env target c).conn.sched =
        { c.sched with delay_response_ := true, bc_callback_pending := true } := by
  have hv := validate_snode_request_sched env c
  have hst : ∀ height tester_pk msg_hash (c₁ : connection_t), c₁.sched = c.sched →
      storage_test_effect c.sched
        (process_storage_test_req env height tester_pk msg_hash c₁).conn.sched :=
    fun height tester_pk msg_hash c₁ h => h ▸ process_storage_test_req_sched env c₁ height tester_pk
      msg_hash
  have hpush : ∀ (c₁ : connection_t) m, (c₁.call (.process_push m)).sched = c₁.sched :=
    fun c₁ _ => call_sched c₁ rfl rfl
  have hpush_batch : ∀ (c₁ : connection_t) b, (c₁.call (.process_push_batch b)).sched = c₁.sched :=
    fun c₁ _ => call_sched c₁ rfl rfl
  unfold process_swarm_req
  generalize validate_snode_request env c = v at hv
  obtain ⟨valid, c'⟩ := v
  simp only at hv ⊢
  repeat' split
  all_goals first
    | exact .inl (by simpa [hpush, hpush_batch] using hv)
    | (refine .inr (.inr ?_)
       simp only [connection_t.sched, sched_t.mk.injEq] at hv
       simp [connection_t.sched, connection_t.set, connection_t.result, connection_t.call,
         List.countP_append, SnCall.is_storage_test, SnCall.is_listener,
         process_blockchain_test_req, hv]
       done)
    | exact .inr (.inl (hst _ _ _ _ (by simpa using hv)))

end Swarm

/-! ## `process_request` and `on_request` -/

/-- What `process_request` may do from `s`: fill the response only, run a storage test, leave
the blockchain-test callback pending, or delay the response and poll the database. -/
inductive request_effect (s : sched_t) : sched_t → Prop
  | unchanged : request_effect s s
  | storage_test {s' : sched_t} : storage_test_effect s s' → request_effect s s'
  | blockchain_test :
      request_effect s { s with delay_response_ := true, bc_callback_pending := true }
  | retrieve {s' : sched_t} : poll_effect { s with delay_response_ := true } s' → request_effect s s'

section Request

variable (env : Env) (c : connection_t)

@[simp] theorem on_get_logs_sched : (on_get_logs env c).conn.sched = c.sched := by
  unfold on_get_logs
  split_ifs
  · rfl
  · split
    · rfl
    · simp only [conn_lift_bind]
      split <;> rfl

theorem try_catch_sched (o : Outcome) (handler : Exn → connection_t → Outcome)
    (h : ∀ e c₁, (handler e c₁).conn.sched = c₁.sched) :
    (try_catch o handler).conn.sched = o.conn.sched := by
  rcases o with ⟨e, c₁⟩ | c₁
  · dsimp only [try_catch]
    split_ifs
    · exact h e c₁
    · rfl
  · rfl

theorem process_request_sched : request_effect c.sched (process_request env c).conn.sched := by
  have hswarm : ∀ target, request_effect c.sched
      (process_swarm_req env target (c.result status.internal_server_error)).conn.sched := by
    intro target
    rcases process_swarm_req_sched env (c.result status.internal_server_error) target with h | h | h
    · exact h ▸ .unchanged
    · exact .storage_test h
    · exact h ▸ .blockchain_test
  unfold process_request
  dsimp only
  split
  · split_ifs
    · exact hswarm _
    · exact .unchanged
    · rw [try_catch_sched]
      swap
      · exact fun _ _ => rfl
      rcases process_client_req_sched env (c.result status.internal_server_error) with h | h
      · exact h ▸ .unchanged
      · exact .retrieve h
    · exact hswarm _
    · exact .unchanged
  · split_ifs
    · exact .unchanged
    · exact (on_get_logs_sched env _).symm ▸ .unchanged
    · exact .unchanged
  · exact .unchanged

theorem on_request_sched : ∃ s₁, request_effect c.sched s₁ ∧
    ((on_request env c).conn.sched = s₁ ∨
      s₁.delay_response_ = false ∧ (on_request env c).conn.sched = s₁.wrote) := by
  refine ⟨(process_request env c).conn.sched, process_request_sched env c, ?_⟩
  have hcatch := try_catch_sched (process_request env c) (fun e c => .ok (c.out e.what))
    fun _ _ => rfl
  unfold on_request
  rw [Outcome.conn_bind, ← hcatch]
  generalize try_catch (process_request env c) (fun e c => .ok (c.out e.what)) = o
  rcases o with ⟨e, c₁⟩ | c₁
  · exact .inl rfl
  · dsimp only
    split_ifs with hd
    · rcases write_response_sched env c₁ with h | h
      · exact .inl h
      · exact .inr ⟨by simpa [connection_t.sched] using hd, h⟩
    · exact .inl rfl

end Request

theorem on_notification_timer_sched (env : Env) (aborted : Bool) (pk : String) (c : connection_t) :
    ∃ s₁, (s₁ = c.sched ∨ s₁ = c.sched.wrote) ∧
      ((on_notification_timer env aborted pk c).conn.sched = s₁.removed pk ∨
        (on_notification_timer env aborted pk c).isOk = false ∧
          (on_notification_timer env aborted pk c).conn.sched = s₁) := by
  suffices key : ∀ r : Outcome, (r.conn.sched = c.sched ∨ r.conn.sched = c.sched.wrote) →
      ∃ s₁, (s₁ = c.sched ∨ s₁ = c.sched.wrote) ∧
        ((Outcome.conn (r >>= fun c₁ => .ok (c₁.call (.remove_listener pk)))).sched = s₁.removed pk ∨
          (r >>= fun c₁ => .ok (c₁.call (.remove_listener pk))).isOk = false ∧
            (Outcome.conn (r >>= fun c₁ => .ok (c₁.call (.remove_listener pk)))).sched = s₁) from
    key _ (respond_with_messages_sched env c _)
  rintro (⟨x, c₁⟩ | c₁) h
  · exact ⟨c₁.sched, h, .inr ⟨rfl, rfl⟩⟩
  · refine ⟨c₁.sched, h, .inl ?_⟩
    show (c₁.call (.remove_listener pk)).sched = c₁.sched.removed pk
    simp [connection_t.sched, connection_t.call, List.countP_append, SnCall.is_storage_test,
      SnCall.is_listener, sched_t.removed]

/-! ## One step -/

/-- What one completion handler may do to `sched`; `ok` says whether it returned. -/
inductive sched_step (ok : Bool) (s : sched_t) : sched_t → Prop
  | idle : sched_step ok s s
  | handshake_ok : s.handshake_pending = true →
      sched_step ok s { s with handshake_pending := false, read_pending := true }
  | handshake_failed : s.handshake_pending = true →
      sched_step ok s { s with handshake_pending := false }.left
  | read_failed : s.read_pending = true → sched_step ok s { s with read_pending := false }.left
  | request {s₁ s' : sched_t} : s.read_pending = true →
      request_effect { s with read_pending := false } s₁ →
      (s' = s₁ ∨ s₁.delay_response_ = false ∧ s' = s₁.wrote) → sched_step ok s s'
  | clean_up : sched_step ok s s.left
  | repeat_expiry (w : repeat_wait_t) : s.repeat_timer_ = some w → w.wait.state = .waiting →
      w.wait.expiry ≤ s.clock →
      sched_step ok s
        { s with repeat_timer_ := some { w with wait := { w.wait with state := .expired } } }
  | repeat_aborted (w : repeat_wait_t) : s.repeat_timer_ = some w → w.wait.state = .aborted →
      sched_step ok s { s with repeat_timer_ := none }
  | repeat_expired (w : repeat_wait_t) {s' : sched_t} : s.repeat_timer_ = some w →
      w.wait.state = .expired → storage_test_effect { s with repeat_timer_ := none } s' →
      sched_step ok s s'
  | notification_expiry (w : timer_wait_t) (pk : String) :
      s.notification_timer = some (w, pk) → w.state = .waiting → w.expiry ≤ s.clock →
      sched_step ok s { s with notification_timer := some ({ w with state := .expired }, pk) }
  | notification (w : timer_wait_t) (pk : String) {s₁ s' : sched_t} :
      s.notification_timer = some (w, pk) → w.state ≠ .waiting →
      (s₁ = { s with notification_timer := none } ∨
        s₁ = { s with notification_timer := none }.wrote) →
      (s' = s₁.removed pk ∨ ok = false ∧ s' = s₁) → sched_step ok s s'
  | blockchain_answer {s' : sched_t} : s.bc_callback_pending = true →
      (s' = { s with bc_callback_pending := false } ∨
        s' = { s with bc_callback_pending := false }.wrote) → sched_step ok s s'
  | notify (w : timer_wait_t) (pk : String) : s.notification_timer = some (w, pk) →
      w.state = .waiting →
      sched_step ok s { s with notification_timer := some ({ w with state := .aborted }, pk) }
  | tick (t : Nat) : s.clock ≤ t → sched_step ok s { s with clock := t }

theorem sched_step.of_eq {ok : Bool} {s s' : sched_t} (h : s' = s) : sched_step ok s s' :=
  h ▸ .idle

section Step

variable {c : connection_t} {e : Event} {o : Outcome}

theorem step_sched (h : step c e = some o) : sched_step o.isOk c.sched o.conn.sched := by
  cases e with
  | handshake ok =>
    simp only [step, Option.ite_none_right_eq_some, Option.some.injEq] at h
    obtain ⟨hp, rfl⟩ := h
    cases ok
    · have hs : (on_handshake false { c with handshake_pending := false }).sched =
          { c.sched with handshake_pending := false }.left := by
        simp only [on_handshake, Bool.not_false, reduceIte, cancel_deadline_sched, clean_up_sched]
        rfl
      rw [Outcome.conn_ok, hs]
      exact .handshake_failed hp
    · exact .handshake_ok hp
  | read ok req env =>
    simp only [step, Option.ite_none_right_eq_some, Option.some.injEq] at h
    obtain ⟨hp, rfl⟩ := h
    cases ok
    · have hs : (on_data env false req { c with read_pending := false }).conn.sched =
          { c.sched with read_pending := false }.left := by
        simp only [on_data, Bool.not_false, reduceIte, Outcome.conn_ok, cancel_deadline_sched,
          clean_up_sched]
        rfl
      rw [hs]
      exact .read_failed hp
    · obtain ⟨s₁, h₁, h₂⟩ := on_request_sched env { { c with read_pending := false } with request_ := req }
      exact .request hp h₁ h₂
  | write =>
    simp only [step, Option.ite_none_right_eq_some, Option.some.injEq] at h
    obtain ⟨hp, rfl⟩ := h
    simp only [on_write, Outcome.conn_ok, cancel_deadline_sched, clean_up_sched]
    exact .clean_up
  | shutdown =>
    simp only [step, Option.ite_none_right_eq_some, Option.some.injEq] at h
    obtain ⟨hp, rfl⟩ := h
    exact .idle
  | deadline_expiry =>
    simp only [step, Option.bind_eq_some, Option.map_eq_some'] at h
    obtain ⟨w, -, w', -, rfl⟩ := h
    exact .idle
  | deadline =>
    simp only [step] at h
    split at h <;> simp only [Option.some.injEq, reduceCtorEq] at h <;> subst h <;>
      simp only [on_deadline, Outcome.conn_ok, Bool.false_eq_true, reduceIte, clean_up_sched]
    exacts [.clean_up, .idle]
  | repeat_expiry =>
    simp only [step, Option.bind_eq_some, Option.map_eq_some', timer_wait_t.expire] at h
    obtain ⟨w, hw, v, hv, rfl⟩ := h
    split_ifs at hv with hx
    obtain rfl := Option.some.inj hv
    exact .repeat_expiry w hw hx.1 hx.2
  | repeat_timer env =>
    simp only [step] at h
    split at h
    · rename_i w hw
      split_ifs at h with hs
      obtain rfl := Option.some.inj h
      unfold on_repeat_timer
      cases hst : w.wait.state
      · exact absurd hst hs
      · simp only [hst, reduceCtorEq, decide_False, reduceIte]
        exact .repeat_expired w hw hst (process_storage_test_req_sched env _ _ _ _)
      · simp only [hst, decide_True, reduceIte]
        exact .repeat_aborted w hw hst
    · cases h
  | notification_expiry =>
    simp only [step, Option.bind_eq_some, Option.map_eq_some', timer_wait_t.expire] at h
    obtain ⟨⟨w, pk⟩, hw, v, hv, rfl⟩ := h
    split_ifs at hv with hx
    obtain rfl := Option.some.inj hv
    exact .notification_expiry w pk hw hx.1 hx.2
  | notification_timer env =>
    simp only [step] at h
    split at h
    · rename_i w pk hw
      split_ifs at h with hs
      obtain rfl := Option.some.inj h
      obtain ⟨s₁, h₁, h₂⟩ := on_notification_timer_sched env (decide (w.state = .aborted)) pk
        { c with notification_timer := none }
      exact .notification w pk hw hs h₁ h₂
    · cases h
  | blockchain_answer res_height env =>
    simp only [step, Option.ite_none_right_eq_some, Option.some.injEq] at h
    obtain ⟨hp, rfl⟩ := h
    refine .blockchain_answer hp ?_
    simp only [blockchain_test_callback, conn_lift_bind]
    split
    · simpa using write_response_sched env _
    · exact .inl rfl
  | notify msg =>
    simp only [step, Option.some.injEq] at h
    subst h
    simp only [Outcome.conn_ok]
    rcases hctx : c.notification_ctx_ with _ | ctx
    · simpa [notify, hctx] using .idle
    · rcases hw : c.notification_timer with _ | ⟨⟨e, _ | _ | _⟩, pk⟩ <;>
        simp only [notify, hctx, hw]
      all_goals first
        | (refine .of_eq ?_; simp [connection_t.sched, hw, hctx]; done)
        | (convert @sched_step.notify _ c.sched ⟨e, .waiting⟩ pk hw rfl using 1
           simp [connection_t.sched, hw, hctx])
  | tick t =>
    simp only [step, Option.ite_none_right_eq_some, Option.some.injEq] at h
    obtain ⟨ht, rfl⟩ := h
    exact .tick t ht

end Step

end ArqmaStorage
