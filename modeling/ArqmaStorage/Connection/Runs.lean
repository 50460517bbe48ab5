import ArqmaStorage.Connection.Effects

/-!
# Invariants over every run of a connection

Three facts hold in every state a connection reaches, whatever the network, the clock and the
collaborators do; each follows from `step_sched`, which says once what a handler may do to
`sched`.

* **At most one write** (`writes_le_one`). Count the writes made and the pending handlers that may
  still write (the handshake and the read before the request is processed, the storage-test
  retry, the long-poll timer, the blockchain-test callback). No step raises that count
  (`sched_step.potential_le`): a handler that ends gives up its place for one write or one new
  pending handler, not both. A fresh connection counts one.
* **A failed retry loses the response** (`retry_chain_loses_response`). A pending retry means the
  response is delayed and the count is spent on the retry; when the retried test answers neither
  `SUCCESS` nor `RETRY` within the minute, the count drops to zero, so no run from there writes.
* **The storage-test retries are bounded** (`storage_test_retries_bounded`). A retry is armed
  50 ms ahead and runs only once the clock has reached it, so the `n`-th attempt runs at least
  `n · 50 ms` after `start_timestamp_`; a retry is armed only within a minute of it. Hence at most
  1200 retries and 1201 calls of `process_storage_test_req`.
-/

namespace ArqmaStorage

/-! ## At most one write -/

/-- The pending handlers that may lead to a write: the handshake and the read before the request
is processed, the storage-test retry, the long-poll timer and the blockchain-test callback. -/
def sched_t.writers (s : sched_t) : Nat :=
  s.handshake_pending.toNat + s.read_pending.toNat + s.repeat_timer_.isSome.toNat +
    s.notification_timer.isSome.toNat + s.bc_callback_pending.toNat

/-- The writes made and the handlers that may still write. -/
def sched_t.potential (s : sched_t) : Nat := s.writes + s.writers

/-- A pending handler keeps the response delayed: only a delayed response leaves a handler that
may write later. -/
def sched_t.delayed (s : sched_t) : Prop :=
  s.repeat_timer_.isSome ∨ s.notification_timer.isSome ∨ s.bc_callback_pending = true →
    s.delay_response_ = true

section Writes

variable {ok : Bool} {s s' : sched_t}

@[simp] theorem potential_wrote : s.wrote.potential = s.potential + 1 :=
  Nat.add_right_comm _ _ _

@[simp] theorem potential_removed (pk : String) : (s.removed pk).potential = s.potential := rfl
@[simp] theorem potential_left : s.left.potential = s.potential := rfl

theorem delayed_of_delay (h : s.delay_response_ = true) : s.delayed := fun _ => h

theorem poll_effect_potential (h : poll_effect { s with delay_response_ := true } s') :
    s'.potential ≤ s.potential + 1 ∧ s'.delay_response_ = true := by
  rcases h with rfl | rfl | ⟨pk, rfl⟩
  · exact ⟨Nat.le_succ _, rfl⟩
  · exact ⟨potential_wrote.le, rfl⟩
  · refine ⟨?_, rfl⟩
    simp only [sched_t.potential, sched_t.writers, Option.isSome_some, Bool.toNat_true]
    omega

theorem storage_test_effect_potential (h : storage_test_effect s s') :
    s'.potential ≤ s.potential + 1 ∧
      (s'.delay_response_ = false → s'.potential = s.potential) := by
  rcases h with rfl | rfl | rfl | ⟨-, w, -, rfl⟩
  · exact ⟨Nat.le_succ _, fun _ => rfl⟩
  · exact ⟨Nat.le_succ _, fun _ => rfl⟩
  · exact ⟨potential_wrote.le, by simp⟩
  · refine ⟨?_, by simp⟩
    simp only [sched_t.potential, sched_t.writers, Option.isSome_some, Bool.toNat_true]
    omega

theorem request_effect_potential (h : request_effect s s') :
    s'.potential ≤ s.potential + 1 ∧
      (s'.delay_response_ = false → s'.potential = s.potential) := by
  cases h with
  | unchanged => simp
  | storage_test h => exact storage_test_effect_potential h
  | blockchain_test =>
    refine ⟨?_, by simp⟩
    simp only [sched_t.potential, sched_t.writers, Bool.toNat_true]
    omega
  | retrieve h =>
    obtain ⟨h₁, h₂⟩ := poll_effect_potential h
    exact ⟨h₁, fun hd => absurd h₂ (by simp [hd])⟩

theorem potential_le_of_ended {s₀ : sched_t} (hend : s₀.potential + 1 = s.potential)
    (h : s' = s₀ ∨ s' = s₀.wrote) : s'.potential ≤ s.potential := by
  rcases h with rfl | rfl
  · omega
  · rw [potential_wrote]
    omega

-- A handler that ends gives up its place for at most one write or one new pending handler.
theorem sched_step.potential_le (h : sched_step ok s s') : s'.potential ≤ s.potential := by
  cases h with
  | request hp h₁ h₂ =>
    obtain ⟨hle, hdel⟩ := request_effect_potential h₁
    have hread : ({ s with read_pending := false } : sched_t).potential + 1 = s.potential := by
      simp only [sched_t.potential, sched_t.writers, hp, Bool.toNat_true, Bool.toNat_false]
      omega
    rcases h₂ with rfl | ⟨hd, rfl⟩
    · omega
    · rw [potential_wrote, hdel hd]
      omega
  | repeat_expired w hw _ he =>
    have := (storage_test_effect_potential he).1
    simp only [sched_t.potential, sched_t.writers, hw, Option.isSome_some, Option.isSome_none,
      Bool.toNat_true, Bool.toNat_false] at this ⊢
    omega
  | @notification w pk s₁ _ hw _ h₁ h₂ =>
    have hend : s₁.potential ≤ s.potential := by
      refine potential_le_of_ended ?_ h₁
      simp only [sched_t.potential, sched_t.writers, hw, Option.isSome_some, Option.isSome_none,
        Bool.toNat_true, Bool.toNat_false]
      omega
    rcases h₂ with rfl | ⟨-, rfl⟩ <;> exact hend
  | blockchain_answer hb h =>
    refine potential_le_of_ended ?_ h
    simp only [sched_t.potential, sched_t.writers, hb, Bool.toNat_true, Bool.toNat_false]
    omega
  | handshake_ok hp | handshake_failed hp | read_failed hp =>
    try rw [potential_left]
    simp only [sched_t.potential, sched_t.writers, hp, Bool.toNat_true, Bool.toNat_false]
    omega
  | repeat_expiry w hw | repeat_aborted w hw | notification_expiry w pk hw | notify w pk hw =>
    simp only [sched_t.potential, sched_t.writers, hw, Option.isSome_some, Option.isSome_none,
      Bool.toNat_true, Bool.toNat_false]
    omega
  | idle | tick | clean_up => exact le_rfl

theorem storage_test_effect_delayed (h : storage_test_effect s s') (hd : s.delayed) :
    s'.delayed := by
  rcases h with rfl | rfl | rfl | ⟨-, w, -, rfl⟩ <;> simp [sched_t.delayed] at hd ⊢
  exact hd

theorem request_effect_delayed (h : request_effect s s') (hd : s.delayed) : s'.delayed := by
  cases h with
  | unchanged => exact hd
  | storage_test h => exact storage_test_effect_delayed h hd
  | blockchain_test => exact delayed_of_delay rfl
  | retrieve h => exact delayed_of_delay (poll_effect_potential h).2

theorem sched_step.delayed (h : sched_step ok s s') (hd : s.delayed) : s'.delayed := by
  cases h with
  | request _ h₁ h₂ => rcases h₂ with rfl | ⟨-, rfl⟩ <;> exact (request_effect_delayed h₁ hd :)
  | repeat_expired w hw _ he =>
    refine storage_test_effect_delayed he fun h => hd ?_
    simp_all [sched_t.delayed]
  | notification w pk hw _ h₁ h₂ =>
    rcases h₁ with rfl | rfl <;> rcases h₂ with rfl | ⟨-, rfl⟩ <;> intro h <;>
      simp_all [sched_t.delayed]
  | blockchain_answer hb h => rcases h with rfl | rfl <;> intro h <;> simp_all [sched_t.delayed]
  | repeat_aborted w hw => intro h; simp_all [sched_t.delayed]
  | repeat_expiry w hw | notification_expiry w pk hw | notify w pk hw =>
    exact fun _ => hd (by simp [hw])
  | _ => exact hd

end Writes

theorem Reachable.potential_le_one {c : connection_t} (h : Reachable c) : c.sched.potential ≤ 1 := by
  induction h with
  | init t => simp [connection_t.init, connection_t.sched, sched_t.potential, sched_t.writers]
  | step e _ hs ih => exact (step_sched hs).potential_le.trans ih

theorem Reachable.delayed {c : connection_t} (h : Reachable c) : c.sched.delayed := by
  induction h with
  | init t => simp [connection_t.init, connection_t.sched, sched_t.delayed]
  | step e _ hs ih => exact (step_sched hs).delayed ih

/-- **A connection writes at most one response, in every run.** -/
theorem writes_le_one {c : connection_t} (h : Reachable c) : c.writes ≤ 1 := by
  have := h.potential_le_one
  simp only [connection_t.sched, sched_t.potential] at this
  omega

theorem stats_written_once :
    let es : List Event := [.handshake true, .read true ⟨.get, "/get_stats/v1", [], ""⟩
      (Env.lenient .SUCCESS), .write]
    ∃ c, run (connection_t.init 0) es = some (.ok c) ∧ c.writes = 1 ∧ c.writes ≤ 1 := by
  intro es
  exact ⟨_, rfl, rfl, writes_le_one (@reachable_of_run _ _ (.init 0) es rfl)⟩

theorem run_potential_le {c c' : connection_t} :
    ∀ {es : List Event}, run c es = some (.ok c') → c'.sched.potential ≤ c.sched.potential
  | [], h => by simp only [run, Option.some.injEq, Except.ok.injEq] at h; exact h ▸ le_rfl
  | e :: es, h => by
    simp only [run] at h
    split at h
    · rename_i c₁ hstep
      simpa using (run_potential_le h).trans (step_sched hstep).potential_le
    · simp at h
    · simp at h

/-- **A retried storage test that then fails loses the response.** Once a retry is pending, the
first attempt has delayed the response, and the retry is the one handler left that may write.
When it runs and the `ServiceNode` answers neither `SUCCESS` nor `RETRY` within the minute, the
body is set but nothing writes it: the response stays delayed, no handler is left that may write,
and no run from there ever writes. -/
theorem retry_chain_loses_response {c : connection_t} (hc : Reachable c) {w : repeat_wait_t}
    (hw : c.repeat_timer_ = some w) (hexp : w.wait.state = .expired) (env : Env)
    (hst : (env.process_storage_test_req w.height w.tester_pk w.msg_hash).1 ≠ .SUCCESS)
    (hretry : (env.process_storage_test_req w.height w.tester_pk w.msg_hash).1 = .RETRY →
      ONE_MINUTE ≤ c.clock - c.start_timestamp_)
    (hdump : ∀ j, ∃ s, env.dump j = .ok s) :
    ∃ c', step c (.repeat_timer env) = some (.ok c') ∧ c'.delay_response_ = true ∧
      c'.sched.writers = 0 ∧ ∀ es c'', run c' es = some (.ok c'') → c''.writes = 0 := by
  have hpot := hc.potential_le_one
  have hdel := hc.delayed (.inl (by simp [connection_t.sched, hw]))
  obtain ⟨s, hs⟩ := process_storage_test_req_unanswered env w.height w.tester_pk w.msg_hash
    { c with repeat_timer_ := none } hst hretry hdump
  set c' := (({ c with repeat_timer_ := none }.call
    (.process_storage_test_req w.height w.tester_pk w.msg_hash)).out s).result status.ok
  have hdrop : c'.sched.potential + 1 = c.sched.potential := by
    simp [c', connection_t.sched, sched_t.potential, sched_t.writers, connection_t.call,
      connection_t.out, connection_t.result, hw]
    omega
  simp only [sched_t.potential] at hdrop hpot
  refine ⟨c', by simp [step, hw, hexp, on_repeat_timer, hs], hdel, by omega, fun es c'' h => ?_⟩
  have h'' := run_potential_le h
  simp only [sched_t.potential] at h''
  show c''.sched.writes = 0
  omega

theorem retry_then_wrong_request :
    let es : List Event := [.handshake true, .read true ⟨.post, "/swarms/storage_test/v1",
      [(ARQMA_SENDER_SNODE_PUBKEY_HEADER, "pk"), (ARQMA_SNODE_SIGNATURE_HEADER, "sig")], "{}"⟩
      (Env.lenient .RETRY), .tick TEST_RETRY_PERIOD, .repeat_expiry]
    ∃ c c', run (connection_t.init 0) es = some (.ok c) ∧
      step c (.repeat_timer (Env.lenient .WRONG_REQ)) = some (.ok c') ∧
      c'.delay_response_ = true ∧ c'.sched.writers = 0 ∧
      ∀ es c'', run c' es = some (.ok c'') → c''.writes = 0 := by
  intro es
  obtain ⟨c, hrun, hw⟩ : ∃ c, run (connection_t.init 0) es = some (.ok c) ∧
      c.repeat_timer_ = some ⟨⟨0 + TEST_RETRY_PERIOD, .expired⟩, 5, "pk", "h"⟩ := ⟨_, rfl, rfl⟩
  obtain ⟨c', h⟩ := retry_chain_loses_response (reachable_of_run (.init 0) hrun) hw rfl
    (Env.lenient .WRONG_REQ) (by decide) (fun h => absurd h (by decide)) fun _ => ⟨_, rfl⟩
  exact ⟨c, c', hrun, h⟩

theorem on_request_retrieve_failed (env : Env) (c : connection_t)
    {ip k plain pk last_hash : String} {body : Json} {kvs : List (String × Json)}
    (hpost : c.request_.method = .post) (htarget : c.request_.target = "/storage_rpc/v1")
    (hready : env.snode_ready = true) (hip : env.remote_address = .ok ip)
    (hlimit : env.should_rate_limit_client ip = false)
    (hkey : c.request_.find ARQMA_EPHEMKEY_HEADER = some k)
    (hdec : env.decrypt (env.base64_decode c.request_.body) k = .ok plain)
    (hparse : env.parse plain = some body)
    (hmethod : body.find "method" = some (.string "retrieve"))
    (hparams : body.find "params" = some (.object kvs))
    (hfields : missing_field (.object kvs) ["pubKey", "lastHash"] = none)
    (hpk : ((Json.object kvs).index "pubKey").get_string = .ok pk)
    (hsize : size pk = get_user_pubkey_size env.is_mainnet) (hours : env.is_pubkey_for_us pk)
    (hlast : ((Json.object kvs).index "lastHash").get_string = .ok last_hash)
    (hret : env.retrieve pk last_hash = none) :
    ∃ c', on_request env c = .ok c' ∧ c'.sched = { c.sched with delay_response_ := true } := by
  have hc₁ := process_client_req_decrypted env (c.result status.internal_server_error) hip hlimit
    hkey hdec
  simp only [on_request, process_request, connection_t.result_request, hpost, htarget, hready,
    hc₁, process_plain_text, hparse, hmethod, hparams, dispatch_method,
    process_retrieve_retrieve_failed env _ _ hfields hpk hsize hours hlast hret, try_catch, bind,
    Except.bind, Bool.not_true, Bool.false_eq_true, reduceIte, Except.ok.injEq, exists_eq_left',
    show ("/storage_rpc/v1" = "/swarms/ping_test/v1") = False by decide,
    show ("retrieve" = "store") = False by decide]
  simp [connection_t.sched, connection_t.call, connection_t.result, connection_t.set,
    List.countP_append, SnCall.is_storage_test, SnCall.is_listener]

/-- **A retrieve whose database read fails loses the response.** `process_retrieve` delays the
response before it polls the database; when `ServiceNode::retrieve` fails, `poll_db` sets a 500
and returns without writing, and no handler is left that may write: no run from there writes. -/
theorem retrieve_failure_loses_response {c : connection_t} (hc : Reachable c)
    (hread : c.read_pending = true) (env : Env) (req : request_t)
    {ip k plain pk last_hash : String} {body : Json} {kvs : List (String × Json)}
    (hpost : req.method = .post) (htarget : req.target = "/storage_rpc/v1")
    (hready : env.snode_ready = true) (hip : env.remote_address = .ok ip)
    (hlimit : env.should_rate_limit_client ip = false)
    (hkey : req.find ARQMA_EPHEMKEY_HEADER = some k)
    (hdec : env.decrypt (env.base64_decode req.body) k = .ok plain)
    (hparse : env.parse plain = some body)
    (hmethod : body.find "method" = some (.string "retrieve"))
    (hparams : body.find "params" = some (.object kvs))
    (hfields : missing_field (.object kvs) ["pubKey", "lastHash"] = none)
    (hpk : ((Json.object kvs).index "pubKey").get_string = .ok pk)
    (hsize : size pk = get_user_pubkey_size env.is_mainnet) (hours : env.is_pubkey_for_us pk)
    (hlast : ((Json.object kvs).index "lastHash").get_string = .ok last_hash)
    (hret : env.retrieve pk last_hash = none) :
    ∃ c', step c (.read true req env) = some (.ok c') ∧ c'.delay_response_ = true ∧
      c'.sched.writers = 0 ∧ ∀ es c'', run c' es = some (.ok c'') → c''.writes = 0 := by
  have hpot := hc.potential_le_one
  obtain ⟨c', h, hs⟩ := on_request_retrieve_failed env { c with read_pending := false, request_ := req }
    hpost htarget hready hip hlimit hkey hdec hparse hmethod hparams hfields hpk hsize hours hlast
    hret
  have hdrop : c'.sched.potential + 1 = c.sched.potential := by
    rw [hs]
    simp only [connection_t.sched, sched_t.potential, sched_t.writers, hread, Bool.toNat_true,
      Bool.toNat_false]
    omega
  have hdel : c'.delay_response_ = true := congrArg sched_t.delay_response_ hs
  simp only [sched_t.potential] at hdrop hpot
  refine ⟨c', by simp [step, hread, on_data, h], hdel, by omega, fun es c'' h' => ?_⟩
  have h'' := run_potential_le h'
  simp only [sched_t.potential] at h''
  show c''.sched.writes = 0
  omega

theorem failed_retrieve_unanswered :
    let env : Env := { Env.lenient .SUCCESS with
      decrypt := fun b _ => .ok b,
      parse := fun _ => some (.object [("method", .string "retrieve"), ("params", .object
        [("pubKey", .string (String.mk (List.replicate 64 'a'))), ("lastHash", .string "")])]) }
    let req : request_t := ⟨.post, "/storage_rpc/v1", [(ARQMA_EPHEMKEY_HEADER, "key")], ""⟩
    ∃ c c', run (connection_t.init 0) [.handshake true] = some (.ok c) ∧
      step c (.read true req env) = some (.ok c') ∧ c'.delay_response_ = true ∧
      c'.sched.writers = 0 ∧ ∀ es c'', run c' es = some (.ok c'') → c''.writes = 0 := by
  intro env req
  obtain ⟨c, hrun, hread⟩ : ∃ c, run (connection_t.init 0) [.handshake true] = some (.ok c) ∧
      c.read_pending = true := ⟨_, rfl, rfl⟩
  obtain ⟨c', h⟩ := retrieve_failure_loses_response (reachable_of_run (.init 0) hrun) hread env
    req rfl rfl rfl rfl rfl rfl rfl rfl rfl rfl (by decide) rfl (by decide) rfl rfl rfl
  exact ⟨c, c', hrun, h⟩

/-! ## Bounded storage-test retries -/

/-- When the pending storage-test retry is due, or now when none is pending. -/
def sched_t.due (s : sched_t) : Nat :=
  match s.repeat_timer_ with
  | some w => w.wait.expiry
  | none => s.clock

/-- The `n`-th retry is due `n · 50 ms` after the start or later, at most 1200 were armed, and
every call of the storage test but the last armed one. -/
structure RetryInv (s : sched_t) : Prop where
  started : s.start_timestamp_ ≤ s.clock
  /-- The next attempt comes `rc · 50 ms` after the start or later. -/
  due : s.start_timestamp_ + s.repetition_count_ * TEST_RETRY_PERIOD ≤ s.due
  /-- A retry that is no longer waiting has expired, or been aborted, by now. -/
  fired : ∀ w, s.repeat_timer_ = some w → w.wait.state = .waiting ∨ w.wait.expiry ≤ s.clock
  bound : s.repetition_count_ ≤ 1200
  tests : s.storage_tests ≤ s.repetition_count_ + 1
  /-- While a retry is pending, every attempt so far armed one. -/
  pending : s.repeat_timer_.isSome → s.storage_tests = s.repetition_count_
  /-- Before the request is processed, no attempt was made. -/
  unread : s.handshake_pending = true ∨ s.read_pending = true →
    s.storage_tests = 0 ∧ s.repetition_count_ = 0 ∧ s.repeat_timer_ = none
  exclusive : s.handshake_pending = false ∨ s.read_pending = false

section Retries

variable {ok : Bool} {s s' : sched_t}

/-- What `RetryInv` reads. -/
def sched_t.retry_view (s : sched_t) :
    Nat × Nat × Nat × Option repeat_wait_t × Nat × Bool × Bool :=
  (s.start_timestamp_, s.clock, s.repetition_count_, s.repeat_timer_, s.storage_tests,
    s.handshake_pending, s.read_pending)

theorem RetryInv.of_view (h : RetryInv s) (hv : s'.retry_view = s.retry_view) : RetryInv s' := by
  simp only [sched_t.retry_view, Prod.mk.injEq] at hv
  obtain ⟨h1, h2, h3, h4, h5, h6, h7⟩ := hv
  obtain ⟨ha, hb, hc, hd, he, hf, hg, hh⟩ := h
  refine ⟨?_, ?_, ?_, ?_, ?_, ?_, ?_, ?_⟩ <;> simp only [sched_t.due, h1, h2, h3, h4, h5, h6, h7] <;>
    assumption

theorem poll_effect_view (h : poll_effect s s') : s'.retry_view = s.retry_view := by
  rcases h with rfl | rfl | ⟨pk, rfl⟩ <;> rfl

theorem RetryInv.clear_timer (h : RetryInv s)
    (hw : ∀ w, s.repeat_timer_ = some w → w.wait.state ≠ .waiting) :
    RetryInv { s with repeat_timer_ := none } := by
  refine ⟨h.started, ?_, by simp, h.bound, h.tests, by simp, fun hr => ⟨(h.unread hr).1,
    (h.unread hr).2.1, rfl⟩, h.exclusive⟩
  have hdue := h.due
  rcases hs : s.repeat_timer_ with _ | w
  · simpa [sched_t.due, hs] using hdue
  · have := (h.fired w hs).resolve_left (hw w hs)
    simp only [sched_t.due, hs] at hdue ⊢
    omega

theorem storage_test_effect_retry (h : storage_test_effect s s') (hs : RetryInv s)
    (hnone : s.repeat_timer_ = none) (htests : s.storage_tests = s.repetition_count_)
    (hhs : s.handshake_pending = false) (hrp : s.read_pending = false) : RetryInv s' := by
  have hdue : s.start_timestamp_ + s.repetition_count_ * TEST_RETRY_PERIOD ≤ s.clock := by
    simpa [sched_t.due, hnone] using hs.due
  have hcall : RetryInv { s with storage_tests := s.storage_tests + 1 } :=
    ⟨hs.started, hs.due, hs.fired, hs.bound, by simp [htests], by simp [hnone], by simp [hhs, hrp],
      hs.exclusive⟩
  rcases h with rfl | rfl | rfl | ⟨hmin, w, hw, rfl⟩
  · exact hcall
  · exact hcall.of_view rfl
  · exact hcall.of_view rfl
  · refine ⟨hs.started, ?_, ?_, ?_, by simp [htests], by simp [htests], by simp [hhs, hrp],
      hs.exclusive⟩
    · simp only [sched_t.due, hw, Nat.succ_mul]
      omega
    · rintro _ ⟨⟩
      simp [hw]
    · dsimp only
      simp only [TEST_RETRY_PERIOD, ONE_MINUTE, MILLISECOND] at hdue hmin
      omega

theorem request_effect_retry (h : request_effect s s') (hs : RetryInv s)
    (hnone : s.repeat_timer_ = none) (htests : s.storage_tests = s.repetition_count_)
    (hhs : s.handshake_pending = false) (hrp : s.read_pending = false) : RetryInv s' := by
  cases h with
  | unchanged => exact hs
  | storage_test h => exact storage_test_effect_retry h hs hnone htests hhs hrp
  | blockchain_test => exact hs.of_view rfl
  | retrieve h => exact hs.of_view ((poll_effect_view h).trans rfl)

theorem RetryInv.step (hs : RetryInv s) (h : sched_step ok s s') : RetryInv s' := by
  cases h with
  | idle => exact hs
  | clean_up => exact hs.of_view rfl
  | handshake_ok hp =>
    exact ⟨hs.started, hs.due, hs.fired, hs.bound, hs.tests, hs.pending,
      fun _ => hs.unread (.inl hp), .inl rfl⟩
  | handshake_failed hp =>
    exact ⟨hs.started, hs.due, hs.fired, hs.bound, hs.tests, hs.pending,
      fun _ => hs.unread (.inl hp), .inl rfl⟩
  | read_failed hp =>
    exact ⟨hs.started, hs.due, hs.fired, hs.bound, hs.tests, hs.pending,
      fun _ => hs.unread (.inr hp), .inr rfl⟩
  | request hp h₁ h₂ =>
    obtain ⟨h0, hr0, hnone⟩ := hs.unread (.inr hp)
    have hhs : s.handshake_pending = false := hs.exclusive.resolve_right (by simp [hp])
    have hread : RetryInv { s with read_pending := false } :=
      ⟨hs.started, hs.due, hs.fired, hs.bound, hs.tests, hs.pending,
        fun _ => hs.unread (.inr hp), .inr rfl⟩
    have h₁ := request_effect_retry h₁ hread hnone (h0.trans hr0.symm) hhs rfl
    rcases h₂ with rfl | ⟨-, rfl⟩
    · exact h₁
    · exact h₁.of_view rfl
  | repeat_expiry w hw hwait hexp =>
    refine ⟨hs.started, by simpa [sched_t.due, hw] using hs.due, ?_, hs.bound, hs.tests,
      by simpa [hw] using hs.pending, fun hr => absurd (hs.unread hr).2.2 (by simp [hw]),
      hs.exclusive⟩
    simp [hexp]
  | repeat_aborted w hw hab => exact hs.clear_timer (by simp [hw, hab])
  | repeat_expired w hw hexp he =>
    have hpend := hs.pending (by simp [hw])
    have hunread : s.handshake_pending = false ∧ s.read_pending = false := by
      simpa [hw] using mt hs.unread
    exact storage_test_effect_retry he (hs.clear_timer (by simp [hw, hexp])) rfl hpend
      hunread.1 hunread.2
  | notification_expiry w pk hw => exact hs.of_view rfl
  | notification w pk hw _ h₁ h₂ =>
    rcases h₁ with rfl | rfl <;> rcases h₂ with rfl | ⟨-, rfl⟩ <;> exact hs.of_view rfl
  | blockchain_answer hb h => rcases h with rfl | rfl <;> exact hs.of_view rfl
  | notify w pk hw => exact hs.of_view rfl
  | tick t ht =>
    refine ⟨hs.started.trans ht, ?_, fun w hw => ?_, hs.bound, hs.tests, hs.pending, hs.unread,
      hs.exclusive⟩
    · have := hs.due
      rcases hr : s.repeat_timer_ with _ | w <;> simp only [sched_t.due, hr] at this ⊢ <;> omega
    · exact (hs.fired w hw).imp_right (·.trans ht)

theorem storage_test_effect_armed (h : storage_test_effect s s')
    (hlt : s.repetition_count_ < s'.repetition_count_) :
    s.clock - s.start_timestamp_ < ONE_MINUTE := by
  rcases h with rfl | rfl | rfl | ⟨hmin, -⟩
  all_goals first | exact hmin | simp at hlt

theorem request_effect_armed (h : request_effect s s')
    (hlt : s.repetition_count_ < s'.repetition_count_) :
    s.clock - s.start_timestamp_ < ONE_MINUTE := by
  cases h with
  | storage_test h => exact storage_test_effect_armed h hlt
  | retrieve h => rcases h with rfl | rfl | ⟨pk, rfl⟩ <;> simp at hlt
  | _ => simp at hlt

theorem sched_step.retry_armed (h : sched_step ok s s')
    (hlt : s.repetition_count_ < s'.repetition_count_) :
    s.clock - s.start_timestamp_ < ONE_MINUTE := by
  cases h with
  | request _ h₁ h₂ =>
    have := request_effect_armed h₁ (by rcases h₂ with rfl | ⟨-, rfl⟩ <;> exact hlt)
    exact this
  | repeat_expired _ _ _ he =>
    have := storage_test_effect_armed he hlt
    exact this
  | notification _ _ _ _ h₁ h₂ =>
    rcases h₁ with rfl | rfl <;> rcases h₂ with rfl | ⟨-, rfl⟩ <;> simp at hlt
  | blockchain_answer _ h => rcases h with rfl | rfl <;> simp at hlt
  | _ => simp at hlt

end Retries

theorem Reachable.retry_inv {c : connection_t} (h : Reachable c) : RetryInv c.sched := by
  induction h with
  | init t =>
    constructor <;> simp [connection_t.init, connection_t.sched, sched_t.due]
  | step e _ hs ih => exact ih.step (by simpa using step_sched hs)

/-- **The storage-test retry chain is bounded.** In every run at most 1200 retries are armed
and `process_storage_test_req` is called at most 1201 times; a step arms a retry only while less
than a minute has passed since `start_timestamp_`. -/
theorem storage_test_retries_bounded {c : connection_t} (hc : Reachable c) :
    c.repetition_count_ ≤ 1200 ∧ c.calls.countP SnCall.is_storage_test ≤ 1201 ∧
      ∀ e o, step c e = some o → c.repetition_count_ < o.conn.repetition_count_ →
        c.clock - c.start_timestamp_ < ONE_MINUTE := by
  have h := hc.retry_inv
  refine ⟨h.bound, ?_, fun e o he hlt => (step_sched he).retry_armed hlt⟩
  have := h.tests.trans (Nat.add_le_add_right h.bound 1)
  simpa [connection_t.sched] using this

theorem storage_test_retried_once :
    let es : List Event := [.handshake true, .read true ⟨.post, "/swarms/storage_test/v1",
      [(ARQMA_SENDER_SNODE_PUBKEY_HEADER, "pk"), (ARQMA_SNODE_SIGNATURE_HEADER, "sig")], "{}"⟩
      (Env.lenient .RETRY)]
    ∃ c, run (connection_t.init 0) es = some (.ok c) ∧
      c.repetition_count_ = 1 ∧ c.calls.countP SnCall.is_storage_test ≤ 1201 := by
  intro es
  exact ⟨_, rfl, rfl, (storage_test_retries_bounded (@reachable_of_run _ _ (.init 0) es rfl)).2.1⟩

end ArqmaStorage
