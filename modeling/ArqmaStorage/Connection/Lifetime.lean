import ArqmaStorage.Connection.Listeners

/-!
# The lifetime of a connection

A `connection_t` lives as long as a `shared_ptr` to it does. `start()` runs on the temporary of
`std::make_shared`, so from then on the owners are the handlers it leaves in the `io_context`,
each bound to `shared_from_this()`: the handshake's, the read's, each write's and each
shutdown's, the session deadline's, the storage-test retry's and the long-poll timer's; and the
`ServiceNode`'s listener registry, from `register_listener(pk, self)` to `remove_listener`. When
the last of them goes, `~connection_t` runs. The callback `process_blockchain_test_req` hands the
`ServiceNode` is the one handler that captures `this` and not `self`. `connection_t.owners`
counts them.

**A silent client keeps its connection** (`silent_client_keeps_connection`). The session deadline
is the one timeout a connection has, and its handler only starts the TLS shutdown: `clean_up`
calls `do_close`, whose `async_shutdown` completes when the client answers with its
`close_notify`, and only `on_shutdown` closes the socket. A client that goes silent after the
handshake completes neither the read nor the shutdown (`Event.needs_client`), and in every run
without them the read stays pending, the socket open, and the read handler owns the connection.
The comment in `register_deadline` expects the connection to go once the timer goes off; it
outlives the timer for as long as the client stays silent.

**The blockchain test outlives its connection.** The potential of `Runs` leaves no other handler
that may write beside a pending blockchain test (`Reachable.orphaned`), so the `io_context`
releases the connection before the daemon answers (`blockchain_test_outlives_connection`): when
the answer comes, the callback writes `response_` and `body_stream_` of a freed object.

The deadline's handler runs `clean_up`, which closes the connection and removes the long-poll
listener but leaves the long-poll timer armed. A long poll that waits when the deadline expires
is answered all the same, on the closed socket (`long_poll_writes_after_close`).
-/

namespace ArqmaStorage

/-- The recipients whose listener registry still holds the connection: registered and not
removed. -/
def connection_t.listened (c : connection_t) : List String :=
  c.calls.filterMap fun
    | .register_listener pk => if SnCall.remove_listener pk ∈ c.calls then none else some pk
    | _ => none

/-- The `shared_ptr`s to the connection: the pending handlers bound to `shared_from_this()`, and
the listeners registered with `self`. -/
def connection_t.owners (c : connection_t) : Nat :=
  c.handshake_pending.toNat + c.read_pending.toNat + c.writes_pending + c.shutdowns_pending +
    c.deadline_.isSome.toNat + c.repeat_timer_.isSome.toNat + c.notification_timer.isSome.toNat +
    c.listened.length

/-- The event is the daemon's answer to the blockchain test. -/
def Event.is_blockchain_answer : Event → Bool
  | .blockchain_answer .. => true
  | _ => false

/-- The completions that wait on the client: the read, which the client's data or the loss of
its socket completes, and the TLS shutdown, which waits for the client's `close_notify`. -/
def Event.needs_client : Event → Bool
  | .read .. | .shutdown => true
  | _ => false

/-! ## Runs -/

theorem run_append {c c₁ : connection_t} {es₁ : List Event} (es₂ : List Event)
    (h : run c es₁ = some (.ok c₁)) : run c (es₁ ++ es₂) = run c₁ es₂ := by
  induction es₁ generalizing c with
  | nil => simp only [run, Option.some.injEq, Except.ok.injEq] at h; rw [← h]; rfl
  | cons e es ih =>
    simp only [run, List.cons_append] at h ⊢
    split at h
    next => exact ih h
    all_goals simp at h

theorem run_replicate (P : connection_t → Prop) (f : connection_t → Nat) {e : Event}
    (hstep : ∀ c, P c → 0 < f c → ∃ c', step c e = some (.ok c') ∧ P c' ∧ f c' + 1 = f c) :
    ∀ n c, P c → f c = n → ∃ c', run c (List.replicate n e) = some (.ok c') ∧ P c' ∧ f c' = 0
  | 0, c, hc, hf => ⟨c, rfl, hc, hf⟩
  | n + 1, c, hc, hf => by
    obtain ⟨c₁, hs, hc₁, hf₁⟩ := hstep c hc (by omega)
    obtain ⟨c', hr, hc', hf'⟩ := run_replicate P f hstep n c₁ hc₁ (by omega)
    exact ⟨c', by simp only [List.replicate_succ, run, hs, hr], hc', hf'⟩

/-! ## A silent client -/

section Silent

variable {c c' : connection_t}

@[simp] theorem clean_up_read_pending : c.clean_up.read_pending = c.read_pending := by
  rw [connection_t.clean_up_eq]

@[simp] theorem clean_up_socket_open : c.clean_up.socket_open = c.socket_open := by
  rw [connection_t.clean_up_eq]

@[simp] theorem cancel_deadline_read_pending : c.cancel_deadline.read_pending = c.read_pending := by
  unfold connection_t.cancel_deadline; split <;> rfl

@[simp] theorem cancel_deadline_socket_open : c.cancel_deadline.socket_open = c.socket_open := by
  unfold connection_t.cancel_deadline; split <;> rfl

-- The read leaves no room in the potential of `Runs` for a timer or the blockchain test, so only
-- the connection's writes, deadline and clock, and `notify`, can run next to it.
theorem step_keeps_read (hc : Reachable c) (hread : c.read_pending = true) {e : Event}
    (he : e.needs_client = false) (h : step c e = some (.ok c')) :
    c'.read_pending = true ∧ c'.socket_open = c.socket_open := by
  have hpot := hc.potential_le_one
  simp only [connection_t.sched, sched_t.potential, sched_t.writers, hread, Bool.toNat_true] at hpot
  have hhs : c.handshake_pending = false := by simpa using (by omega : c.handshake_pending.toNat = 0)
  have hrt : c.repeat_timer_ = none := by simpa using (by omega : c.repeat_timer_.isSome.toNat = 0)
  have hnt : c.notification_timer = none := by
    simpa using (by omega : c.notification_timer.isSome.toNat = 0)
  have hbc : c.bc_callback_pending = false := by
    simpa using (by omega : c.bc_callback_pending.toNat = 0)
  cases e with
  | read | shutdown => cases he
  | handshake | repeat_expiry | repeat_timer | notification_expiry | notification_timer
    | blockchain_answer => simp [step, hhs, hrt, hnt, hbc] at h
  | write =>
    obtain ⟨-, rfl⟩ : _ ∧ on_write _ = c' := by simpa [step] using h
    simp [on_write, hread]
  | deadline_expiry =>
    simp only [step, Option.bind_eq_some, Option.map_eq_some', Except.ok.injEq] at h
    obtain ⟨-, -, -, -, rfl⟩ := h
    exact ⟨hread, rfl⟩
  | deadline =>
    simp only [step] at h
    split at h <;> simp only [Option.some.injEq, Except.ok.injEq, reduceCtorEq] at h <;> subst h <;>
      simp [on_deadline, hread]
  | notify msg =>
    obtain rfl : notify msg c = c' := by simpa [step] using h
    unfold notify
    split <;> simp [hnt, hread]
  | tick =>
    obtain ⟨-, rfl⟩ := by simpa [step] using h
    exact ⟨hread, rfl⟩

theorem run_keeps_read {es : List Event} (hc : Reachable c) (hread : c.read_pending = true)
    (hes : ∀ e ∈ es, e.needs_client = false) (h : run c es = some (.ok c')) :
    c'.read_pending = true ∧ c'.socket_open = c.socket_open := by
  induction es generalizing c with
  | nil => simp only [run, Option.some.injEq, Except.ok.injEq] at h; exact h ▸ ⟨hread, rfl⟩
  | cons e es ih =>
    simp only [run] at h
    split at h
    next c₁ h₁ =>
      obtain ⟨hr₁, hs₁⟩ := step_keeps_read hc hread (hes e (List.mem_cons_self _ _)) h₁
      obtain ⟨hr, hs⟩ := ih (hc.step e h₁) hr₁ (fun e he => hes e (List.mem_cons_of_mem _ he)) h
      exact ⟨hr, hs.trans hs₁⟩
    all_goals simp at h

theorem connection_t.owners_pos_of_read (h : c.read_pending = true) : 0 < c.owners := by
  unfold connection_t.owners
  rw [h, Bool.toNat_true]
  omega

end Silent

/-- **A silent client keeps its connection.** From every reachable connection whose read is
pending, in every run without a completion that needs the client, the read stays pending and the
socket open, and the read handler, bound to `shared_from_this()`, keeps the connection owned. The
session deadline's handler is among the events of such runs: it starts a TLS shutdown that never
completes. -/
theorem silent_client_keeps_connection {c c' : connection_t} (hc : Reachable c)
    (hread : c.read_pending = true) {es : List Event} (hes : ∀ e ∈ es, e.needs_client = false)
    (hrun : run c es = some (.ok c')) :
    c'.read_pending = true ∧ c'.socket_open = c.socket_open ∧ 0 < c'.owners := by
  obtain ⟨hr, hs⟩ := run_keeps_read hc hread hes hrun
  exact ⟨hr, hs, connection_t.owners_pos_of_read hr⟩

theorem silent_client_outlives_deadline :
    let es : List Event := [.handshake true, .tick SESSION_TIME_LIMIT, .deadline_expiry, .deadline]
    ∃ c c', run (connection_t.init 0) es = some (.ok c) ∧ c.clean_ups = 1 ∧ c.deadline_ = none ∧
      run c [.notify none, .tick (2 * SESSION_TIME_LIMIT)] = some (.ok c') ∧
      c'.read_pending = true ∧ c'.socket_open = c.socket_open ∧ 0 < c'.owners := by
  intro es
  obtain ⟨c, c', hc, h₁, hd, hr, hc'⟩ : ∃ c c', run (connection_t.init 0) es = some (.ok c) ∧
      c.clean_ups = 1 ∧ c.deadline_ = none ∧ c.read_pending = true ∧
      run c [.notify none, .tick (2 * SESSION_TIME_LIMIT)] = some (.ok c') :=
    ⟨_, _, rfl, rfl, rfl, rfl, rfl⟩
  exact ⟨c, c', hc, h₁, hd, hc', silent_client_keeps_connection (reachable_of_run (.init 0) hc) hr
    (by simp [Event.needs_client]) hc'⟩

/-! ## A connection orphaned by the blockchain test -/

/-- No handshake, read, retry or long-poll timer is pending, the blockchain test is, and every
listener registered has been removed. -/
structure sched_t.Orphaned (s : sched_t) : Prop where
  handshake : s.handshake_pending = false
  read : s.read_pending = false
  retry : s.repeat_timer_ = none
  long_poll : s.notification_timer = none
  callback : s.bc_callback_pending = true
  removed : ∀ pk, SnCall.register_listener pk ∈ s.listener_calls →
    SnCall.remove_listener pk ∈ s.listener_calls

section Orphaned

variable {s : sched_t} {c : connection_t}

theorem sched_t.Orphaned.left (h : s.Orphaned) : s.left.Orphaned := by
  refine ⟨h.handshake, h.read, h.retry, h.long_poll, h.callback, fun pk hr => ?_⟩
  have hr : SnCall.register_listener pk ∈ s.listener_calls := by
    cases hl : s.listening <;> simpa [sched_t.left, hl] using hr
  exact List.mem_append.2 (.inl (h.removed pk hr))

theorem sched_t.Orphaned.ticked (h : s.Orphaned) (t : Nat) : { s with clock := t }.Orphaned :=
  ⟨h.handshake, h.read, h.retry, h.long_poll, h.callback, h.removed⟩

theorem connection_t.listened_eq_nil (h : c.sched.Orphaned) : c.listened = [] := by
  refine List.filterMap_eq_nil_iff.2 fun x hx => ?_
  cases x with
  | register_listener pk =>
    have hr := h.removed pk (List.mem_filter.2 ⟨hx, rfl⟩)
    simp [(List.mem_filter.1 hr).1]
  | _ => rfl

theorem sched_t.Orphaned.owners (h : c.sched.Orphaned) (hw : c.writes_pending = 0)
    (hs : c.shutdowns_pending = 0) (hd : c.deadline_ = none) : c.owners = 0 := by
  have h₁ : c.handshake_pending = false := h.handshake
  have h₂ : c.read_pending = false := h.read
  have h₃ : c.repeat_timer_ = none := h.retry
  have h₄ : c.notification_timer = none := h.long_poll
  simp [connection_t.owners, h₁, h₂, h₃, h₄, hw, hs, hd, c.listened_eq_nil h]

end Orphaned

-- The blockchain test counts as a writer in the potential of `Runs`, which leaves no room for the
-- handshake, the read, the retry or the long-poll timer; the latter's absence means every
-- listener is removed (`ListenInv`).
theorem Reachable.orphaned {c : connection_t} (hc : Reachable c)
    (hbc : c.bc_callback_pending = true) : c.sched.Orphaned := by
  have hpot := hc.potential_le_one
  simp only [connection_t.sched, sched_t.potential, sched_t.writers, hbc, Bool.toNat_true] at hpot
  have h₁ : c.handshake_pending = false := by simpa using (by omega : c.handshake_pending.toNat = 0)
  have h₂ : c.read_pending = false := by simpa using (by omega : c.read_pending.toNat = 0)
  have h₃ : c.repeat_timer_ = none := by simpa using (by omega : c.repeat_timer_.isSome.toNat = 0)
  have h₄ : c.notification_timer = none := by
    simpa using (by omega : c.notification_timer.isSome.toNat = 0)
  exact ⟨h₁, h₂, h₃, h₄, hbc, fun pk hr =>
    (hc.listen_inv.removed pk hr).resolve_right fun ⟨w, hw⟩ => by cases h₄.symm.trans hw⟩

/-! ## The remaining handlers complete -/

section Drain

variable {c : connection_t}

theorem clean_up_writes_pending : c.clean_up.writes_pending = c.writes_pending := by
  rw [connection_t.clean_up_eq]

theorem clean_up_deadline : c.clean_up.deadline_ = c.deadline_ := by
  rw [connection_t.clean_up_eq]

theorem on_write_writes_pending : (on_write c).writes_pending = c.writes_pending := by
  unfold on_write connection_t.cancel_deadline
  split <;> exact clean_up_writes_pending

theorem on_write_sched : (on_write c).sched = c.sched.left := by simp [on_write]

theorem drain_writes (h : c.sched.Orphaned) :
    ∃ c', run c (List.replicate c.writes_pending .write) = some (.ok c') ∧
      c'.sched.Orphaned ∧ c'.writes_pending = 0 :=
  run_replicate (fun c => c.sched.Orphaned) connection_t.writes_pending (fun c h hw =>
    ⟨on_write { c with writes_pending := c.writes_pending - 1 }, by simp only [step, hw, reduceIte],
      by simp only [on_write_sched]; exact h.left,
      by rw [on_write_writes_pending]; exact Nat.sub_add_cancel hw⟩) _ c h rfl

theorem drain_deadline (h : c.sched.Orphaned) (hw : c.writes_pending = 0) :
    ∃ es c', run c es = some (.ok c') ∧ (∀ e ∈ es, e.is_blockchain_answer = false) ∧
      c'.sched.Orphaned ∧ c'.writes_pending = 0 ∧ c'.deadline_ = none := by
  rcases hd : c.deadline_ with _ | ⟨t, _ | _ | _⟩
  · exact ⟨[], c, rfl, by simp, h, hw, hd⟩
  case waiting =>
    refine ⟨[.tick (max c.clock t), .deadline_expiry, .deadline],
      { c with clock := max c.clock t, deadline_ := none }.clean_up,
      by simp [run, step, hd, timer_wait_t.expire, on_deadline], ?_, ?_,
      by rw [clean_up_writes_pending]; exact hw, clean_up_deadline⟩
    · simp only [List.mem_cons, List.mem_singleton, List.not_mem_nil, or_false]
      rintro e (rfl | rfl | rfl) <;> rfl
    · rw [connection_t.clean_up_sched]
      exact (h.ticked _).left
  case expired =>
    refine ⟨[.deadline], { c with deadline_ := none }.clean_up,
      by simp only [run, step, hd, on_deadline, Bool.false_eq_true, reduceIte],
      fun _ he => List.mem_singleton.1 he ▸ rfl, ?_, by rw [clean_up_writes_pending]; exact hw,
      clean_up_deadline⟩
    rw [connection_t.clean_up_sched]
    exact h.left
  case aborted =>
    exact ⟨[.deadline], { c with deadline_ := none }, by simp only [run, step, hd, on_deadline,
      reduceIte], fun _ he => List.mem_singleton.1 he ▸ rfl, h, hw, rfl⟩

theorem drain_shutdowns (h : c.sched.Orphaned) (hw : c.writes_pending = 0)
    (hd : c.deadline_ = none) :
    ∃ c', run c (List.replicate c.shutdowns_pending .shutdown) = some (.ok c') ∧
      (c'.sched.Orphaned ∧ c'.writes_pending = 0 ∧ c'.deadline_ = none) ∧
      c'.shutdowns_pending = 0 :=
  run_replicate (fun c => c.sched.Orphaned ∧ c.writes_pending = 0 ∧ c.deadline_ = none)
    connection_t.shutdowns_pending
    (fun c h hs => ⟨on_shutdown { c with shutdowns_pending := c.shutdowns_pending - 1 },
      by simp only [step, hs, reduceIte], h, Nat.sub_add_cancel hs⟩)
    _ c ⟨h, hw, hd⟩ rfl

end Drain

/-- **The blockchain test outlives its connection.** From every reachable connection whose
blockchain test is pending, the `io_context` can complete the connection's remaining handlers
before the daemon answers, after which no `shared_ptr` to the connection is left while the
callback, which captured `this`, is still pending. -/
theorem blockchain_test_outlives_connection {c : connection_t} (hc : Reachable c)
    (hbc : c.bc_callback_pending = true) :
    ∃ es c', run c es = some (.ok c') ∧ (∀ e ∈ es, e.is_blockchain_answer = false) ∧
      c'.bc_callback_pending = true ∧ c'.owners = 0 := by
  obtain ⟨c₁, hr₁, ho₁, hw₁⟩ := drain_writes (hc.orphaned hbc)
  obtain ⟨es₂, c₂, hr₂, ha₂, ho₂, hw₂, hd₂⟩ := drain_deadline ho₁ hw₁
  obtain ⟨c₃, hr₃, ⟨ho₃, hw₃, hd₃⟩, hs₃⟩ := drain_shutdowns ho₂ hw₂ hd₂
  refine ⟨_ ++ es₂ ++ _, c₃, by rw [run_append _ (run_append _ hr₁ ▸ hr₂), hr₃], ?_,
    ho₃.callback, ho₃.owners hw₃ hs₃ hd₃⟩
  simp only [List.mem_append, List.mem_replicate]
  rintro e ((⟨-, rfl⟩ | he) | ⟨-, rfl⟩)
  · rfl
  · exact ha₂ e he
  · rfl

theorem slow_daemon_outlives_connection :
    let env : Env := { Env.lenient .SUCCESS with
      parse := fun _ => some (.object [("max_height", .number 9), ("seed", .number 7)]) }
    let es : List Event := [.handshake true, .read true ⟨.post, "/swarms/blockchain_test/v1",
      [(ARQMA_SENDER_SNODE_PUBKEY_HEADER, "pk"), (ARQMA_SNODE_SIGNATURE_HEADER, "sig")], "{}"⟩ env]
    ∃ c, run (connection_t.init 0) es = some (.ok c) ∧ c.bc_callback_pending = true ∧
      ∃ es c', run c es = some (.ok c') ∧ (∀ e ∈ es, e.is_blockchain_answer = false) ∧
        c'.bc_callback_pending = true ∧ c'.owners = 0 := by
  intro env es
  obtain ⟨c, hrun, hbc⟩ : ∃ c, run (connection_t.init 0) es = some (.ok c) ∧
      c.bc_callback_pending = true := ⟨_, rfl, rfl⟩
  exact ⟨c, hrun, hbc, blockchain_test_outlives_connection (reachable_of_run (.init 0) hrun) hbc⟩

/-! ## A long poll answers on a closed connection -/

section Closed

variable {env : Env}

theorem respond_with_messages_writes (hdump : ∀ j, ∃ s, env.dump j = .ok s)
    (henc : ∀ b k, ∃ r, env.encrypt b k = .ok r) (items : List Item) (c : connection_t) :
    ∃ c', respond_with_messages env items c = .ok c' ∧ c'.writes = c.writes + 1 ∧
      c'.socket_open = c.socket_open := by
  obtain ⟨s, hs⟩ := hdump (.object [("messages", .array (items.map message_json))])
  obtain ⟨c', h, -, hw, hso⟩ := respond_with_messages_body henc items hs c
  exact ⟨c', h, hw, hso⟩

theorem on_notification_timer_writes (hdump : ∀ j, ∃ s, env.dump j = .ok s)
    (henc : ∀ b k, ∃ r, env.encrypt b k = .ok r) (aborted : Bool) (pk : String) (c : connection_t) :
    ∃ c', on_notification_timer env aborted pk c = .ok c' ∧ c'.writes = c.writes + 1 ∧
      c'.socket_open = c.socket_open := by
  unfold on_notification_timer
  generalize (if aborted = true then _ else []) = items
  obtain ⟨c₁, h₁, hw, hs⟩ := respond_with_messages_writes hdump henc items c
  simp only [h₁, bind, Except.bind]
  exact ⟨_, rfl, hw, hs⟩

theorem notification_ready {c : connection_t} {w : timer_wait_t} {pk : String}
    (hnt : c.notification_timer = some (w, pk)) (env : Env) :
    ∃ es c₁ aborted, run c es = some (.ok c₁) ∧ c₁.socket_open = c.socket_open ∧
      c₁.writes = c.writes ∧
      step c₁ (.notification_timer env) =
        some (on_notification_timer env aborted pk { c₁ with notification_timer := none }) := by
  obtain ⟨e, st⟩ := w
  cases st with
  | waiting =>
    let c₁ : connection_t :=
      { c with clock := max c.clock e, notification_timer := some (⟨e, .expired⟩, pk) }
    exact ⟨[.tick (max c.clock e), .notification_expiry], c₁, false,
      by simp [c₁, run, step, hnt, timer_wait_t.expire], rfl, rfl, by simp [c₁, step]⟩
  | expired => exact ⟨[], c, false, rfl, rfl, rfl, by simp [step, hnt]⟩
  | aborted => exact ⟨[], c, true, rfl, rfl, rfl, by simp [step, hnt]⟩

end Closed

/-- **A long poll answers on a closed connection.** The session deadline's handler closes the
connection and removes the listener, but leaves the long-poll timer armed. From every reachable
connection whose deadline has expired while a long poll waits, the deadline's handler runs, the
TLS shutdown it starts completes, and the long-poll timer's handler then writes the connection's
only response on the closed socket. -/
theorem long_poll_writes_after_close {c : connection_t} (hc : Reachable c) {t : Nat}
    (hdl : c.deadline_ = some ⟨t, .expired⟩) {w : timer_wait_t} {pk : String}
    (hnt : c.notification_timer = some (w, pk)) {env : Env}
    (hdump : ∀ j, ∃ s, env.dump j = .ok s) (henc : ∀ b k, ∃ r, env.encrypt b k = .ok r) :
    ∃ es c₁ c₂, run c es = some (.ok c₁) ∧ c₁.socket_open = false ∧ c₁.writes = 0 ∧
      step c₁ (.notification_timer env) = some (.ok c₂) ∧ c₂.writes = 1 := by
  have hw : c.writes = 0 := by
    have hpot := hc.potential_le_one
    simp only [connection_t.sched, sched_t.potential, sched_t.writers, hnt, Option.isSome_some,
      Bool.toNat_true] at hpot
    omega
  let c_d := ({ c with deadline_ := none } : connection_t).clean_up
  let c_s := on_shutdown { c_d with shutdowns_pending := c_d.shutdowns_pending - 1 }
  have hsd : 0 < c_d.shutdowns_pending := by simp [c_d, connection_t.clean_up_eq]
  have hnt' : c_s.notification_timer = some (w, pk) := by
    simp [c_s, c_d, on_shutdown, connection_t.clean_up_eq, hnt]
  obtain ⟨es, c₁, aborted, hr, hso, hwr, hstep⟩ := notification_ready hnt' env
  obtain ⟨c₂, h₂, hw₂, -⟩ :=
    on_notification_timer_writes hdump henc aborted pk { c₁ with notification_timer := none }
  have hws : c_s.writes = 0 := by simp [c_s, c_d, on_shutdown, connection_t.clean_up_eq, hw]
  refine ⟨.deadline :: .shutdown :: es, c₁, c₂, ?_, hso, hwr.trans hws, by rw [hstep, h₂], ?_⟩
  · simp only [run, step, hdl, on_deadline, hsd, reduceIte, Bool.false_eq_true]
    exact hr
  · rw [hw₂]
    exact congrArg (· + 1) (hwr.trans hws)

theorem late_long_poll_answers_closed_socket :
    let pk := String.mk (List.replicate 64 'a')
    let env : Env := { Env.lenient .SUCCESS with
      decrypt := fun b _ => .ok b, encrypt := fun b _ => .ok b, retrieve := fun _ _ => some [],
      parse := fun _ => some (.object [("method", .string "retrieve"),
        ("params", .object [("pubKey", .string pk), ("lastHash", .string "")])]) }
    let req : request_t := ⟨.post, "/storage_rpc/v1",
      [(ARQMA_EPHEMKEY_HEADER, "key"), (ARQMA_LONG_POLL_HEADER, "1")], ""⟩
    ∃ c, run (connection_t.init 0) [.handshake true, .tick (50000 * MILLISECOND),
        .read true req env, .tick SESSION_TIME_LIMIT, .deadline_expiry] = some (.ok c) ∧
      ∃ es c₁ c₂, run c es = some (.ok c₁) ∧ c₁.socket_open = false ∧ c₁.writes = 0 ∧
        step c₁ (.notification_timer env) = some (.ok c₂) ∧ c₂.writes = 1 := by
  intro pk env req
  obtain ⟨c, hrun, hclock, hdl, w, hnt⟩ : ∃ c, run (connection_t.init 0) [.handshake true,
      .tick (50000 * MILLISECOND), .read true req env] = some (.ok c) ∧
      c.clock = 50000 * MILLISECOND ∧ c.deadline_ = some ⟨SESSION_TIME_LIMIT, .waiting⟩ ∧
      ∃ w, c.notification_timer = some (w, pk) := ⟨_, rfl, rfl, rfl, _, rfl⟩
  let c' : connection_t :=
    { c with clock := SESSION_TIME_LIMIT, deadline_ := some ⟨SESSION_TIME_LIMIT, .expired⟩ }
  have hrun' : run c [.tick SESSION_TIME_LIMIT, .deadline_expiry] = some (.ok c') := by
    have h₁ : c.clock ≤ SESSION_TIME_LIMIT := hclock ▸ by decide
    have hexp : timer_wait_t.expire SESSION_TIME_LIMIT ⟨SESSION_TIME_LIMIT, .waiting⟩ =
        some ⟨SESSION_TIME_LIMIT, .expired⟩ := if_pos ⟨rfl, le_refl _⟩
    rw [run, step, if_pos h₁]
    dsimp only
    rw [run, step]
    dsimp only
    rw [hdl, Option.some_bind, hexp]
    rfl
  have hall := run_append [.tick SESSION_TIME_LIMIT, .deadline_expiry] hrun
  rw [hrun'] at hall
  exact ⟨c', hall, long_poll_writes_after_close (reachable_of_run (.init 0) hall) rfl hnt
    (fun _ => ⟨_, rfl⟩) (fun _ _ => ⟨_, rfl⟩)⟩

end ArqmaStorage
