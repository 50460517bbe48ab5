import ArqmaStorage.Connection.Runs

/-!
# Long-poll listeners

A retrieve with `X-Arqma-Long-Poll` that finds no messages makes `poll_db` register the connection
with the `ServiceNode` as a listener for the recipient, store the recipient in
`notification_ctx_`, and arm the 20 s long-poll timer. Two handlers remove the listener: the
timer's, after it has answered the client, and `clean_up`, which removes the listener of
`notification_ctx_` and which the session deadline runs.

`ListenInv` is what holds in between: a pending long-poll timer belongs to the recipient of
`notification_ctx_`, and a recipient with a listener registered has had it removed or still has
its timer pending. A request registers at most one listener and only while no long-poll timer is
pending, since the potential of `Runs` leaves no room for a second handler next to the read
(`ListenInv.step`). Hence `long_poll_listener_removed`: in every run, a listener not yet removed
has its timer pending, and the timer's handler and the deadline's handler each remove it.

While the listener is registered, the `ServiceNode` may call `notify(msg)` on it with messages
stored for the recipient. `notify` keeps one message in `notification_ctx_` and cancels the timer, whose handler runs
later; a second message notified in between replaces the first (`notify_replaces`). So a long
poll answers with the last message notified before its handler runs, and with none of the
earlier ones (`long_poll_answers_last_message`).
-/

namespace ArqmaStorage

/-- The long-poll timer belongs to the recipient of `notification_ctx_`, and every registered
listener has been removed or has its timer pending. -/
structure ListenInv (s : sched_t) : Prop where
  timer_key : ∀ w pk, s.notification_timer = some (w, pk) → s.listening = some pk
  /-- A registered listener has been removed, or its long-poll timer is still pending. -/
  removed : ∀ pk, SnCall.register_listener pk ∈ s.listener_calls →
    SnCall.remove_listener pk ∈ s.listener_calls ∨ ∃ w, s.notification_timer = some (w, pk)

section Listen

variable {s s' : sched_t}

/-- What `ListenInv` reads. -/
def sched_t.listen_view (s : sched_t) :
    Option (timer_wait_t × String) × Option String × List SnCall :=
  (s.notification_timer, s.listening, s.listener_calls)

theorem ListenInv.of_view (h : ListenInv s) (hv : s'.listen_view = s.listen_view) :
    ListenInv s' := by
  simp only [sched_t.listen_view, Prod.mk.injEq] at hv
  obtain ⟨h₁, h₂, h₃⟩ := hv
  exact ⟨fun w pk hw => h₂ ▸ h.timer_key w pk (h₁ ▸ hw), fun pk hr => by
    simpa only [h₁, h₃] using h.removed pk (h₃ ▸ hr)⟩

theorem ListenInv.left (h : ListenInv s) : ListenInv s.left := by
  refine ⟨h.timer_key, fun pk hr => ?_⟩
  have hr : SnCall.register_listener pk ∈ s.listener_calls := by
    cases hl : s.listening <;> simpa [sched_t.left, hl] using hr
  exact (h.removed pk hr).imp_left fun h => List.mem_append.2 (.inl h)

theorem ListenInv.retimed (h : ListenInv s) {w w' : timer_wait_t} {pk : String}
    (hw : s.notification_timer = some (w, pk)) :
    ListenInv { s with notification_timer := some (w', pk) } :=
  ⟨fun _ _ h' => by cases h'; exact h.timer_key w pk hw, fun pk' hr => by
    rcases h.removed pk' hr with h₁ | ⟨w₁, h₁⟩
    · exact .inl h₁
    · obtain rfl : pk' = pk := by simp_all
      exact .inr ⟨w', rfl⟩⟩

theorem ListenInv.fired (h : ListenInv s) {w : timer_wait_t} {pk : String}
    (hw : s.notification_timer = some (w, pk)) :
    ListenInv ({ s with notification_timer := none }.removed pk) := by
  refine ⟨by simp, fun pk' hr => .inl ?_⟩
  simp only [sched_t.removed, List.mem_append, List.mem_singleton, reduceCtorEq, or_false,
    SnCall.remove_listener.injEq] at hr ⊢
  rcases h.removed pk' hr with h₁ | ⟨w₁, h₁⟩
  · exact .inl h₁
  · exact .inr (by simp_all)

theorem poll_effect_listen (h : poll_effect s s') (hs : ListenInv s)
    (hnt : s.notification_timer = none) : ListenInv s' := by
  rcases h with rfl | rfl | ⟨pk, rfl⟩
  · exact hs
  · exact hs.of_view rfl
  · refine ⟨fun _ _ h' => by cases h'; rfl, fun pk' hr => ?_⟩
    simp only [List.mem_append, List.mem_singleton, SnCall.register_listener.injEq] at hr
    rcases hr with hr | rfl
    · exact .inl (List.mem_append.2 (.inl ((hs.removed pk' hr).resolve_right (by simp [hnt]))))
    · exact .inr ⟨_, rfl⟩

theorem storage_test_effect_listen_view (h : storage_test_effect s s') :
    s'.listen_view = s.listen_view := by
  rcases h with rfl | rfl | rfl | ⟨-, w, -, rfl⟩ <;> rfl

theorem request_effect_listen (h : request_effect s s') (hs : ListenInv s)
    (hnt : s.notification_timer = none) : ListenInv s' := by
  cases h with
  | unchanged => exact hs
  | storage_test h => exact hs.of_view (storage_test_effect_listen_view h)
  | blockchain_test => exact hs.of_view rfl
  | retrieve h => exact poll_effect_listen h (hs.of_view rfl) hnt

-- A request finds no long-poll timer pending: under potential one, the read and the timer cannot
-- both be pending.
theorem ListenInv.step (hs : ListenInv s) (hpot : s.potential ≤ 1) (h : sched_step true s s') :
    ListenInv s' := by
  cases h with
  | idle => exact hs
  | handshake_failed _ | read_failed _ => exact ListenInv.left (hs.of_view rfl)
  | clean_up => exact hs.left
  | request hp h₁ h₂ =>
    have hnt : s.notification_timer = none := by
      cases hn : s.notification_timer
      · rfl
      · simp only [sched_t.potential, sched_t.writers, hp, hn, Option.isSome_some,
          Bool.toNat_true] at hpot
        omega
    have := request_effect_listen h₁ (hs.of_view rfl) hnt
    rcases h₂ with rfl | ⟨-, rfl⟩
    · exact this
    · exact this.of_view rfl
  | repeat_expired _ _ _ he => exact hs.of_view ((storage_test_effect_listen_view he).trans rfl)
  | notification_expiry w pk hw | notify w pk hw => exact hs.retimed hw
  | notification w pk hw _ h₁ h₂ =>
    obtain rfl : s' = _ := h₂.resolve_right (by simp)
    rcases h₁ with rfl | rfl
    · exact hs.fired hw
    · exact (hs.fired hw).of_view rfl
  | blockchain_answer _ h => rcases h with rfl | rfl <;> exact hs.of_view rfl
  | handshake_ok _ | repeat_expiry _ _ | repeat_aborted _ _ | tick _ _ => exact hs.of_view rfl

end Listen

theorem Reachable.listen_inv {c : connection_t} (h : Reachable c) : ListenInv c.sched := by
  induction h with
  | init t => exact ⟨by simp [connection_t.init, connection_t.sched], by
      simp [connection_t.init, connection_t.sched]⟩
  | step e hc hs ih => exact ih.step hc.potential_le_one (step_sched hs)

theorem on_notification_timer_removes {env : Env} {aborted : Bool} {pk : String}
    {c c' : connection_t} (h : on_notification_timer env aborted pk c = .ok c') :
    SnCall.remove_listener pk ∈ c'.calls := by
  obtain ⟨c₁, -, h⟩ := bind_eq_ok h
  cases h
  simp [connection_t.call]

/-- **Every long-poll listener is removed.** In every run, a recipient the connection registered
a listener for has had it removed, or its long-poll timer is still pending; and the timer's
handler, and the session deadline's handler once the deadline has expired, each remove it. -/
theorem long_poll_listener_removed {c : connection_t} (hc : Reachable c) {pk : String}
    (hreg : SnCall.register_listener pk ∈ c.calls) :
    SnCall.remove_listener pk ∈ c.calls ∨
      (∃ w, c.notification_timer = some (w, pk)) ∧
      (∀ env c', step c (.notification_timer env) = some (.ok c') →
        SnCall.remove_listener pk ∈ c'.calls) ∧
      (∀ t c', c.deadline_ = some ⟨t, .expired⟩ → step c .deadline = some (.ok c') →
        SnCall.remove_listener pk ∈ c'.calls) := by
  have hi := hc.listen_inv
  have hmem : ∀ x, x ∈ c.sched.listener_calls ↔ x ∈ c.calls ∧ x.is_listener = true := by
    simp [connection_t.sched]
  rcases hi.removed pk ((hmem _).2 ⟨hreg, rfl⟩) with h | ⟨w, hw⟩
  · exact .inl ((hmem _).1 h).1
  refine .inr ⟨⟨w, hw⟩, fun env c' h => ?_, fun t c' hdl h => ?_⟩
  · simp only [step, show c.notification_timer = some (w, pk) from hw] at h
    split_ifs at h
    exact on_notification_timer_removes (Option.some.inj h)
  · have hctx : c.notification_ctx_.map notification_context_t.pubkey = some pk :=
      hi.timer_key w pk hw
    simp only [step, hdl, on_deadline, Option.some.injEq, Except.ok.injEq, Bool.false_eq_true,
      reduceIte] at h
    subst h
    rw [connection_t.clean_up_eq]
    obtain ⟨ctx, hc, rfl⟩ := Option.map_eq_some'.1 hctx
    simp [hc]

theorem long_poll_waits_for_removal :
    let pk := String.mk (List.replicate 64 'a')
    let env : Env := { Env.lenient .SUCCESS with
      decrypt := fun b _ => .ok b, retrieve := fun _ _ => some [],
      parse := fun _ => some (.object [("method", .string "retrieve"),
        ("params", .object [("pubKey", .string pk), ("lastHash", .string "")])]) }
    let req : request_t := ⟨.post, "/storage_rpc/v1",
      [(ARQMA_EPHEMKEY_HEADER, "key"), (ARQMA_LONG_POLL_HEADER, "1")], ""⟩
    ∃ c, run (connection_t.init 0) [.handshake true, .read true req env] = some (.ok c) ∧
      SnCall.register_listener pk ∈ c.calls ∧ SnCall.remove_listener pk ∉ c.calls ∧
      ∃ w, c.notification_timer = some (w, pk) := by
  intro pk env req
  obtain ⟨c, hrun, hcalls⟩ : ∃ c, run (connection_t.init 0) [.handshake true, .read true req env] =
      some (.ok c) ∧ c.calls = [.bump_retrieve_requests, .retrieve pk "", .register_listener pk] :=
    ⟨_, rfl, rfl⟩
  have hreg : SnCall.register_listener pk ∈ c.calls := by simp [hcalls]
  have hrem : SnCall.remove_listener pk ∉ c.calls := by simp [hcalls]
  exact ⟨c, hrun, hreg, hrem,
    ((long_poll_listener_removed (reachable_of_run (.init 0) hrun) hreg).resolve_left hrem).1⟩

/-! ## A notified long poll answers with the last message -/

section Answer

variable {env : Env}

theorem encrypt_response_keeps (henc : ∀ b k, ∃ r, env.encrypt b k = .ok r) (c : connection_t) :
    ∃ c', encrypt_response env c = .ok c' ∧ c'.writes = c.writes ∧
      c'.socket_open = c.socket_open ∧ c'.body_stream_ = c.body_stream_ := by
  unfold encrypt_response
  split
  · exact ⟨c, rfl, rfl, rfl, rfl⟩
  · next k _ =>
    obtain ⟨r, hr⟩ := henc c.body_stream_ k
    rw [hr]
    exact ⟨_, rfl, rfl, rfl, rfl⟩

theorem respond_with_messages_body (henc : ∀ b k, ∃ r, env.encrypt b k = .ok r)
    (items : List Item) {s : String}
    (hs : env.dump (.object [("messages", .array (items.map message_json))]) = .ok s)
    (c : connection_t) :
    ∃ c', respond_with_messages env items c = .ok c' ∧ c'.body_stream_ = c.body_stream_ ++ s ∧
      c'.writes = c.writes + 1 ∧ c'.socket_open = c.socket_open := by
  obtain ⟨c₁, h₁, hw, hso, hb⟩ :=
    encrypt_response_keeps henc (((c.result status.ok).set "Content-Type" "application/json").out s)
  simp only [respond_with_messages, write_response, hs, lift, bind, Except.bind, h₁]
  exact ⟨_, rfl, hb, congrArg (· + 1) hw, hso⟩

theorem notify_replaces {c : connection_t} {k : String} {e : Nat} {pk : String} {st : TimerState}
    (hctx : c.notification_ctx_.map notification_context_t.pubkey = some k)
    (hnt : c.notification_timer = some (⟨e, st⟩, pk)) (hst : st ≠ .expired) (m : message_t) :
    notify (some m) c =
      { c with notification_ctx_ := some ⟨some m, k⟩,
               notification_timer := some (⟨e, .aborted⟩, pk) } := by
  obtain ⟨ctx, hc, rfl⟩ := Option.map_eq_some'.1 hctx
  cases st with
  | waiting => simp [notify, hc, hnt]
  | expired => exact absurd rfl hst
  | aborted =>
    simp only [notify, hc, hnt]
    rw [← hnt]
    rfl

theorem run_notify {c : connection_t} {k : String} {e : Nat} {pk : String} {st : TimerState}
    (hctx : c.notification_ctx_.map notification_context_t.pubkey = some k)
    (hnt : c.notification_timer = some (⟨e, st⟩, pk)) (hst : st ≠ .expired) (ms : List message_t)
    (m : message_t) (rest : List Event) :
    run c ((ms ++ [m]).map (fun x => .notify (some x)) ++ rest) =
      run { c with notification_ctx_ := some ⟨some m, k⟩,
                   notification_timer := some (⟨e, .aborted⟩, pk) } rest := by
  induction ms generalizing c st with
  | nil =>
    simp only [List.nil_append, List.map_cons, List.map_nil, List.cons_append, run, step,
      notify_replaces hctx hnt hst]
    rfl
  | cons x ms ih =>
    simp only [List.cons_append, List.map_cons, run, step, notify_replaces hctx hnt hst]
    exact ih rfl rfl (by decide)

theorem on_notification_timer_answers (henc : ∀ b k, ∃ r, env.encrypt b k = .ok r)
    {m : message_t} {s : String}
    (hs : env.dump (.object [("messages", .array [message_json m.toItem])]) = .ok s)
    (pk k : String) (c : connection_t) (hctx : c.notification_ctx_ = some ⟨some m, k⟩) :
    ∃ c', on_notification_timer env true pk c = .ok c' ∧ c'.body_stream_ = c.body_stream_ ++ s ∧
      c'.writes = c.writes + 1 := by
  obtain ⟨c₁, h₁, hb, hw, -⟩ := respond_with_messages_body henc [m.toItem] hs c
  simp only [on_notification_timer, hctx, reduceIte, h₁, bind, Except.bind]
  exact ⟨_, rfl, hb, hw⟩

end Answer

/-- **A long poll answers with the last message only.** While the long-poll timer waits, each
`notify` with a message overwrites the one `notification_ctx_` holds, and the listener stays
registered until the timer's handler runs. When the messages `ms` and then `m` are notified
before it runs, the response carries `m` alone. -/
theorem long_poll_answers_last_message {c : connection_t} (hc : Reachable c) {e : Nat}
    {pk : String} (hnt : c.notification_timer = some (⟨e, .waiting⟩, pk)) (ms : List message_t)
    (m : message_t) {env : Env} {s : String}
    (hs : env.dump (.object [("messages", .array [message_json m.toItem])]) = .ok s)
    (henc : ∀ b k, ∃ r, env.encrypt b k = .ok r) :
    ∃ c', run c ((ms ++ [m]).map (fun x => .notify (some x)) ++ [.notification_timer env]) =
        some (.ok c') ∧ c'.body_stream_ = c.body_stream_ ++ s ∧ c'.writes = c.writes + 1 := by
  obtain ⟨c', h, hb, hw⟩ := on_notification_timer_answers henc hs pk pk
    { c with notification_ctx_ := some ⟨some m, pk⟩, notification_timer := none } rfl
  refine ⟨c', ?_, hb, hw⟩
  rw [run_notify (hc.listen_inv.timer_key _ _ hnt) hnt (by decide) ms m]
  simp only [run, step, reduceCtorEq, reduceIte, decide_True, h]

theorem second_store_replaces_first :
    let pk := String.mk (List.replicate 64 'a')
    let env : Env := { Env.lenient .SUCCESS with
      decrypt := fun b _ => .ok b, encrypt := fun b _ => .ok b, retrieve := fun _ _ => some [],
      parse := fun _ => some (.object [("method", .string "retrieve"),
        ("params", .object [("pubKey", .string pk), ("lastHash", .string "")])]),
      dump := fun
        | .object [("messages", .array [.object [_, _, ("data", .string d)]])] => .ok d
        | _ => .ok "" }
    let req : request_t := ⟨.post, "/storage_rpc/v1",
      [(ARQMA_EPHEMKEY_HEADER, "key"), (ARQMA_LONG_POLL_HEADER, "1")], ""⟩
    let m₁ : message_t := ⟨pk, "first", "h1", 60000, 1, ""⟩
    let m₂ : message_t := ⟨pk, "second", "h2", 60000, 2, ""⟩
    ∃ c, run (connection_t.init 0) [.handshake true, .read true req env] = some (.ok c) ∧
      ∃ c', run c ([m₁, m₂].map (fun x => .notify (some x)) ++ [.notification_timer env]) =
          some (.ok c') ∧ c'.body_stream_ = c.body_stream_ ++ "second" ∧
        c'.writes = c.writes + 1 := by
  intro pk env req m₁ m₂
  obtain ⟨c, hrun, e, hnt⟩ : ∃ c, run (connection_t.init 0) [.handshake true, .read true req env] =
      some (.ok c) ∧ ∃ e, c.notification_timer = some (⟨e, .waiting⟩, pk) := ⟨_, rfl, _, rfl⟩
  exact ⟨c, hrun, long_poll_answers_last_message (reachable_of_run (.init 0) hrun) hnt [m₁] m₂ rfl
    fun _ _ => ⟨_, rfl⟩⟩

end ArqmaStorage
