import ArqmaStorage.Connection.Request

/-!
# The life of a connection

`start()` arms the session deadline and starts the TLS handshake; from then on the connection
lives in its completion handlers, which the `io_context` runs one at a time in any order the
network and the clock allow. `step c e` runs the handler that event `e` completes, and is `none`
when that handler is not pending. Timers are waits on the steady clock: a wait expires once the
clock has reached its expiry (`deadline_expiry`, `repeat_expiry`, `notification_expiry`), a
`cancel()` before that aborts it, and its handler runs later, with `operation_aborted` when it was
aborted. The clock only moves forward (`tick`).

An exception that leaves a handler ends the run: it unwinds `io_context::run` into `main`'s
`catch`, and the process exits. The read handler lets one out: its `write_response` stands
outside the `try` block (`read_handler_throws`), and the timer handlers have no `try` block at
all (`timer_handlers_throw`). `clean_up` keeps no record that it ran, and a
silent client has it run twice, once from the deadline and once from the aborted read
(`deadline_then_read_cleans_up_twice`).
-/

namespace ArqmaStorage

/-! ## Completion handlers -/

/-- `on_handshake(ec)`. -/
def on_handshake (ok : Bool) (c : connection_t) : connection_t :=
  let c := { c with sockets_opened := c.sockets_opened + 1 }
  if !ok then c.clean_up.cancel_deadline else { c with read_pending := true }

/-- `on_data(ec, bytes)`, with the request the read filled in. -/
def on_data (env : Env) (ok : Bool) (req : request_t) (c : connection_t) : Outcome :=
  if !ok then .ok c.clean_up.cancel_deadline
  else on_request env { c with request_ := req }

/-- The completion handler of `write_response`'s `async_write`. -/
def on_write (c : connection_t) : connection_t := c.clean_up.cancel_deadline

/-- `on_shutdown(ec)`. -/
def on_shutdown (c : connection_t) : connection_t :=
  { c with sockets_closed := c.sockets_closed + 1, socket_open := false }

/-- The handler `register_deadline` leaves on `deadline_`. -/
def on_deadline (aborted : Bool) (c : connection_t) : connection_t :=
  if aborted then c else c.clean_up

/-- The handler of `repeat_timer_`. -/
def on_repeat_timer (env : Env) (aborted : Bool) (w : repeat_wait_t) (c : connection_t) :
    Outcome :=
  if aborted then .ok c else process_storage_test_req env w.height w.tester_pk w.msg_hash c

/-- The handler of the long-poll timer: cancellation is the notification. -/
def on_notification_timer (env : Env) (aborted : Bool) (pk : String) (c : connection_t) :
    Outcome := do
  let items := if aborted then
      match c.notification_ctx_ with
      | some ⟨some m, _⟩ => [m.toItem]
      | _ => []
    else []
  let c ← respond_with_messages env items c
  .ok (c.call (.remove_listener pk))

/-- `notify(msg)`, called by the `ServiceNode` on a listener. -/
def notify (msg : Option message_t) (c : connection_t) : connection_t :=
  match c.notification_ctx_ with
  | none => c
  | some ctx =>
    let c := { c with notification_ctx_ := some { ctx with message := msg.orElse fun _ => ctx.message } }
    match c.notification_timer with
    | some (⟨e, .waiting⟩, pk) => { c with notification_timer := some (⟨e, .aborted⟩, pk) }
    | _ => c

/-! ## Events -/

/-- What can happen next to a connection. -/
inductive Event where
  | handshake (ok : Bool)
  | read (ok : Bool) (req : request_t) (env : Env)
  | write
  | shutdown
  | deadline_expiry
  | deadline
  | repeat_expiry
  | repeat_timer (env : Env)
  | notification_expiry
  | notification_timer (env : Env)
  | blockchain_answer (res_height : UInt64) (env : Env)
  | notify (msg : Option message_t)
  | tick (t : Nat)

/-- The handler that event `e` completes, run on `c`; `none` when it is not pending. -/
def step (c : connection_t) : Event → Option Outcome
  | .handshake ok =>
    if c.handshake_pending then some (.ok (on_handshake ok { c with handshake_pending := false }))
    else none
  | .read ok req env =>
    if c.read_pending then some (on_data env ok req { c with read_pending := false }) else none
  | .write =>
    if 0 < c.writes_pending then some (.ok (on_write { c with writes_pending := c.writes_pending - 1 }))
    else none
  | .shutdown =>
    if 0 < c.shutdowns_pending then
      some (.ok (on_shutdown { c with shutdowns_pending := c.shutdowns_pending - 1 }))
    else none
  | .deadline_expiry =>
    c.deadline_.bind fun w => (w.expire c.clock).map fun w => .ok { c with deadline_ := some w }
  | .deadline =>
    match c.deadline_ with
    | some ⟨_, .expired⟩ => some (.ok (on_deadline false { c with deadline_ := none }))
    | some ⟨_, .aborted⟩ => some (.ok (on_deadline true { c with deadline_ := none }))
    | _ => none
  | .repeat_expiry =>
    c.repeat_timer_.bind fun w => (w.wait.expire c.clock).map fun v =>
      .ok { c with repeat_timer_ := some { w with wait := v } }
  | .repeat_timer env =>
    match c.repeat_timer_ with
    | some w =>
      if w.wait.state = .waiting then none
      else some (on_repeat_timer env (w.wait.state = .aborted) w { c with repeat_timer_ := none })
    | none => none
  | .notification_expiry =>
    c.notification_timer.bind fun (w, pk) => (w.expire c.clock).map fun v =>
      .ok { c with notification_timer := some (v, pk) }
  | .notification_timer env =>
    match c.notification_timer with
    | some (w, pk) =>
      if w.state = .waiting then none
      else some (on_notification_timer env (w.state = .aborted) pk { c with notification_timer := none })
    | none => none
  | .blockchain_answer h env =>
    if c.bc_callback_pending then
      some (blockchain_test_callback env h { c with bc_callback_pending := false })
    else none
  | .notify msg => some (.ok (notify msg c))
  | .tick t => if c.clock ≤ t then some (.ok { c with clock := t }) else none

/-- The states a connection reaches from its start without an exception leaving a handler. -/
inductive Reachable : connection_t → Prop
  | init (t : Nat) : Reachable (connection_t.init t)
  | step {c c' : connection_t} (e : Event) : Reachable c → step c e = some (.ok c') → Reachable c'

/-- Run a list of events from `c`; `none` when an event's handler is not pending, and the
exception when one leaves a handler (the remaining events never happen). -/
def run (c : connection_t) : List Event → Option Outcome
  | [] => some (.ok c)
  | e :: es =>
    match step c e with
    | some (.ok c') => run c' es
    | some (.error x) => some (.error x)
    | none => none

theorem reachable_of_run {c c' : connection_t} (hc : Reachable c) :
    ∀ {es : List Event}, run c es = some (.ok c') → Reachable c'
  | [], h => by simp only [run, Option.some.injEq, Except.ok.injEq] at h; exact h ▸ hc
  | e :: es, h => by
    simp only [run] at h
    split at h
    · exact reachable_of_run (hc.step e ‹_›) h
    · simp at h
    · simp at h

/-! ## Handlers that fail -/

/-- **An exception leaves the read handler.** A client request with an `X-Arqma-EphemKey` of
fewer than three bytes, whose body does not decrypt and whose response does not encrypt under
that key, is answered 400 inside the `try` block; the `write_response` that follows, outside it,
throws from `obfuscate_pubkey`. -/
theorem read_handler_throws (env : Env) (c : connection_t) (req : request_t) {ip k : String}
    {e : Exn} (hread : c.read_pending = true) (hdelay : c.delay_response_ = false)
    (hpost : req.method = .post) (htarget : req.target = "/storage_rpc/v1")
    (hready : env.snode_ready = true) (hip : env.remote_address = .ok ip)
    (hlimit : env.should_rate_limit_client ip = false)
    (hkey : req.find ARQMA_EPHEMKEY_HEADER = some k) (hsize : size k < 3)
    (hde : env.decrypt (env.base64_decode req.body) k = .error e) (hcaught : e.caught = true)
    (henc : ∀ b, ∃ e, env.encrypt b k = .error e) :
    ∃ c', step c (.read true req env) = some (.error (.out_of_range "basic_string::substr", c')) := by
  obtain ⟨c', h⟩ := on_request_throws env { c with read_pending := false, request_ := req } hpost
    htarget hready hip hlimit hkey hsize hde hcaught henc hdelay
  exact ⟨c', by simp only [step, hread, reduceIte, on_data, Bool.not_true, Bool.false_eq_true]; rw [← h]⟩

theorem short_ephemkey_escapes :
    let req : request_t := ⟨.post, "/storage_rpc/v1", [(ARQMA_EPHEMKEY_HEADER, "ab")], "x"⟩
    let c := on_handshake true { connection_t.init 0 with handshake_pending := false }
    run (connection_t.init 0) [.handshake true] = some (.ok c) ∧
      ∃ c', step c (.read true req (Env.lenient .SUCCESS)) =
        some (.error (.out_of_range "basic_string::substr", c')) := by
  intro req c
  exact ⟨rfl, read_handler_throws _ c req rfl rfl rfl rfl rfl rfl rfl rfl (by decide) rfl rfl
    fun _ => ⟨_, rfl⟩⟩

/-- **`clean_up` runs twice on a silent client.** When the session deadline fires while the
read is still pending, its handler cleans up; the read then completes with `operation_aborted`,
and `on_data`'s error path cleans up again. Both TLS shutdowns complete, and `on_shutdown`
records two closes of the one socket. -/
theorem deadline_then_read_cleans_up_twice {c : connection_t} {t : Nat}
    (hread : c.read_pending = true) (hdl : c.deadline_ = some ⟨t, .expired⟩) (req : request_t)
    (env : Env) :
    ∃ c', run c [.deadline, .read false req env, .shutdown, .shutdown] = some (.ok c') ∧
      c'.clean_ups = c.clean_ups + 2 ∧ c'.sockets_closed = c.sockets_closed + 2 ∧
      c'.sockets_opened = c.sockets_opened := by
  simp [run, step, hdl, hread, on_deadline, on_data, on_shutdown, connection_t.clean_up_eq,
    connection_t.cancel_deadline]

theorem silent_client_closes_twice :
    let es : List Event := [.handshake true, .tick SESSION_TIME_LIMIT, .deadline_expiry]
    ∃ c c', run (connection_t.init 0) es = some (.ok c) ∧
      run c [.deadline, .read false (connection_t.init 0).request_ (Env.lenient .SUCCESS), .shutdown,
        .shutdown] = some (.ok c') ∧
      c'.clean_ups = 2 ∧ c'.sockets_closed = 2 ∧ c'.sockets_opened = 1 := by
  intro es
  obtain ⟨c, hc, hread, hdl, h0, h1, h2⟩ : ∃ c, run (connection_t.init 0) es = some (.ok c) ∧
      c.read_pending = true ∧ c.deadline_ = some ⟨SESSION_TIME_LIMIT, .expired⟩ ∧
      c.clean_ups = 0 ∧ c.sockets_closed = 0 ∧ c.sockets_opened = 1 :=
    ⟨_, rfl, rfl, rfl, rfl, rfl, rfl⟩
  obtain ⟨c', h, h₁, h₂, h₃⟩ := deadline_then_read_cleans_up_twice hread hdl
    (connection_t.init 0).request_ (Env.lenient .SUCCESS)
  exact ⟨c, c', hc, h, by omega, by omega, by omega⟩

end ArqmaStorage
