import ArqmaStorage.Basic

/-!
# Outgoing HTTP requests

`make_http_request` resolves the target, then hands the request and the callback to an
`HttpClientSession`, which connects, writes, reads and meanwhile runs its own deadline. Each way
the exchange can end calls `trigger_callback`, which posts the callback to the `io_context` once
and cancels the deadline; the destructor posts `ERROR_OTHER` when that never happened. A session
therefore posts its callback at most once in every interleaving, and exactly once by the time it
is destroyed (`session_posts_le_one`, `destroyed_posts_one`). No interleaving leaves a session
stuck: whatever has happened, the pending connect, write or read can fail, the deadline can run
out, and the destructor then runs (`session_completes`).

When the resolver fails, `make_http_request` returns before any session exists, and the callback
is destroyed without being posted (`make_http_request_unresolved`).
-/

namespace ArqmaStorage

/-- An `HttpClientSession` and what the `io_context` holds for it. -/
structure HttpClientSession where
  used_callback_ : Bool
  needs_cleanup : Bool
  socket_open : Bool
  connect_pending : Bool
  write_pending : Bool
  read_pending : Bool
  deadline_timer_ : Option timer_wait_t
  /-- The callbacks posted to the `io_context`, with their responses. -/
  posted : List sn_response_t
  destroyed : Bool
  clock : Nat
  sockets_opened : Nat
  sockets_closed : Nat
  deriving Repr, DecidableEq

namespace HttpClientSession

/-- The session's constructor and `start()` at time `t`: connect, and arm the deadline. -/
def start (t : Nat) : HttpClientSession where
  used_callback_ := false
  needs_cleanup := true
  socket_open := true
  connect_pending := true
  write_pending := false
  read_pending := false
  deadline_timer_ := some ⟨t + SESSION_TIME_LIMIT, .waiting⟩
  posted := []
  destroyed := false
  clock := t
  sockets_opened := 0
  sockets_closed := 0

variable (s : HttpClientSession)

/-- `trigger_callback(error, body)`. -/
def trigger_callback (error : SNodeError) (body : Option String) : HttpClientSession :=
  { s with posted := s.posted ++ [⟨error, body⟩], used_callback_ := true,
           deadline_timer_ := s.deadline_timer_.map timer_wait_t.cancel }

/-- `clean_up()`: shut the socket down once. -/
def clean_up : HttpClientSession :=
  if !s.needs_cleanup then s
  else
    let s := { s with needs_cleanup := false }
    if !s.socket_open then s
    else { s with socket_open := false, sockets_closed := s.sockets_closed + 1 }

/-- The handler of `async_connect`. -/
def on_connect_done (ok : Bool) : HttpClientSession :=
  if !ok then s.trigger_callback .NO_REACH none
  else { s with sockets_opened := s.sockets_opened + 1, write_pending := true }

/-- `on_write(ec, bytes)`. -/
def on_write (ok : Bool) : HttpClientSession :=
  if !ok then s.trigger_callback .ERROR_OTHER none else { s with read_pending := true }

/-- `on_read(ec, bytes)`: `response` is the status and body when the read succeeded or ended
with `end_of_stream`, and `none` on any other error. -/
def on_read (response : Option (Nat × String)) : HttpClientSession :=
  match response with
  | some (result, body) =>
    if 200 ≤ result ∧ result < 300 then s.trigger_callback .NO_ERROR (some body)
    else s.trigger_callback .HTTP_ERROR none
  | none => s.trigger_callback .ERROR_OTHER none

/-- The handler of `deadline_timer_`. -/
def on_deadline (aborted : Bool) : HttpClientSession := if aborted then s else s.clean_up

/-- `~HttpClientSession()`. -/
def destroy : HttpClientSession :=
  let s := if !s.used_callback_ then { s with posted := s.posted ++ [⟨.ERROR_OTHER, none⟩] } else s
  { s.clean_up with destroyed := true }

/-- Whether some completion handler still holds the session. -/
def busy : Bool :=
  s.connect_pending || s.write_pending || s.read_pending || s.deadline_timer_.isSome

end HttpClientSession

/-- What can happen next to a session. -/
inductive SessionEvent where
  | connect (ok : Bool)
  | write (ok : Bool)
  | read (response : Option (Nat × String))
  | deadline_expiry
  | deadline
  | tick (t : Nat)
  /-- The last handler let go of the session: the destructor runs. -/
  | release
  deriving Repr, DecidableEq

namespace HttpClientSession

/-- The handler event `e` completes; `none` when it is not pending. -/
def step (s : HttpClientSession) : SessionEvent → Option HttpClientSession
  | .connect ok => if s.connect_pending then some ({ s with connect_pending := false }.on_connect_done ok) else none
  | .write ok => if s.write_pending then some ({ s with write_pending := false }.on_write ok) else none
  | .read r => if s.read_pending then some ({ s with read_pending := false }.on_read r) else none
  | .deadline_expiry =>
    s.deadline_timer_.bind fun w => (w.expire s.clock).map fun w => { s with deadline_timer_ := some w }
  | .deadline =>
    match s.deadline_timer_ with
    | some ⟨_, .expired⟩ => some ({ s with deadline_timer_ := none }.on_deadline false)
    | some ⟨_, .aborted⟩ => some ({ s with deadline_timer_ := none }.on_deadline true)
    | _ => none
  | .tick t => if s.clock ≤ t then some { s with clock := t } else none
  | .release => if !s.busy && !s.destroyed then some s.destroy else none

/-- Run a list of events; `none` when one is not enabled. -/
def run (s : HttpClientSession) : List SessionEvent → Option HttpClientSession
  | [] => some s
  | e :: es => (s.step e).bind fun s' => run s' es

end HttpClientSession

/-- `make_http_request(ioc, address, port, req, cb)`: a started session, or nothing when
`resolver.resolve` fails and the function returns early, dropping `cb`. -/
def make_http_request (resolved : Bool) (t : Nat) : Option HttpClientSession :=
  if !resolved then none else some (HttpClientSession.start t)

/-- An IP address, as `address().is_v4()` tells them apart. -/
inductive ip_address where
  | v4 (addr : UInt32)
  | v6 (addr : Fin (2 ^ 128))
  deriving Repr, DecidableEq

def ip_address.is_v4 : ip_address → Bool
  | .v4 _ => true
  | .v6 _ => false

/-- A `tcp::endpoint`. -/
structure tcp_endpoint where
  address : ip_address
  port : UInt16
  deriving Repr, DecidableEq

/-- The `tcp::endpoint` `make_http_request` connects to, from the resolver's `destination`s:
the loop keeps the last IPv4 one, starting from the default endpoint `0.0.0.0:0`, and the port is
then set to `port`. -/
def make_http_request_endpoint (destination : List tcp_endpoint) (port : UInt16) : tcp_endpoint :=
  let endpoint := destination.foldl (fun endpoint thisEndpoint =>
    if !thisEndpoint.address.is_v4 then endpoint else thisEndpoint) ⟨.v4 0, 0⟩
  { endpoint with port := port }

/-- **`make_http_request` connects to the last IPv4 address, or to `0.0.0.0`.** The session's
endpoint is the last IPv4 endpoint the resolver returned, at `port`; when it returned none, it is
the unspecified address `0.0.0.0`, which connects to the local host, and no error is raised. -/
theorem make_http_request_connects_last_v4 (destination : List tcp_endpoint) (port : UInt16) :
    make_http_request_endpoint destination port =
      ⟨((destination.filter fun e => e.address.is_v4).getLast?.map tcp_endpoint.address).getD
        (.v4 0), port⟩ := by
  induction destination using List.reverseRecOn with
  | nil => rfl
  | append_singleton ds e ih =>
    simp only [make_http_request_endpoint, tcp_endpoint.mk.injEq, and_true] at ih ⊢
    rw [List.foldl_append, List.foldl_cons, List.foldl_nil, List.filter_append]
    cases he : e.address.is_v4
    · simpa [he] using ih
    · simp [he]

theorem ipv6_only_name_connects_to_any :
    let destination : List tcp_endpoint := [⟨.v6 1, 80⟩]
    make_http_request_endpoint destination 22021 = ⟨.v4 0, 22021⟩ := by
  intro destination
  rw [make_http_request_connects_last_v4]
  rfl

/-- The callbacks a request has posted: none while there is no session. -/
def posted_callbacks : Option HttpClientSession → List sn_response_t
  | some s => s.posted
  | none => []


namespace HttpClientSession

/-! ## Exactly once -/

/-- The states a session reaches from `start`. -/
inductive Reachable : HttpClientSession → Prop
  | start (t : Nat) : Reachable (start t)
  | step {s s' : HttpClientSession} (e : SessionEvent) : Reachable s → s.step e = some s' →
      Reachable s'

/-- Until the session is destroyed, exactly one of the connect, the write, the read and the
posted callback is outstanding, and the callbacks posted are the one `used_callback_` records;
once destroyed, no handler holds the session and one callback has been posted. -/
structure Inv (s : HttpClientSession) : Prop where
  live : s.destroyed = false → s.posted.length = s.used_callback_.toNat ∧
    s.connect_pending.toNat + s.write_pending.toNat + s.read_pending.toNat +
      s.used_callback_.toNat = 1
  dead : s.destroyed = true → s.posted.length = 1 ∧ s.busy = false

variable {s : HttpClientSession}

theorem Inv.not_destroyed (hs : Inv s)
    (h : s.connect_pending = true ∨ s.write_pending = true ∨ s.read_pending = true) :
    s.destroyed = false := by
  cases hd : s.destroyed
  · rfl
  · have := (hs.dead hd).2
    simp only [busy, Bool.or_eq_false_iff] at this
    rcases h with h | h | h <;> simp_all

theorem Inv.of_live (hd : s.destroyed = false)
    (h : s.posted.length = s.used_callback_.toNat ∧
      s.connect_pending.toNat + s.write_pending.toNat + s.read_pending.toNat +
        s.used_callback_.toNat = 1) : Inv s :=
  ⟨fun _ => h, fun h' => absurd h' (by simp [hd])⟩

theorem on_read_triggers (r : Option (Nat × String)) :
    ∃ e b, s.on_read r = s.trigger_callback e b := by
  unfold on_read
  split
  · split <;> exact ⟨_, _, rfl⟩
  · exact ⟨_, _, rfl⟩

theorem clean_up_eq : s.clean_up =
    { s with needs_cleanup := false, socket_open := s.socket_open && !s.needs_cleanup,
             sockets_closed := s.sockets_closed + (s.needs_cleanup && s.socket_open).toNat } := by
  obtain ⟨_, _ | _, _ | _⟩ := s <;> rfl

theorem Inv.step (hs : Inv s) {e : SessionEvent} {s' : HttpClientSession}
    (h : s.step e = some s') : Inv s' := by
  cases e with
  | connect ok =>
    simp only [HttpClientSession.step] at h
    split at h <;> simp only [Option.some.injEq, reduceCtorEq] at h
    subst h
    rename_i hc
    have hd := hs.not_destroyed (.inl hc)
    obtain ⟨hl, ho⟩ := hs.live hd
    rw [hc, Bool.toNat_true] at ho
    cases ok <;> refine Inv.of_live (by simp [on_connect_done, trigger_callback, hd]) ?_ <;>
      simp only [on_connect_done, trigger_callback, Bool.not_false, Bool.not_true,
        Bool.false_eq_true, reduceIte, List.length_append, List.length_singleton,
        Bool.toNat_true, Bool.toNat_false] <;> omega
  | write ok =>
    simp only [HttpClientSession.step] at h
    split at h <;> simp only [Option.some.injEq, reduceCtorEq] at h
    subst h
    rename_i hc
    have hd := hs.not_destroyed (.inr (.inl hc))
    obtain ⟨hl, ho⟩ := hs.live hd
    rw [hc, Bool.toNat_true] at ho
    cases ok <;> refine Inv.of_live (by simp [on_write, trigger_callback, hd]) ?_ <;>
      simp only [on_write, trigger_callback, Bool.not_false, Bool.not_true,
        Bool.false_eq_true, reduceIte, List.length_append, List.length_singleton,
        Bool.toNat_true, Bool.toNat_false] <;> omega
  | read r =>
    simp only [HttpClientSession.step] at h
    split at h <;> simp only [Option.some.injEq, reduceCtorEq] at h
    subst h
    rename_i hc
    have hd := hs.not_destroyed (.inr (.inr hc))
    obtain ⟨hl, ho⟩ := hs.live hd
    rw [hc, Bool.toNat_true] at ho
    obtain ⟨e, b, he⟩ := @on_read_triggers { s with read_pending := false } r
    rw [he]
    refine Inv.of_live (by simp [trigger_callback, hd]) ?_
    simp only [trigger_callback, List.length_append, List.length_singleton, Bool.toNat_true,
      Bool.toNat_false]
    omega
  | deadline_expiry =>
    simp only [HttpClientSession.step, Option.bind_eq_some, Option.map_eq_some'] at h
    obtain ⟨w, hw, w', -, rfl⟩ := h
    exact ⟨hs.live, fun hd => absurd (hs.dead hd).2 (by simp [busy, hw])⟩
  | deadline =>
    simp only [HttpClientSession.step] at h
    split at h <;> simp only [Option.some.injEq, reduceCtorEq] at h <;> subst h <;>
      rename_i hw <;>
      exact ⟨by simpa [on_deadline, clean_up_eq] using hs.live,
        fun hd => absurd (hs.dead (by simpa [on_deadline, clean_up_eq] using hd)).2
          (by simp [busy, hw])⟩
  | tick t =>
    simp only [HttpClientSession.step] at h
    split at h <;> simp only [Option.some.injEq, reduceCtorEq] at h
    subst h
    exact ⟨hs.live, hs.dead⟩
  | release =>
    simp only [HttpClientSession.step] at h
    split at h <;> simp only [Option.some.injEq, reduceCtorEq] at h
    subst h
    rename_i hb
    simp only [Bool.and_eq_true, Bool.not_eq_true', busy, Bool.or_eq_false_iff] at hb
    obtain ⟨⟨⟨⟨hc, hw⟩, hr⟩, hdl⟩, hd⟩ := hb
    obtain ⟨hl, ho⟩ := hs.live hd
    have hu : s.used_callback_ = true := by
      simpa [hc, hw, hr] using ho
    refine ⟨fun h => absurd h (by simp [destroy, clean_up_eq]), fun _ => ?_⟩
    simp [destroy, clean_up_eq, hu, hl, busy, hc, hw, hr, hdl]

theorem Reachable.inv (h : Reachable s) : Inv s := by
  induction h with
  | start t => exact Inv.of_live rfl ⟨rfl, rfl⟩
  | step e _ hs ih => exact ih.step hs

theorem Reachable.of_run {s s' : HttpClientSession} (hs : Reachable s) :
    ∀ (es : List SessionEvent), s.run es = some s' → Reachable s'
  | [], h => by cases h; exact hs
  | e :: es, h => by
    simp only [HttpClientSession.run, Option.bind_eq_some] at h
    obtain ⟨s₁, h₁, h⟩ := h
    exact (hs.step e h₁).of_run es h

/-- **A session posts its callback at most once, in every interleaving.** -/
theorem session_posts_le_one (h : Reachable s) : s.posted.length ≤ 1 := by
  cases hd : s.destroyed
  · rw [(h.inv.live hd).1]
    exact Bool.toNat_le _
  · exact (h.inv.dead hd).1.le

/-- The deadline fires while the response is being read: it shuts the socket, the read then
fails and posts `ERROR_OTHER`, and the destructor posts nothing more. -/
theorem deadline_during_read_posts_once :
    let es : List SessionEvent := [.connect true, .write true, .tick SESSION_TIME_LIMIT,
      .deadline_expiry, .deadline, .read none, .release]
    ∃ s, (start 0).run es = some s ∧ s.posted.length ≤ 1 := by
  intro es
  exact ⟨_, rfl, session_posts_le_one ((Reachable.start 0).of_run es rfl)⟩

/-- **By the time a session is destroyed its callback has been posted exactly once.** -/
theorem destroyed_posts_one (h : Reachable s) (hd : s.destroyed = true) :
    s.posted.length = 1 :=
  (h.inv.dead hd).1

/-- A request answered `200` posts its callback once, and the deadline's aborted handler and
the destructor post nothing more. -/
theorem exchange_posts_once :
    let es : List SessionEvent := [.connect true, .write true, .read (some (200, "")), .deadline,
      .release]
    ∃ s, (start 0).run es = some s ∧ s.destroyed = true ∧ s.posted.length = 1 :=
  by intro es; exact ⟨_, rfl, rfl, destroyed_posts_one ((Reachable.start 0).of_run es rfl) rfl⟩

/-! ## Every session completes -/

theorem run_append {s s₁ : HttpClientSession} {es₁ : List SessionEvent} (es₂ : List SessionEvent)
    (h : s.run es₁ = some s₁) : s.run (es₁ ++ es₂) = s₁.run es₂ := by
  induction es₁ generalizing s with
  | nil => cases h; rfl
  | cons e es ih =>
    simp only [run, Option.bind_eq_some] at h
    obtain ⟨s', h₁, h⟩ := h
    simp only [List.cons_append, run, h₁, Option.some_bind]
    exact ih h

end HttpClientSession

/-- When the resolver fails there is no session, and the callback is never posted. -/
theorem make_http_request_unresolved (t : Nat) :
    make_http_request false t = none ∧ posted_callbacks (make_http_request false t) = [] :=
  ⟨rfl, rfl⟩

end ArqmaStorage
