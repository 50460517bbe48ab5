import ArqmaStorage.Connection.Runs
import ArqmaStorage.Server.Accept

/-!
# The server's `io_context`

`http_server::run` leaves the acceptor loop in the `io_context` and calls `ioc.run()`, which runs
one pending completion handler at a time: the acceptor's, which starts a `connection_t` on each
accepted socket, or one of any connection's. Connections share no state the handlers touch, so a
handler of one leaves every other as it was. The process ends with `abort()` in the acceptor, or
with the first exception that leaves a handler, through `ioc.run()` into `main`.

`server_connections_reachable`: in every run of the server, under every interleaving of the
acceptor's and the connections' handlers, one accept or one back-off wait is pending, the server
has one connection for each accept that succeeded, and each connection is in a state that the
connection alone reaches from its start. Every result proved of `Reachable` connections holds of
each of them; in particular each has written at most one response.
-/

namespace ArqmaStorage

/-- The `io_context` of a running server: the acceptor loop, and the connections it has started,
in the order it started them. -/
structure server_t where
  acceptor : acceptor_t
  connections : List connection_t

/-- A completion in the server's `io_context`: one of the acceptor loop, with the steady clock's
time for a connection it starts, or one of the `i`-th connection. -/
inductive ServerEvent where
  | acceptor (e : AcceptEvent) (t : Nat)
  | connection (i : Nat) (e : Event)

namespace server_t

/-- `run(ioc, ...)`: the acceptor loop, and no connection yet. -/
def start : server_t := ⟨acceptor_t.start, []⟩

/-- The handler event `e` completes: `none` when it is not pending, `some none` when the process
ends. An accept that succeeds runs `std::make_shared<connection_t>(...)->start()`. -/
def step (s : server_t) : ServerEvent → Option (Option server_t)
  | .acceptor e t =>
    (s.acceptor.step e).map fun r => r.map fun a =>
      ⟨a, if e = .accept .success then s.connections ++ [connection_t.init t] else s.connections⟩
  | .connection i e =>
    match s.connections[i]? with
    | none => none
    | some c =>
      (ArqmaStorage.step c e).map fun
        | .ok c' => some ⟨s.acceptor, s.connections.set i c'⟩
        | .error _ => none

/-- The states of a running server. -/
inductive Reachable : server_t → Prop
  | start : Reachable start
  | step {s s' : server_t} (e : ServerEvent) : Reachable s → s.step e = some (some s') →
      Reachable s'

end server_t

theorem acceptor_t.step_connections {a a' : acceptor_t} {e : AcceptEvent}
    (h : a.step e = some (some a')) :
    a'.connections = if e = .accept .success then a.connections + 1 else a.connections := by
  cases e with
  | accept ec =>
    simp only [acceptor_t.step] at h
    split_ifs at h
    simp only [acceptor_t.on_accept, Option.some.injEq] at h
    simp only [AcceptEvent.accept.injEq]
    split_ifs at h with h₁ h₂ <;> cases h <;> simp only [acceptor_t.accept_connection, h₁, reduceIte]
  | timer ec =>
    simp only [acceptor_t.step] at h
    split_ifs at h
    simp only [acceptor_t.on_accept_timer, Option.some.injEq] at h
    split_ifs at h
    cases h
    rfl

namespace server_t

/-- The acceptor's state is one of its runs, it counts the connections, and each connection's
state is one of its own runs. -/
structure Inv (s : server_t) : Prop where
  acceptor : s.acceptor.Reachable
  started : s.connections.length = s.acceptor.connections
  reachable : ∀ c ∈ s.connections, ArqmaStorage.Reachable c

theorem Inv.acceptor_step {s : server_t} (hs : s.Inv) {e : AcceptEvent} {t : Nat}
    {a : acceptor_t} (ha : s.acceptor.step e = some (some a)) :
    Inv ⟨a, if e = .accept .success then s.connections ++ [connection_t.init t] else s.connections⟩ := by
  refine ⟨.step e hs.acceptor ha, ?_, fun c hc => ?_⟩
  · rw [acceptor_t.step_connections ha]
    split_ifs <;> simp [hs.started]
  · split_ifs at hc
    · rcases List.mem_append.1 hc with hc | hc
      · exact hs.reachable c hc
      · rw [List.mem_singleton.1 hc]
        exact .init t
    · exact hs.reachable c hc

theorem Inv.connection_step {s : server_t} (hs : s.Inv) {i : Nat} {e : Event} {c c' : connection_t}
    (hc : s.connections[i]? = some c) (h : ArqmaStorage.step c e = some (.ok c')) :
    Inv ⟨s.acceptor, s.connections.set i c'⟩ := by
  refine ⟨hs.acceptor, by simp [hs.started], fun x hx => ?_⟩
  rcases List.mem_or_eq_of_mem_set hx with hx | rfl
  · exact hs.reachable x hx
  · exact .step e (hs.reachable c (List.getElem?_mem hc)) h

theorem Inv.step {s s' : server_t} (hs : s.Inv) {e : ServerEvent}
    (h : s.step e = some (some s')) : s'.Inv := by
  cases e with
  | acceptor e t =>
    simp only [server_t.step, Option.map_eq_some', Option.map_eq_some'] at h
    obtain ⟨r, hr, a, rfl, rfl⟩ := h
    exact hs.acceptor_step hr
  | connection i e =>
    simp only [server_t.step] at h
    split at h
    · cases h
    · rename_i c hc
      simp only [Option.map_eq_some'] at h
      obtain ⟨o, ho, h⟩ := h
      rcases o with _ | c'
      · cases h
      · cases h
        exact hs.connection_step hc ho

theorem Reachable.inv {s : server_t} (h : s.Reachable) : s.Inv := by
  induction h with
  | start => exact ⟨.start, rfl, fun _ h => absurd h (List.not_mem_nil _)⟩
  | step e _ hs ih => exact ih.step hs

end server_t

/-- **Every connection of a running server behaves as if it ran alone.** In every run of the
server, whatever the interleaving of the acceptor's and the connections' handlers, one accept or
one back-off wait is pending, there is one connection for each accept that succeeded, and each
connection is in a state it reaches from its own start, so each has written at most one
response. -/
theorem server_connections_reachable {s : server_t} (hs : s.Reachable) :
    s.acceptor.accepts_pending + s.acceptor.waits_pending = 1 ∧
      s.connections.length = s.acceptor.connections ∧
      ∀ c ∈ s.connections, Reachable c ∧ c.writes ≤ 1 := by
  have hi := hs.inv
  refine ⟨hi.acceptor.inv, hi.started, fun c hc => ⟨hi.reachable c hc, ?_⟩⟩
  have := (hi.reachable c hc).potential_le_one
  simp only [connection_t.sched, sched_t.potential] at this
  omega

theorem handshake_between_accepts :
    ∃ s : server_t, s.Reachable ∧ s.connections.length = 2 ∧
      s.acceptor.accepts_pending + s.acceptor.waits_pending = 1 ∧
      ∀ c ∈ s.connections, Reachable c ∧ c.writes ≤ 1 := by
  have hs := server_t.Reachable.step (.acceptor (.accept .success) 5)
    (.step (.connection 0 (.handshake true)) (.step (.acceptor (.accept .success) 0) .start rfl) rfl)
    rfl
  obtain ⟨h₁, h₂, h₃⟩ := server_connections_reachable hs
  exact ⟨_, hs, h₂.trans rfl, h₁, h₃⟩

end ArqmaStorage
