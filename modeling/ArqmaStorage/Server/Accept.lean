import ArqmaStorage.Basic

/-!
# The acceptor loop

`http_server::run` binds the acceptor and calls `accept_connection`, which leaves one
`async_accept` pending. Its handler starts a `connection_t` on an accepted socket and accepts
again. On an error it calls `abort()` when the error is `too_many_files_open` (EMFILE), and
otherwise waits 50 ms on the static `acceptor_timer`, whose handler aborts on any error other than
`operation_aborted` and then accepts again.

`acceptor_t` counts the loop's operations pending in the `io_context`; when a wait completes is
left to the events, so the 50 ms delay, and the cancellation of an earlier wait by
`expires_after`, are among the orders the events allow. Every handler that does not abort leaves
exactly one new operation pending (`acceptor_t.Inv.step`), hence `accept_loop_alive`: in every
run exactly one accept or one back-off wait is pending, so the server never stops accepting; an
accept error other than EMFILE backs off and accepts again, while EMFILE ends the process.
-/

namespace ArqmaStorage

/-- A `boost::system::error_code`, as the acceptor's handlers test it. -/
inductive error_code where
  | success
  /-- `errc::too_many_files_open`, EMFILE. -/
  | too_many_files_open
  | operation_aborted
  | other (value : Nat)
  deriving Repr, DecidableEq

/-- The acceptor loop's operations pending in the `io_context`, and the connections it started. -/
structure acceptor_t where
  /-- `acceptor.async_accept` calls pending. -/
  accepts_pending : Nat
  /-- `acceptor_timer.async_wait` calls pending. -/
  waits_pending : Nat
  /-- `std::make_shared<connection_t>(...)->start()` calls made. -/
  connections : Nat
  deriving Repr, DecidableEq

namespace acceptor_t

/-- `accept_connection(...)`: one more `async_accept`. -/
def accept_connection (a : acceptor_t) : acceptor_t :=
  { a with accepts_pending := a.accepts_pending + 1 }

/-- The `async_accept` handler; `none` is `abort()`. -/
def on_accept (ec : error_code) (a : acceptor_t) : Option acceptor_t :=
  if ec = .success then some { a with connections := a.connections + 1 }.accept_connection
  else if ec = .too_many_files_open then none
  else some { a with waits_pending := a.waits_pending + 1 }

/-- The `acceptor_timer` handler; `none` is `abort()`. -/
def on_accept_timer (ec : error_code) (a : acceptor_t) : Option acceptor_t :=
  if ec ≠ .success ∧ ec ≠ .operation_aborted then none else some a.accept_connection

/-- `run`: no operation pending before `accept_connection`. -/
def start : acceptor_t := accept_connection ⟨0, 0, 0⟩

end acceptor_t

/-- A completion of the acceptor loop, with the error code it carries. -/
inductive AcceptEvent where
  | accept (ec : error_code)
  | timer (ec : error_code)
  deriving Repr, DecidableEq

namespace acceptor_t

/-- The handler event `e` completes: `none` when it is not pending, `some none` when it aborts
the process. -/
def step (a : acceptor_t) : AcceptEvent → Option (Option acceptor_t)
  | .accept ec =>
    if 0 < a.accepts_pending then
      some (on_accept ec { a with accepts_pending := a.accepts_pending - 1 })
    else none
  | .timer ec =>
    if 0 < a.waits_pending then
      some (on_accept_timer ec { a with waits_pending := a.waits_pending - 1 })
    else none

/-- The states of the loop in a running process. -/
inductive Reachable : acceptor_t → Prop
  | start : Reachable start
  | step {a a' : acceptor_t} (e : AcceptEvent) : Reachable a → a.step e = some (some a') →
      Reachable a'

/-- One accept or one back-off wait is pending. -/
def Inv (a : acceptor_t) : Prop := a.accepts_pending + a.waits_pending = 1

theorem Inv.step {a a' : acceptor_t} {e : AcceptEvent} (h : a.Inv)
    (hs : a.step e = some (some a')) : a'.Inv := by
  unfold Inv at h ⊢
  cases e with
  | accept ec =>
    simp only [acceptor_t.step] at hs
    split_ifs at hs with hp
    simp only [on_accept, Option.some.injEq] at hs
    split_ifs at hs <;> cases hs <;> simp only [accept_connection] <;> omega
  | timer ec =>
    simp only [acceptor_t.step] at hs
    split_ifs at hs with hp
    simp only [on_accept_timer, Option.some.injEq] at hs
    split_ifs at hs
    cases hs
    simp only [accept_connection]
    omega

theorem Reachable.inv {a : acceptor_t} (h : a.Reachable) : a.Inv := by
  induction h with
  | start => rfl
  | step e _ hs ih => exact ih.step hs

end acceptor_t

/-- **The server never stops accepting.** In every run exactly one accept or one back-off wait is
pending. A pending accept that fails with EMFILE aborts the process; one that fails with any
other error leaves a back-off wait pending and no accept, and the wait's handler, unless its
error is neither `success` nor `operation_aborted`, accepts again. -/
theorem accept_loop_alive {a : acceptor_t} (ha : a.Reachable) :
    a.accepts_pending + a.waits_pending = 1 ∧
      (0 < a.accepts_pending → a.step (.accept .too_many_files_open) = some none ∧
        ∀ ec, ec ≠ .success → ec ≠ .too_many_files_open →
          ∃ a', a.step (.accept ec) = some (some a') ∧ a'.accepts_pending = 0 ∧
            a'.waits_pending = 1 ∧ a'.connections = a.connections ∧
            ∀ ec', ec' = .success ∨ ec' = .operation_aborted →
              a'.step (.timer ec') = some (some ⟨1, 0, a.connections⟩)) := by
  have hi : a.accepts_pending + a.waits_pending = 1 := ha.inv
  refine ⟨hi, fun hp => ⟨by simp [acceptor_t.step, hp, acceptor_t.on_accept], fun ec h₁ h₂ =>
    ⟨{ a with accepts_pending := a.accepts_pending - 1, waits_pending := a.waits_pending + 1 },
      by simp [acceptor_t.step, hp, acceptor_t.on_accept, h₁, h₂], ?_⟩⟩⟩
  refine ⟨by dsimp only; omega, by dsimp only; omega, rfl, fun ec' hec' => ?_⟩
  have hw : a.waits_pending = 0 := by omega
  have hacc : a.accepts_pending - 1 = 0 := by omega
  rcases hec' with rfl | rfl <;>
    simp [acceptor_t.step, acceptor_t.on_accept_timer, acceptor_t.accept_connection, hw, hacc]

theorem accept_backs_off_then_accepts :
    let a : acceptor_t := ⟨1, 0, 1⟩
    a.Reachable ∧ a.step (.accept .too_many_files_open) = some none ∧
      ∃ a', a.step (.accept (.other 23)) = some (some a') ∧ a'.waits_pending = 1 := by
  intro a
  have ha : a.Reachable := .step (.timer .success) (.step (.accept (.other 23))
    (.step (.accept .success) .start rfl) rfl) rfl
  have h := (accept_loop_alive ha).2 (by decide)
  obtain ⟨a', hs, -, hw, -⟩ := h.2 (.other 23) (by decide) (by decide)
  exact ⟨ha, h.1, a', hs, hw⟩

end ArqmaStorage
