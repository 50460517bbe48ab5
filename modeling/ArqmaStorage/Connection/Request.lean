import ArqmaStorage.Connection.Swarm
import ArqmaStorage.Connection.Client

/-!
# Dispatching a request

`process_request` fills `response_` for the request just read: a `POST` other than
`/swarms/ping_test/v1` is refused with 503 until the `ServiceNode` is ready, `/storage_rpc/v1`
goes to `process_client_req` (whose exceptions are caught there), the `/swarms/...` targets to
`process_swarm_req`, and `GET` serves the statistics and the logs. `on_data`, the completion
handler of the read, runs it under a second `try`, and writes the response unless
`delay_response_` says a later handler will; that write is outside the `try`.
-/

namespace ArqmaStorage

/-- `on_get_stats()`. -/
def on_get_stats (env : Env) (c : connection_t) : connection_t :=
  (c.out env.get_stats).result status.ok

/-- `on_get_logs()`: once a second, the entries of the developer sink. -/
def on_get_logs (env : Env) (c : connection_t) : Outcome :=
  if env.logs_too_soon then
    .ok ((c.out "Too many request, try again later.").result status.too_many_requests)
  else
    match env.dev_sink with
    | none => .error (.abort "false", c)
    | some entries => do
      let s ← lift (env.dump (.object [("entries", .array (entries.map .string))])) c
      .ok ((c.out s).result status.ok)

/-- The `/swarms/...` targets `process_request` hands to `process_swarm_req` once the node is
ready. -/
def swarm_targets : List String :=
  ["/swarms/push/v1", "/swarms/push_batch/v1", "/swarms/storage_test/v1",
    "/swarms/blockchain_test/v1"]

/-- `process_request()`, in a build without `INTEGRATION_TEST`. -/
def process_request (env : Env) (c : connection_t) : Outcome :=
  let c := c.result status.internal_server_error
  let target := c.request_.target
  match c.request_.method with
  | .post =>
    if target = "/swarms/ping_test/v1" then process_swarm_req env target c
    else if !env.snode_ready then
      .ok ((c.result status.service_unavailable).out
        ("Service node is not ready: " ++ env.ready_reason ++ "\n"))
    else if target = "/storage_rpc/v1" then
      try_catch (process_client_req env c) fun e c =>
        .ok ((c.out ("Exception caught while processing client request: " ++ e.what)).result
          status.internal_server_error)
    else if target ∈ swarm_targets then process_swarm_req env target c
    else .ok ((c.out ("unknown target for POST: " ++ target)).result status.not_found)
  | .get =>
    if target = "/get_stats/v1" then .ok (on_get_stats env c)
    else if target = "/get_logs/v1" then on_get_logs env c
    else .ok ((c.out ("unknown target for GET: " ++ target)).result status.not_found)
  | .other _ => .ok (c.result status.bad_request)

/-- `on_data`, the read's completion handler, after a successful read. -/
def on_request (env : Env) (c : connection_t) : Outcome := do
  let c ← try_catch (process_request env c) fun e c => .ok (c.out e.what)
  if !c.delay_response_ then write_response env c else .ok c

theorem on_request_throws (env : Env) (c : connection_t) {ip k : String} {e : Exn}
    (hpost : c.request_.method = .post) (htarget : c.request_.target = "/storage_rpc/v1")
    (hready : env.snode_ready = true) (hip : env.remote_address = .ok ip)
    (hlimit : env.should_rate_limit_client ip = false)
    (hkey : c.request_.find ARQMA_EPHEMKEY_HEADER = some k) (hsize : size k < 3)
    (hde : env.decrypt (env.base64_decode c.request_.body) k = .error e) (hcaught : e.caught = true)
    (henc : ∀ b, ∃ e, env.encrypt b k = .error e) (hdelay : c.delay_response_ = false) :
    ∃ c', on_request env c = .error (.out_of_range "basic_string::substr", c') := by
  obtain ⟨c₁, hc₁, hd, hh⟩ : ∃ c₁, process_client_req env (c.result status.internal_server_error) =
      .ok c₁ ∧ c₁.delay_response_ = false ∧ c₁.header_.lookup ARQMA_EPHEMKEY_HEADER = some k :=
    ⟨_, process_client_req_undecryptable env _ hip hlimit hkey hde hcaught, hdelay,
      lookup_header_insert _ _ _⟩
  obtain ⟨c', hw⟩ := write_response_throws hh hsize henc
  refine ⟨c', ?_⟩
  simp only [on_request, process_request, connection_t.result_request, hpost, htarget, hready, hc₁,
    try_catch, bind, Except.bind, Bool.not_true, Bool.false_eq_true, reduceIte, hd, hw,
    Bool.not_false, show ("/storage_rpc/v1" = "/swarms/ping_test/v1") = False by decide]

end ArqmaStorage
