import ArqmaStorage.Client.Session

/-!
# Fetching the service-node keys

`ArqmadClient::wait_for_privkey` asks the daemon for the node's three private keys with
`make_arqmad_request`, then runs the `io_context` until no work is left. The callback of each
request is `key_fetch`: it keeps the keys when the response carries three well-formed hex keys,
and otherwise arms a 5 s `delay` whose handler makes the next request.

A request either has no session (the resolver failed and `make_http_request` dropped the
callback, `make_http_request_unresolved`) or has one, which posts the callback exactly once
(`destroyed_posts_one`). So what the daemon does to one request is the callback it posted, or
none; `wait_for_privkey` runs through those in order.

When every request resolves, `ioc_.run()` returns only after a response passed all three
checks of `key_fetch`, and the keys returned are that response's (`wait_for_privkey_returns_valid`).
When a request does not resolve, nothing is left to run: `ioc_.run()` returns and the keys
were never assigned (`wait_for_privkey_unresolved`).
-/

namespace ArqmaStorage

/-- `KEY_LENGTH`, in bytes. -/
def KEY_LENGTH : Nat := 32

/-- `validateHexKey(key, key_length)`: `2 * key_length` characters, each a digit or `a` to `f`. -/
def validateHexKey (key : String) (key_length : Nat) : Bool :=
  size key == 2 * key_length && key.data.all fun c => ('0' ≤ c && c ≤ '9') || ('a' ≤ c && c ≤ 'f')

/-- `j.get_ref<const std::string&>()`. -/
def Json.get_ref_string : Json → Except Exn String
  | .string s => .ok s
  | j => .error (.type_error ("incompatible ReferenceType for get_ref, actual type is " ++ j.type_name))

/-- What `key_fetch` relies on besides the response. -/
structure KeyFetchEnv where
  /-- `arqma::error_string(code)`. -/
  error_string : SNodeError → String
  /-- `nlohmann::json::parse(body)`: it throws on text that is not JSON. -/
  parse : String → Except Exn Json
  /-- `private_key_ed25519_t::LENGTH`, declared in a header that is not among the sources. -/
  ed25519_LENGTH : Nat

/-- The keys `key_fetch` assigns, as the hex strings it decodes with `arqmadKeyFromHex` and
`private_key_ed25519_t::from_hex`. -/
structure privkeys_t where
  legacy : String
  ed25519 : String
  x25519 : String
  deriving Repr, DecidableEq

/-- The `result` member's key field `name`, as a `std::string`. -/
def result_key (r : Json) (name : String) : Except Exn String := do
  (← (← r.at_ "result").at_ name).get_ref_string

/-- The body of `key_fetch`'s `try`: the keys of a good response, or what it throws. -/
def key_fetch (env : KeyFetchEnv) (res : sn_response_t) : Except Exn privkeys_t :=
  if res.error_code ≠ .NO_ERROR then .error (.runtime_error (env.error_string res.error_code))
  else match res.body with
  | none => .error (.runtime_error "empty body")
  | some body => do
    let r ← env.parse body
    let legacy_privkey ← result_key r "service_node_privkey"
    let privkey_ed ← result_key r "service_node_ed25519_privkey"
    let privkey_x ← result_key r "service_node_x25519_privkey"
    if !validateHexKey legacy_privkey KEY_LENGTH || !validateHexKey privkey_ed env.ed25519_LENGTH ||
        !validateHexKey privkey_x KEY_LENGTH then
      .error (.runtime_error "returned value is not Hex")
    else pure ⟨legacy_privkey, privkey_ed, privkey_x⟩

/-- Where `wait_for_privkey` stands: `ioc_.run()` still running, or returned with the keys, `none`
when they were never assigned (the declarations leave them indeterminate). -/
inductive key_wait_t where
  | running
  | returned (keys : Option privkeys_t)
  deriving Repr, DecidableEq

/-- `wait_for_privkey()` over the requests it makes: each the callback its session posted, or
`none` when the resolver failed. A failed `key_fetch` makes the next request 5 s later. -/
def wait_for_privkey (env : KeyFetchEnv) : List (Option sn_response_t) → key_wait_t
  | [] => .running
  | none :: _ => .returned none
  | some res :: rest =>
    match key_fetch env res with
    | .ok keys => .returned (some keys)
    | .error _ => wait_for_privkey env rest

/-! ## `key_fetch` -/

section KeyFetch

variable {env : KeyFetchEnv} {res : sn_response_t} {k : privkeys_t}

theorem key_fetch_ok (h : key_fetch env res = .ok k) :
    res.error_code = .NO_ERROR ∧ ∃ body r, res.body = some body ∧ env.parse body = .ok r ∧
      result_key r "service_node_privkey" = .ok k.legacy ∧
      result_key r "service_node_ed25519_privkey" = .ok k.ed25519 ∧
      result_key r "service_node_x25519_privkey" = .ok k.x25519 ∧
      validateHexKey k.legacy KEY_LENGTH ∧ validateHexKey k.ed25519 env.ed25519_LENGTH ∧
      validateHexKey k.x25519 KEY_LENGTH := by
  unfold key_fetch at h
  by_cases hc : res.error_code = .NO_ERROR
  swap
  · rw [if_pos hc] at h; cases h
  rw [if_neg (not_not.2 hc)] at h
  refine ⟨hc, ?_⟩
  cases hb : res.body with
  | none => simp [hb] at h
  | some body =>
    simp only [hb] at h
    obtain ⟨r, hr, h⟩ := bind_eq_ok h
    obtain ⟨l, hl, h⟩ := bind_eq_ok h
    obtain ⟨e, he, h⟩ := bind_eq_ok h
    obtain ⟨x, hx, h⟩ := bind_eq_ok h
    split_ifs at h with hv
    · cases h
      simp only [Bool.or_eq_true, Bool.not_eq_true', not_or, Bool.not_eq_false] at hv
      exact ⟨body, r, rfl, hr, hl, he, hx, hv.1.1, hv.1.2, hv.2⟩

end KeyFetch

/-! ## `wait_for_privkey` -/

section Wait

variable {env : KeyFetchEnv}

/-- A response `key_fetch` rejects, so that a retry follows. -/
def fetch_failed (env : KeyFetchEnv) (res : sn_response_t) : Prop :=
  ∃ e, key_fetch env res = .error e

@[simp] theorem wait_for_privkey_failed {res : sn_response_t} (h : fetch_failed env res)
    (rest : List (Option sn_response_t)) :
    wait_for_privkey env (some res :: rest) = wait_for_privkey env rest := by
  obtain ⟨e, he⟩ := h
  simp [wait_for_privkey, he]

theorem wait_for_privkey_append_failed {failed : List sn_response_t}
    (hf : ∀ res ∈ failed, fetch_failed env res) (rest : List (Option sn_response_t)) :
    wait_for_privkey env (failed.map some ++ rest) = wait_for_privkey env rest := by
  induction failed with
  | nil => rfl
  | cons res failed ih =>
    simp only [List.forall_mem_cons] at hf
    rw [List.map_cons, List.cons_append, wait_for_privkey_failed hf.1, ih hf.2]

theorem wait_for_privkey_returned {as : List (Option sn_response_t)} {keys : Option privkeys_t}
    (h : wait_for_privkey env as = .returned keys) :
    ∃ (failed : List sn_response_t) (a : Option sn_response_t) (rest : List (Option sn_response_t)),
      as = failed.map some ++ a :: rest ∧
      (∀ res ∈ failed, fetch_failed env res) ∧
      ((a = none ∧ keys = none) ∨ ∃ res k, a = some res ∧ key_fetch env res = .ok k ∧ keys = some k) := by
  induction as with
  | nil => cases h
  | cons a rest ih =>
    rcases a with _ | res
    · simp only [wait_for_privkey, key_wait_t.returned.injEq] at h
      exact ⟨[], none, rest, rfl, by simp, .inl ⟨rfl, h.symm⟩⟩
    · cases hk : key_fetch env res with
      | ok k =>
        simp only [wait_for_privkey, hk, key_wait_t.returned.injEq] at h
        exact ⟨[], some res, rest, rfl, by simp, .inr ⟨res, k, rfl, hk, h.symm⟩⟩
      | error e =>
        rw [wait_for_privkey_failed ⟨e, hk⟩] at h
        obtain ⟨failed, a, rest, rfl, hf, ha⟩ := ih h
        exact ⟨res :: failed, a, rest, rfl, List.forall_mem_cons.2 ⟨⟨e, hk⟩, hf⟩, ha⟩

/-- When the daemon's address does not resolve, `ioc_.run()` returns with no key assigned, after
any number of rejected responses. -/
theorem wait_for_privkey_unresolved {failed : List sn_response_t}
    (hf : ∀ res ∈ failed, fetch_failed env res) (rest : List (Option sn_response_t)) :
    wait_for_privkey env (failed.map some ++ none :: rest) = .returned none := by
  rw [wait_for_privkey_append_failed hf]
  rfl

/-- A daemon that cannot be reached, then an address that does not resolve: `ioc_.run()` returns
before the daemon ever answers, and no key is assigned. -/
theorem wait_for_privkey_after_unreachable :
    let env : KeyFetchEnv := ⟨fun _ => "", fun _ => .ok .null, 32⟩
    wait_for_privkey env [some ⟨.NO_REACH, none⟩, none, some ⟨.NO_ERROR, some ""⟩] =
      .returned none := by
  intro env
  exact @wait_for_privkey_unresolved env [⟨.NO_REACH, none⟩]
    (List.forall_mem_singleton.2 ⟨_, rfl⟩) [some ⟨.NO_ERROR, some ""⟩]

/-- **When every request resolves, `wait_for_privkey` returns the keys of the first response
`key_fetch` accepts.** Every earlier response was rejected, and the keys are the three `result`
fields of the accepted response's body, each of which passed `validateHexKey`. -/
theorem wait_for_privkey_returns_valid {as : List (Option sn_response_t)} {keys : Option privkeys_t}
    (hres : ∀ a ∈ as, a.isSome) (h : wait_for_privkey env as = .returned keys) :
    ∃ (failed : List sn_response_t) (res : sn_response_t) (rest : List (Option sn_response_t))
      (k : privkeys_t) (body : String) (r : Json), as = failed.map some ++ some res :: rest ∧
      (∀ f ∈ failed, fetch_failed env f) ∧ keys = some k ∧ res.error_code = .NO_ERROR ∧
      res.body = some body ∧ env.parse body = .ok r ∧
      result_key r "service_node_privkey" = .ok k.legacy ∧
      result_key r "service_node_ed25519_privkey" = .ok k.ed25519 ∧
      result_key r "service_node_x25519_privkey" = .ok k.x25519 ∧
      validateHexKey k.legacy KEY_LENGTH ∧ validateHexKey k.ed25519 env.ed25519_LENGTH ∧
      validateHexKey k.x25519 KEY_LENGTH := by
  obtain ⟨failed, a, rest, rfl, hf, hnone | ⟨res, k, rfl, hk, rfl⟩⟩ := wait_for_privkey_returned h
  · obtain ⟨rfl, -⟩ := hnone
    exact absurd (hres none (by simp)) (by simp)
  · obtain ⟨hc, body, r, hb, hp, hl, he, hx, vl, ve, vx⟩ := key_fetch_ok hk
    exact ⟨failed, res, rest, k, body, r, rfl, hf, rfl, hc, hb, hp, hl, he, hx, vl, ve, vx⟩

/-- A daemon that cannot be reached once, then answers with three different keys. -/
theorem wait_for_privkey_after_retry :
    let kl := String.mk (List.replicate 64 'a')
    let ke := String.mk (List.replicate 64 'b')
    let kx := String.mk (List.replicate 64 'c')
    let reply : Json := .object [("result", .object [("service_node_privkey", .string kl),
      ("service_node_ed25519_privkey", .string ke), ("service_node_x25519_privkey", .string kx)])]
    let env : KeyFetchEnv := ⟨fun _ => "", fun _ => .ok reply, 32⟩
    let as := [some ⟨.NO_REACH, none⟩, some ⟨.NO_ERROR, some "{}"⟩]
    wait_for_privkey env as = .returned (some ⟨kl, ke, kx⟩) ∧
      ∃ (failed : List sn_response_t) (res : sn_response_t) (rest : List (Option sn_response_t))
      (k : privkeys_t) (body : String) (r : Json), as = failed.map some ++ some res :: rest ∧
        (∀ f ∈ failed, fetch_failed env f) ∧ some (⟨kl, ke, kx⟩ : privkeys_t) = some k ∧
        res.error_code = .NO_ERROR ∧ res.body = some body ∧ env.parse body = .ok r ∧
        result_key r "service_node_privkey" = .ok k.legacy ∧
        result_key r "service_node_ed25519_privkey" = .ok k.ed25519 ∧
        result_key r "service_node_x25519_privkey" = .ok k.x25519 ∧
        validateHexKey k.legacy KEY_LENGTH ∧ validateHexKey k.ed25519 env.ed25519_LENGTH ∧
        validateHexKey k.x25519 KEY_LENGTH := by
  intro kl ke kx reply env as
  have h : wait_for_privkey env as = .returned (some ⟨kl, ke, kx⟩) := by decide
  exact ⟨h, wait_for_privkey_returns_valid (by decide) h⟩

end Wait

end ArqmaStorage
