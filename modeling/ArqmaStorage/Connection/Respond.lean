import ArqmaStorage.Connection.State

/-!
# Writing the response

`write_response` encrypts `body_stream_` under the client's `X-Arqma-EphemKey` (when the
connection parsed one), sets the length and starts the asynchronous write. When encryption fails
it answers 500 and logs the key through `obfuscate_pubkey`, which computes `pk.length() - 3` in
`size_t`: on a key shorter than three bytes the position wraps and `substr` throws
`std::out_of_range` from inside the `catch` block (`obfuscate_pubkey_throws`).

`respond_with_messages` serialises the messages of a retrieve and writes them.
-/

namespace ArqmaStorage

/-- `obfuscate_pubkey(pk)`: the first two and the last bytes of a key, for the log. -/
def obfuscate_pubkey (pk : String) : Except Exn String := do
  let res ← substr pk 0 2
  let tail ← substr pk (UInt64.ofNat (size pk) - 3) (UInt64.ofNat (size pk) - 1)
  pure (res ++ "..." ++ tail)

theorem ofNat_sub_toNat {n : Nat} (k : Nat) (h : n < 2 ^ 64) (hk : k < 2 ^ 64) :
    (UInt64.ofNat n - UInt64.ofNat k).toNat = (n + (2 ^ 64 - k)) % 2 ^ 64 := by
  show (BitVec.ofNat 64 n - BitVec.ofNat 64 k).toNat = _
  rw [BitVec.toNat_sub]
  simp only [BitVec.toNat_ofNat, Nat.mod_eq_of_lt h, Nat.mod_eq_of_lt hk]
  omega

theorem obfuscate_pubkey_throws {pk : String} (h : size pk < 3) :
    obfuscate_pubkey pk = .error (.out_of_range "basic_string::substr") := by
  have hpos : size pk < (UInt64.ofNat (size pk) - 3).toNat := by
    rw [show (3 : UInt64) = UInt64.ofNat 3 from rfl, ofNat_sub_toNat 3 (by omega) (by decide)]
    omega
  simp [obfuscate_pubkey, substr, hpos, bind, Except.bind]

theorem obfuscate_pubkey_ok {pk : String} (h : 3 ≤ size pk) (hsz : size pk < 2 ^ 64) :
    ∃ s, obfuscate_pubkey pk = .ok s := by
  have hpos : (UInt64.ofNat (size pk) - 3).toNat ≤ size pk := by
    rw [show (3 : UInt64) = UInt64.ofNat 3 from rfl, ofNat_sub_toNat 3 hsz (by decide)]
    omega
  obtain ⟨a, ha⟩ := @substr_ok_of_le pk 0 2 (Nat.zero_le _)
  obtain ⟨b, hb⟩ := substr_ok_of_le (UInt64.ofNat (size pk) - 1) hpos
  exact ⟨a ++ "..." ++ b, by simp [obfuscate_pubkey, ha, hb, bind, Except.bind, pure, Except.pure]⟩

namespace connection_t

/-- `response_.body() = s`. -/
def with_body (c : connection_t) (s : String) : connection_t :=
  { c with response_ := { c.response_ with body := s } }

end connection_t

/-- The encryption step of `write_response`: without an `X-Arqma-EphemKey` the response body is
left as it is. -/
def encrypt_response (env : Env) (c : connection_t) : Outcome :=
  match c.header_.lookup ARQMA_EPHEMKEY_HEADER with
  | none => .ok c
  | some ephemKey =>
    match env.encrypt c.body_stream_ ephemKey with
    | .ok body => .ok ((c.with_body (env.base64_encode body)).set "Content-Type" "text/plain")
    | .error e =>
      let c := (((c.result status.internal_server_error).set "Content-Type" "text/plain").out
        "Could not encrypt/encode response: ").out (e.what ++ "\n")
      let c := c.with_body c.body_stream_
      match obfuscate_pubkey ephemKey with
      | .ok _ => .ok c
      | .error x => .error (x, c)

/-- `write_response()`. -/
def write_response (env : Env) (c : connection_t) : Outcome := do
  let c ← encrypt_response env c
  .ok (c.set "Content-Length" (toString (size c.response_.body))).async_write

theorem write_response_throws {env : Env} {c : connection_t} {k : String}
    (hk : c.header_.lookup ARQMA_EPHEMKEY_HEADER = some k) (hsize : size k < 3)
    (henc : ∀ b, ∃ e, env.encrypt b k = .error e) :
    ∃ c', write_response env c = .error (.out_of_range "basic_string::substr", c') := by
  obtain ⟨e, he⟩ := henc c.body_stream_
  simp [write_response, encrypt_response, hk, he, obfuscate_pubkey_throws hsize, bind,
    Except.bind]

/-- `message["expiration"] = item.timestamp + item.ttl`, in `uint64_t`. -/
def message_json (item : Item) : Json :=
  .object [("hash", .string item.hash), ("expiration", .number (item.timestamp + item.ttl).toNat),
    ("data", .string item.data)]

def message_t.toItem (m : message_t) : Item := ⟨m.hash, m.data, m.ttl, m.timestamp⟩

/-- `respond_with_messages(items)`. -/
def respond_with_messages (env : Env) (items : List Item) (c : connection_t) : Outcome := do
  let c := (c.result status.ok).set "Content-Type" "application/json"
  let s ← lift (env.dump (.object [("messages", .array (items.map message_json))])) c
  write_response env (c.out s)

end ArqmaStorage
