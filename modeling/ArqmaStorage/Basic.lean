import Mathlib

/-!
# Values the storage server passes around

The plain data of `http_connection.cpp` and `arqma_common.h`: exceptions as the handlers throw
and catch them, the `nlohmann::json` accessors the handlers call, `std::string` sizes and
`substr`, messages, swarm records, storage-test statuses, the daemon client's responses, and the
server's constants. Steady-clock instants and durations are natural numbers of nanoseconds (the
tick of `std::chrono::steady_clock` in libstdc++). A `std::string` is a Lean `String` whose
`size()` is its UTF-8 byte count.
-/

namespace ArqmaStorage

/-! ## Exceptions -/

/-- What a handler can throw. `abort` is a failed `assert`: it is no exception, and no `catch`
stops it. -/
inductive Exn where
  | out_of_range (what : String)
  | type_error (what : String)
  | runtime_error (what : String)
  | abort (expr : String)
  deriving Repr, DecidableEq

namespace Exn

/-- `e.what()`. -/
def what : Exn → String
  | out_of_range w | type_error w | runtime_error w => w
  | abort e => e

/-- Whether `catch (const std::exception&)` (and `catch (...)`) stops the exception. -/
def caught : Exn → Bool
  | abort _ => false
  | _ => true

end Exn

theorem bind_eq_ok {ε α β : Type} {x : Except ε α} {f : α → Except ε β} {b : β}
    (h : x >>= f = .ok b) : ∃ a, x = .ok a ∧ f a = .ok b := by
  cases x with
  | error e => cases h
  | ok a => exact ⟨a, rfl, h⟩

/-! ## `std::string` -/

/-- `std::string::size()`: the byte count. -/
def size (s : String) : Nat := s.utf8ByteSize

/-- `s.substr(pos, n)`: throws `std::out_of_range` when `pos > size()`. Positions are `size_t`. -/
def substr (s : String) (pos n : UInt64) : Except Exn String :=
  if size s < pos.toNat then .error (.out_of_range "basic_string::substr")
  else .ok (s.extract ⟨pos.toNat⟩ ⟨min (size s) (pos.toNat + n.toNat)⟩)

/-- Beast's field-name comparison: ASCII case-insensitive. -/
def iequals (a b : String) : Bool :=
  a.data.map Char.toLower == b.data.map Char.toLower

theorem substr_ok_of_le {s : String} {pos : UInt64} (n : UInt64) (h : pos.toNat ≤ size s) :
    ∃ r, substr s pos n = .ok r := by
  simp [substr, Nat.not_lt.2 h]

theorem substr_error_of_lt {s : String} {pos : UInt64} (n : UInt64) (h : size s < pos.toNat) :
    substr s pos n = .error (.out_of_range "basic_string::substr") := by
  simp [substr, h]

/-! ## JSON -/

/-- A `nlohmann::json` value. -/
inductive Json where
  | null
  | boolean (b : Bool)
  | number (n : Int)
  | string (s : String)
  | array (xs : List Json)
  | object (kvs : List (String × Json))
  deriving Repr

namespace Json

def type_name : Json → String
  | null => "null"
  | boolean _ => "boolean"
  | number _ => "number"
  | string _ => "string"
  | array _ => "array"
  | object _ => "object"

/-- `j.find(key)`, `none` standing for `j.end()`; only an object has members. -/
def find (j : Json) (key : String) : Option Json :=
  match j with
  | object kvs => kvs.lookup key
  | _ => none

def contains (j : Json) (key : String) : Bool := (j.find key).isSome

def is_string : Json → Bool
  | string _ => true
  | _ => false

def is_object : Json → Bool
  | object _ => true
  | _ => false

/-- `j.at(key)` (`at` is a keyword). -/
def at_ (j : Json) (key : String) : Except Exn Json :=
  match j with
  | object kvs =>
    match kvs.lookup key with
    | some v => .ok v
    | none => .error (.out_of_range ("key \x27" ++ key ++ "\x27 not found"))
  | _ => .error (.type_error ("cannot use at() with " ++ j.type_name))

/-- `j.get<std::string>()`. -/
def get_string : Json → Except Exn String
  | string s => .ok s
  | j => .error (.type_error ("type must be string, but is " ++ j.type_name))

theorem get_string_eq_ok {j : Json} {s : String} : j.get_string = .ok s ↔ j = .string s := by
  cases j <;> simp [get_string]

/-- `j.get<uint64_t>()`: numbers and booleans convert with `static_cast`. -/
def get_uint64 : Json → Except Exn UInt64
  | number n => .ok (UInt64.ofNat (n % 2 ^ 64).toNat)
  | boolean b => .ok (if b then 1 else 0)
  | j => .error (.type_error ("type must be number, but is " ++ j.type_name))

end Json

/-! ## Messages, records and statuses -/

/-- `message_t`: a message as a client stored it. -/
structure message_t where
  pub_key : String
  data : String
  hash : String
  ttl : UInt64
  timestamp : UInt64
  nonce : String
  deriving Repr, DecidableEq

/-- `arqma::storage::Item`, the fields `respond_with_messages` reads. -/
structure Item where
  hash : String
  data : String
  ttl : UInt64
  timestamp : UInt64
  deriving Repr, DecidableEq

/-- `sn_record_t`, the fields `snodes_to_json` reads. -/
structure sn_record_t where
  port : UInt16
  sn_address : String
  pubkey_x25519_hex : String
  pubkey_ed25519_hex : String
  ip : String
  deriving Repr, DecidableEq

/-- `MessageTestStatus`; `OTHER` stands for every enumerator besides the three the code tests. -/
inductive MessageTestStatus where
  | SUCCESS
  | RETRY
  | WRONG_REQ
  | OTHER
  deriving Repr, DecidableEq

/-- `SNodeError`. -/
inductive SNodeError where
  | NO_ERROR
  | ERROR_OTHER
  | NO_REACH
  | HTTP_ERROR
  deriving Repr, DecidableEq

/-- `sn_response_t`: an error code and a body that may be a null pointer. -/
structure sn_response_t where
  error_code : SNodeError
  body : Option String
  deriving Repr, DecidableEq

/-- `bc_test_params_t`. -/
structure bc_test_params_t where
  max_height : UInt64
  seed : UInt64
  deriving Repr, DecidableEq

/-! ## Timers -/

/-- A pending `steady_timer::async_wait`: its expiry, and whether it has expired or been
cancelled (its handler then runs with `operation_aborted`). -/
inductive TimerState where
  | waiting
  | expired
  | aborted
  deriving Repr, DecidableEq

structure timer_wait_t where
  expiry : Nat
  state : TimerState
  deriving Repr, DecidableEq

/-- A wait that may expire now. -/
def timer_wait_t.expire (clock : Nat) (w : timer_wait_t) : Option timer_wait_t :=
  if w.state = .waiting ∧ w.expiry ≤ clock then some { w with state := .expired } else none

/-- `cancel()`: a waiting wait is aborted. -/
def timer_wait_t.cancel (w : timer_wait_t) : timer_wait_t :=
  if w.state = .waiting then { w with state := .aborted } else w

/-! ## Constants -/

/-- One millisecond of steady-clock time. -/
def MILLISECOND : Nat := 1000000

/-- `TEST_RETRY_PERIOD`: 50 ms between storage-test attempts. -/
def TEST_RETRY_PERIOD : Nat := 50 * MILLISECOND

/-- `1min`, the storage-test retry window. -/
def ONE_MINUTE : Nat := 60000 * MILLISECOND

/-- `LONG_POLL_TIMEOUT`: 20000 ms. -/
def LONG_POLL_TIMEOUT : Nat := 20000 * MILLISECOND

/-- Modelled from the spec: `SESSION_TIME_LIMIT` (declared in `http_connection.h`, which is not
among the sources); "every connection has a session-deadline timer (default 60 s)". -/
def SESSION_TIME_LIMIT : Nat := 60000 * MILLISECOND

/-- `MAX_MESSAGE_BODY`. -/
def MAX_MESSAGE_BODY : Nat := 3100

def MAINNET_USER_PUBKEY_SIZE : Nat := 64
def STAGENET_USER_PUBKEY_SIZE : Nat := 64

/-- `get_user_pubkey_size()` under the process-wide network flag. -/
def get_user_pubkey_size (is_mainnet : Bool) : Nat :=
  if is_mainnet then MAINNET_USER_PUBKEY_SIZE else STAGENET_USER_PUBKEY_SIZE

theorem get_user_pubkey_size_eq (is_mainnet : Bool) : get_user_pubkey_size is_mainnet = 64 := by
  cases is_mainnet <;> rfl

end ArqmaStorage
