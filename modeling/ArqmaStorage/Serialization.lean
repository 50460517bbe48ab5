import ArqmaStorage.Basic

/-!
# The batch wire format

`deserialize_messages` lives in `serialization.cpp`, which is not among the sources; the push
handlers reach it only through this module. It follows the spec: each message is six fields
(`recipient_pubkey, data, hash, ttl_ms, timestamp_ms, nonce`), each field a big-endian `u32`
length and that many bytes, the next message following immediately; the reader stops at the end
of the buffer, and at the first field that does not fit in what is left.
-/

namespace ArqmaStorage

/-- A big-endian unsigned number. -/
def be_value (bs : List UInt8) : Nat := bs.foldl (fun acc b => acc * 256 + b.toNat) 0

/-- One field: a big-endian `u32` length, then that many bytes. -/
def read_field : List UInt8 → Option (List UInt8 × List UInt8)
  | b0 :: b1 :: b2 :: b3 :: rest =>
    let n := be_value [b0, b1, b2, b3]
    if n ≤ rest.length then some (rest.take n, rest.drop n) else none
  | _ => none

/-- A text field, which must be UTF-8. -/
def read_string (bs : List UInt8) : Option (String × List UInt8) := do
  let (f, rest) ← read_field bs
  let s ← String.fromUTF8? ⟨f.toArray⟩
  pure (s, rest)

/-- A numeric field, its bytes read big-endian as a `uint64_t`. -/
def read_u64 (bs : List UInt8) : Option (UInt64 × List UInt8) := do
  let (f, rest) ← read_field bs
  pure (UInt64.ofNat (be_value f), rest)

/-- One message, in the spec's field order. -/
def read_message (bs : List UInt8) : Option (message_t × List UInt8) := do
  let (pub_key, bs) ← read_string bs
  let (data, bs) ← read_string bs
  let (hash, bs) ← read_string bs
  let (ttl, bs) ← read_u64 bs
  let (timestamp, bs) ← read_u64 bs
  let (nonce, bs) ← read_string bs
  pure (⟨pub_key, data, hash, ttl, timestamp, nonce⟩, bs)

/-- Read messages until the buffer ends (or a message does not parse); each message takes at
least one byte, so `fuel` bytes are enough. -/
def read_messages : Nat → List UInt8 → List message_t
  | 0, _ => []
  | _, [] => []
  | fuel + 1, bs@(_ :: _) =>
    match read_message bs with
    | some (m, rest) => m :: read_messages fuel rest
    | none => []

/-- Modelled from the spec: `deserialize_messages` (of `serialization.cpp`, not among the
sources); "readers stop at buffer end". -/
def deserialize_messages (blob : String) : List message_t :=
  read_messages (size blob) blob.toUTF8.data.toList

-- An empty body carries no message.
example : deserialize_messages "" = [] := by decide

end ArqmaStorage
