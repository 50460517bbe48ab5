import ArqmaStorage.Basic

/-!
# The reachability tracker

`reachability_records_t` of `reachability_testing.cpp` keeps a `reach_record_t` for every peer
that failed a test: when it first failed, when it was last tested, and whether it was reported to
the daemon. The `std::unordered_map` is an `AList`, which carries the uniqueness of its keys. Its
iteration order is unspecified in C++; here an updated entry moves to the front, and nothing
proved about the tracker depends on the order.

Every operation touches the entry of its own key only (`find_apply_ne`).
-/

namespace ArqmaStorage

/-- `sn_pub_key_t`. -/
abbrev sn_pub_key_t := String

/-- `detail::reach_record_t`. -/
structure reach_record_t where
  first_failure : Nat
  last_tested : Nat
  reported : Bool
  deriving Repr, DecidableEq

/-- `reach_record_t()`, constructed at steady-clock time `now`. -/
def reach_record_t.create (now : Nat) : reach_record_t := ⟨now, now, false⟩

/-- `UNREACH_GRACE_PERIOD`: 120 minutes. -/
def UNREACH_GRACE_PERIOD : Nat := 120 * 60000 * MILLISECOND

structure reachability_records_t where
  offline_nodes_ : AList (fun _ : sn_pub_key_t => reach_record_t)

namespace reachability_records_t

instance : EmptyCollection reachability_records_t := ⟨⟨∅⟩⟩

/-- `offline_nodes_.find(sn)`. -/
def find (r : reachability_records_t) (sn : sn_pub_key_t) : Option reach_record_t :=
  r.offline_nodes_.lookup sn

/-- `offline_nodes_[sn] = rec`, for a new key or an existing one. -/
def put (r : reachability_records_t) (sn : sn_pub_key_t) (rec : reach_record_t) :
    reachability_records_t :=
  ⟨r.offline_nodes_.insert sn rec⟩

/-- `record_unreachable(sn)` at time `now`: whether to report `sn` to the daemon. -/
def record_unreachable (r : reachability_records_t) (sn : sn_pub_key_t) (now : Nat) :
    Bool × reachability_records_t :=
  match r.find sn with
  | none => (false, r.put sn (reach_record_t.create now))
  | some entry =>
    let entry := { entry with last_tested := now }
    let r := r.put sn entry
    let elapsed := entry.last_tested - entry.first_failure
    if entry.reported then (false, r)
    else if UNREACH_GRACE_PERIOD < elapsed then (true, r)
    else (false, r)

/-- `expire(sn)`: whether an entry was erased. -/
def expire (r : reachability_records_t) (sn : sn_pub_key_t) : Bool × reachability_records_t :=
  ((r.find sn).isSome, ⟨r.offline_nodes_.erase sn⟩)

/-- `set_reported(sn)`: marks an existing entry only. -/
def set_reported (r : reachability_records_t) (sn : sn_pub_key_t) : reachability_records_t :=
  match r.find sn with
  | some rec => r.put sn { rec with reported := true }
  | none => r

/-- `std::min_element` by `last_tested`: the first entry no later entry is strictly below. -/
def min_element : List (Σ _ : sn_pub_key_t, reach_record_t) →
    Option (Σ _ : sn_pub_key_t, reach_record_t)
  | [] => none
  | x :: xs => some (xs.foldl (fun s y => if y.2.last_tested < s.2.last_tested then y else s) x)

/-- `next_to_test()`. -/
def next_to_test (r : reachability_records_t) : Option sn_pub_key_t :=
  (min_element r.offline_nodes_.entries).map Sigma.fst

/-! ## Lookups after each operation -/

variable (r : reachability_records_t) {sn k : sn_pub_key_t}

@[simp] theorem find_empty (k : sn_pub_key_t) : (∅ : reachability_records_t).find k = none := rfl

@[simp] theorem find_put (rec : reach_record_t) : (r.put sn rec).find sn = some rec :=
  AList.lookup_insert _

theorem find_put_ne (rec : reach_record_t) (h : k ≠ sn) : (r.put sn rec).find k = r.find k :=
  AList.lookup_insert_ne h

@[simp] theorem find_expire : (r.expire sn).2.find sn = none := AList.lookup_erase _ _

theorem find_expire_ne (h : k ≠ sn) : (r.expire sn).2.find k = r.find k :=
  AList.lookup_erase_ne h

theorem record_unreachable_state (now : Nat) :
    (r.record_unreachable sn now).2 = r.put sn (match r.find sn with
      | none => reach_record_t.create now
      | some rec => { rec with last_tested := now }) := by
  unfold record_unreachable
  split
  · rfl
  · simp only
    split_ifs <;> rfl

theorem record_unreachable_result (now : Nat) :
    (r.record_unreachable sn now).1 = match r.find sn with
      | none => false
      | some rec => !rec.reported && decide (UNREACH_GRACE_PERIOD < now - rec.first_failure) := by
  unfold record_unreachable
  split
  · rfl
  · simp only
    split_ifs <;> simp_all

theorem set_reported_find :
    (r.set_reported sn).find sn = (r.find sn).map fun rec => { rec with reported := true } := by
  unfold set_reported
  split <;> simp_all

theorem set_reported_find_ne (h : k ≠ sn) : (r.set_reported sn).find k = r.find k := by
  unfold set_reported
  split
  · exact find_put_ne _ _ h
  · rfl

end reachability_records_t

end ArqmaStorage
