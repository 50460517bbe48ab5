import ArqmaStorage.Reachability.Records

/-!
# The tracker against its history

A run of the tracker is a list of calls, each at a steady-clock time, oldest first; `replay h` is
the tracker after the run `h`. What the tracker answers is determined by the history alone, per
peer: the *first recording* of `sn` is the first `record_unreachable sn` since the last
`expire sn` (`first_recording`), and `sn` counts as reported when a `set_reported sn` came after
that recording (`reported_since`). `replay_find` says the tracker's entry for `sn` is exactly
that pair; from it, `record_unreachable` reports a peer once its first recording is more than
120 minutes old and it was not reported since, and `expire` answers whether a recording exists.

A `set_reported sn` made while no entry for `sn` exists changes nothing: it does not stop a later
recording of `sn` from being reported (`set_reported_before_recording`).
-/

namespace ArqmaStorage

namespace reachability_records_t

/-- A call on the tracker. -/
inductive Op where
  | record_unreachable (sn : sn_pub_key_t)
  | expire (sn : sn_pub_key_t)
  | set_reported (sn : sn_pub_key_t)
  | next_to_test
  deriving Repr, DecidableEq

/-- Whether a call is `record_unreachable k`, `expire k` or `set_reported k`. -/
def Op.records (k : sn_pub_key_t) : Op → Bool
  | .record_unreachable sn => sn == k
  | _ => false

def Op.expires (k : sn_pub_key_t) : Op → Bool
  | .expire sn => sn == k
  | _ => false

def Op.reports (k : sn_pub_key_t) : Op → Bool
  | .set_reported sn => sn == k
  | _ => false

/-- Whether a call names `k`. -/
def Op.about (k : sn_pub_key_t) (op : Op) : Bool := op.records k || op.expires k || op.reports k

theorem Op.about_eq_true {k : sn_pub_key_t} {op : Op} (h : op.about k = true) :
    op = .record_unreachable k ∨ op = .expire k ∨ op = .set_reported k := by
  cases op <;> simp_all [about, records, expires, reports]

/-- The tracker after one call at time `t`. -/
def apply (r : reachability_records_t) : Op × Nat → reachability_records_t
  | (.record_unreachable sn, t) => (r.record_unreachable sn t).2
  | (.expire sn, _) => (r.expire sn).2
  | (.set_reported sn, _) => r.set_reported sn
  | (.next_to_test, _) => r

/-- The tracker after the run `h`, from an empty one. -/
def replay (h : List (Op × Nat)) : reachability_records_t := h.foldl apply ∅

theorem find_apply_ne (r : reachability_records_t) (e : Op × Nat) {k : sn_pub_key_t}
    (h : e.1.about k = false) : (r.apply e).find k = r.find k := by
  obtain ⟨op, t⟩ := e
  cases op with
  | record_unreachable sn =>
    have hk : k ≠ sn := fun hk => by simp [Op.about, Op.records, hk] at h
    rw [apply, record_unreachable_state, find_put_ne _ _ hk]
  | expire sn => exact find_expire_ne r fun hk => by simp [Op.about, Op.expires, hk] at h
  | set_reported sn => exact set_reported_find_ne r fun hk => by simp [Op.about, Op.reports, hk] at h
  | next_to_test => rfl

/-! ## The history of one peer -/

/-- The calls of `h` since the last `expire sn` (all of `h` when there is none). -/
def since_expire (sn : sn_pub_key_t) (h : List (Op × Nat)) : List (Op × Nat) :=
  (h.reverse.takeWhile fun e => !e.1.expires sn).reverse

/-- The time of the first `record_unreachable sn` since the last `expire sn`. -/
def first_recording (sn : sn_pub_key_t) (h : List (Op × Nat)) : Option Nat :=
  ((since_expire sn h).find? fun e => e.1.records sn).map Prod.snd

/-- Whether a `set_reported sn` came after the first recording of `sn`. -/
def reported_since (sn : sn_pub_key_t) (h : List (Op × Nat)) : Bool :=
  ((since_expire sn h).dropWhile fun e => !e.1.records sn).any fun e => e.1.reports sn

variable {sn : sn_pub_key_t} {h : List (Op × Nat)} {e : Op × Nat}

theorem since_expire_snoc :
    since_expire sn (h ++ [e]) = if e.1.expires sn then [] else since_expire sn h ++ [e] := by
  by_cases he : e.1.expires sn <;> simp [since_expire, he, List.takeWhile_cons]

theorem first_recording_snoc : first_recording sn (h ++ [e]) =
    if e.1.expires sn then none
    else (first_recording sn h).or (if e.1.records sn then some e.2 else none) := by
  simp only [first_recording, since_expire_snoc]
  split_ifs with h1 h2
  · rfl
  · rw [List.find?_append]
    cases List.find? (fun e => e.1.records sn) (since_expire sn h) <;> simp [h2]
  · rw [List.find?_append]
    cases List.find? (fun e => e.1.records sn) (since_expire sn h) <;> simp [h2]

theorem reported_since_snoc : reported_since sn (h ++ [e]) =
    if e.1.expires sn then false
    else (first_recording sn h).isSome && (reported_since sn h || e.1.reports sn) := by
  rw [reported_since, since_expire_snoc]
  split_ifs with h1
  · rfl
  · rw [List.dropWhile_append]
    cases hf : first_recording sn h with
    | none =>
      have hall : ∀ x ∈ since_expire sn h, x.1.records sn = false := by
        simpa [first_recording] using hf
      have hnil : (since_expire sn h).dropWhile (fun e => !e.1.records sn) = [] :=
        List.dropWhile_eq_nil_iff.2 (by simpa using hall)
      have hrp : e.1.records sn = true → e.1.reports sn = false := by
        cases e.1 <;> simp [Op.records, Op.reports]
      cases hr : e.1.records sn <;> simp [hnil, hr, hrp, List.dropWhile_cons]
    | some t0 =>
      obtain ⟨x, hx, hxr⟩ : ∃ x ∈ since_expire sn h, x.1.records sn = true := by
        simp only [first_recording, Option.map_eq_some'] at hf
        obtain ⟨x, hx, -⟩ := hf
        exact ⟨x, List.mem_of_find?_eq_some hx, by simpa using List.find?_some hx⟩
      have hne : ((since_expire sn h).dropWhile fun e => !e.1.records sn) ≠ [] := by
        intro hnil
        have := List.dropWhile_eq_nil_iff.1 hnil x hx
        simp [hxr] at this
      simp [List.isEmpty_iff, hne, reported_since]

/-! ## The tracker is its history -/

theorem replay_find (h : List (Op × Nat)) (sn : sn_pub_key_t) :
    ((replay h).find sn).map (fun r => (r.first_failure, r.reported)) =
      (first_recording sn h).map (fun t0 => (t0, reported_since sn h)) := by
  induction h using List.reverseRecOn with
  | nil => rfl
  | append_singleton h e ih =>
    rw [replay, List.foldl_append, List.foldl_cons, List.foldl_nil, ← replay,
      first_recording_snoc, reported_since_snoc]
    obtain ⟨op, t⟩ := e
    cases hk : op.about sn
    · rw [find_apply_ne _ _ hk, ih]
      simp only [Op.about, Bool.or_eq_false_iff] at hk
      obtain ⟨⟨h1, h2⟩, h3⟩ := hk
      simp only [h1, h2, h3]
      cases first_recording sn h <;> simp
    · rcases Op.about_eq_true hk with rfl | rfl | rfl
      · rw [apply, record_unreachable_state]
        cases hf : (replay h).find sn <;> cases hr : first_recording sn h <;>
          simp_all [Op.records, Op.expires, Op.reports, reach_record_t.create]
      · simp [apply, Op.expires]
      · rw [apply, set_reported_find]
        cases hf : (replay h).find sn <;> cases hr : first_recording sn h <;>
          simp_all [Op.records, Op.expires, Op.reports]

/-! ## What the tracker answers -/

theorem record_unreachable_replay (h : List (Op × Nat)) (sn : sn_pub_key_t) (t : Nat) :
    ((replay h).record_unreachable sn t).1 = true ↔ ∃ t0, first_recording sn h = some t0 ∧
      reported_since sn h = false ∧ UNREACH_GRACE_PERIOD < t - t0 := by
  have hf := replay_find h sn
  rw [record_unreachable_result]
  cases hr : (replay h).find sn <;> cases hfr : first_recording sn h <;> simp_all

theorem expire_replay (h : List (Op × Nat)) (sn : sn_pub_key_t) :
    ((replay h).expire sn).1 = (first_recording sn h).isSome := by
  simpa [expire] using congrArg Option.isSome (replay_find h sn)

theorem reported_since_append {h : List (Op × Nat)} (hrec : (first_recording sn h).isSome)
    (hrep : reported_since sn h) :
    ∀ {h2 : List (Op × Nat)}, (∀ e ∈ h2, e.1.expires sn = false) →
      (first_recording sn (h ++ h2)).isSome ∧ reported_since sn (h ++ h2) := by
  intro h2
  induction h2 using List.reverseRecOn with
  | nil => simpa using ⟨hrec, hrep⟩
  | append_singleton h2 e ih =>
    intro hno
    obtain ⟨h1, h2'⟩ := ih fun x hx => hno x (List.mem_append_left _ hx)
    have he : e.1.expires sn = false := hno e (by simp)
    rw [← List.append_assoc, first_recording_snoc, reported_since_snoc]
    simp [he, h1, h2']

/-- **The tracker behaves as the per-peer history says**: `record_unreachable sn` at `t` reports
exactly when a first recording at `t0` exists, `sn` was not reported since and `t - t0` exceeds
120 minutes; `expire sn` answers whether a first recording exists; no call changes another
peer's entry; and after a `set_reported sn` made while `sn` had a recording,
`record_unreachable sn` answers `false` until `sn` expires. -/
theorem tracker_matches_history :
    (∀ (h : List (Op × Nat)) (sn : sn_pub_key_t) (t : Nat),
      ((replay h).record_unreachable sn t).1 = true ↔ ∃ t0, first_recording sn h = some t0 ∧
        reported_since sn h = false ∧ UNREACH_GRACE_PERIOD < t - t0) ∧
    (∀ (h : List (Op × Nat)) (sn : sn_pub_key_t),
      ((replay h).expire sn).1 = (first_recording sn h).isSome) ∧
    (∀ (r : reachability_records_t) (e : Op × Nat) (k : sn_pub_key_t),
      e.1.about k = false → (r.apply e).find k = r.find k) ∧
    (∀ (h1 h2 : List (Op × Nat)) (sn : sn_pub_key_t) (t1 t : Nat),
      (first_recording sn h1).isSome → (∀ e ∈ h2, e.1.expires sn = false) →
        ((replay (h1 ++ (.set_reported sn, t1) :: h2)).record_unreachable sn t).1 = false) := by
  refine ⟨record_unreachable_replay, expire_replay, fun r e _ => find_apply_ne r e, ?_⟩
  intro h1 h2 sn t1 t hrec hno
  have hset : (first_recording sn (h1 ++ [(.set_reported sn, t1)])).isSome ∧
      reported_since sn (h1 ++ [(.set_reported sn, t1)]) := by
    simp [first_recording_snoc, reported_since_snoc, Op.expires, Op.records, Op.reports, hrec]
  obtain ⟨-, hrep⟩ := reported_since_append hset.1 hset.2 hno
  rw [List.append_assoc, List.singleton_append] at hrep
  refine Bool.eq_false_iff.2 fun hr => ?_
  obtain ⟨t0, -, hfalse, -⟩ := (record_unreachable_replay _ sn t).1 hr
  simp [hrep] at hfalse

/-- A `set_reported` made before any recording does not stop the report: `set_reported "a"`,
then `record_unreachable "a"` at 0 and again after the grace period, with no `expire "a"`,
reports `"a"`. -/
theorem set_reported_before_recording :
    let h : List (Op × Nat) := [(.set_reported "a", 0), (.record_unreachable "a", 0)]
    (Op.set_reported "a", 0) ∈ h ∧ (∀ e ∈ h, e.1 ≠ .expire "a") ∧
      ((replay h).record_unreachable "a" (UNREACH_GRACE_PERIOD + 1)).1 = true := by
  decide

end reachability_records_t

end ArqmaStorage
