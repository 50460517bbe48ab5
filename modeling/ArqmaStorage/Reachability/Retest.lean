import ArqmaStorage.Reachability.Records

/-!
# Choosing the next peer to retest

`next_to_test` is `std::min_element` over the map by `last_tested`. It answers `none` exactly
when no peer is tracked, and otherwise a tracked peer tested no later than any other
(`next_to_test_spec`). Retesting is therefore round robin: rounds of `k := next_to_test()` and
`record_unreachable(k)`, each at a time later than every `last_tested` the tracker held at the
start, choose a different peer each time until every tracked peer has been chosen
(`retest_rounds_nodup`).
-/

namespace ArqmaStorage

namespace reachability_records_t

theorem foldl_min (xs : List (Σ _ : sn_pub_key_t, reach_record_t))
    (x : Σ _ : sn_pub_key_t, reach_record_t) :
    let m := xs.foldl (fun s y => if y.2.last_tested < s.2.last_tested then y else s) x
    (m = x ∨ m ∈ xs) ∧ m.2.last_tested ≤ x.2.last_tested ∧ ∀ y ∈ xs, m.2.last_tested ≤ y.2.last_tested := by
  induction xs generalizing x with
  | nil => simp
  | cons y ys ih =>
    simp only [List.foldl_cons, List.forall_mem_cons]
    by_cases hy : y.2.last_tested < x.2.last_tested
    · rw [if_pos hy]
      obtain ⟨hmem, hle, hall⟩ := ih y
      exact ⟨by rcases hmem with h | h <;> simp [h], by omega, hle, hall⟩
    · rw [if_neg hy]
      obtain ⟨hmem, hle, hall⟩ := ih x
      exact ⟨by rcases hmem with h | h <;> simp [h], hle, by omega, hall⟩

theorem min_element_spec {l : List (Σ _ : sn_pub_key_t, reach_record_t)}
    {m : Σ _ : sn_pub_key_t, reach_record_t} (h : min_element l = some m) :
    m ∈ l ∧ ∀ y ∈ l, m.2.last_tested ≤ y.2.last_tested := by
  cases l with
  | nil => simp [min_element] at h
  | cons x xs =>
    simp only [min_element, Option.some.injEq] at h
    obtain ⟨hmem, hle, hall⟩ := foldl_min xs x
    rw [h] at hmem hle hall
    exact ⟨by rcases hmem with rfl | hm <;> simp_all, List.forall_mem_cons.2 ⟨hle, hall⟩⟩

theorem mem_entries_iff {r : reachability_records_t} {k : sn_pub_key_t} {rec : reach_record_t} :
    (⟨k, rec⟩ : Σ _ : sn_pub_key_t, reach_record_t) ∈ r.offline_nodes_.entries ↔
      r.find k = some rec :=
  AList.mem_lookup_iff.symm

theorem next_to_test_spec (r : reachability_records_t) :
    (r.next_to_test = none ↔ ∀ k, r.find k = none) ∧
    ∀ k, r.next_to_test = some k → ∃ rec, r.find k = some rec ∧
      ∀ k' rec', r.find k' = some rec' → rec.last_tested ≤ rec'.last_tested := by
  constructor
  · cases hl : r.offline_nodes_.entries with
    | nil =>
      simp only [next_to_test, hl, min_element, Option.map_none', true_iff]
      intro k
      cases hk : r.find k with
      | none => rfl
      | some rec => simpa [hl] using mem_entries_iff.2 hk
    | cons x xs =>
      simp only [next_to_test, hl, min_element, Option.map_some', reduceCtorEq, false_iff]
      intro hnone
      have : r.find x.1 = some x.2 := mem_entries_iff.1 (by simp [hl])
      simp [hnone] at this
  · intro k hk
    obtain ⟨m, hm, rfl⟩ := Option.map_eq_some'.1 hk
    obtain ⟨hmem, hmin⟩ := min_element_spec hm
    exact ⟨m.2, mem_entries_iff.1 hmem, fun k' rec' h' => hmin _ (mem_entries_iff.2 h')⟩

/-! ## Round robin -/

/-- Rounds of `k := next_to_test(); record_unreachable(k)` at the times `ts`. -/
def retest_rounds (r : reachability_records_t) : List Nat → List sn_pub_key_t
  | [] => []
  | t :: ts =>
    match r.next_to_test with
    | none => []
    | some k => k :: retest_rounds (r.record_unreachable k t).2 ts

/-- The state of the rounds against the tracker `r₀` they started from: the peers chosen so far
were tested after every `last_tested` of `r₀`, the others are as in `r₀`. -/
structure Chosen (r₀ r : reachability_records_t) (done : List sn_pub_key_t) : Prop where
  nodup : done.Nodup
  tracked : ∀ k ∈ done, (r₀.find k).isSome
  same : ∀ k, k ∉ done → r.find k = r₀.find k
  later : ∀ k ∈ done, ∃ rec, r.find k = some rec ∧
    ∀ k' rec', r₀.find k' = some rec' → rec'.last_tested < rec.last_tested

theorem Chosen.round {r₀ r : reachability_records_t} {done : List sn_pub_key_t}
    (hc : Chosen r₀ r done) (hlen : done.length < r₀.offline_nodes_.keys.length) (t : Nat)
    (ht : ∀ k rec, r₀.find k = some rec → rec.last_tested < t) :
    ∃ k, r.next_to_test = some k ∧ k ∉ done ∧
      Chosen r₀ (r.record_unreachable k t).2 (done ++ [k]) := by
  obtain ⟨u, hu, hud⟩ : ∃ u ∈ r₀.offline_nodes_.keys, u ∉ done := by
    by_contra hall
    push_neg at hall
    exact absurd ((List.subperm_of_subset r₀.offline_nodes_.keys_nodup hall).length_le) (by omega)
  obtain ⟨urec, hurec⟩ : ∃ urec, r₀.find u = some urec :=
    Option.isSome_iff_exists.1 (AList.lookup_isSome.2 (AList.mem_keys.2 hu))
  have hsome : r.next_to_test ≠ none := fun hnone => by
    have := (next_to_test_spec r).1.1 hnone u
    rw [hc.same u hud, hurec] at this
    cases this
  obtain ⟨k, hk⟩ := Option.ne_none_iff_exists'.1 hsome
  obtain ⟨krec, hkrec, hmin⟩ := (next_to_test_spec r).2 k hk
  have hkd : k ∉ done := fun hkd => by
    obtain ⟨rec, hrec, hlater⟩ := hc.later k hkd
    have := hmin u urec (by rw [hc.same u hud, hurec])
    have := hlater u urec hurec
    simp_all only [Option.some.injEq]
    omega
  refine ⟨k, hk, hkd, ⟨?_, ?_, ?_, ?_⟩⟩
  · exact hc.nodup.append (List.nodup_singleton k) (by simpa using hkd)
  · intro k' hk'
    rcases List.mem_append.1 hk' with h | h
    · exact hc.tracked k' h
    · obtain rfl := List.mem_singleton.1 h
      rw [← hc.same _ hkd, hkrec]; rfl
  · intro k' hk'
    rw [record_unreachable_state, find_put_ne _ _ (fun h => hk' (by simp [h]))]
    exact hc.same k' fun h => hk' (List.mem_append_left _ h)
  · intro k' hk'
    rw [record_unreachable_state]
    by_cases hkk : k' = k
    · subst hkk
      exact ⟨_, find_put _ _, fun k'' rec'' h'' => by simpa [hkrec] using ht k'' rec'' h''⟩
    · rw [find_put_ne _ _ hkk]
      exact hc.later k' (by simpa [hkk] using hk')

theorem Chosen.rounds {r₀ : reachability_records_t} :
    ∀ (ts : List Nat) (r : reachability_records_t) (done : List sn_pub_key_t),
      Chosen r₀ r done → done.length + ts.length ≤ r₀.offline_nodes_.keys.length →
      (∀ t ∈ ts, ∀ k rec, r₀.find k = some rec → rec.last_tested < t) →
      (done ++ retest_rounds r ts).Nodup ∧ (retest_rounds r ts).length = ts.length
  | [], r, done, hc, _, _ => by simpa [retest_rounds] using hc.nodup
  | t :: ts, r, done, hc, hlen, hts => by
    obtain ⟨k, hk, -, hc'⟩ := hc.round (by simp at hlen; omega) t (hts t (by simp))
    have ih := Chosen.rounds ts _ _ hc' (by simp at hlen ⊢; omega)
      fun t' ht' => hts t' (by simp [ht'])
    simp only [retest_rounds, hk, List.length_cons]
    exact ⟨by simpa using ih.1, by rw [ih.2]⟩

theorem retest_rounds_nodup (r : reachability_records_t) (ts : List Nat)
    (hlen : ts.length = r.offline_nodes_.keys.length)
    (hts : ∀ t ∈ ts, ∀ k rec, r.find k = some rec → rec.last_tested < t) :
    (retest_rounds r ts).Nodup ∧ (retest_rounds r ts).length = ts.length := by
  simpa using Chosen.rounds ts r [] ⟨List.nodup_nil, by simp, fun _ _ => rfl, by simp⟩
    (by simp [hlen]) hts

/-- **`next_to_test` is the least recently tested peer, and retesting is round robin.** -/
theorem next_to_test_least_recent :
    (∀ r : reachability_records_t, (r.next_to_test = none ↔ ∀ k, r.find k = none) ∧
      ∀ k, r.next_to_test = some k → ∃ rec, r.find k = some rec ∧
        ∀ k' rec', r.find k' = some rec' → rec.last_tested ≤ rec'.last_tested) ∧
    ∀ (r : reachability_records_t) (ts : List Nat), ts.length = r.offline_nodes_.keys.length →
      (∀ t ∈ ts, ∀ k rec, r.find k = some rec → rec.last_tested < t) →
      (retest_rounds r ts).Nodup ∧ (retest_rounds r ts).length = ts.length :=
  ⟨next_to_test_spec, retest_rounds_nodup⟩

/-- Two peers that failed at times 3 and 5 are retested at times 10 and 11 in that order. -/
theorem retest_rounds_two_peers :
    let r := ((∅ : reachability_records_t).record_unreachable "a" 3).2.record_unreachable "b" 5 |>.2
    retest_rounds r [10, 11] = ["a", "b"] ∧
      (retest_rounds r [10, 11]).Nodup ∧ (retest_rounds r [10, 11]).length = 2 := by
  intro r
  refine ⟨rfl, next_to_test_least_recent.2 r [10, 11] rfl fun t ht k rec h => ?_⟩
  have hm := mem_entries_iff.2 h
  rw [show r.offline_nodes_.entries = [⟨"b", ⟨5, 5, false⟩⟩, ⟨"a", ⟨3, 3, false⟩⟩] from rfl] at hm
  simp only [List.mem_cons, List.mem_singleton, Sigma.mk.inj_iff, List.not_mem_nil] at hm ht
  rcases hm with ⟨-, h⟩ | ⟨-, h⟩ | h <;> simp_all <;> omega

end reachability_records_t

end ArqmaStorage
