import MixinKernel.Distribute

/-!
# The distributor against its reference definition

The statistics loop of `distributeKernelMintByWorks` reads a zero `minW` as unset. A nonzero
work is positive, so over every order of the works the loop finds the count, least, greatest
and total of the nonzero ones. The average, the clamp and each node's share are then those
of the reference definition, which reads the nonzero works as a multiset, and permuting the
accepted nodes permutes their shares with them.

The reference states each share from the nodes' raw works `raw_i`: with `W` the nonzero raw
works, `avg = ⌊(ΣW - min W - max W) / (|W| - 2)⌋` and `c` the clamp around `avg`, node `i`
gets `⌊c(raw_i) · base / Σⱼ c(raw_j)⌋`.
-/

namespace MixinKernel.DistributeReference

open MixinKernel.Common MixinKernel.Kernel MixinKernel.Distribute

/-- The count, least, greatest and total of the nonzero works `W`, zero for none. -/
def statsOf (W : List Nat) : WorkStats := ⟨W.length, W.min?.getD 0, W.max?.getD 0, W.sum⟩

theorem min?_append_singleton (W : List Nat) (w : Nat) :
    (W ++ [w]).min? = some (W.min?.elim w (min · w)) := by
  cases W with
  | nil => rfl
  | cons a as => simp [List.min?, List.foldl_append]

theorem max?_append_singleton (W : List Nat) (w : Nat) :
    (W ++ [w]).max? = some (W.max?.elim w (max · w)) := by
  cases W with
  | nil => rfl
  | cons a as => simp [List.max?, List.foldl_append]

theorem push_statsOf (ws : List Nat) (w : Nat) :
    (statsOf (ws.filter (· ≠ 0))).push w = statsOf ((ws ++ [w]).filter (· ≠ 0)) := by
  by_cases hw : w = 0
  · simp [WorkStats.push, hw]
  have hpos : ∀ x ∈ ws.filter (· ≠ 0), x ≠ 0 := by simp
  rw [List.filter_append, List.filter_singleton, decide_eq_true hw, cond_true]
  generalize ws.filter (· ≠ 0) = W at hpos
  simp only [statsOf, WorkStats.push, hw, if_false, min?_append_singleton,
    max?_append_singleton, List.length_append, List.length_singleton, List.sum_append,
    List.sum_singleton, Option.getD_some, WorkStats.mk.injEq, true_and, and_true]
  refine ⟨?_, ?_⟩
  · cases hm : W.min? with
    | none => simp
    | some m =>
      have := hpos m (List.min?_eq_some_iff'.mp hm).1
      simp only [Option.getD_some, Option.elim_some, this, if_false, Nat.min_def]
      split_ifs <;> omega
  · cases hm : W.max? with
    | none => simp only [Option.getD_none, Option.elim_none, if_pos (Nat.pos_of_ne_zero hw)]
    | some m =>
      simp only [Option.getD_some, Option.elim_some, Nat.max_def]
      split_ifs <;> omega

theorem foldl_push_statsOf (ws pre : List Nat) :
    ws.foldl WorkStats.push (statsOf (pre.filter (· ≠ 0))) =
      statsOf ((pre ++ ws).filter (· ≠ 0)) := by
  induction ws generalizing pre with
  | nil => simp
  | cons w ws ih =>
    rw [List.foldl_cons, push_statsOf, ih, List.append_assoc, List.singleton_append]

/-- The statistics loop finds the statistics of the nonzero works, whatever their order. -/
theorem foldl_push_eq_statsOf (ws : List Nat) :
    ws.foldl WorkStats.push ⟨0, 0, 0, 0⟩ = statsOf (ws.filter (· ≠ 0)) :=
  foldl_push_statsOf ws []

theorem statsOf_perm {W W' : List Nat} (h : W.Perm W') : statsOf W = statsOf W' := by
  have hmin : W.min? = W'.min? := Option.ext fun a => by
    simp only [Option.mem_def, List.min?_eq_some_iff', h.mem_iff]
  have hmax : W.max? = W'.max? := Option.ext fun a => by
    simp only [Option.mem_def, List.max?_eq_some_iff', h.mem_iff]
  simp only [statsOf, h.length_eq, hmin, hmax, h.sum_eq]

def nonzeroWorks (mints : List CNodeWork) : List Nat := (mints.map (·.work)).filter (· ≠ 0)

/-- The average `shareByWorks` computes, one least and one greatest work left out. -/
def statsAvg (s : WorkStats) : Nat := (s.totalW - s.minW - s.maxW) / (s.valid - 2)

/-- The guards `shareByWorks` puts on its statistics. -/
def StatsPass (thr : Nat) (s : WorkStats) : Prop :=
  thr ≤ s.valid ∧ 2 < s.valid ∧ s.minW + s.maxW ≤ s.totalW ∧ 0 < statsAvg s

/-- `shareByWorks` returns exactly when its guards pass, and then returns the clamped shares. -/
theorem shareByWorks_eq_ok_iff {day thr base : Nat} {mints ms : List CNodeWork} :
    shareByWorks day thr base mints = .ok ms ↔
      StatsPass thr (statsOf (nonzeroWorks mints)) ∧
        0 < clampedTotal (statsAvg (statsOf (nonzeroWorks mints))) mints ∧
        ms = clampedShares (statsAvg (statsOf (nonzeroWorks mints))) base mints := by
  have hlen : (statsOf (nonzeroWorks mints)).valid ≤ mints.length := by
    simpa [statsOf, nonzeroWorks] using List.length_filter_le (· ≠ 0) (mints.map (·.work))
  simp only [shareByWorks, foldl_push_eq_statsOf, show (mints.map (·.work)).filter (· ≠ 0) =
    nonzeroWorks mints from rfl]
  generalize statsOf (nonzeroWorks mints) = s at hlen ⊢
  unfold StatsPass statsAvg
  by_cases hv : s.valid < thr
  · simp [hv]
  rw [if_neg hv]
  simp only [pure_eq_ok, ok_bind]
  by_cases h1 : s.minW + s.maxW ≤ s.totalW
  · rw [Integer.sub_of_le (by omega), ok_bind, Integer.sub_of_le (by omega), ok_bind]
    by_cases h2 : 2 < s.valid
    · rw [Integer.div_of_pos (by omega), ok_bind]
      by_cases h3 : (s.totalW - s.minW - s.maxW) / (s.valid - 2) = 0
      · simp [h3]
      have hne : mints ≠ [] := by rintro rfl; simp at hlen; omega
      rw [if_neg h3, and_iff_right ⟨by omega, h2, h1, Nat.pos_of_ne_zero h3⟩,
        mapM_shareOf_eq_ok_iff]
      simp [hne, clampedShares, clampedTotal, Function.comp_def]
    · refine iff_of_false (fun h => ?_) (fun h => h2 h.1.2.1)
      obtain ⟨a, ha, -⟩ := bind_eq_ok.mp h
      simp [Integer.div, show s.valid - 2 = 0 by omega] at ha
  · refine iff_of_false (fun h => ?_) (fun h => h1 h.1.2.2.1)
    obtain ⟨t, ht, h⟩ := bind_eq_ok.mp h
    obtain ⟨t', ht', -⟩ := bind_eq_ok.mp h
    rw [Integer.sub_eq_ok] at ht ht'
    omega

/-- From the specification: node `n`'s raw work, `NewInteger(w0) * 120 / 100 + NewInteger(w1)`. -/
def referenceRaw (works : List (Hash × Nat × Nat)) (n : CNode) : Nat :=
  newInteger (lookupWork works n.idForNetwork).1 * 120 / 100 +
    newInteger (lookupWork works n.idForNetwork).2

/-- From the specification: the mean of `W` without one least and one greatest work. -/
def referenceAvg (W : List Nat) : Nat :=
  (W.sum - W.min?.getD 0 - W.max?.getD 0) / (W.length - 2)

/-- From the specification: node `n`'s share of `base` among the `accepted` nodes. -/
def referenceShare (works : List (Hash × Nat × Nat)) (accepted : List CNode) (base : Nat)
    (n : CNode) : Nat :=
  let avg := referenceAvg ((accepted.map (referenceRaw works)).filter (· ≠ 0))
  let c := clampWork avg (avg * 7) (avg / 7)
  c (referenceRaw works n) * base / (accepted.map fun j => c (referenceRaw works j)).sum

theorem rawWork_lookupWork (works : List (Hash × Nat × Nat)) (n : CNode) :
    rawWork (lookupWork works n.idForNetwork) = referenceRaw works n := by
  simp only [rawWork, referenceRaw]
  split <;> omega

theorem statsAvg_statsOf (W : List Nat) : statsAvg (statsOf W) = referenceAvg W := rfl

theorem clampedShares_referenceRaw (works : List (Hash × Nat × Nat)) (accepted : List CNode)
    (base : Nat) :
    clampedShares (statsAvg (statsOf (nonzeroWorks
        (accepted.map fun n => ⟨n, referenceRaw works n⟩)))) base
        (accepted.map fun n => ⟨n, referenceRaw works n⟩) =
      accepted.map fun n => ⟨n, referenceShare works accepted base n⟩ := by
  simp [clampedShares, clampedTotal, referenceShare, nonzeroWorks, statsAvg_statsOf,
    Function.comp_def, Nat.mul_comm]

theorem referenceShare_perm {works : List (Hash × Nat × Nat)} {accepted accepted' : List CNode}
    (h : accepted'.Perm accepted) (base : Nat) :
    referenceShare works accepted' base = referenceShare works accepted base := by
  have havg : referenceAvg ((accepted'.map (referenceRaw works)).filter (· ≠ 0)) =
      referenceAvg ((accepted.map (referenceRaw works)).filter (· ≠ 0)) := by
    rw [← statsAvg_statsOf, ← statsAvg_statsOf, statsOf_perm ((h.map _).filter _)]
  funext n
  simp only [referenceShare, havg, (h.map _).sum_eq]

theorem shareByWorks_perm {day thr base : Nat} {mints mints' ms : List CNodeWork}
    (hp : mints'.Perm mints) (h : shareByWorks day thr base mints = .ok ms) :
    shareByWorks day thr base mints' =
      .ok (clampedShares (statsAvg (statsOf (nonzeroWorks mints'))) base mints') := by
  have hs : statsOf (nonzeroWorks mints') = statsOf (nonzeroWorks mints) :=
    statsOf_perm ((hp.map _).filter _)
  have hT : clampedTotal (statsAvg (statsOf (nonzeroWorks mints))) mints' =
      clampedTotal (statsAvg (statsOf (nonzeroWorks mints))) mints := (hp.map _).sum_eq
  obtain ⟨hpass, hpos, -⟩ := shareByWorks_eq_ok_iff.mp h
  exact shareByWorks_eq_ok_iff.mpr ⟨hs ▸ hpass, by rw [hs, hT]; exact hpos, rfl⟩

/-- The distributor returns the reference shares, over any permutation of the nodes. -/
theorem distributeKernelMintByWorks_matches_reference (node : Node) (store : Store)
    (accepted : List CNode) (base timestamp : Nat) (works : List (Hash × Nat × Nat))
    (ms : List CNodeWork) (hday : node.epoch / dayNanos < timestamp / dayNanos)
    (hw : store.listNodeWorks (accepted.map (·.idForNetwork)) (timestamp / dayNanos - 1) =
      .ok works)
    (h : distributeKernelMintByWorks node store accepted base timestamp = .ok ms) :
    ms = accepted.map (fun n => ⟨n, referenceShare works accepted base n⟩) ∧
      ∀ (accepted' : List CNode) (store' : Store) (works' : List (Hash × Nat × Nat)),
        accepted'.Perm accepted →
        (∀ n ∈ accepted, lookupWork works' n.idForNetwork = lookupWork works n.idForNetwork) →
        validateWorksAndSpacesAggregator node store' (accepted'.map (·.idForNetwork))
          (node.consensusThreshold timestamp) (timestamp / dayNanos) = .ok () →
        store'.listNodeWorks (accepted'.map (·.idForNetwork)) (timestamp / dayNanos - 1) =
          .ok works' →
        (∃ spaces, listRoundSpaces node store' (accepted'.map (·.idForNetwork))
          (timestamp / dayNanos - 1) = .ok spaces) →
        distributeKernelMintByWorks node store' accepted' base timestamp =
          .ok (accepted'.map fun n => ⟨n, referenceShare works accepted base n⟩) := by
  have hraw : ∀ l : List CNode, l.map (fun n => (⟨n, rawWork (lookupWork works n.idForNetwork)⟩ :
      CNodeWork)) = l.map fun n => ⟨n, referenceRaw works n⟩ := fun l => by
    simp only [rawWork_lookupWork]
  rcases distributeKernelMintByWorks_cases hday with ⟨e, he⟩ | ⟨works', hw', he⟩
  · rw [he] at h; cases h
  rw [hw, Except.ok.injEq] at hw'
  subst hw'
  rw [he, hraw] at h
  refine ⟨?_, fun accepted' store' works' hp hlook hv hw' ⟨spaces, hsp⟩ => ?_⟩
  · rw [← clampedShares_referenceRaw]
    exact (shareByWorks_eq_ok_iff.mp h).2.2
  · have hsame : accepted'.map (fun n => (⟨n, rawWork (lookupWork works' n.idForNetwork)⟩ :
        CNodeWork)) = accepted'.map fun n => ⟨n, rawWork (lookupWork works n.idForNetwork)⟩ :=
      List.map_congr_left fun n hn => by rw [hlook n (hp.subset hn)]
    rw [distributeKernelMintByWorks_of_ready hday hv hw' hsp, hsame, hraw,
      shareByWorks_perm (hp.map _) h, clampedShares_referenceRaw, referenceShare_perm hp]

/-- Node 0 produced no snapshot, node 6 produced 1000 and the others 100. -/
def unevenWork (id : Hash) : Nat := if id = 0 then 0 else if id = 6 then 1000 else 100

/-- A store with `unevenWork`, where node 0 has no aggregated round space either. -/
def unevenStore : Store :=
  { exampleStore with
    listNodeWorks := fun cids _ => .ok (cids.map fun id => (id, unevenWork id, 0))
    listAggregatedRoundSpaceCheckpoints := fun cids =>
      .ok (cids.map fun id => ⟨if id = 0 then 0 else 1000000⟩) }

theorem distributeKernelMintByWorks_matches_reference_on_uneven_works :
    (exampleNode 0 true).epoch / dayNanos < dayNanos / dayNanos ∧
      unevenStore.listNodeWorks (sevenNodes.map (·.idForNetwork)) (dayNanos / dayNanos - 1) =
        .ok (sevenNodes.map fun n => (n.idForNetwork, unevenWork n.idForNetwork, 0)) ∧
      distributeKernelMintByWorks (exampleNode 0 true) unevenStore sevenNodes 70000000000 dayNanos =
        .ok (sevenNodes.map fun n => (⟨n, if n.idForNetwork = 0 then 1399999999
            else if n.idForNetwork = 6 then 19600000000 else 9800000000⟩ : CNodeWork)) ∧
      ((sevenNodes.map fun n => (⟨n, if n.idForNetwork = 0 then 1399999999
            else if n.idForNetwork = 6 then 19600000000 else 9800000000⟩ : CNodeWork)) = sevenNodes.map (fun n =>
          ⟨n, referenceShare (sevenNodes.map fun n => (n.idForNetwork, unevenWork n.idForNetwork, 0)) sevenNodes 70000000000 n⟩) ∧
        ∀ (accepted' : List CNode) (store' : Store) (works' : List (Hash × Nat × Nat)),
          accepted'.Perm sevenNodes →
          (∀ n ∈ sevenNodes, lookupWork works' n.idForNetwork =
            lookupWork (sevenNodes.map fun n => (n.idForNetwork, unevenWork n.idForNetwork, 0)) n.idForNetwork) →
          validateWorksAndSpacesAggregator (exampleNode 0 true) store'
            (accepted'.map (·.idForNetwork)) ((exampleNode 0 true).consensusThreshold dayNanos)
            (dayNanos / dayNanos) = .ok () →
          store'.listNodeWorks (accepted'.map (·.idForNetwork)) (dayNanos / dayNanos - 1) =
            .ok works' →
          (∃ spaces, listRoundSpaces (exampleNode 0 true) store' (accepted'.map (·.idForNetwork))
            (dayNanos / dayNanos - 1) = .ok spaces) →
          distributeKernelMintByWorks (exampleNode 0 true) store' accepted' 70000000000 dayNanos =
            .ok (accepted'.map fun n =>
              ⟨n, referenceShare (sevenNodes.map fun n => (n.idForNetwork, unevenWork n.idForNetwork, 0)) sevenNodes 70000000000 n⟩)) :=
  ⟨by decide, rfl, rfl,
    distributeKernelMintByWorks_matches_reference (exampleNode 0 true) unevenStore sevenNodes
      70000000000 dayNanos _ _ (by decide) rfl rfl⟩

end MixinKernel.DistributeReference
